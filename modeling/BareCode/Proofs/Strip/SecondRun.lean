import BareCode.Proofs.Strip.Deletion
import BareCode.Proofs.Strip.MarkerFree
/-! # A second run — it finds work exactly where the first one left a span

    On a stripped text the passes over line comments, over full-line comments and over
    layout have nothing left to do.  Spans are another matter: removing one joins the
    text around it, and the pass does not look back.  So a second run comes down to
    its pass over spans; if that finds one, the opener goes, which is no padding, and
    no later pass brings it back.

    * `stripToBlocks_stripComments` — what a second run does up to its last passes;
    * `stripComments_stripComments_of_no_span` — without a span it changes nothing;
    * `length_unpadded_stripComments_lt` — with a span it makes the text shorter;
    * `stripLanguages_second_run_iff` — both, for the dialects of the catalog;
    * `exists_iterate_stripLanguages_fixed` — so further runs come to an end. -/

namespace BareCode

open Text

variable {p : BlockPair} {ps : List BlockPair} {s t : Text} {sp : SpanSplit}
  {ds : List Dialect} {o : StripOptions}

/-! ## Texts without padding -/

theorem Text.unpadded_append (s t : Text) : (s ++ t).unpadded = s.unpadded ++ t.unpadded :=
  List.filter_append s t

/-- Taking padding off a text takes it off its lines. -/
theorem Text.unpadded_unlines (ls : List Line) :
    (unlines ls).unpadded = unlines (ls.map unpadded) := by
  induction ls with
  | nil => rfl
  | cons l ls ih =>
      by_cases hls : ls = []
      · subst hls
        rw [List.map_singleton, unlines_singleton, unlines_singleton]
      · have hmap : ls.map unpadded ≠ [] := fun h => hls (List.map_eq_nil_iff.mp h)
        have hn : Text.unpadded ('\n' :: unlines ls) = '\n' :: (unlines ls).unpadded := rfl
        rw [List.map_cons, unlines_cons l hls, unlines_cons _ hmap, unpadded_append, hn, ih]

/-- A text whose lines are parts of the lines of another, padding aside, is part of it,
    padding aside. -/
theorem Text.Aligned.unpadded_sublist (h : Aligned Line.WithinUnpadded s t) :
    s.unpadded.Sublist t.unpadded := by
  have hlines : List.SublistForall₂ List.Sublist (s.lines.map unpadded) (t.lines.map unpadded) := by
    rw [List.sublistForall₂_map_left_iff, List.sublistForall₂_map_right_iff]
    exact h
  have := unlines_sublist hlines
  rwa [← unpadded_unlines, ← unpadded_unlines, unlines_lines, unlines_lines] at this

/-! ## Removal makes shorter -/

/-- A span holds more than its newlines, padding aside, since its opener is neither. -/
theorem BlockPair.length_unpadded_newlines_lt (hp : p.opener.IsPlain)
    (h : p.firstSpan? t = some sp) :
    sp.span.newlines.unpadded.length < sp.span.unpadded.length := by
  obtain ⟨body, inner, -, -, hspan⟩ := firstSpan?_eq_some_iff.mp h
  obtain ⟨c, more, ho⟩ := List.exists_cons_of_ne_nil hp.1
  have hc : isBlank c = false := hp.2 c (ho ▸ List.mem_cons_self)
  have hnl : c ≠ '\n' := by
    rintro rfl
    exact absurd hc (by decide)
  have hpad : isPadding c = false := isPadding_eq_false hc
  -- the first character of the span is the opener's, and only the other side counts it
  obtain ⟨tail, htail⟩ : ∃ tail : Text, sp.span = c :: tail :=
    ⟨more ++ inner ++ p.closer, by rw [hspan, ho]; rfl⟩
  have hnewlines : sp.span.newlines = tail.newlines := by
    rw [htail, newlines, List.filter_cons_of_neg (by simpa using hnl)]
    rfl
  have hunpadded : sp.span.unpadded = c :: tail.unpadded := by
    rw [htail, unpadded, List.filter_cons_of_pos (by simp [hpad])]
    rfl
  rw [hnewlines, hunpadded, List.length_cons]
  exact Nat.lt_succ_of_le ((tail.newlines_sublist.filter _).length_le)

/-- Removal shortens a text with a span. -/
theorem BlockPair.length_unpadded_remove_lt (hp : p.opener.IsPlain)
    (h : p.firstSpan? t = some sp) : (p.remove t).unpadded.length < t.unpadded.length := by
  have hspan := length_unpadded_newlines_lt hp h
  have hrest : (p.remove sp.rest).unpadded.length ≤ sp.rest.unpadded.length :=
    ((p.remove_sublist sp.rest).filter _).length_le
  conv_rhs => rw [firstSpan?_eq_some h]
  rw [remove_of_span h]
  simp only [unpadded_append, List.length_append]
  omega

/-- Pairs of which one encloses something shorten the text. -/
theorem length_unpadded_removeBlocks_lt (hps : ∀ p ∈ ps, p.opener.IsPlain) (hp : p ∈ ps)
    (h : p.EnclosesIn t) : (removeBlocks ps t).unpadded.length < t.unpadded.length := by
  induction ps with
  | nil => exact nomatch hp
  | cons q ps ih =>
      rw [removeBlocks_cons]
      cases hq : q.firstSpan? t with
      | none =>
          -- the pair at hand is not the one that encloses something
          rcases List.mem_cons.mp hp with rfl | hp
          · exact absurd h (BlockPair.firstSpan?_eq_none_iff.mp hq)
          · rw [BlockPair.remove_of_none hq]
            exact ih (fun p' hp' => hps p' (List.mem_cons_of_mem q hp')) hp
      | some sp =>
          have hlt := BlockPair.length_unpadded_remove_lt (hps q List.mem_cons_self) hq
          have hle : (removeBlocks ps (q.remove t)).unpadded.length
              ≤ (q.remove t).unpadded.length :=
            ((aligned_removeBlocks ps _).sublist.filter _).length_le
          exact Nat.lt_of_le_of_lt hle hlt

/-! ## What is left to do -/

/-- A second pass over line comments changes nothing. -/
theorem cutInline_stripComments (hds : WellMarked ds) (o : StripOptions) (t : Text) :
    o.cutInline (lineMarkers ds) (stripComments ds o t) = stripComments ds o t := by
  rw [StripOptions.cutInline]
  split
  · exact cutLineComments_of_settled fun l hl => settled_of_mem_strip hds (by assumption) hl
  · rfl

/-- A second pass over full-line comments changes nothing. -/
theorem dropFullComments_stripComments (hds : WellMarked ds) (o : StripOptions) (t : Text) :
    dropFullComments (lineMarkers ds) (stripComments ds o t) = stripComments ds o t :=
  dropFullComments_of_none fun _ hl => isFullComment_of_mem_strip hds hl

/-- A second pass over layout changes nothing. -/
theorem lay_stripComments (ds : List Dialect) (o : StripOptions) (t : Text) :
    o.lay (stripComments ds o t) = stripComments ds o t := by
  rw [stripComments, StripOptions.lay, StripOptions.lay]
  split
  · exact normalize_normalize _
  · rfl

/-- A second run has nothing to do in front of its pass over spans. -/
theorem stripToBlocks_stripComments (hds : WellMarked ds) (ho : o.diffMarks = false) (t : Text) :
    stripToBlocks ds o (stripComments ds o t)
      = removeBlocks (blockMarkers ds) (stripComments ds o t) := by
  rw [stripToBlocks, o.dropDiffMarks_eq_self ho, cutInline_stripComments hds]

/-- A second run that finds no span changes nothing. -/
theorem stripComments_stripComments_of_no_span (hds : WellMarked ds) (ho : o.diffMarks = false)
    (h : ∀ p ∈ blockMarkers ds, ¬ p.EnclosesIn (stripComments ds o t)) :
    stripComments ds o (stripComments ds o t) = stripComments ds o t := by
  conv_lhs => rw [stripComments]
  rw [stripToBlocks_stripComments hds ho, removeBlocks_of_no_span h, cutInline_stripComments hds,
    dropFullComments_stripComments hds, lay_stripComments]

/-- A second run that finds a span makes the text shorter, padding aside. -/
theorem length_unpadded_stripComments_lt (hds : WellMarked ds) (ho : o.diffMarks = false)
    (hp : p ∈ blockMarkers ds) (h : p.EnclosesIn (stripComments ds o t)) :
    (stripComments ds o (stripComments ds o t)).unpadded.length
      < (stripComments ds o t).unpadded.length := by
  have hblocks := length_unpadded_removeBlocks_lt (fun q hq => (hds.block_plain q hq).1) hp h
  have hbehind := aligned_stripComments_stripToBlocks ds o (stripComments ds o t)
  rw [← stripToBlocks_stripComments hds ho] at hblocks
  exact Nat.lt_of_le_of_lt hbehind.unpadded_sublist.length_le hblocks

/-! ## The result -/

/-- A second run gives back what the first one gave exactly if no selected pair
    encloses anything in it.  Leading `+` and `-` have to be left alone, since every
    run takes another one off. -/
theorem stripLanguages_second_run_iff (ids : List String) (o : StripOptions)
    (ho : o.diffMarks = false) (t : Text) :
    stripLanguages ids o (stripLanguages ids o t) = stripLanguages ids o t ↔
      ∀ p ∈ blockMarkers (Dialect.choose ids), ¬ p.EnclosesIn (stripLanguages ids o t) := by
  have hds := wellMarked_choose ids
  constructor
  · intro heq p hp hspan
    -- a text that is given back has not become shorter
    have hlt := length_unpadded_stripComments_lt hds ho hp hspan
    rw [stripLanguages, stripLanguages] at heq
    rw [heq] at hlt
    exact absurd hlt (Nat.lt_irrefl _)
  · intro h
    exact stripComments_stripComments_of_no_span hds ho h

/-- A comment glued to a block is gone after one run, and no span is left; the halves
    of an opener that close around a block are a new opener, which encloses something. -/
theorem stripLanguages_second_run_iff_glued :
    (∀ p ∈ blockMarkers (Dialect.choose ["js"]),
      ¬ p.EnclosesIn (stripLanguages ["js"] { inline := true } "a /* x */// c\nb".toList)) ∧
    ¬ ∀ p ∈ blockMarkers (Dialect.choose ["html"]),
      ¬ p.EnclosesIn (stripLanguages ["html"] {} "<<!-- a -->!-- b -->".toList) := by
  constructor
  · exact (stripLanguages_second_run_iff ["js"] { inline := true } rfl _).mp (by decide)
  · intro h
    exact absurd ((stripLanguages_second_run_iff ["html"] {} rfl _).mpr h) (by decide)

/-- The second run is not idle on every text. -/
theorem stripLanguages_second_run_changes :
    stripLanguages ["html"] {} "<<!-- a -->!-- b -->".toList = "<!-- b -->".toList ∧
    stripLanguages ["html"] {} (stripLanguages ["html"] {} "<<!-- a -->!-- b -->".toList) ≠
      stripLanguages ["html"] {} "<<!-- a -->!-- b -->".toList := by
  decide

/-! ## Many runs -/

/-- Run after run, stripping comes to a text that it gives back: as long as it does not,
    every run takes an opener off what the first one left. -/
theorem exists_iterate_stripLanguages_fixed (ids : List String) (o : StripOptions)
    (ho : o.diffMarks = false) (t : Text) :
    ∃ n ≤ (stripLanguages ids o t).unpadded.length + 1,
      stripLanguages ids o ((stripLanguages ids o)^[n] t) = (stripLanguages ids o)^[n] t := by
  induction hk : (stripLanguages ids o t).unpadded.length using Nat.strong_induction_on
    generalizing t with
  | h k ih =>
      -- either the second run finds no span, or it leaves less than `k`
      by_cases hspan : ∀ p ∈ blockMarkers (Dialect.choose ids),
          ¬ p.EnclosesIn (stripLanguages ids o t)
      · refine ⟨1, by omega, ?_⟩
        exact stripComments_stripComments_of_no_span (wellMarked_choose ids) ho hspan
      · push Not at hspan
        obtain ⟨p, hp, hspan⟩ := hspan
        have hlt : (stripLanguages ids o (stripLanguages ids o t)).unpadded.length < k := by
          rw [← hk]
          exact length_unpadded_stripComments_lt (wellMarked_choose ids) ho hp hspan
        obtain ⟨n, hn, hfixed⟩ := ih _ hlt (stripLanguages ids o t) rfl
        refine ⟨n + 1, ?_, ?_⟩
        · omega
        · rw [Function.iterate_succ_apply]
          exact hfixed

end BareCode
