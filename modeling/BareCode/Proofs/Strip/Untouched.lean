import BareCode.Proofs.Strip.SecondRun
/-! # Untouched texts — stripping gives back exactly the texts without comments

    Without layout every pass only deletes, so a text that comes out whole came out of
    every pass whole: between the text and itself there is no room for a deletion that
    a later pass would have to undo (`passes_eq_self_of_stripComments_eq_self`).  What
    is left is to say of each pass which texts it leaves alone:

    * `dropDiffMarks_eq_self_iff` — no line begins with a change mark;
    * `cutLineComments_eq_self_iff` — every marker is settled on every line;
    * `removeBlocks_eq_self_iff` — no pair encloses anything;
    * `dropFullComments_eq_self_iff` — no line begins with a marker. -/

namespace BareCode

open Text

variable {order : GuardOrder} {ms : List Text} {m : Text} {l : Line} {t : Text}
  {ps : List BlockPair} {ds : List Dialect} {o : StripOptions}

/-! ## What each pass leaves alone -/

/-- A line is given back by the pass over change marks exactly if it does not begin with
    one: taking the mark away makes the line shorter. -/
theorem Line.dropDiffMark_eq_self_iff :
    l.dropDiffMark = l ↔ ∀ c ∈ l.trimStart.head?, c ≠ '+' ∧ c ≠ '-' := by
  have hshort : ∀ {c : Char} {rest : Text}, l.trimStart = c :: rest →
      Text.trimStart rest ≠ l := by
    intro c rest h heq
    have hrest : (Text.trimStart rest).length ≤ rest.length := (List.dropWhile_sublist _).length_le
    have hl : (c :: rest).length ≤ l.length := h ▸ (List.dropWhile_sublist _).length_le
    rw [heq] at hrest
    rw [List.length_cons] at hl
    omega
  rw [Line.dropDiffMark]
  split
  · rename_i rest h
    refine iff_of_false (hshort h) fun hmark => ?_
    exact (hmark '+' (by rw [h]; rfl)).1 rfl
  · rename_i rest h
    refine iff_of_false (hshort h) fun hmark => ?_
    exact (hmark '-' (by rw [h]; rfl)).2 rfl
  · rename_i hplus hminus
    refine iff_of_true rfl fun c hc => ?_
    obtain ⟨rest, h⟩ := List.head?_eq_some_iff.mp hc
    constructor
    · rintro rfl
      exact hplus rest h
    · rintro rfl
      exact hminus rest h

/-- The pass over change marks leaves alone the texts in which no line begins with one. -/
theorem dropDiffMarks_eq_self_iff :
    o.dropDiffMarks t = t ↔
      (o.diffMarks = true → ∀ l ∈ t.lines, ∀ c ∈ l.trimStart.head?, c ≠ '+' ∧ c ≠ '-') := by
  rw [StripOptions.dropDiffMarks]
  split
  · rename_i hd
    rw [onLines_eq_self_iff fun l hl =>
      Line.newline_not_mem_dropDiffMark (not_mem_of_mem_lines hl)]
    simp only [hd, true_imp_iff, Line.dropDiffMark_eq_self_iff]
  · rename_i hd
    exact iff_of_true rfl fun h => absurd h hd

/-- The pass over line comments leaves alone the texts of settled lines. -/
theorem cutLineComments_eq_self_iff (hms : ∀ m ∈ ms, m.IsPlain) :
    cutLineComments order ms t = t ↔ ∀ l ∈ t.lines, ∀ m ∈ ms, Settled order m l := by
  constructor
  · intro h l hl
    exact settled_of_mem_cutLineComments hms (h.symm ▸ hl)
  · exact cutLineComments_of_settled

/-- Removal leaves alone the texts in which no pair encloses anything. -/
theorem removeBlocks_eq_self_iff (hps : ∀ p ∈ ps, p.opener.IsPlain) :
    removeBlocks ps t = t ↔ ∀ p ∈ ps, ¬ p.EnclosesIn t := by
  constructor
  · intro h p hp hspan
    have hlt := length_unpadded_removeBlocks_lt hps hp hspan
    rw [h] at hlt
    exact absurd hlt (Nat.lt_irrefl _)
  · exact removeBlocks_of_no_span

/-- The pass over full-line comments leaves alone the texts that have none. -/
theorem dropFullComments_eq_self_iff (hms : ∀ m ∈ ms, m.IsPlain) :
    dropFullComments ms t = t ↔ ∀ l ∈ t.lines, isFullComment ms l = false := by
  constructor
  · intro h l hl
    exact isFullComment_of_mem_dropFullComments hms (h.symm ▸ hl)
  · exact dropFullComments_of_none

/-- A marker is settled on a line in which it does not occur, and `//` also where a
    guard is found at its first place. -/
theorem settled_iff : Settled order m l ↔ l.mentions m = false ∨
    m = doubleSlash ∧ ∃ before rest, l.splitAtFirst? m = some (before, rest) ∧
      (guard? order before).isSome = true := by
  constructor
  · intro h
    cases hs : l.splitAtFirst? m with
    | none => exact Or.inl (by rw [mentions, hs]; rfl)
    | some s =>
        have hg := h s.1 s.2 hs
        rw [markerGuard?] at hg
        split at hg
        · rename_i hm
          exact Or.inr ⟨hm, s.1, s.2, rfl, hg⟩
        · exact Bool.noConfusion hg
  · rintro (h | ⟨hm, before, rest, hs, hg⟩)
    · exact settled_of_not_isInfix fun hi => Bool.eq_false_iff.mp h (mentions_iff.mpr hi)
    · intro before' rest' hs'
      obtain ⟨rfl, rfl⟩ : before = before' ∧ rest = rest' := by simpa [hs] using hs'
      rw [markerGuard?, if_pos hm]
      exact hg

/-! ## All passes -/

/-- A text that stripping without layout gives back is given back by every pass: each
    pass deletes, and what is whole at the end was whole all along. -/
theorem passes_eq_self_of_stripComments_eq_self (hn : o.normalize = false)
    (h : stripComments ds o t = t) :
    o.dropDiffMarks t = t ∧ o.cutInline (lineMarkers ds) t = t ∧
      removeBlocks (blockMarkers ds) t = t ∧ dropFullComments (lineMarkers ds) t = t := by
  rw [stripComments, o.lay_eq_self hn] at h
  have hmarks := (aligned_dropDiffMarks o t).sublist
  have hcut := (aligned_cutInline o (lineMarkers ds) (o.dropDiffMarks t)).sublist
  have hblocks : (stripToBlocks ds o t).Sublist _ := (aligned_removeBlocks _ _).sublist
  have hcut' := (aligned_cutInline o (lineMarkers ds) (stripToBlocks ds o t)).sublist
  have hfull : t.Sublist (o.cutInline (lineMarkers ds) (stripToBlocks ds o t)) := by
    conv_lhs => rw [← h]
    exact (aligned_dropFullComments _ _).sublist
  -- backwards from the end, the text is part of what each pass leaves
  have h3 : t.Sublist (stripToBlocks ds o t) := hfull.trans hcut'
  have h2 := h3.trans hblocks
  have hmarks_eq : o.dropDiffMarks t = t := hmarks.antisymm (h2.trans hcut)
  rw [hmarks_eq] at hcut h2 hblocks
  have hcut_eq : o.cutInline (lineMarkers ds) t = t := hcut.antisymm h2
  rw [hcut_eq] at hblocks
  have hblocks_eq : stripToBlocks ds o t = t := hblocks.antisymm h3
  rw [hblocks_eq, hcut_eq] at h
  rw [stripToBlocks, hmarks_eq, hcut_eq] at hblocks_eq
  exact ⟨hmarks_eq, hcut_eq, hblocks_eq, h⟩

/-- A text that every pass gives back is given back by stripping without layout. -/
theorem stripComments_eq_self_of_passes (hn : o.normalize = false)
    (hmarks : o.dropDiffMarks t = t) (hcut : o.cutInline (lineMarkers ds) t = t)
    (hblocks : removeBlocks (blockMarkers ds) t = t)
    (hfull : dropFullComments (lineMarkers ds) t = t) : stripComments ds o t = t := by
  rw [stripComments, stripToBlocks, hmarks, hcut, hblocks, hcut, hfull, o.lay_eq_self hn]

/-! ## The result -/

/-- Text without comments, and only such text, is left as it was.  Without layout,
    stripping gives a text back exactly if no line begins with a change mark (should
    these be taken away), every selected line marker is absent from every line or a
    `//` that is guarded at its first place (should line comments be cut), no selected
    pair has an opener with a closer behind it, and no line begins with a selected
    line marker. -/
theorem stripLanguages_eq_self_iff (ids : List String) (o : StripOptions)
    (hn : o.normalize = false) (t : Text) :
    stripLanguages ids o t = t ↔
      (o.diffMarks = true → ∀ l ∈ t.lines, ∀ c ∈ l.trimStart.head?, c ≠ '+' ∧ c ≠ '-') ∧
      (o.inline = true → ∀ l ∈ t.lines, ∀ m ∈ lineMarkers (Dialect.choose ids),
        l.mentions m = false ∨ m = doubleSlash ∧ ∃ before rest,
          l.splitAtFirst? m = some (before, rest) ∧
            (guard? o.guardOrder before).isSome = true) ∧
      (∀ p ∈ blockMarkers (Dialect.choose ids), ¬ p.EnclosesIn t) ∧
      ∀ l ∈ t.lines, ∀ m ∈ lineMarkers (Dialect.choose ids), l.trimStart.startsWith m = false := by
  have hds := wellMarked_choose ids
  have hmarks := dropDiffMarks_eq_self_iff (o := o) (t := t)
  have hcut : o.cutInline (lineMarkers (Dialect.choose ids)) t = t ↔
      (o.inline = true → ∀ l ∈ t.lines, ∀ m ∈ lineMarkers (Dialect.choose ids),
        Settled o.guardOrder m l) := by
    rw [StripOptions.cutInline]
    split
    · rename_i ho
      rw [cutLineComments_eq_self_iff hds.line_plain]
      simp only [ho, true_imp_iff]
    · rename_i ho
      exact iff_of_true rfl fun h => absurd h ho
  have hblocks := removeBlocks_eq_self_iff (t := t) fun p hp => (hds.block_plain p hp).1
  have hfull := dropFullComments_eq_self_iff (t := t) hds.line_plain
  simp only [← settled_iff, ← hmarks, ← hcut, ← hblocks]
  have hstart : (∀ l ∈ t.lines, ∀ m ∈ lineMarkers (Dialect.choose ids),
      l.trimStart.startsWith m = false) ↔
        dropFullComments (lineMarkers (Dialect.choose ids)) t = t := by
    rw [hfull]
    simp only [isFullComment, List.any_eq_false, Bool.not_eq_true]
  rw [hstart]
  constructor
  · exact passes_eq_self_of_stripComments_eq_self hn
  · rintro ⟨h1, h2, h3, h4⟩
    exact stripComments_eq_self_of_passes hn h1 h2 h3 h4

/-- A guarded `//`, a closer in front of an opener and an opener that is never closed are
    no comments; a block behind them is one. -/
theorem stripLanguages_eq_self_iff_unclosed :
    stripLanguages ["js", "html"] { normalize := false, diffMarks := true, inline := true }
        "a = 'b//c'; */ /* d\ne//f --> <!-- g".toList
      = "a = 'b//c'; */ /* d\ne//f --> <!-- g".toList ∧
    (∀ p ∈ blockMarkers (Dialect.choose ["js", "html"]),
      ¬ p.EnclosesIn "a = 'b//c'; */ /* d\ne//f --> <!-- g".toList) ∧
    ¬ ∀ p ∈ blockMarkers (Dialect.choose ["js", "html"]),
      ¬ p.EnclosesIn "a = 'b//c'; */ /* d\ne//f --> <!-- g */".toList := by
  have hsame : stripLanguages ["js", "html"]
      { normalize := false, diffMarks := true, inline := true }
        "a = 'b//c'; */ /* d\ne//f --> <!-- g".toList
      = "a = 'b//c'; */ /* d\ne//f --> <!-- g".toList := by decide
  refine ⟨hsame, ((stripLanguages_eq_self_iff _ _ rfl _).mp hsame).2.2.1, fun h => ?_⟩
  exact absurd (removeBlocks_of_no_span h) (by decide)

end BareCode
