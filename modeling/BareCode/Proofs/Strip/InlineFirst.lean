import BareCode.Proofs.Strip.Deletion
import BareCode.Proofs.Strip.LineChanges
import Mathlib.Data.List.Sublists
/-! # Cutting line comments — what it leaves, compared with leaving them

    Line comments that are cut are cut twice, before spans are removed and behind it.  The
    second cut only takes more away (`dropFullComments_cutLineComments_sublist`).  The
    first one may take a marker with it, and then the spans are others.  And where spans
    are all that stands in front of a line comment, it leaves a blank line, while the
    comment would have been a full line once they are removed.  Neither happens if every
    line that it changes is cut clear of the pairs (`CutsClear`,
    `removeBlocks_cutLineComments`): their spans are where they were, and what is left of
    the line is dropped if the line is.

    * `stripLanguages_inline_sublist` — the result, and where it ends: wherever a line
      marker and a block pair are both selected, the first cut can leave a text behind
      that would have gone. -/

namespace BareCode

open Text

variable {a b t : Text} {l l' : Line} {ls before : List Line} {ms : List Text}
  {order : GuardOrder} {ids : List String} {ds : List Dialect}

/-! ## The first pass over line comments -/

/-- What the markers leave of a line is a front part, and no line is left of one that
    begins with a marker. -/
theorem frontOf_of_cutLine (hds : WellMarked ds) (h : cutLine order (lineMarkers ds) l = some l') :
    Line.FrontOf (lineMarkers ds) l' l := by
  refine ⟨prefix_of_cutLine h, fun hfull => ?_⟩
  rw [cutLine_of_isFullComment hds.line_plain hds.line_apart hfull] at h
  exact nomatch h

/-- Whether the markers cut a line behind others clear of some pairs. -/
inductive CutsClear (order : GuardOrder) (ms : List Text) (ps : List BlockPair)
    (before : List Line) (l : Line) : Prop where
  /-- No pair has a marker in the line. -/
  | noMarker : (∀ p ∈ ps, ¬ p.opener <:+: l ∧ ¬ p.closer <:+: l) → CutsClear order ms ps before l
  /-- What is cut off holds no marker and begins with a character that no pair uses, and what
      spans leave in front of it is a full-line comment if it is one together with it. -/
  | setOff {l' : Line} {r : Text} : cutLine order ms l = some l' → l = l' ++ r →
      (∃ c ∈ r.head?, ∀ p ∈ ps, c ∉ p.opener ∧ c ∉ p.closer) →
      (∀ p ∈ ps, ¬ p.opener <:+: r ∧ ¬ p.closer <:+: r) →
      (∃ last ∈ (removeBlocks ps (unlines (before ++ [l']))).lines.getLast?,
        Line.FrontOf ms last (last ++ r)) → CutsClear order ms ps before l
  /-- The lines in front leave no span open, nor does the line or what is left of it, which
      without spans is a front part of the line without spans. -/
  | betweenSpans : ClosesAll ps (unlines before) → ClosesAll ps l →
      (∀ l' ∈ cutLine order ms l,
        ClosesAll ps l' ∧ Line.FrontOf ms (removeBlocks ps l') (removeBlocks ps l)) →
      CutsClear order ms ps before l

/-- A blank in front sets off what is cut, if spans leave more than blanks in front of it. -/
theorem CutsClear.setOff_of_isBlank {r : Text} (hds : WellMarked ds)
    (hcut : cutLine order (lineMarkers ds) l = some l') (hsplit : l = l' ++ r)
    (hblank : ∃ c ∈ r.head?, isBlank c = true)
    (hfree : ∀ p ∈ blockMarkers ds, ¬ p.opener <:+: r ∧ ¬ p.closer <:+: r)
    (hcode : ∃ last ∈ (removeBlocks (blockMarkers ds) (unlines (before ++ [l']))).lines.getLast?,
      allBlank last = false) :
    CutsClear order (lineMarkers ds) (blockMarkers ds) before l := by
  obtain ⟨last, hlast, hleft⟩ := hcode
  refine CutsClear.setOff hcut hsplit ?_ hfree ⟨last, hlast, ?_⟩
  · obtain ⟨c, hhead, hc⟩ := hblank
    refine ⟨c, hhead, fun p hp => ?_⟩
    obtain ⟨hopener, hcloser⟩ := hds.block_plain p hp
    exact ⟨hopener.not_mem_of_isBlank hc, hcloser.not_mem_of_isBlank hc⟩
  · exact frontOf_append hds.line_plain hleft hblank

/-- A line that is cut clear may be cut before spans are removed. -/
theorem aligned_removeBlocks_cutLine (hds : WellMarked ds) (hl : '\n' ∉ l)
    (hclear : CutsClear order (lineMarkers ds) (blockMarkers ds) before l) (b : Text) :
    Aligned (Line.FrontOf (lineMarkers ds))
      (removeBlocks (blockMarkers ds)
        (closedLines before ++ (closedLines (cutLine order (lineMarkers ds) l).toList ++ b)))
      (removeBlocks (blockMarkers ds) (closedLines before ++ (closedLines [l] ++ b))) := by
  cases hclear with
  | noMarker hfree =>
      refine aligned_removeBlocks_change hds.block_plain hl hfree (fun l' hl' => ?_)
        (wholeLines_closedLines before) b
      exact frontOf_of_cutLine hds hl'
  | @setOff l' r hcut hsplit hoff hfree hfront =>
      subst hsplit
      have hrn : '\n' ∉ r := fun hm => hl (List.mem_append_right l' hm)
      rw [unlines_concat] at hfront
      rw [hcut]
      exact aligned_removeBlocks_cut hds.block_plain hrn hoff hfree hfront b
  | betweenSpans hbefore hclose hleft =>
      exact aligned_removeBlocks_closed hds.newline_not_mem_opener hbefore hl hclose hleft b

/-- Lines that are all cut clear may be cut before spans are removed. -/
theorem aligned_removeBlocks_filterMap (hds : WellMarked ds) (before : List Line)
    (hls : ∀ l ∈ ls, '\n' ∉ l)
    (hclear : ∀ i l, ls[i]? = some l → cutLine order (lineMarkers ds) l ≠ some l →
      CutsClear order (lineMarkers ds) (blockMarkers ds) (before ++ ls.take i) l) :
    Aligned (Line.FrontOf (lineMarkers ds))
      (removeBlocks (blockMarkers ds)
        (closedLines before ++ closedLines (ls.filterMap (cutLine order (lineMarkers ds)))))
      (removeBlocks (blockMarkers ds) (closedLines before ++ closedLines ls)) := by
  induction ls generalizing before with
  | nil => exact Aligned.refl _
  | cons l ls ih =>
      -- the lines behind it first, while this one stays
      have hrest : Aligned (Line.FrontOf (lineMarkers ds))
          (removeBlocks (blockMarkers ds) (closedLines (before ++ [l])
            ++ closedLines (ls.filterMap (cutLine order (lineMarkers ds)))))
          (removeBlocks (blockMarkers ds) (closedLines (before ++ [l]) ++ closedLines ls)) := by
        refine ih (before ++ [l]) (fun l' hl' => hls l' (List.mem_cons_of_mem l hl'))
          fun i l' hi hcut => ?_
        rw [List.append_assoc]
        exact hclear (i + 1) l' hi hcut
      rw [closedLines_append, List.append_assoc, List.append_assoc] at hrest
      have hcons : closedLines (l :: ls) = closedLines [l] ++ closedLines ls :=
        closedLines_append [l] ls
      have hsplit : closedLines ((l :: ls).filterMap (cutLine order (lineMarkers ds)))
          = closedLines (cutLine order (lineMarkers ds) l).toList
            ++ closedLines (ls.filterMap (cutLine order (lineMarkers ds))) := by
        rw [← closedLines_append]
        cases hcut : cutLine order (lineMarkers ds) l with
        | none => rw [List.filterMap_cons_none hcut]; rfl
        | some l' => rw [List.filterMap_cons_some hcut]; rfl
      rw [hsplit, hcons]
      by_cases hsame : cutLine order (lineMarkers ds) l = some l
      · rw [hsame]
        exact hrest
      · have hfirst := hclear 0 l rfl hsame
        rw [List.take_zero, List.append_nil] at hfirst
        exact (aligned_removeBlocks_cutLine hds (hls l List.mem_cons_self) hfirst _).trans hrest

/-! ## The passes over lines -/

/-- Lines that are front parts of others are part of them once full-line comments are
    dropped from both. -/
theorem sublistForall₂_filter_isFullComment {ls' : List Line}
    (h : List.SublistForall₂ (Line.FrontOf ms) ls ls') :
    List.SublistForall₂ List.Sublist (ls.filter (!isFullComment ms ·))
      (ls'.filter (!isFullComment ms ·)) := by
  have hdrop : ∀ {l : Line} {ls : List Line}, isFullComment ms l = true →
      (l :: ls).filter (!isFullComment ms ·) = ls.filter (!isFullComment ms ·) :=
    fun h => List.filter_cons_of_neg (by simp [h])
  have hkeep : ∀ {l : Line} {ls : List Line}, isFullComment ms l = false →
      (l :: ls).filter (!isFullComment ms ·) = l :: ls.filter (!isFullComment ms ·) :=
    fun h => List.filter_cons_of_pos (by simp [h])
  induction h with
  | nil => exact List.SublistForall₂.nil
  | @cons l' l ls ls' hab hrest ih =>
      cases hl : isFullComment ms l with
      | true => rwa [hdrop hl, hdrop (hab.2 hl)]
      | false =>
          rw [hkeep hl]
          cases hl' : isFullComment ms l' with
          | true =>
              rw [hdrop hl']
              exact List.SublistForall₂.cons_right ih
          | false =>
              rw [hkeep hl']
              exact List.SublistForall₂.cons hab.1.sublist ih
  | @cons_right l ls ls' hrest ih =>
      cases hl : isFullComment ms l with
      | true => rwa [hdrop hl]
      | false =>
          rw [hkeep hl]
          exact List.SublistForall₂.cons_right ih

theorem dropFullComments_sublist (h : Aligned (Line.FrontOf ms) a b) :
    (dropFullComments ms a).Sublist (dropFullComments ms b) :=
  unlines_sublist (sublistForall₂_filter_isFullComment h)

/-- The pass over line comments leaves front parts of lines, if it leaves a line at all. -/
theorem cutLineComments_frontOf (order : GuardOrder) (hds : WellMarked ds) (t : Text) :
    cutLineComments order (lineMarkers ds) t = [] ∨
      Aligned (Line.FrontOf (lineMarkers ds)) (cutLineComments order (lineMarkers ds) t) t := by
  by_cases h : t.lines.filterMap (cutLine order (lineMarkers ds)) = []
  · refine Or.inl ?_
    rw [cutLineComments, h]
    rfl
  · refine Or.inr ?_
    rw [Aligned, lines_cutLineComments h]
    refine sublistForall₂_filterMap (fun l l' hc => ?_) t.lines
    exact frontOf_of_cutLine hds hc

/-- A pass over line comments in front of the one over full-line comments only takes more
    away. -/
theorem dropFullComments_cutLineComments_sublist (hds : WellMarked ds) (t : Text) :
    (dropFullComments (lineMarkers ds) (cutLineComments order (lineMarkers ds) t)).Sublist
      (dropFullComments (lineMarkers ds) t) := by
  rcases cutLineComments_frontOf order hds t with h | h
  · rw [h]
    exact (aligned_dropFullComments (lineMarkers ds) []).sublist.trans (List.nil_sublist _)
  · exact dropFullComments_sublist h

/-! ## The two runs -/

/-- Spans are removed alike from a text and from what the first pass over line comments
    left of it, if every line that the pass changed was cut clear. -/
theorem removeBlocks_cutLineComments (hds : WellMarked ds)
    (h : ∀ i l, t.lines[i]? = some l → cutLine order (lineMarkers ds) l ≠ some l →
      CutsClear order (lineMarkers ds) (blockMarkers ds) (t.lines.take i) l) :
    cutLineComments order (lineMarkers ds) t = [] ∨
      Aligned (Line.FrontOf (lineMarkers ds))
        (removeBlocks (blockMarkers ds) (cutLineComments order (lineMarkers ds) t))
        (removeBlocks (blockMarkers ds) t) := by
  by_cases hnone : t.lines.filterMap (cutLine order (lineMarkers ds)) = []
  · refine Or.inl ?_
    rw [cutLineComments, hnone]
    rfl
  · refine Or.inr ?_
    have hchange := aligned_removeBlocks_filterMap hds [] (fun l hl => not_mem_of_mem_lines hl) h
    rw [closedLines_nil, List.nil_append, List.nil_append, closedLines_eq hnone,
      closedLines_eq (lines_ne_nil t), unlines_lines, removeBlocks_concat_newline hds.block_plain,
      removeBlocks_concat_newline hds.block_plain, Aligned, lines_append_newline,
      lines_append_newline] at hchange
    exact sublistForall₂_of_concat hchange

/-- With line comments cut, stripping leaves a part of what it leaves without, if every line
    that the first cut changes is cut clear. -/
theorem stripComments_inline_sublist (hds : WellMarked ds)
    (h : ∀ i l, t.lines[i]? = some l → cutLine order (lineMarkers ds) l ≠ some l →
      CutsClear order (lineMarkers ds) (blockMarkers ds) (t.lines.take i) l) :
    (stripComments ds { normalize := false, inline := true, guardOrder := order } t).Sublist
      (stripComments ds { normalize := false, inline := false, guardOrder := order } t) := by
  rcases removeBlocks_cutLineComments hds h with hnone | hspans
  · -- nothing is left of the text before spans are looked for
    have hspans := (aligned_removeBlocks (blockMarkers ds)
      (cutLineComments order (lineMarkers ds) t)).sublist
    have hlines : ∀ u, (dropFullComments (lineMarkers ds)
        (cutLineComments order (lineMarkers ds) u)).Sublist u := fun u =>
      ((aligned_dropFullComments (lineMarkers ds) _).trans
        (aligned_cutLineComments order (lineMarkers ds) u)).sublist
    exact (hlines _).trans (hspans.trans (hnone ▸ List.nil_sublist _))
  · exact (dropFullComments_cutLineComments_sublist hds _).trans
      (dropFullComments_sublist hspans)

/-- Wherever a line marker and a block pair are selected, a line marker within a span can
    take the closer with it, and what the span held is left. -/
theorem exists_not_inline_sublist (order : GuardOrder)
    (hms : lineMarkers (Dialect.choose ids) ≠ []) (hps : blockMarkers (Dialect.choose ids) ≠ []) :
    ∃ t, ¬
      (stripLanguages ids { normalize := false, inline := true, guardOrder := order } t).Sublist
        (stripLanguages ids { normalize := false, inline := false, guardOrder := order } t) := by
  have hall : ∀ order ∈ [GuardOrder.quotesFirst, GuardOrder.urlFirst], ∀ ds ∈ catalog.sublists,
      lineMarkers ds = [] ∨ blockMarkers ds = [] ∨
        ∃ p ∈ blockMarkers ds, ∃ m ∈ lineMarkers ds,
          ¬ (stripComments ds { normalize := false, inline := true, guardOrder := order }
              (p.opener ++ ' ' :: (m ++ p.closer))).Sublist
            (stripComments ds { normalize := false, inline := false, guardOrder := order }
              (p.opener ++ ' ' :: (m ++ p.closer))) := by
    decide +kernel
  have horder : order ∈ [GuardOrder.quotesFirst, GuardOrder.urlFirst] := by
    cases order <;> decide
  have hds : Dialect.choose ids ∈ catalog.sublists := List.mem_sublists.mpr List.filter_sublist
  obtain ⟨p, -, m, -, hleft⟩ :=
    ((hall order horder _ hds).resolve_left hms).resolve_left hps
  exact ⟨_, hleft⟩

/-- Cutting line comments leaves a part of what is left when they are not cut, if every
    line that the first cut changes is cut clear of the selected pairs.  That it holds for
    every text takes a selection without line markers or without block pairs. -/
theorem stripLanguages_inline_sublist (ids : List String) (order : GuardOrder) :
    (∀ t, (∀ i l, (Text.lines t)[i]? = some l →
        cutLine order (lineMarkers (Dialect.choose ids)) l ≠ some l →
        CutsClear order (lineMarkers (Dialect.choose ids)) (blockMarkers (Dialect.choose ids))
          ((Text.lines t).take i) l) →
      (stripLanguages ids { normalize := false, inline := true, guardOrder := order } t).Sublist
        (stripLanguages ids { normalize := false, inline := false, guardOrder := order } t)) ∧
    ((∀ t,
        (stripLanguages ids { normalize := false, inline := true, guardOrder := order } t).Sublist
          (stripLanguages ids { normalize := false, inline := false, guardOrder := order } t)) ↔
      lineMarkers (Dialect.choose ids) = [] ∨ blockMarkers (Dialect.choose ids) = []) := by
  have hds := wellMarked_choose ids
  refine ⟨fun t h => stripComments_inline_sublist hds h, ?_, ?_⟩
  · intro hall
    by_contra hno
    obtain ⟨hms, hps⟩ := not_or.mp hno
    obtain ⟨t, ht⟩ := exists_not_inline_sublist order hms hps
    exact ht (hall t)
  · intro hnone t
    refine stripComments_inline_sublist hds fun i l _ hcut => ?_
    rcases hnone with hms | hps
    · rw [hms] at hcut
      exact absurd rfl hcut
    · refine CutsClear.noMarker fun p hp => ?_
      rw [hps] at hp
      exact nomatch hp

/-- A line comment within a block is no harm, nor is one behind code that a blank sets off,
    whatever blocks stand in the code, nor one that holds a block of its own. -/
theorem stripLanguages_inline_sublist_within :
    stripLanguages ["js"] { normalize := false, inline := true }
        "a; /* b */ // c\nk; // /* m */\n/* d\ne // f\n*/ g".toList = "a; \nk;\n\n\n g".toList ∧
    (stripLanguages ["js"] { normalize := false, inline := true }
        "a; /* b */ // c\nk; // /* m */\n/* d\ne // f\n*/ g".toList).Sublist
      (stripLanguages ["js"] { normalize := false, inline := false }
        "a; /* b */ // c\nk; // /* m */\n/* d\ne // f\n*/ g".toList) := by
  have hds := wellMarked_choose ["js"]
  have hps : blockMarkers (Dialect.choose ["js"]) = [⟨"/*".toList, "*/".toList⟩] := by decide
  have hfront : ClosesAll (blockMarkers (Dialect.choose ["js"])) "a; /* b */ // c".toList := by
    rw [hps]
    refine ⟨?_, trivial⟩
    refine BlockPair.Closes.span (s := ⟨"a; ".toList, "/* b */".toList, " // c".toList⟩)
      (by decide) ?_
    exact BlockPair.Closes.noOpener (by decide)
  have hclose : ClosesAll (blockMarkers (Dialect.choose ["js"])) "k; // /* m */".toList := by
    rw [hps]
    refine ⟨?_, trivial⟩
    refine BlockPair.Closes.span (s := ⟨"k; // ".toList, "/* m */".toList, []⟩) (by decide) ?_
    exact BlockPair.Closes.noOpener (by decide)
  refine ⟨by decide, (stripLanguages_inline_sublist ["js"] .quotesFirst).1
    "a; /* b */ // c\nk; // /* m */\n/* d\ne // f\n*/ g".toList fun i l hl hcut => ?_⟩
  have hlines : Text.lines "a; /* b */ // c\nk; // /* m */\n/* d\ne // f\n*/ g".toList
      = ["a; /* b */ // c", "k; // /* m */", "/* d", "e // f", "*/ g"].map String.toList := by
    decide
  rw [hlines] at hl ⊢
  rcases i with _ | _ | _ | _ | _ | i
  · obtain rfl := Option.some.inj hl
    have ha : cutLine .quotesFirst (lineMarkers (Dialect.choose ["js"])) "a; /* b */ // c".toList
        = some "a; /* b */".toList := by decide
    have hsplit : "a; /* b */ // c".toList = "a; /* b */".toList ++ " // c".toList := by decide
    exact CutsClear.setOff_of_isBlank hds ha hsplit ⟨' ', by decide, by decide⟩
      (by decide +kernel) ⟨"a; ".toList, by decide, by decide⟩
  · obtain rfl := Option.some.inj hl
    refine CutsClear.betweenSpans hfront hclose fun l' hl' => ?_
    have hk : cutLine .quotesFirst (lineMarkers (Dialect.choose ["js"])) "k; // /* m */".toList
        = some "k;".toList := by decide
    obtain rfl : "k;".toList = l' := Option.some.inj (hk.symm.trans hl')
    rw [hps]
    exact ⟨⟨BlockPair.Closes.noOpener (by decide), trivial⟩, by decide, by decide⟩
  · obtain rfl := Option.some.inj hl
    exact absurd (by decide) hcut
  · obtain rfl := Option.some.inj hl
    exact CutsClear.noMarker (by decide +kernel)
  · obtain rfl := Option.some.inj hl
    exact absurd (by decide) hcut
  · exact absurd hl (by simp)

/-- A line marker within a block takes its closer with it, and the opener is left. -/
theorem stripLanguages_inline_leaves_opener :
    stripLanguages ["js"] { normalize := false, inline := true } "/* a // b */".toList
      = "/* a".toList ∧
    stripLanguages ["js"] { normalize := false, inline := false } "/* a // b */".toList = [] ∧
    ¬ (stripLanguages ["js"] { normalize := false, inline := true } "/* a // b */".toList).Sublist
      (stripLanguages ["js"] { normalize := false, inline := false } "/* a // b */".toList) := by
  decide

end BareCode
