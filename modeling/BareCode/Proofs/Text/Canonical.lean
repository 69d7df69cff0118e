import BareCode.Proofs.Text.Content
import BareCode.Proofs.Text.NewlineRuns
/-! # Canonical texts — what normal layout makes of a text, and nothing else

    A text is canonical if none of the three passes of normal layout finds anything to
    change in it, each stated for itself: no padding at the end of a closed line, no three
    newlines in a row, no tab in the padding in front of a line.

    Every text in normal layout is canonical, although the passes come one after another
    and each works on what the others left; and a canonical text stays as it is, so these
    are all the texts in normal layout (`normalize_eq_self_iff`).  What a text keeps on its
    way there is its content (`normalize_canonical_content`). -/

namespace BareCode

namespace Line

variable {l : Line}

/-- The lines that stay as they are when padding at the end goes. -/
theorem trimPadding_eq_self_iff :
    trimPadding l = l ↔ ∀ c ∈ l.getLast?, isPadding c = false := by
  rw [trimPadding, Text.dropEndWhile, ← List.rdropWhile, List.rdropWhile_eq_self_iff]
  constructor
  · intro h c hc
    obtain ⟨hne, rfl⟩ := List.mem_getLast?_eq_getLast hc
    exact Bool.eq_false_iff.mpr (h hne)
  · intro h hne
    exact Bool.eq_false_iff.mp (h _ (List.getLast?_eq_some_getLast hne))

/-- The lines that stay as they are when the indentation is written as spaces. -/
theorem indentWithSpaces_eq_self_iff :
    indentWithSpaces l = l ↔ '\t' ∉ l.takeWhile isPadding := by
  have hsplit : l.takeWhile isPadding ++ l.dropWhile isPadding = l :=
    List.takeWhile_append_dropWhile
  constructor
  · intro h ht
    have hboth : List.replicate (indentation l) ' ' ++ l.dropWhile isPadding
        = l.takeWhile isPadding ++ l.dropWhile isPadding := by
      rw [hsplit]
      exact h
    rw [← List.append_cancel_right hboth] at ht
    exact absurd (List.eq_of_mem_replicate ht) (by decide)
  · intro h
    have hspaces : l.takeWhile isPadding
        = List.replicate (l.takeWhile isPadding).length ' ' := by
      refine List.eq_replicate_of_mem fun c hc => ?_
      have hpad := List.mem_takeWhile_imp hc
      rw [isPadding, Bool.or_eq_true, decide_eq_true_eq, decide_eq_true_eq] at hpad
      exact hpad.resolve_right fun hc' => h (hc' ▸ hc)
    have hwidth : indentation l = (l.takeWhile isPadding).length := by
      conv_lhs => rw [← hsplit, hspaces, indentation_replicate_append, indentation_dropWhile]
      rfl
    rw [indentWithSpaces, hwidth, ← hspaces, hsplit]

end Line

namespace Text

variable {t : Text}

/-- Whether a text has no padding at the end of a line but the last, no three newlines in
    a row and no tab in the padding in front of a line. -/
structure Canonical (t : Text) : Prop where
  trimmed : ∀ l ∈ (lines t).dropLast, ∀ c ∈ l.getLast?, isPadding c = false
  capped : ¬ List.replicate 3 '\n' <:+: t
  spaced : ∀ l ∈ lines t, '\t' ∉ l.takeWhile isPadding

theorem canonical_normalize (t : Text) : Canonical (normalize t) where
  trimmed := by
    intro l hl
    rw [lines_normalize] at hl
    exact Line.trimPadding_eq_self_iff.mp (trimPadding_of_mem_normalLines hl)
  capped := by
    -- the runs were cut before the lines were indented, and there is still none to cut
    have hlines : ∀ l ∈ normalLines (lines t), '\n' ∉ l := by
      rw [← lines_normalize]
      exact fun l hl => not_mem_of_mem_lines hl
    have hcap : capNewlines (unlines (normalLines (lines t)))
        = unlines (normalLines (lines t)) := by
      rw [capNewlines, capNewlinesAfter_unlines hlines, capLines_normalLines]
    rw [← lines_normalize, unlines_lines] at hcap
    exact capNewlines_eq_self_iff.mp hcap
  spaced := by
    intro l hl
    rw [lines_normalize] at hl
    exact Line.indentWithSpaces_eq_self_iff.mp (indentWithSpaces_of_mem_normalLines hl)

/-- The texts in normal layout are the canonical ones. -/
theorem normalize_eq_self_iff : normalize t = t ↔ Canonical t := by
  constructor
  · intro h
    rw [← h]
    exact canonical_normalize t
  · intro h
    have htrim : trimClosed (lines t) = lines t :=
      trimClosed_eq_self fun l hl => Line.trimPadding_eq_self_iff.mpr (h.trimmed l hl)
    have hcap : capNewlines t = t := capNewlines_eq_self_iff.mpr h.capped
    rw [normalize, htrim, unlines_lines, hcap,
      onLines_eq_self_iff fun l hl => Line.not_mem_indentWithSpaces (not_mem_of_mem_lines hl)]
    exact fun l hl => Line.indentWithSpaces_eq_self_iff.mpr (h.spaced l hl)

/-- Whether a text is canonical is decided by its normal layout. -/
instance : Decidable (Canonical t) := decidable_of_iff _ normalize_eq_self_iff

example : ¬ Canonical "a \nb".toList ∧ Canonical "a\nb ".toList := by decide

end Text

end BareCode
