import BareCode.Proofs.Text.Lines
import BareCode.Proofs.Text.Search
import Mathlib.Data.List.Basic
import Mathlib.Data.List.Forall2
/-! # Whole lines — texts in which every line is closed

    `unlines` puts newlines between lines, so its texts do not go on with others as lists of
    lines do.  Whole lines do: each has the newline that closes it, put together they are
    whole lines again, and a piece of text that holds no newline is found within one part or
    within the other, never across (`splitAtFirst?_wholeLines`). -/

namespace BareCode.Text

variable {a b s t y needle : Text} {c : Char} {l : Line} {ls : List Line}

/-- Whether a text is some lines, each with the newline that closes it. -/
def WholeLines (t : Text) : Prop := t = [] ∨ ∃ s, t = s ++ ['\n']

theorem wholeLines_nil : WholeLines [] := Or.inl rfl

theorem wholeLines_newline (s : Text) : WholeLines (s ++ ['\n']) := Or.inr ⟨s, rfl⟩

/-- Behind whole lines, a text of whole lines goes on with whole lines. -/
theorem WholeLines.append (hb : WholeLines b) (ha : WholeLines a) : WholeLines (a ++ b) := by
  rcases hb with rfl | ⟨s, rfl⟩
  · rwa [List.append_nil]
  · exact Or.inr ⟨a ++ s, (List.append_assoc _ _ _).symm⟩

theorem WholeLines.tail (h : WholeLines (c :: t)) : WholeLines t := by
  obtain ⟨s, hs⟩ := h.resolve_left (List.cons_ne_nil c t)
  cases s with
  | nil => exact Or.inl (List.cons_eq_cons.mp hs).2
  | cons d s => exact Or.inr ⟨s, (List.cons_eq_cons.mp hs).2⟩

/-- Whole lines without the piece are a wall: it is looked for behind them. -/
theorem splitAtFirst?_wholeLines (ha : WholeLines a) (hno : ¬ needle <:+: a)
    (hn : '\n' ∉ needle) (t : Text) :
    splitAtFirst? (a ++ t) needle
      = (splitAtFirst? t needle).map fun (before, rest) => (a ++ before, rest) := by
  rcases ha with rfl | ⟨s, rfl⟩
  · simp
  · have hs : ¬ needle <:+: s := fun h => hno (h.trans (List.prefix_append s _).isInfix)
    simpa using splitAtFirst?_wall hs hn t

/-- So they are behind a text without the piece, if they begin with a foreign character. -/
theorem splitAtFirst?_append_wholeLines (hs : ¬ needle <:+: s) (hc : ∃ c ∈ y.head?, c ∉ needle)
    (hy : WholeLines y) (hno : ¬ needle <:+: y) (hn : '\n' ∉ needle) (t : Text) :
    splitAtFirst? (s ++ (y ++ t)) needle
      = (splitAtFirst? t needle).map fun (before, rest) => (s ++ (y ++ before), rest) := by
  cases y with
  | nil => exact absurd hc (by simp)
  | cons c y =>
      have hc' : c ∉ needle := by simpa using hc
      have hno' : ¬ needle <:+: y := fun h => hno (List.infix_cons h)
      rw [List.cons_append, splitAtFirst?_wall hs hc', splitAtFirst?_wholeLines hy.tail hno' hn,
        Option.map_map]
      rfl

/-! ## Lines that are closed one by one -/

/-- Some lines, each with the newline that closes it. -/
def closedLines (ls : List Line) : Text := ls.flatMap (· ++ ['\n'])

@[simp] theorem closedLines_nil : closedLines [] = [] := rfl

theorem closedLines_cons (l : Line) (ls : List Line) :
    closedLines (l :: ls) = l ++ '\n' :: closedLines ls := by
  simp [closedLines]

theorem closedLines_append (ls ls' : List Line) :
    closedLines (ls ++ ls') = closedLines ls ++ closedLines ls' :=
  List.flatMap_append

/-- What stands in pieces of lines, and not across them, stands in the lines. -/
theorem infix_closedLines_of_isInfix {ls' : List Line} (hn : '\n' ∉ needle)
    (h : List.SublistForall₂ List.IsInfix ls ls') (hls : needle <:+: closedLines ls) :
    needle <:+: closedLines ls' := by
  induction h with
  | nil => exact hls.trans List.nil_infix
  | @cons a b ls ls' hab _ ih =>
      rw [closedLines_cons] at hls ⊢
      rcases infix_append_wall hls hn with ha | hbehind
      · exact (ha.trans hab).trans (List.prefix_append b _).isInfix
      · exact (ih hbehind).trans (infix_append_cons b '\n' _)
  | @cons_right b ls ls' _ ih =>
      rw [closedLines_cons]
      exact (ih hls).trans (infix_append_cons b '\n' _)

theorem wholeLines_closedLines (ls : List Line) : WholeLines (closedLines ls) := by
  rcases List.eq_nil_or_concat' ls with rfl | ⟨ls, l, rfl⟩
  · exact wholeLines_nil
  · rw [closedLines_append, closedLines, closedLines, List.flatMap_singleton, ← List.append_assoc]
    exact wholeLines_newline _

theorem closedLines_eq (h : ls ≠ []) : closedLines ls = unlines ls ++ ['\n'] := by
  induction ls with
  | nil => exact absurd rfl h
  | cons l ls ih =>
      by_cases hls : ls = []
      · subst hls
        simp [closedLines]
      · rw [closedLines, List.flatMap_cons, ← closedLines, ih hls, unlines_cons l hls]
        simp

theorem closedLines_singleton (l : Line) : closedLines [l] = l ++ ['\n'] :=
  List.flatMap_singleton _ l

/-- A line behind closed ones is the last of the text. -/
theorem unlines_concat (ls : List Line) (l : Line) : unlines (ls ++ [l]) = closedLines ls ++ l := by
  have h := closedLines_eq (List.append_ne_nil_of_right_ne_nil ls (List.cons_ne_nil l []))
  rw [closedLines_append, closedLines_singleton, ← List.append_assoc] at h
  exact (List.append_cancel_right h).symm

theorem lines_closedLine_append (hl : '\n' ∉ l) (t : Text) :
    lines (closedLines [l] ++ t) = l :: lines t := by
  rw [closedLines_singleton, List.append_assoc]
  exact lines_line_newline hl t

/-- The lines of a text behind whole lines. -/
theorem exists_lines_wholeLines_append (ha : WholeLines a) :
    ∃ ls, ∀ t, lines (a ++ t) = ls ++ lines t := by
  rcases ha with rfl | ⟨s, rfl⟩
  · exact ⟨[], fun t => rfl⟩
  · refine ⟨lines s, fun t => ?_⟩
    rw [List.append_assoc]
    exact lines_append_newline s t

/-- Every text is some whole lines and its last line. -/
theorem exists_wholeLines_append (t : Text) :
    ∃ s l, WholeLines s ∧ '\n' ∉ l ∧ t = s ++ l := by
  induction t with
  | nil => exact ⟨[], [], wholeLines_nil, List.not_mem_nil, rfl⟩
  | cons c t ih =>
      obtain ⟨s, l, hs, hl, rfl⟩ := ih
      by_cases hc : c = '\n'
      · exact ⟨c :: s, l, hs.append (a := [c]) (hc ▸ wholeLines_newline []), hl, rfl⟩
      · rcases hs with rfl | ⟨s, rfl⟩
        · exact ⟨[], c :: l, wholeLines_nil, by simpa [Ne.symm hc] using hl, rfl⟩
        · exact ⟨c :: (s ++ ['\n']), l, wholeLines_newline (c :: s), hl, rfl⟩

end BareCode.Text
