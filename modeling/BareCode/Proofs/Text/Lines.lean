import BareCode.Text.Basic
/-! # Lines — a text and the list of its lines say the same

    `unlines_lines` gives a text back from its lines.  This file holds the other
    direction and the equations by which a text is taken apart line by line:

    * `lines_unlines` — lines that hold no newline come back from the joined text,
      if there is one at all; no lines at all join to the text of one empty line,
      and `mem_lines_unlines` covers both cases;
    * `lines_append_newline` — a newline separates the lines in front of it from the
      lines behind it. -/

namespace BareCode.Text

variable {t l : Text} {ls : List Line}

@[simp] theorem lines_nil : lines [] = [[]] := rfl

theorem lines_ne_nil (t : Text) : lines t ≠ [] :=
  List.splitOn_ne_nil '\n' t

theorem lines_of_not_mem (h : '\n' ∉ l) : lines l = [l] :=
  List.splitOn_eq_singleton h

/-- A newline separates the lines around it. -/
theorem lines_append_newline (a b : Text) : lines (a ++ '\n' :: b) = lines a ++ lines b :=
  List.splitOn_append_cons_self a b

theorem lines_newline_cons (t : Text) : lines ('\n' :: t) = [] :: lines t :=
  lines_append_newline [] t

/-- A line and a newline in front of a text give one line more. -/
theorem lines_line_newline (h : '\n' ∉ l) (t : Text) : lines (l ++ '\n' :: t) = l :: lines t := by
  rw [lines_append_newline, lines_of_not_mem h]
  rfl

/-- Any other character in front goes to the first line. -/
theorem lines_cons_of_ne {c : Char} (h : c ≠ '\n') (t : Text) :
    lines (c :: t) = (lines t).modifyHead (c :: ·) := by
  rw [lines, List.splitOn_cons_eq_if_modifyHead]
  simp [lines, h]

/-- The lines of a text hold no newline. -/
theorem not_mem_of_mem_lines (h : l ∈ lines t) : '\n' ∉ l := by
  induction t generalizing l with
  | nil =>
      obtain rfl : l = [] := by simpa using h
      simp
  | cons c t ih =>
      by_cases hc : c = '\n'
      · subst hc
        rw [lines_newline_cons] at h
        rcases List.mem_cons.mp h with rfl | h
        · simp
        · exact ih h
      · -- the character goes to the first line and to no other
        obtain ⟨hd, tl, ht⟩ := List.exists_cons_of_ne_nil (lines_ne_nil t)
        rw [lines_cons_of_ne hc, ht, List.modifyHead_cons] at h
        rcases List.mem_cons.mp h with rfl | h
        · have := ih (ht ▸ List.mem_cons_self)
          simpa [Ne.symm hc] using this
        · exact ih (ht ▸ List.mem_cons_of_mem hd h)

@[simp] theorem unlines_nil : unlines [] = [] := rfl

@[simp] theorem unlines_singleton (l : Line) : unlines [l] = l := by
  simp [unlines]

theorem unlines_cons (l : Line) (h : ls ≠ []) : unlines (l :: ls) = l ++ '\n' :: unlines ls := by
  obtain ⟨hd, tl, rfl⟩ := List.exists_cons_of_ne_nil h
  simp [unlines, List.intercalate]

theorem prefix_unlines_cons (l : Line) (ls : List Line) : l <+: unlines (l :: ls) := by
  by_cases hls : ls = []
  · subst hls
    exact ⟨[], by rw [List.append_nil, unlines_singleton]⟩
  · rw [unlines_cons l hls]
    exact List.prefix_append _ _

/-- Every line that is joined stands in the joined text. -/
theorem infix_unlines (h : l ∈ ls) : l <:+: unlines ls := by
  induction ls with
  | nil => exact nomatch h
  | cons hd tl ih =>
      rcases List.mem_cons.mp h with rfl | h
      · exact (prefix_unlines_cons l tl).isInfix
      · rw [unlines_cons hd (List.ne_nil_of_mem h)]
        exact (ih h).trans ⟨hd ++ ['\n'], [], by simp⟩

/-- A line of a text stands in the text. -/
theorem infix_of_mem_lines (h : l ∈ lines t) : l <:+: t := by
  have hl := infix_unlines h
  rwa [unlines_lines] at hl

/-- Joining lines and cutting the text again gives the lines back. -/
theorem lines_unlines (hl : ∀ l ∈ ls, '\n' ∉ l) (h : ls ≠ []) : lines (unlines ls) = ls :=
  List.splitOn_intercalate '\n' hl h

/-- A line of a joined text is one of the lines that were joined, or it is the empty
    line of the text that no lines join to. -/
theorem mem_lines_unlines (hl : ∀ l ∈ ls, '\n' ∉ l) (h : l ∈ lines (unlines ls)) :
    l ∈ ls ∨ l = [] := by
  by_cases hls : ls = []
  · subst hls
    exact Or.inr (by simpa using h)
  · rw [lines_unlines hl hls] at h
    exact Or.inl h

theorem lines_onLines {f : Line → Line} (hf : ∀ l ∈ lines t, '\n' ∉ f l) :
    lines (onLines f t) = (lines t).map f := by
  refine lines_unlines ?_ (by simpa using lines_ne_nil t)
  intro l hl
  obtain ⟨l', hl', rfl⟩ := List.mem_map.mp hl
  exact hf l' hl'

/-- Changing each line on its own gives a text back only if it gives back every line. -/
theorem onLines_eq_self_iff {f : Line → Line} (hf : ∀ l ∈ lines t, '\n' ∉ f l) :
    onLines f t = t ↔ ∀ l ∈ lines t, f l = l := by
  constructor
  · intro h
    have hmap : (lines t).map f = (lines t).map id := by
      rw [← lines_onLines hf, h, List.map_id]
    exact List.map_inj_left.mp hmap
  · intro h
    have hmap : (lines t).map f = (lines t).map id := List.map_congr_left h
    rw [onLines, hmap, List.map_id, unlines_lines]

end BareCode.Text
