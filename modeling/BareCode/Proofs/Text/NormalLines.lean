import BareCode.Proofs.Text.Lines
import BareCode.Proofs.Text.Trim
import Mathlib.Data.List.Forall2
/-! # Normal layout, line by line

    `Text.normalize` works on characters where it cuts runs of newlines and on lines
    everywhere else.  Here the whole of it becomes a function on lines,
    `normalLines`: trim every closed line, drop the empty lines behind two newlines,
    indent what is left.  From that view follow

    * `mem_lines_normalize` — every line of the result comes from one line;
    * `normalize_normalize` — a second run changes nothing. -/

namespace BareCode.Text

variable {t : Text} {l : Line} {ls : List Line} {run : Nat}

/-! ## Runs of newlines -/

/-- The lines that are left when runs of newlines are cut to two, where `run` newlines
    stand in front: an empty line goes with the newline that closes it.  The last line
    is closed by no newline and stays. -/
def capLines (run : Nat) : List Line → List Line
  | [] => []
  | [l] => [l]
  | l :: next :: ls =>
      if l = [] then
        if run < 2 then [] :: capLines (run + 1) (next :: ls) else capLines run (next :: ls)
      else l :: capLines 1 (next :: ls)

theorem capLines_empty_of_lt (h : run < 2) (hls : ls ≠ []) :
    capLines run ([] :: ls) = [] :: capLines (run + 1) ls := by
  obtain ⟨next, ls, rfl⟩ := List.exists_cons_of_ne_nil hls
  rw [capLines, if_pos rfl, if_pos h]

theorem capLines_empty_of_not_lt (h : ¬ run < 2) (hls : ls ≠ []) :
    capLines run ([] :: ls) = capLines run ls := by
  obtain ⟨next, ls, rfl⟩ := List.exists_cons_of_ne_nil hls
  rw [capLines, if_pos rfl, if_neg h]

/-- A line that is not empty stays, and one newline closes it. -/
theorem capLines_cons_of_ne (hl : l ≠ []) (hls : ls ≠ []) :
    capLines run (l :: ls) = l :: capLines 1 ls := by
  obtain ⟨next, ls, rfl⟩ := List.exists_cons_of_ne_nil hls
  rw [capLines, if_neg hl]

theorem capLines_ne_nil (run : Nat) (h : ls ≠ []) : capLines run ls ≠ [] := by
  fun_induction capLines run ls with
  | case1 => exact absurd rfl h
  | case2 => exact List.cons_ne_nil _ _
  | case3 => exact List.cons_ne_nil _ _
  | case4 run next ls _ ih => exact ih (List.cons_ne_nil _ _)
  | case5 => exact List.cons_ne_nil _ _

/-- The last line stays last. -/
theorem capLines_concat (run : Nat) (ls : List Line) (l : Line) :
    ∃ ls', capLines run (ls ++ [l]) = ls' ++ [l] := by
  induction ls generalizing run with
  | nil => exact ⟨[], rfl⟩
  | cons l' ls ih =>
      have hne : ls ++ [l] ≠ [] := List.append_ne_nil_of_right_ne_nil ls (List.cons_ne_nil l [])
      rw [List.cons_append]
      by_cases hl : l' = []
      · rw [hl]
        by_cases h : run < 2
        · obtain ⟨ls', h'⟩ := ih (run + 1)
          exact ⟨[] :: ls', by rw [capLines_empty_of_lt h hne, h', List.cons_append]⟩
        · obtain ⟨ls', h'⟩ := ih run
          exact ⟨ls', by rw [capLines_empty_of_not_lt h hne, h']⟩
      · obtain ⟨ls', h'⟩ := ih 1
        exact ⟨l' :: ls', by rw [capLines_cons_of_ne hl hne, h', List.cons_append]⟩

/-- Lines are dropped and nothing else happens to them. -/
theorem capLines_sublist (run : Nat) (ls : List Line) : (capLines run ls).Sublist ls := by
  fun_induction capLines run ls with
  | case1 => exact List.Sublist.refl _
  | case2 => exact List.Sublist.refl _
  | case3 run next ls _ ih => exact ih.cons_cons []
  | case4 run next ls _ ih => exact ih.cons []
  | case5 run l next ls _ ih => exact ih.cons_cons l

/-- A closed line that is left was closed before. -/
theorem dropLast_capLines_sublist (run : Nat) (ls : List Line) :
    (capLines run ls).dropLast.Sublist ls.dropLast := by
  rcases List.eq_nil_or_concat' ls with rfl | ⟨ls, l, rfl⟩
  · exact List.Sublist.refl _
  · obtain ⟨ls', h⟩ := capLines_concat run ls l
    have hsub := capLines_sublist run (ls ++ [l])
    rw [h, List.append_sublist_append_right] at hsub
    rw [h, List.dropLast_concat, List.dropLast_concat]
    exact hsub

theorem getLast?_capLines (run : Nat) (ls : List Line) :
    (capLines run ls).getLast? = ls.getLast? := by
  rcases List.eq_nil_or_concat' ls with rfl | ⟨ls, l, rfl⟩
  · rfl
  · obtain ⟨ls', h⟩ := capLines_concat run ls l
    rw [h, List.getLast?_concat, List.getLast?_concat]

theorem capLines_capLines (run : Nat) (ls : List Line) :
    capLines run (capLines run ls) = capLines run ls := by
  fun_induction capLines run ls with
  | case1 => rfl
  | case2 => rfl
  | case3 run next ls h ih =>
      rw [capLines_empty_of_lt h (capLines_ne_nil _ (List.cons_ne_nil _ _)), ih]
  | case4 run next ls h ih => exact ih
  | case5 run l next ls hl ih =>
      rw [capLines_cons_of_ne hl (capLines_ne_nil _ (List.cons_ne_nil _ _)), ih]

/-- Which lines go depends only on which lines are empty. -/
theorem capLines_map {f : Line → Line} (hf : ∀ l, f l = [] ↔ l = []) (run : Nat)
    (ls : List Line) : capLines run (ls.map f) = (capLines run ls).map f := by
  have hnil : f [] = [] := (hf []).mpr rfl
  fun_induction capLines run ls with
  | case1 => rfl
  | case2 => rfl
  | case3 run next ls h ih =>
      rw [List.map_cons, hnil, capLines_empty_of_lt h (by simp), ih, List.map_cons, hnil]
  | case4 run next ls h ih =>
      rw [List.map_cons, hnil, capLines_empty_of_not_lt h (by simp), ih]
  | case5 run l next ls hl ih =>
      have hfl : f l ≠ [] := fun h => hl ((hf l).mp h)
      rw [List.map_cons, capLines_cons_of_ne hfl (by simp), ih, List.map_cons]

/-- A line that is not empty ends the run of newlines in front of it. -/
theorem capNewlinesAfter_line (hl : '\n' ∉ l) (h : l ≠ []) (run : Nat) (t : Text) :
    capNewlinesAfter run (l ++ t) = l ++ capNewlinesAfter 0 t := by
  induction l generalizing run with
  | nil => exact absurd rfl h
  | cons c l ih =>
      have hc : c ≠ '\n' := fun h0 => hl (h0 ▸ List.mem_cons_self)
      rw [List.cons_append, capNewlinesAfter, if_neg hc, List.cons_append]
      by_cases h0 : l = []
      · subst h0
        rfl
      · rw [ih (fun hm => hl (List.mem_cons_of_mem c hm)) h0 0]

/-- Cutting runs of newlines drops lines. -/
theorem capNewlinesAfter_unlines (hl : ∀ l ∈ ls, '\n' ∉ l) (run : Nat) :
    capNewlinesAfter run (unlines ls) = unlines (capLines run ls) := by
  have hcap : ∀ {l : Line} (ls' : List Line) (k : Nat), ls' ≠ [] →
      unlines (l :: capLines k ls') = l ++ '\n' :: unlines (capLines k ls') := by
    intro l ls' k h
    exact unlines_cons _ (capLines_ne_nil k h)
  fun_induction capLines run ls with
  | case1 => rfl
  | case2 run l =>
      rw [unlines_singleton]
      by_cases h : l = []
      · rw [h]
        rfl
      · have := capNewlinesAfter_line (hl l List.mem_cons_self) h run []
        simpa [capNewlinesAfter] using this
  | case3 run next ls h ih =>
      rw [unlines_cons _ (List.cons_ne_nil _ _), List.nil_append, capNewlinesAfter, if_pos rfl,
        if_pos h, ih fun l hm => hl l (List.mem_cons_of_mem _ hm),
        hcap _ _ (List.cons_ne_nil _ _), List.nil_append]
  | case4 run next ls h ih =>
      -- the newline that is cut is the one that closes the empty line
      rw [unlines_cons _ (List.cons_ne_nil _ _), List.nil_append, capNewlinesAfter, if_pos rfl,
        if_neg h, ih fun l hm => hl l (List.mem_cons_of_mem _ hm)]
  | case5 run l next ls h ih =>
      rw [unlines_cons _ (List.cons_ne_nil _ _), capNewlinesAfter_line (hl l List.mem_cons_self) h,
        capNewlinesAfter, if_pos rfl, if_pos Nat.two_pos,
        ih fun l hm => hl l (List.mem_cons_of_mem _ hm), hcap _ _ (List.cons_ne_nil _ _)]

/-! ## Closed lines -/

theorem trimClosed_ne_nil (h : ls ≠ []) : trimClosed ls ≠ [] := by
  fun_cases trimClosed ls with
  | case1 => exact absurd rfl h
  | case2 => exact List.cons_ne_nil _ _
  | case3 => exact List.cons_ne_nil _ _

/-- A line is trimmed or left alone. -/
theorem forall₂_trimClosed (ls : List Line) :
    List.Forall₂ (fun l' l => l' = l ∨ l' = Line.trimPadding l) (trimClosed ls) ls := by
  fun_induction trimClosed ls with
  | case1 => exact List.Forall₂.nil
  | case2 l => exact List.Forall₂.cons (Or.inl rfl) List.Forall₂.nil
  | case3 l next ls ih => exact List.Forall₂.cons (Or.inr rfl) ih

theorem mem_trimClosed (h : l ∈ trimClosed ls) :
    ∃ l' ∈ ls, l = l' ∨ l = Line.trimPadding l' := by
  fun_induction trimClosed ls with
  | case1 => simp at h
  | case2 l₀ => exact ⟨l, h, Or.inl rfl⟩
  | case3 l₀ next ls ih =>
      rcases List.mem_cons.mp h with rfl | h
      · exact ⟨l₀, List.mem_cons_self, Or.inr rfl⟩
      · obtain ⟨l', hl', heq⟩ := ih h
        exact ⟨l', List.mem_cons_of_mem l₀ hl', heq⟩

/-- Lines whose closed ones are trimmed stay as they are. -/
theorem trimClosed_eq_self (h : ∀ l ∈ ls.dropLast, Line.trimPadding l = l) :
    trimClosed ls = ls := by
  fun_induction trimClosed ls with
  | case1 => rfl
  | case2 => rfl
  | case3 l next ls ih =>
      rw [List.dropLast_cons_of_ne_nil (List.cons_ne_nil _ _)] at h
      rw [h l List.mem_cons_self, ih fun l' hl' => h l' (List.mem_cons_of_mem _ hl')]

/-- Every line but the last is trimmed. -/
theorem trimClosed_concat (ls : List Line) (l : Line) :
    trimClosed (ls ++ [l]) = ls.map Line.trimPadding ++ [l] := by
  induction ls with
  | nil => rfl
  | cons l' ls ih =>
      have hne : ls ++ [l] ≠ [] := List.append_ne_nil_of_right_ne_nil ls (List.cons_ne_nil l [])
      obtain ⟨next, more, hmore⟩ := List.exists_cons_of_ne_nil hne
      rw [List.cons_append, hmore, trimClosed, ← hmore, ih]
      rfl

theorem dropLast_trimClosed (ls : List Line) :
    (trimClosed ls).dropLast = ls.dropLast.map Line.trimPadding := by
  rcases List.eq_nil_or_concat' ls with rfl | ⟨ls, l, rfl⟩
  · rfl
  · rw [trimClosed_concat, List.dropLast_concat, List.dropLast_concat]

theorem getLast?_trimClosed (ls : List Line) : (trimClosed ls).getLast? = ls.getLast? := by
  rcases List.eq_nil_or_concat' ls with rfl | ⟨ls, l, rfl⟩
  · rfl
  · rw [trimClosed_concat, List.getLast?_concat, List.getLast?_concat]

theorem trimPadding_of_mem_trimClosed (h : l ∈ (trimClosed ls).dropLast) :
    Line.trimPadding l = l := by
  rw [dropLast_trimClosed] at h
  obtain ⟨l', -, rfl⟩ := List.mem_map.mp h
  exact List.rdropWhile_idempotent isPadding l'

/-! ## All of it -/

/-- The lines of a text in normal layout, from the lines of the text. -/
def normalLines (ls : List Line) : List Line :=
  (capLines 0 (trimClosed ls)).map Line.indentWithSpaces

theorem mem_normalLines (h : l ∈ normalLines ls) :
    ∃ l' ∈ ls, l = Line.indentWithSpaces l' ∨ l = Line.indentWithSpaces (Line.trimPadding l') := by
  obtain ⟨l₁, h₁, rfl⟩ := List.mem_map.mp h
  obtain ⟨l', hl', heq | heq⟩ := mem_trimClosed ((capLines_sublist 0 _).subset h₁)
  · exact ⟨l', hl', Or.inl (congrArg Line.indentWithSpaces heq)⟩
  · exact ⟨l', hl', Or.inr (congrArg Line.indentWithSpaces heq)⟩

theorem lines_normalize (t : Text) : lines (normalize t) = normalLines (lines t) := by
  have ht : ∀ l ∈ trimClosed (lines t), '\n' ∉ l := by
    intro l hl
    obtain ⟨l', hl', rfl | rfl⟩ := mem_trimClosed hl
    · exact not_mem_of_mem_lines hl'
    · exact fun hm => not_mem_of_mem_lines hl' ((Line.trimPadding_isPrefix l').subset hm)
  have hc : lines (capNewlines (unlines (trimClosed (lines t))))
      = capLines 0 (trimClosed (lines t)) := by
    rw [capNewlines, capNewlinesAfter_unlines ht]
    refine lines_unlines (fun l hl => ht l ((capLines_sublist 0 _).subset hl)) ?_
    exact capLines_ne_nil 0 (trimClosed_ne_nil (lines_ne_nil t))
  rw [normalize, lines_onLines fun l hl => Line.not_mem_indentWithSpaces (not_mem_of_mem_lines hl),
    hc]
  rfl

/-- A line of a text in normal layout comes from one line of the text. -/
theorem mem_lines_normalize (h : l ∈ lines (normalize t)) :
    ∃ l' ∈ lines t,
      l = Line.indentWithSpaces l' ∨ l = Line.indentWithSpaces (Line.trimPadding l') :=
  mem_normalLines (lines_normalize t ▸ h)

theorem trimPadding_of_mem_normalLines (h : l ∈ (normalLines ls).dropLast) :
    Line.trimPadding l = l := by
  rw [normalLines, ← List.map_dropLast] at h
  obtain ⟨l', hl', rfl⟩ := List.mem_map.mp h
  have hmem : l' ∈ (trimClosed ls).dropLast := (dropLast_capLines_sublist 0 _).subset hl'
  exact Line.trimPadding_indentWithSpaces (trimPadding_of_mem_trimClosed hmem)

theorem capLines_normalLines (ls : List Line) : capLines 0 (normalLines ls) = normalLines ls := by
  rw [normalLines, capLines_map (fun _ => Line.indentWithSpaces_eq_nil_iff), capLines_capLines]

theorem indentWithSpaces_of_mem_normalLines (h : l ∈ normalLines ls) :
    Line.indentWithSpaces l = l := by
  obtain ⟨l', -, rfl⟩ := List.mem_map.mp h
  exact Line.indentWithSpaces_indentWithSpaces l'

theorem normalLines_normalLines (ls : List Line) :
    normalLines (normalLines ls) = normalLines ls := by
  have htrim : trimClosed (normalLines ls) = normalLines ls :=
    trimClosed_eq_self fun _ hl => trimPadding_of_mem_normalLines hl
  conv_lhs => rw [normalLines, htrim, capLines_normalLines]
  refine (List.map_congr_left fun l hl => ?_).trans (List.map_id _)
  exact indentWithSpaces_of_mem_normalLines hl

/-- A text in normal layout stays as it is. -/
theorem normalize_normalize (t : Text) : normalize (normalize t) = normalize t := by
  rw [← unlines_lines (normalize (normalize t)), lines_normalize, lines_normalize,
    normalLines_normalLines, ← lines_normalize, unlines_lines]

end BareCode.Text
