import BareCode.Proofs.Text.NormalLines
/-! # Layout of lines — which texts have the same normal layout

    Normal layout trims a line and indents it with spaces (`Line.normal`), and it cuts
    runs of empty lines.  Both parts can be undone before layout without being noticed:

    * a line may be laid out beforehand, or not at all (`normalLines_eq_capLines_map`,
      `map_normal_trimClosed`);
    * of two empty lines in a row, behind some line, one may go
      (`capLines_append_two_empty`), and runs may be cut before lines are laid out as
      well as behind (`capLines_map_capLines`).

    `capLines_induction` turns the cut of all runs into steps that drop one empty line. -/

namespace BareCode

namespace Line

variable {l s : Line}

/-! ## A single line -/

/-- A line in normal layout: without padding at its end and indented with spaces. -/
def normal (l : Line) : Line := indentWithSpaces (trimPadding l)

@[simp] theorem normal_nil : normal [] = [] := rfl

theorem exists_padding_trimPadding (l : Line) :
    ∃ b : Text, (∀ c ∈ b, isPadding c = true) ∧ l = trimPadding l ++ b :=
  ⟨l.rtakeWhile isPadding, fun _ hc => List.mem_rtakeWhile_imp hc,
    List.rdropWhile_append_rtakeWhile.symm⟩

/-- What does not depend on the padding around a line does not depend on its layout. -/
theorem normal_congr {α : Type} {f : Line → α}
    (hf : ∀ b b' : Text, (∀ c ∈ b, isPadding c = true) → (∀ c ∈ b', isPadding c = true) →
      ∀ x, f (b ++ (x ++ b')) = f x) (l : Line) : f (normal l) = f l := by
  obtain ⟨b', hb', hl⟩ := exists_padding_trimPadding l
  obtain ⟨b, hb, hfront⟩ := exists_padding_dropWhile (trimPadding l)
  have hnone : ∀ c ∈ ([] : Text), isPadding c = true := fun c hc => nomatch hc
  have hnormal := hf (List.replicate (indentation (trimPadding l)) ' ') []
    (fun _ => isPadding_of_mem_spaces) hnone ((trimPadding l).dropWhile isPadding)
  rw [List.append_nil] at hnormal
  conv_rhs => rw [hl, hfront, List.append_assoc, hf b b' hb hb']
  exact hnormal

/-! ## What stands behind the body of a line -/

theorem dropWhile_append_of_body {c : Char} (hc : c ∈ l) (h : isPadding c = false) (s : Text) :
    (l ++ s).dropWhile isPadding = l.dropWhile isPadding ++ s := by
  have hne : (l.dropWhile isPadding).isEmpty = false := by
    rw [List.isEmpty_eq_false_iff]
    intro h0
    rw [List.dropWhile_eq_nil_iff.mp h0 c hc] at h
    exact Bool.noConfusion h
  rw [List.dropWhile_append, hne]
  rfl

theorem indentation_append_of_body {c : Char} (hc : c ∈ l) (h : isPadding c = false) (s : Text) :
    indentation (l ++ s) = indentation l := by
  induction l with
  | nil => exact nomatch hc
  | cons d l ih =>
      rw [List.cons_append, indentation, indentation]
      by_cases hd : isPadding d = true
      · have hcl : c ∈ l := by
          rcases List.mem_cons.mp hc with rfl | hcl
          · rw [hd] at h
            exact Bool.noConfusion h
          · exact hcl
        rw [if_pos hd, if_pos hd, ih hcl]
      · rw [if_neg hd, if_neg hd]

/-- Padding at the end goes whether it comes before or after the indentation. -/
theorem trimPadding_append_padding (hs : ∀ c ∈ s, isPadding c = true) (l : Line) :
    trimPadding (l ++ s) = trimPadding l := by
  rw [trimPadding, Text.dropEndWhile, List.reverse_append,
    List.dropWhile_append_of_pos fun c hc => hs c (List.mem_reverse.mp hc)]
  rfl

/-- A line has a body, or all of it is padding and goes. -/
theorem trimPadding_eq_nil_or_body (l : Line) :
    (∃ c ∈ trimPadding l, isPadding c = false) ∨
      trimPadding l = [] ∧ ∀ c ∈ l, isPadding c = true := by
  by_cases h : trimPadding l = []
  · exact Or.inr ⟨h, List.rdropWhile_eq_nil_iff.mp h⟩
  · refine Or.inl ⟨_, List.getLast_mem h, Bool.eq_false_iff.mpr ?_⟩
    exact List.rdropWhile_last_not isPadding l h

theorem indentation_normal {c : Char} (hc : c ∈ l) (h : isPadding c = false) :
    indentation (normal l) = indentation l := by
  rw [normal, indentation_indentWithSpaces]
  obtain ⟨b, hb, hl⟩ := exists_padding_trimPadding l
  rcases trimPadding_eq_nil_or_body l with ⟨d, hd, hbody⟩ | ⟨-, hpad⟩
  · conv_rhs => rw [hl, indentation_append_of_body hd hbody]
  · rw [hpad c hc] at h
    exact Bool.noConfusion h

/-- The indentation may be written as spaces before the line is laid out. -/
theorem normal_indentWithSpaces (l : Line) : normal (indentWithSpaces l) = normal l := by
  obtain ⟨b, hb, hl⟩ := exists_padding_trimPadding l
  have hidem : trimPadding (trimPadding l) = trimPadding l := List.rdropWhile_idempotent isPadding l
  rcases trimPadding_eq_nil_or_body l with ⟨c, hc, hbody⟩ | ⟨hnil, hpad⟩
  · have hsplit : indentWithSpaces l = indentWithSpaces (trimPadding l) ++ b := by
      conv_lhs => rw [hl, indentWithSpaces, indentation_append_of_body hc hbody,
        dropWhile_append_of_body hc hbody, ← List.append_assoc]
      rfl
    rw [normal, hsplit, trimPadding_append_padding hb, trimPadding_indentWithSpaces hidem,
      indentWithSpaces_indentWithSpaces]
    rfl
  · have hall : ∀ c ∈ indentWithSpaces l, isPadding c = true := by
      intro c hc
      rcases List.mem_append.mp hc with hc | hc
      · exact isPadding_of_mem_spaces hc
      · exact hpad c ((List.dropWhile_suffix _).subset hc)
    have hgone : trimPadding (indentWithSpaces l) = [] := List.rdropWhile_eq_nil_iff.mpr hall
    rw [normal, normal, hgone, hnil]

theorem normal_trimPadding (l : Line) : normal (trimPadding l) = normal l :=
  congrArg indentWithSpaces (List.rdropWhile_idempotent isPadding l)

end Line

namespace Text

variable {ls p q : List Line} {run run' : Nat} {f : Line → Line}

/-! ## Lines laid out before or after -/

/-- Runs may be cut when the lines are laid out. -/
theorem normalLines_eq_capLines_map (ls : List Line) :
    normalLines ls = capLines 0 ((trimClosed ls).map Line.indentWithSpaces) :=
  (capLines_map (fun _ => Line.indentWithSpaces_eq_nil_iff) 0 _).symm

theorem map_normal_trimClosed (ls : List Line) :
    ((trimClosed ls).map Line.indentWithSpaces).map Line.normal = ls.map Line.normal := by
  rw [List.map_map]
  fun_induction trimClosed ls with
  | case1 => rfl
  | case2 l => exact congrArg (· :: []) (Line.normal_indentWithSpaces l)
  | case3 l next ls ih =>
      rw [List.map_cons, List.map_cons, ih, Function.comp, Line.normal_indentWithSpaces,
        Line.normal_trimPadding]

/-- Lines that end with an empty one are laid out one by one. -/
theorem normalLines_concat_empty (ls : List Line) :
    normalLines (ls ++ [[]]) = capLines 0 ((ls ++ [[]]).map Line.normal) := by
  rw [normalLines_eq_capLines_map, trimClosed_concat, List.map_append, List.map_append,
    List.map_map]
  rfl

/-! ## Empty lines that go -/

/-- Where runs are cut with more newlines in front, they may be cut beforehand with
    fewer. -/
theorem capLines_map_capLines (hf : f [] = []) (h : run ≤ run') (ls : List Line) :
    capLines run' ((capLines run ls).map f) = capLines run' (ls.map f) := by
  have hne : ∀ {run : Nat} {ls : List Line}, ls ≠ [] → (capLines run ls).map f ≠ [] := by
    intro run ls hls
    simpa using capLines_ne_nil run hls
  fun_induction capLines run ls generalizing run' with
  | case1 => rfl
  | case2 => rfl
  | case3 run next ls _ ih =>
      rw [List.map_cons, List.map_cons, hf]
      by_cases hrun : run' < 2
      · rw [capLines_empty_of_lt hrun (hne (by simp)), capLines_empty_of_lt hrun (by simp),
          ih (by omega)]
      · rw [capLines_empty_of_not_lt hrun (hne (by simp)), capLines_empty_of_not_lt hrun (by simp),
          ih (by omega)]
  | case4 run next ls hrun ih =>
      conv_rhs => rw [List.map_cons, hf, capLines_empty_of_not_lt (by omega) (by simp)]
      exact ih h
  | case5 run l next ls hl ih =>
      rw [List.map_cons, List.map_cons]
      by_cases hfl : f l = []
      · -- a line that becomes empty counts only now
        rw [hfl]
        by_cases hrun : run' < 2
        · rw [capLines_empty_of_lt hrun (hne (by simp)), capLines_empty_of_lt hrun (by simp),
            ih (by omega)]
        · rw [capLines_empty_of_not_lt hrun (hne (by simp)),
            capLines_empty_of_not_lt hrun (by simp), ih (by omega)]
      · rw [capLines_cons_of_ne hfl (hne (by simp)), capLines_cons_of_ne hfl (by simp),
          ih (Nat.le_refl 1)]

/-- Behind a line, or behind a newline, one of two empty lines goes. -/
theorem capLines_append_two_empty (hp : p ≠ [] ∨ 0 < run) (hq : q ≠ []) :
    capLines run (p ++ [] :: [] :: q) = capLines run (p ++ [] :: q) := by
  induction p generalizing run with
  | nil =>
      have hrun : 0 < run := hp.resolve_left fun h => h rfl
      by_cases h : run < 2
      · rw [List.nil_append, List.nil_append, capLines_empty_of_lt h (by simp),
          capLines_empty_of_not_lt (by omega) hq, capLines_empty_of_lt h hq]
      · rw [List.nil_append, List.nil_append, capLines_empty_of_not_lt h (by simp)]
  | cons l p ih =>
      rw [List.cons_append, List.cons_append]
      by_cases hl : l = []
      · by_cases h : run < 2
        · rw [hl, capLines_empty_of_lt h (by simp), capLines_empty_of_lt h (by simp),
            ih (Or.inr (Nat.succ_pos run))]
        · rw [hl, capLines_empty_of_not_lt h (by simp), capLines_empty_of_not_lt h (by simp),
            ih (Or.inr (by omega))]
      · rw [capLines_cons_of_ne hl (by simp), capLines_cons_of_ne hl (by simp),
          ih (Or.inr Nat.one_pos)]

/-- What stays the same when one of two empty lines in a row goes stays the same when
    all runs are cut. -/
theorem capLines_induction {α : Type} {F : List Line → α} {n : Nat}
    (hstep : ∀ p q, q ≠ [] → (p ++ [] :: [] :: q).length ≤ n →
      F (p ++ [] :: [] :: q) = F (p ++ [] :: q))
    (p : List Line) (run : Nat) (hrun : run < 2 ∨ ∃ p', p = p' ++ [[]]) (ls : List Line)
    (hlen : (p ++ ls).length ≤ n) : F (p ++ capLines run ls) = F (p ++ ls) := by
  fun_induction capLines run ls generalizing p with
  | case1 => rfl
  | case2 => rfl
  | case3 run next ls _ ih =>
      have := ih (p ++ [[]]) (Or.inr ⟨p, rfl⟩) (by simpa using hlen)
      simpa using this
  | case4 run next ls h ih =>
      obtain ⟨p', rfl⟩ := hrun.resolve_left h
      rw [List.append_assoc] at hlen
      have hdrop := hstep p' (next :: ls) (List.cons_ne_nil _ _) hlen
      have hlen' : (p' ++ [[]] ++ next :: ls).length ≤ n := by
        simp only [List.length_append, List.length_cons] at hlen ⊢
        omega
      rw [ih (p' ++ [[]]) (Or.inr ⟨p', rfl⟩) hlen', List.append_assoc, List.append_assoc]
      exact hdrop.symm
  | case5 run l next ls _ ih =>
      have := ih (p ++ [l]) (Or.inl (by omega)) (by simpa using hlen)
      simpa using this

end Text

end BareCode
