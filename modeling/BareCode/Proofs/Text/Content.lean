import BareCode.Proofs.Text.LineLayout
/-! # Content — what stays of a text in normal layout

    A line has a body if anything but padding stands in it.  Lines with a body are never
    dropped, their indentation keeps its width and their bodies lose no more than the
    padding at the end of a closed line (`filter_dropLast_normalLines`,
    `getLast?_normalLines`).

    What lies between them are newlines, counted in `gaps`: no pass changes which lines
    have a body, and cutting runs leaves at most two newlines of every gap
    (`gaps_normalLines`). -/

namespace BareCode

namespace Line

variable {l : Line}

/-- Whether anything but padding stands in a line. -/
def hasBody (l : Line) : Bool := l.any (!isPadding ·)

theorem hasBody_eq_false_iff : hasBody l = false ↔ ∀ c ∈ l, isPadding c = true := by
  simp [hasBody]

theorem hasBody_iff : hasBody l = true ↔ ∃ c ∈ l, isPadding c = false := by
  simp [hasBody]

theorem hasBody_of_not_allBlank (h : Text.allBlank l = false) : hasBody l = true := by
  by_contra hpad
  rw [Text.allBlank_of_isPadding (hasBody_eq_false_iff.mp (Bool.eq_false_iff.mpr hpad))] at h
  exact Bool.noConfusion h

theorem hasBody_append (l s : Line) : hasBody (l ++ s) = (hasBody l || hasBody s) :=
  List.any_append

/-- Padding at the end of a line is not its body. -/
theorem hasBody_trimPadding (l : Line) : hasBody (trimPadding l) = hasBody l := by
  obtain ⟨b, hb, hl⟩ := exists_padding_trimPadding l
  conv_rhs => rw [hl, hasBody_append, hasBody_eq_false_iff.mpr hb, Bool.or_false]

/-- Nor is padding in front. -/
theorem hasBody_dropWhile (l : Line) : hasBody (l.dropWhile isPadding) = hasBody l := by
  obtain ⟨b, hb, hl⟩ := exists_padding_dropWhile l
  conv_rhs => rw [hl, hasBody_append, hasBody_eq_false_iff.mpr hb, Bool.false_or]

theorem hasBody_indentWithSpaces (l : Line) : hasBody (indentWithSpaces l) = hasBody l := by
  rw [← hasBody_dropWhile, dropWhile_indentWithSpaces, hasBody_dropWhile]

/-- The body of a line is trimmed with the line. -/
theorem dropWhile_trimPadding (l : Line) :
    (trimPadding l).dropWhile isPadding = trimPadding (l.dropWhile isPadding) := by
  rcases trimPadding_eq_nil_or_body l with ⟨c, hc, hbody⟩ | ⟨hnil, hpad⟩
  · obtain ⟨b, hb, hl⟩ := exists_padding_trimPadding l
    conv_rhs => rw [hl, dropWhile_append_of_body hc hbody, trimPadding_append_padding hb]
    have hidem : trimPadding (trimPadding l) = trimPadding l :=
      List.rdropWhile_idempotent isPadding l
    exact (trimPadding_of_isSuffix hidem (List.dropWhile_suffix _)).symm
  · rw [hnil, List.dropWhile_eq_nil_iff.mpr hpad]
    rfl

/-- A line in normal layout has the body of the line, trimmed. -/
theorem dropWhile_normal (l : Line) :
    (normal l).dropWhile isPadding = trimPadding (l.dropWhile isPadding) := by
  rw [normal, dropWhile_indentWithSpaces, dropWhile_trimPadding]

end Line

namespace Text

variable {l : Line} {ls ls' : List Line} {k : Nat}

/-! ## The lines with a body -/

/-- Only empty lines go. -/
theorem filter_capLines {p : Line → Bool} (hp : p [] = false) (run : Nat) (ls : List Line) :
    (capLines run ls).filter p = ls.filter p := by
  have hempty : ∀ ls : List Line, ([] :: ls).filter p = ls.filter p := by
    intro ls
    exact List.filter_cons_of_neg (Bool.eq_false_iff.mp hp)
  fun_induction capLines run ls with
  | case1 => rfl
  | case2 => rfl
  | case3 run next ls h ih => rw [hempty, hempty, ih]
  | case4 run next ls h ih => rw [hempty, ih]
  | case5 run l next ls hl ih => rw [List.filter_cons, List.filter_cons, ih]

theorem filter_dropLast_capLines {p : Line → Bool} (hp : p [] = false) (run : Nat)
    (ls : List Line) : (capLines run ls).dropLast.filter p = ls.dropLast.filter p := by
  rcases List.eq_nil_or_concat' ls with rfl | ⟨ls, l, rfl⟩
  · rfl
  · obtain ⟨ls', h⟩ := capLines_concat run ls l
    have hall := filter_capLines hp run (ls ++ [l])
    rw [h, List.filter_append, List.filter_append] at hall
    rw [h, List.dropLast_concat, List.dropLast_concat]
    exact List.append_cancel_right hall

/-- The closed lines with a body are laid out one by one, and none of them goes. -/
theorem filter_dropLast_normalLines (ls : List Line) :
    (normalLines ls).dropLast.filter Line.hasBody
      = (ls.dropLast.filter Line.hasBody).map Line.normal := by
  have hindent : Line.hasBody ∘ Line.indentWithSpaces = Line.hasBody :=
    funext Line.hasBody_indentWithSpaces
  have htrim : Line.hasBody ∘ Line.trimPadding = Line.hasBody := funext Line.hasBody_trimPadding
  rw [normalLines, ← List.map_dropLast, List.filter_map, hindent, filter_dropLast_capLines rfl,
    dropLast_trimClosed, List.filter_map, htrim, List.map_map]
  rfl

/-- The last line of a text, the one that no newline closes. -/
def lastLine (t : Text) : Line := (lines t).getLast (lines_ne_nil t)

/-- The last line is indented with spaces and nothing else happens to it. -/
theorem lastLine_normalize (t : Text) :
    lastLine (normalize t) = Line.indentWithSpaces (lastLine t) := by
  have hlast : (lines (normalize t)).getLast? = (lines t).getLast?.map Line.indentWithSpaces := by
    rw [lines_normalize, normalLines, List.getLast?_map, getLast?_capLines, getLast?_trimClosed]
  rw [List.getLast?_eq_some_getLast (lines_ne_nil _),
    List.getLast?_eq_some_getLast (lines_ne_nil t), Option.map_some, Option.some_inj] at hlast
  exact hlast

/-- A text with a body has one in normal layout. -/
theorem exists_hasBody_normalize {t : Text} (hl : l ∈ lines t) (hb : l.hasBody = true) :
    ∃ l' ∈ lines (normalize t), l'.hasBody = true := by
  rw [← List.dropLast_append_getLast (lines_ne_nil t)] at hl
  rcases List.mem_append.mp hl with hl | hl
  · have hmem : Line.normal l ∈ (normalLines (lines t)).dropLast.filter Line.hasBody := by
      rw [filter_dropLast_normalLines]
      exact List.mem_map_of_mem (List.mem_filter.mpr ⟨hl, hb⟩)
    obtain ⟨hmem, hbody⟩ := List.mem_filter.mp hmem
    rw [← lines_normalize] at hmem
    exact ⟨_, List.dropLast_subset _ hmem, hbody⟩
  · obtain rfl : l = lastLine t := List.mem_singleton.mp hl
    refine ⟨lastLine (normalize t), List.getLast_mem _, ?_⟩
    rw [lastLine_normalize, Line.hasBody_indentWithSpaces]
    exact hb

/-! ## The newlines between them -/

/-- The newlines in front of the first line with a body, between any two of these lines in
    a row and behind the last, where `k` newlines stand in front. -/
def gapsAfter (k : Nat) : List Line → List Nat
  | [] => [k]
  | [l] => if l.hasBody then [k, 0] else [k]
  | l :: next :: ls =>
      if l.hasBody then k :: gapsAfter 1 (next :: ls) else gapsAfter (k + 1) (next :: ls)

/-- The newlines around the lines with a body, gap by gap. -/
def gaps (ls : List Line) : List Nat := gapsAfter 0 ls

theorem gapsAfter_cons_of_body (hl : l.hasBody = true) (hls : ls ≠ []) :
    gapsAfter k (l :: ls) = k :: gapsAfter 1 ls := by
  obtain ⟨next, ls, rfl⟩ := List.exists_cons_of_ne_nil hls
  rw [gapsAfter, if_pos hl]

theorem gapsAfter_cons_of_not_body (hl : l.hasBody = false) (hls : ls ≠ []) :
    gapsAfter k (l :: ls) = gapsAfter (k + 1) ls := by
  obtain ⟨next, ls, rfl⟩ := List.exists_cons_of_ne_nil hls
  rw [gapsAfter, hl, if_neg Bool.false_ne_true]

/-- Gaps depend only on which lines have a body. -/
theorem gapsAfter_congr (h : List.Forall₂ (fun l' l => l'.hasBody = l.hasBody) ls' ls) (k : Nat) :
    gapsAfter k ls' = gapsAfter k ls := by
  have hne : ∀ {ls' : List Line} {next : Line} {ls : List Line},
      List.Forall₂ (fun l' l => l'.hasBody = l.hasBody) ls' (next :: ls) → ls' ≠ [] := by
    rintro _ next ls h rfl
    exact List.cons_ne_nil next ls (List.forall₂_nil_left_iff.mp h)
  fun_induction gapsAfter k ls generalizing ls' with
  | case1 k =>
      obtain rfl := List.forall₂_nil_right_iff.mp h
      rfl
  | case2 k l hl =>
      obtain ⟨l', _, hl', hnil, rfl⟩ := List.forall₂_cons_right_iff.mp h
      obtain rfl := List.forall₂_nil_right_iff.mp hnil
      rw [gapsAfter, hl', if_pos hl]
  | case3 k l hl =>
      obtain ⟨l', _, hl', hnil, rfl⟩ := List.forall₂_cons_right_iff.mp h
      obtain rfl := List.forall₂_nil_right_iff.mp hnil
      rw [gapsAfter, hl', if_neg hl]
  | case4 k l next ls hl ih =>
      obtain ⟨l', tl, hl', htl, rfl⟩ := List.forall₂_cons_right_iff.mp h
      rw [gapsAfter_cons_of_body (hl'.trans hl) (hne htl), ih htl]
  | case5 k l next ls hl ih =>
      obtain ⟨l', tl, hl', htl, rfl⟩ := List.forall₂_cons_right_iff.mp h
      rw [gapsAfter_cons_of_not_body (hl'.trans (Bool.eq_false_iff.mpr hl)) (hne htl), ih htl]

/-- Where a closed line without a body is empty, cutting runs leaves two newlines of a gap
    that has more, and every other gap as it is. -/
theorem gapsAfter_capLines (h : ∀ l ∈ ls.dropLast, l.hasBody = false → l = []) (k : Nat) :
    gapsAfter (min k 2) (capLines (min k 2) ls) = (gapsAfter k ls).map (min · 2) := by
  have hne : ∀ (run : Nat) (next : Line) (ls : List Line), capLines run (next :: ls) ≠ [] := by
    intro run next ls
    exact capLines_ne_nil run (List.cons_ne_nil next ls)
  fun_induction gapsAfter k ls with
  | case1 k => rfl
  | case2 k l hl =>
      rw [capLines, gapsAfter, if_pos hl]
      rfl
  | case3 k l hl =>
      rw [capLines, gapsAfter, if_neg hl]
      rfl
  | case4 k l next ls hl ih =>
      rw [List.dropLast_cons_of_ne_nil (List.cons_ne_nil _ _)] at h
      have hl0 : l ≠ [] := by
        rintro rfl
        exact Bool.false_ne_true hl
      rw [capLines_cons_of_ne hl0 (List.cons_ne_nil _ _),
        gapsAfter_cons_of_body hl (hne 1 next ls), List.map_cons]
      exact congrArg _ (ih fun l' hl' => h l' (List.mem_cons_of_mem l hl'))
  | case5 k l next ls hl ih =>
      rw [List.dropLast_cons_of_ne_nil (List.cons_ne_nil _ _)] at h
      obtain rfl := h l List.mem_cons_self (Bool.eq_false_iff.mpr hl)
      rw [← ih fun l' hl' => h l' (List.mem_cons_of_mem [] hl')]
      by_cases hk : k < 2
      · have hmin : min k 2 + 1 = min (k + 1) 2 := by omega
        rw [capLines_empty_of_lt (by omega) (List.cons_ne_nil _ _), hmin,
          gapsAfter_cons_of_not_body rfl (hne _ next ls), hmin]
      · have hmin : min k 2 = min (k + 1) 2 := by omega
        rw [capLines_empty_of_not_lt (by omega) (List.cons_ne_nil _ _), hmin]

/-- In normal layout a gap has the newlines it had, though no more than two. -/
theorem gaps_normalLines (ls : List Line) : gaps (normalLines ls) = (gaps ls).map (min · 2) := by
  have hindent : List.Forall₂ (fun l' l => l'.hasBody = l.hasBody) (normalLines ls)
      (capLines 0 (trimClosed ls)) := by
    rw [normalLines, List.forall₂_map_left_iff]
    exact List.forall₂_same.mpr fun l _ => Line.hasBody_indentWithSpaces l
  have htrim : List.Forall₂ (fun l' l => l'.hasBody = l.hasBody) (trimClosed ls) ls := by
    refine (forall₂_trimClosed ls).imp ?_
    rintro l' l (rfl | rfl)
    · rfl
    · exact Line.hasBody_trimPadding l
  have hempty : ∀ l ∈ (trimClosed ls).dropLast, l.hasBody = false → l = [] := by
    intro l hl hbody
    rw [← trimPadding_of_mem_trimClosed hl]
    exact List.rdropWhile_eq_nil_iff.mpr (Line.hasBody_eq_false_iff.mp hbody)
  have hcap := gapsAfter_capLines hempty 0
  rw [Nat.zero_min] at hcap
  rw [gaps, gapsAfter_congr hindent, hcap, gapsAfter_congr htrim, gaps]

example : gaps (lines "\n\n\na\n\t\n\nb\n".toList) = [3, 3, 1] ∧
    gaps (normalLines (lines "\n\n\na\n\t\n\nb\n".toList)) = [2, 2, 1] := by decide

end Text

end BareCode
