import BareCode.Text.Blank
import BareCode.Text.Layout
import Mathlib.Data.List.DropRight
/-! # Trimming — blanks and padding at either end of a line

    Trimming at the end leaves a front part of the line, trimming at the start a back
    part, and the two do not get in each other's way: a front part of a line still is
    one when both are trimmed at the start (`trimStart_isPrefix`).  Padding is blank, so
    nothing that trimming blanks shows depends on how a line is indented
    (`trimStart_indentWithSpaces`). -/

namespace BareCode

theorem isBlank_of_isPadding {c : Char} (h : isPadding c = true) : isBlank c = true := by
  rw [isPadding, Bool.or_eq_true, decide_eq_true_eq, decide_eq_true_eq] at h
  rcases h with rfl | rfl <;> rfl

theorem isPadding_eq_false {c : Char} (h : isBlank c = false) : isPadding c = false := by
  refine Bool.eq_false_iff.mpr fun hp => ?_
  rw [isBlank_of_isPadding hp] at h
  exact Bool.noConfusion h

theorem isPadding_of_mem_spaces {c : Char} {n : Nat} (h : c ∈ List.replicate n ' ') :
    isPadding c = true :=
  List.eq_of_mem_replicate h ▸ rfl

namespace Text

variable {t s b b' : Text}

theorem dropEndWhile_isPrefix (p : Char → Bool) (t : Text) : dropEndWhile p t <+: t :=
  List.rdropWhile_prefix p t

theorem trimEnd_isPrefix (t : Text) : trimEnd t <+: t :=
  dropEndWhile_isPrefix isBlank t

/-- Trimming at the end is trimming at the start of the text read backwards. -/
theorem trimEnd_eq (t : Text) : trimEnd t = (trimStart t.reverse).reverse := rfl

theorem allBlank_reverse (t : Text) : allBlank t.reverse = allBlank t :=
  List.all_reverse

theorem allBlank_of_isPadding (h : ∀ c ∈ b, isPadding c = true) : allBlank b = true :=
  List.all_eq_true.mpr fun c hc => isBlank_of_isPadding (h c hc)

theorem trimStart_append_of_allBlank (h : allBlank b = true) (t : Text) :
    trimStart (b ++ t) = trimStart t :=
  List.dropWhile_append_of_pos (List.all_eq_true.mp h)

/-- A blank text is trimmed to nothing, and only a blank text is. -/
theorem trimStart_eq_nil_iff : trimStart t = [] ↔ allBlank t = true := by
  rw [trimStart, List.dropWhile_eq_nil_iff, allBlank, List.all_eq_true]

theorem trimStart_ne_nil (h : allBlank t = false) : trimStart t ≠ [] := by
  rw [Ne, trimStart_eq_nil_iff, h]
  exact Bool.false_ne_true

/-- A text is some blanks and what trimming leaves. -/
theorem exists_blanks_trimStart (t : Text) : ∃ b, allBlank b = true ∧ t = b ++ trimStart t :=
  ⟨t.takeWhile isBlank, List.all_takeWhile, List.takeWhile_append_dropWhile.symm⟩

/-- A text is what trimming at the end leaves, and some blanks. -/
theorem exists_blanks_trimEnd (t : Text) : ∃ b, allBlank b = true ∧ t = trimEnd t ++ b := by
  obtain ⟨b, hb, ht⟩ := exists_blanks_trimStart t.reverse
  refine ⟨b.reverse, ?_, ?_⟩
  · rw [allBlank_reverse]
    exact hb
  · rw [trimEnd_eq, ← List.reverse_append]
    exact List.reverse_eq_iff.mp ht

/-- Only a blank text is trimmed to a blank one. -/
theorem allBlank_trimEnd (t : Text) : allBlank (trimEnd t) = allBlank t := by
  obtain ⟨b, hb, ht⟩ := exists_blanks_trimEnd t
  conv_rhs => rw [ht, allBlank, List.all_append, ← allBlank, ← allBlank, hb, Bool.and_true]

/-- A text loses nothing in front if its first character is not to go. -/
theorem dropWhile_eq_self {p : Char → Bool} (h : ∀ c ∈ t.head?, p c = false) :
    t.dropWhile p = t := by
  cases t with
  | nil => rfl
  | cons c t => exact List.dropWhile_cons_of_neg (Bool.eq_false_iff.mp (h c rfl))

theorem trimStart_eq_self (h : ∀ c ∈ t.head?, isBlank c = false) : trimStart t = t :=
  dropWhile_eq_self h

/-- A text is what trimming at both ends leaves, with blanks around it. -/
theorem exists_blanks_trim (t : Text) :
    ∃ b b', allBlank b = true ∧ allBlank b' = true ∧ t = b ++ (trim t ++ b') := by
  obtain ⟨b, hb, ht⟩ := exists_blanks_trimStart t
  obtain ⟨b', hb', ht'⟩ := exists_blanks_trimEnd (trimStart t)
  exact ⟨b, b', hb, hb', ht.trans (congrArg (b ++ ·) ht')⟩

/-- A text that is not blank keeps its blanks at the start and what is put behind it
    when it is trimmed at the start. -/
theorem trimStart_append_of_not_allBlank (h : allBlank t = false) (s : Text) :
    trimStart (t ++ s) = trimStart t ++ s := by
  have hne : (t.dropWhile isBlank).isEmpty = false :=
    List.isEmpty_eq_false_iff.mpr (trimStart_ne_nil h)
  rw [trimStart, List.dropWhile_append, hne]
  rfl

theorem trimEnd_append_of_allBlank (h : allBlank b = true) (t : Text) :
    trimEnd (t ++ b) = trimEnd t := by
  rw [← allBlank_reverse] at h
  rw [trimEnd_eq, trimEnd_eq, List.reverse_append, trimStart_append_of_allBlank h]

/-- Blanks around a text are trimmed away. -/
theorem trim_blanks (hb : allBlank b = true) (hb' : allBlank b' = true) (t : Text) :
    trim (b ++ (t ++ b')) = trim t := by
  rw [trim, trimStart_append_of_allBlank hb]
  cases ht : allBlank t with
  | true =>
      rw [trimStart_append_of_allBlank ht, trimStart_eq_nil_iff.mpr hb', trim,
        trimStart_eq_nil_iff.mpr ht]
  | false =>
      rw [trimStart_append_of_not_allBlank ht, trimEnd_append_of_allBlank hb']
      rfl

/-- A blank text is trimmed to nothing, and only a blank text is. -/
theorem trim_eq_nil_iff : trim t = [] ↔ allBlank t = true := by
  constructor
  · intro h
    obtain ⟨b, b', hb, hb', ht⟩ := exists_blanks_trim t
    rw [h, List.nil_append] at ht
    rw [ht, allBlank, List.all_append, Bool.and_eq_true]
    exact ⟨hb, hb'⟩
  · intro h
    rw [trim, trimStart_eq_nil_iff.mpr h]
    rfl

/-- Trimming at the start keeps the order of front parts. -/
theorem trimStart_isPrefix (h : s <+: t) : trimStart s <+: trimStart t := by
  obtain ⟨r, rfl⟩ := h
  cases hb : allBlank s with
  | true =>
      rw [trimStart_eq_nil_iff.mpr hb]
      exact List.nil_prefix
  | false =>
      rw [trimStart_append_of_not_allBlank hb]
      exact List.prefix_append _ r

end Text

namespace Line

variable {l : Line}

theorem exists_padding_dropWhile (l : Line) :
    ∃ pad : Text, (∀ c ∈ pad, isPadding c = true) ∧ l = pad ++ l.dropWhile isPadding :=
  ⟨l.takeWhile isPadding, List.all_eq_true.mp List.all_takeWhile,
    List.takeWhile_append_dropWhile.symm⟩

/-- A line is trimmed at the start to the same text however it is indented. -/
theorem trimStart_indentWithSpaces (l : Line) :
    Text.trimStart (indentWithSpaces l) = Text.trimStart l := by
  obtain ⟨pad, hpad, hl⟩ := exists_padding_dropWhile l
  have hs : ∀ c ∈ List.replicate (indentation l) ' ', isPadding c = true := by
    intro c hc
    exact isPadding_of_mem_spaces hc
  rw [indentWithSpaces, Text.trimStart_append_of_allBlank (Text.allBlank_of_isPadding hs)]
  conv_rhs => rw [hl]
  rw [Text.trimStart_append_of_allBlank (Text.allBlank_of_isPadding hpad)]

theorem trimPadding_isPrefix (l : Line) : trimPadding l <+: l :=
  Text.dropEndWhile_isPrefix isPadding l

theorem paddingWidth_pos (c : Char) : 0 < paddingWidth c := by
  rw [paddingWidth]
  split
  · exact Nat.two_pos
  · exact Nat.one_pos

/-- Only the empty line is indented to nothing. -/
theorem indentWithSpaces_eq_nil_iff : indentWithSpaces l = [] ↔ l = [] := by
  constructor
  · intro h
    obtain ⟨hr, hd⟩ := List.append_eq_nil_iff.mp h
    cases l with
    | nil => rfl
    | cons c l =>
        have hw : indentation (c :: l) = 0 := by simpa using hr
        have hc : isPadding c = true := List.dropWhile_eq_nil_iff.mp hd c List.mem_cons_self
        rw [indentation, if_pos hc] at hw
        have := paddingWidth_pos c
        omega
  · rintro rfl
    rfl

/-- The body of a line stands behind its indentation as it stood behind its padding. -/
theorem dropWhile_indentWithSpaces (l : Line) :
    (indentWithSpaces l).dropWhile isPadding = l.dropWhile isPadding := by
  rw [indentWithSpaces, List.dropWhile_append_of_pos fun c => isPadding_of_mem_spaces,
    List.dropWhile_idempotent]

theorem indentWithSpaces_indentWithSpaces (l : Line) :
    indentWithSpaces (indentWithSpaces l) = indentWithSpaces l := by
  conv_lhs => rw [indentWithSpaces, indentation_indentWithSpaces, dropWhile_indentWithSpaces]
  rfl

theorem not_mem_indentWithSpaces (h : '\n' ∉ l) : '\n' ∉ indentWithSpaces l := by
  rw [indentWithSpaces, List.mem_append, not_or]
  refine ⟨fun hm => ?_, fun hm => h ((List.dropWhile_suffix isPadding).subset hm)⟩
  exact absurd (List.eq_of_mem_replicate hm) (by decide)

/-- A line without padding at its end has none from any place on. -/
theorem trimPadding_of_isSuffix {s : Line} (h : trimPadding l = l) (hs : s <:+ l) :
    trimPadding s = s := by
  refine List.rdropWhile_eq_self_iff.mpr fun hne => ?_
  have hl : l ≠ [] := hs.ne_nil hne
  rw [hs.getLast hne]
  exact List.rdropWhile_eq_self_iff.mp h hl

/-- Nor has it any when it is indented with spaces. -/
theorem trimPadding_indentWithSpaces (h : trimPadding l = l) :
    trimPadding (indentWithSpaces l) = indentWithSpaces l := by
  refine List.rdropWhile_eq_self_iff.mpr fun hne => ?_
  have hbody : l.dropWhile isPadding ≠ [] := by
    intro h0
    have hl : trimPadding l = [] := List.rdropWhile_eq_nil_iff.mpr (List.dropWhile_eq_nil_iff.mp h0)
    exact hne (indentWithSpaces_eq_nil_iff.mpr (h.symm.trans hl))
  -- the line ends with its body, which is a part of a trimmed line
  have hlast : (l.dropWhile isPadding).getLast hbody = (indentWithSpaces l).getLast hne :=
    List.IsSuffix.getLast (List.suffix_append _ _) hbody
  rw [← hlast]
  exact List.rdropWhile_eq_self_iff.mp (trimPadding_of_isSuffix h (List.dropWhile_suffix _)) hbody

end Line

end BareCode
