import BareCode.Excerpt.Declaration
import BareCode.Proofs.Text.Search
import BareCode.Proofs.Text.Trim
/-! # Declarations — blanks around a line do not count

    A line is tested for five shapes, and blanks around it count for none of them, since
    no shape needs a blank and a blank ends every word and every name.  In front of a
    line they are trimmed or passed over; behind it they are met only where the shape
    is already decided.  `declares_blanks` collects the five. -/

namespace BareCode

open Text

variable {b b' t word : Text} {x : Line}

/-! ## Blanks are no part of a declaration -/

/-- What holds of every code in a table holds of the characters in its ranges. -/
theorem of_inRanges {table : List CodeRange} {P : Char → Prop} [DecidablePred P]
    (h : ∀ r ∈ table, ∀ n ∈ List.range' r.1 (r.2 + 1 - r.1), P (Char.ofNat n)) {c : Char}
    (hc : inRanges table c = true) : P c := by
  obtain ⟨r, hr, hlo, hhi⟩ := inRanges_iff.mp hc
  have := h r hr c.toNat (List.mem_range'_1.mpr (by omega))
  rwa [Char.ofNat_toNat] at this

/-- A blank neither goes on with a name nor opens an assignment or a block. -/
theorem not_isNamePart_of_isBlank {c : Char} (h : isBlank c = true) :
    isNamePart c = false ∧ c ≠ '=' ∧ c ≠ '\x7b' :=
  of_inRanges (P := fun c => isNamePart c = false ∧ c ≠ '=' ∧ c ≠ '\x7b') (by decide +kernel) h

theorem not_isWordChar_of_isBlank {c : Char} (h : isBlank c = true) : isWordChar c = false := by
  have := (not_isNamePart_of_isBlank h).1
  rw [isNamePart, Bool.or_eq_false_iff, Bool.or_eq_false_iff] at this
  exact this.1.1

theorem isBlank_of_head? {c : Char} (hb : allBlank b = true) (hc : c ∈ b.head?) :
    isBlank c = true :=
  List.all_eq_true.mp hb c (List.mem_of_mem_head? hc)

/-- Keywords hold no blank, so blanks behind a text complete none of them. -/
theorem startsWithWord_append_blanks (hw : word.any isBlank = false)
    (hb : allBlank b = true) (t : Text) : (t ++ b).startsWithWord word = t.startsWithWord word := by
  cases ht : t.dropStart? word with
  | none =>
      have hno : (t ++ b).dropStart? word = none := by
        refine dropStart?_eq_none_iff.mpr fun hp => ?_
        rcases prefix_append_cases hp with hp | ⟨c, more, rfl, hmore⟩
        · exact dropStart?_eq_none_iff.mp ht hp
        · have hc := List.all_eq_true.mp hb c (hmore.subset List.mem_cons_self)
          exact absurd hc (List.any_eq_false.mp hw c (by simp))
      rw [startsWithWord, startsWithWord, ht, hno]
  | some rest =>
      have hmore : (t ++ b).dropStart? word = some (rest ++ b) := by
        rw [dropStart?_eq_some_iff, dropStart?_eq_some_iff.mp ht, List.append_assoc]
      rw [startsWithWord, startsWithWord, ht, hmore]
      cases rest with
      | nil =>
          -- the word ends the text, and no word goes on with a blank
          have hend : b.head?.any isWordChar = false := by
            cases b with
            | nil => rfl
            | cons c b => exact not_isWordChar_of_isBlank (isBlank_of_head? hb rfl)
          simp [hend]
      | cons c rest => rfl

/-- Trimmed at the start, a text with blanks behind it has them behind it still, or else
    nothing is left with them or without. -/
theorem trimStart_append_blanks (hb : allBlank b = true) (t : Text) :
    (∃ c rest, trimStart t = c :: rest ∧ trimStart (t ++ b) = c :: (rest ++ b)) ∨
      trimStart t = [] ∧ trimStart (t ++ b) = [] := by
  cases ht : allBlank t with
  | true =>
      refine Or.inr ⟨trimStart_eq_nil_iff.mpr ht, ?_⟩
      rw [trimStart_append_of_allBlank ht]
      exact trimStart_eq_nil_iff.mpr hb
  | false =>
      obtain ⟨c, rest, h⟩ := List.exists_cons_of_ne_nil (trimStart_ne_nil ht)
      refine Or.inl ⟨c, rest, h, ?_⟩
      rw [trimStart_append_of_not_allBlank ht, h]
      rfl

/-- A word at the front of a text, blanks aside, is one whatever blanks follow. -/
theorem startsWithWord_trimStart_blanks (hw : word.any isBlank = false)
    (hb : allBlank b = true) (t : Text) :
    (trimStart (t ++ b)).startsWithWord word = (trimStart t).startsWithWord word := by
  rcases trimStart_append_blanks hb t with ⟨c, rest, h, h'⟩ | ⟨h, h'⟩
  · rw [h, h', ← List.cons_append, startsWithWord_append_blanks hw hb]
  · rw [h, h']

namespace Line

/-! ## The five shapes -/

theorem startsWithKeyword_blanks (hb : allBlank b = true) (hb' : allBlank b' = true) (x : Line) :
    startsWithKeyword (b ++ (x ++ b')) = startsWithKeyword x := by
  have hw : ∀ k ∈ keywords, k.any isBlank = false := by decide
  rw [startsWithKeyword, startsWithKeyword, trimStart_append_of_allBlank hb, Bool.eq_iff_iff,
    List.any_eq_true, List.any_eq_true]
  refine exists_congr fun k => and_congr_right fun hk => ?_
  rw [startsWithWord_trimStart_blanks (hw k hk) hb']

theorem hasArrow_blanks (hb : allBlank b = true) (hb' : allBlank b' = true) (x : Line) :
    hasArrow (b ++ (x ++ b')) = hasArrow x := by
  have hforeign : ∀ {b : Text}, allBlank b = true → ∀ c ∈ b, c ∉ "=>".toList := by
    intro b hb c hc hm
    have hno : "=>".toList.any isBlank = false := by decide
    exact List.any_eq_false.mp hno c hm (List.all_eq_true.mp hb c hc)
  have hne : "=>".toList ≠ [] := by decide
  rw [hasArrow, hasArrow, Bool.eq_iff_iff, mentions_iff, mentions_iff,
    infix_foreign_append hne (hforeign hb), infix_append_foreign hne (hforeign hb')]

theorem assignsFunction_append_of_allBlank (hb : allBlank b = true) (x : Line) :
    assignsFunction (b ++ x) = assignsFunction x := by
  induction b with
  | nil => rfl
  | cons c b ih =>
      rw [allBlank, List.all_cons, Bool.and_eq_true] at hb
      rw [List.cons_append, assignsFunction, ih hb.2,
        decide_eq_false (not_isNamePart_of_isBlank hb.1).2.1]
      rfl

theorem assignsFunction_blanks (hb : allBlank b = true) (hb' : allBlank b' = true) (x : Line) :
    assignsFunction (b ++ (x ++ b')) = assignsFunction x := by
  rw [assignsFunction_append_of_allBlank hb]
  induction x with
  | nil =>
      have := assignsFunction_append_of_allBlank hb' []
      rwa [List.append_nil] at this
  | cons c x ih =>
      rw [List.cons_append, assignsFunction, assignsFunction, ih,
        startsWithWord_trimStart_blanks (by decide) hb']

/-- The last character that is not blank is the first from behind. -/
theorem endsWithBrace_eq (x : Line) :
    endsWithBrace x = ((trimStart x.reverse).head? == some '\x7b') := by
  rw [endsWithBrace, trimEnd_eq, List.getLast?_reverse]

theorem endsWithBrace_blanks (hb : allBlank b = true) (hb' : allBlank b' = true) (x : Line) :
    endsWithBrace (b ++ (x ++ b')) = endsWithBrace x := by
  rw [← allBlank_reverse] at hb hb'
  rw [endsWithBrace_eq, endsWithBrace_eq, List.reverse_append, List.reverse_append,
    List.append_assoc, trimStart_append_of_allBlank hb']
  rcases trimStart_append_blanks hb x.reverse with ⟨c, rest, h, h'⟩ | ⟨h, h'⟩
  · rw [h, h']
    rfl
  · rw [h, h']

theorem startsWithAssign_cons (c : Char) (t : Text) :
    Text.startsWithAssign (c :: t) = (c == '=' && t.head? != some '=') := by
  rw [Text.startsWithAssign.eq_def]
  split
  · rename_i rest heq
    obtain ⟨rfl, rfl⟩ := List.cons_eq_cons.mp heq
    rfl
  · rename_i hno
    have hc : c ≠ '=' := fun h => hno t (h ▸ rfl)
    rw [beq_eq_false_iff_ne.mpr hc]
    rfl

/-- An equals sign in front of blanks is followed by none. -/
theorem startsWithAssign_trimStart_blanks (hb : allBlank b = true) (t : Text) :
    (trimStart (t ++ b)).startsWithAssign = (trimStart t).startsWithAssign := by
  rcases trimStart_append_blanks hb t with ⟨c, rest, h, h'⟩ | ⟨h, h'⟩
  · rw [h, h', startsWithAssign_cons, startsWithAssign_cons]
    cases rest with
    | cons d rest => rfl
    | nil =>
        have hend : b.head? ≠ some '=' := fun hc =>
          (not_isNamePart_of_isBlank (isBlank_of_head? hb hc)).2.1 rfl
        rw [List.nil_append, bne_iff_ne.mpr hend]
        rfl
  · rw [h, h']

/-- A name ends in front of blanks. -/
theorem dropWhile_isNamePart_append_blanks (hb : allBlank b = true) (t : Text) :
    (t ++ b).dropWhile isNamePart = t.dropWhile isNamePart ++ b := by
  have hstop : b.dropWhile isNamePart = b :=
    dropWhile_eq_self fun c hc => (not_isNamePart_of_isBlank (isBlank_of_head? hb hc)).1
  rw [List.dropWhile_append, hstop]
  split
  · rename_i h
    rw [List.isEmpty_iff.mp h]
    rfl
  · rfl

theorem startsWithAssignment_blanks (hb : allBlank b = true) (hb' : allBlank b' = true)
    (x : Line) : startsWithAssignment (b ++ (x ++ b')) = startsWithAssignment x := by
  rw [startsWithAssignment, startsWithAssignment, trimStart_append_of_allBlank hb]
  rcases trimStart_append_blanks hb' x with ⟨c, rest, h, h'⟩ | ⟨h, h'⟩
  · rw [h, h']
    show (isNameStart c && _) = (isNameStart c && _)
    rw [dropWhile_isNamePart_append_blanks hb', startsWithAssign_trimStart_blanks hb']
  · rw [h, h']

/-! ## All of them -/

/-- Blanks around a line do not count for whether it declares something. -/
theorem declares_blanks (hb : allBlank b = true) (hb' : allBlank b' = true) (x : Line) :
    declares (b ++ (x ++ b')) = declares x := by
  rw [declares, declares, startsWithKeyword_blanks hb hb', hasArrow_blanks hb hb',
    assignsFunction_blanks hb hb', endsWithBrace_blanks hb hb', startsWithAssignment_blanks hb hb']

end Line

end BareCode
