import BareCode.Comment.Guard
import BareCode.Proofs.Text.Bytes
import BareCode.Proofs.Text.Trim
/-! # Guarding — what decides whether a guard is found

    Three guards are looked at, but only two matter for the answer: a scheme ends with
    a colon, which is a token the marker touches, so where the address guard holds
    the token guard holds too (`endsWithToken_of_endsWithScheme`).  What is left is
    the parity of the quote marks and the last character, and blanks in front of the
    text touch neither (`guard?_isSome_blank_append`). -/

namespace BareCode

open Guard

variable {before b : Text} {order : GuardOrder}

/-- No blank lies among the printable characters of ASCII. -/
theorem isBlank_code {c : Char} (h : isBlank c = true) : c.toNat ≤ 32 ∨ 133 ≤ c.toNat := by
  obtain ⟨r, hr, h1, h2⟩ := inRanges_iff.mp h
  have hall : ∀ r ∈ blankRanges, r.2 ≤ 32 ∨ 133 ≤ r.1 := by decide
  rcases hall r hr with hr | hr <;> omega

theorem toLower_of_isBlank {c : Char} (h : isBlank c = true) : c.toLower = c := by
  have hcode := isBlank_code h
  refine (toLower_cases c).resolve_right ?_
  rintro ⟨hlo, hhi, -⟩
  omega

namespace Guard

/-- A text that ends with a scheme ends with a character that is not blank. -/
theorem endsWithToken_of_endsWithScheme (h : endsWithScheme before = true) :
    endsWithToken before = true := by
  obtain ⟨s, -, hs⟩ := List.any_eq_true.mp h
  have hlast : (before.map Char.toLower).getLast? = some ':' := by
    obtain ⟨x, hx⟩ := List.isSuffixOf_iff_suffix.mp hs
    rw [← hx, ← List.append_assoc, List.getLast?_concat]
  rw [List.getLast?_map] at hlast
  obtain ⟨c, hc, hlow⟩ := Option.map_eq_some_iff.mp hlast
  rw [endsWithToken, hc]
  show (!isBlank c) = true
  -- lower-casing leaves blanks as they are, so it makes a colon of none
  cases hb : isBlank c with
  | false => rfl
  | true =>
      rw [toLower_of_isBlank hb] at hlow
      subst hlow
      exact absurd hb (by decide)

theorem isBlank_quoteMark {q : Char} (h : q ∈ quoteMarks) : isBlank q = false := by
  have hall : quoteMarks.all (fun q => !isBlank q) = true := by decide
  have := List.all_eq_true.mp hall q h
  rwa [Bool.not_eq_true'] at this

/-- Blanks in front open and close no quotation. -/
theorem quoteOpen_blank_append (h : b.allBlank = true) (t : Text) :
    quoteOpen (b ++ t) = quoteOpen t := by
  have hq : ∀ q ∈ quoteMarks, (b ++ t).count q = t.count q := by
    intro q hq
    have hb : q ∉ b := by
      intro hm
      have := List.all_eq_true.mp h q hm
      rw [isBlank_quoteMark hq] at this
      exact Bool.noConfusion this
    rw [List.count_append, List.count_eq_zero.mpr hb, Nat.zero_add]
  rw [Bool.eq_iff_iff, quoteOpen, quoteOpen, List.any_eq_true, List.any_eq_true]
  constructor
  · rintro ⟨q, hm, h1⟩
    exact ⟨q, hm, hq q hm ▸ h1⟩
  · rintro ⟨q, hm, h1⟩
    exact ⟨q, hm, (hq q hm).symm ▸ h1⟩

/-- Blanks in front make no token at the end. -/
theorem endsWithToken_blank_append (h : b.allBlank = true) (t : Text) :
    endsWithToken (b ++ t) = endsWithToken t := by
  rcases List.eq_nil_or_concat t with rfl | ⟨t', c, rfl⟩
  · rw [List.append_nil]
    rcases List.eq_nil_or_concat b with rfl | ⟨b', c, rfl⟩
    · rfl
    · have hc : isBlank c = true := List.all_eq_true.mp h c (by simp)
      simp [endsWithToken, hc]
  · rw [List.concat_eq_append, ← List.append_assoc, endsWithToken, List.getLast?_concat,
      endsWithToken, List.getLast?_concat]

end Guard

/-- A guard is found exactly when a quotation is open or the marker touches a token. -/
theorem guard?_isSome_iff_quoteOpen_or_endsWithToken :
    (guard? order before).isSome = true ↔
      quoteOpen before = true ∨ endsWithToken before = true := by
  rw [guard?_isSome_iff]
  constructor
  · rintro ⟨g, hg⟩
    cases g with
    | quoted => exact Or.inl hg
    | url => exact Or.inr (endsWithToken_of_endsWithScheme hg)
    | attached => exact Or.inr hg
  · rintro (h | h)
    · exact ⟨.quoted, h⟩
    · exact ⟨.attached, h⟩

/-- Blanks in front of a text do not change whether a guard is found. -/
theorem guard?_isSome_blank_append (h : b.allBlank = true) (t : Text) :
    (guard? order (b ++ t)).isSome = (guard? order t).isSome := by
  rw [Bool.eq_iff_iff, guard?_isSome_iff_quoteOpen_or_endsWithToken,
    guard?_isSome_iff_quoteOpen_or_endsWithToken, quoteOpen_blank_append h,
    endsWithToken_blank_append h]

/-- Nothing guards a marker that has only blanks in front. -/
theorem guard?_of_allBlank (h : b.allBlank = true) : guard? order b = none := by
  rw [← Option.not_isSome_iff_eq_none, ← List.append_nil b, guard?_isSome_blank_append h]
  cases order <;> decide

end BareCode
