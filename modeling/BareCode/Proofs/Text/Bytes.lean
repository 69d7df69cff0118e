import BareCode.Text.Basic
/-! # Bytes — a text cut by counting

    The characters of a text take one to four bytes in UTF-8, so a number of bytes need not
    end where a character does.  Cutting off as many bytes as a front part of the text
    takes gives the rest, and no other number of bytes cuts between two characters
    (`dropBytes?_eq_some_iff`).  The case of ASCII letters takes no room
    (`byteLength_map_toLower`). -/

namespace BareCode

/-! ## The case of ASCII letters -/

/-- Lower case moves the capital letters of ASCII, by 32, and nothing else. -/
theorem toLower_cases (c : Char) :
    c.toLower = c ∨ 65 ≤ c.toNat ∧ c.toNat ≤ 90 ∧ c.toLower.toNat = c.toNat + 32 := by
  by_cases hc : c.val ≥ 'A'.val ∧ c.val ≤ 'Z'.val
  · have hlo : 65 ≤ c.toNat := UInt32.le_iff_toNat_le.mp hc.1
    have hhi : c.toNat ≤ 90 := UInt32.le_iff_toNat_le.mp hc.2
    have hval : c.toLower.val = c.val + 32 := congrArg Char.val (dif_pos hc)
    refine Or.inr ⟨hlo, hhi, ?_⟩
    show c.toLower.val.toNat = c.val.toNat + 32
    rw [hval, UInt32.toNat_add]
    show (c.toNat + 32) % 2 ^ 32 = c.toNat + 32
    omega
  · exact Or.inl (dif_neg hc)

/-- A character in front of the small letters is the lower case of nothing else. -/
theorem eq_of_toLower_eq {c d : Char} (hd : d.toNat < 97) (h : c.toLower = d) : c = d := by
  rcases toLower_cases c with hc | ⟨hlo, -, hc⟩
  · rw [← h, hc]
  · rw [h] at hc
    omega

/-- Capital and small letters of ASCII take a byte each. -/
theorem utf8Size_toLower (c : Char) : c.toLower.utf8Size = c.utf8Size := by
  have hone : ∀ d : Char, d.toNat ≤ 127 → d.utf8Size = 1 := by
    intro d hd
    exact Char.utf8Size_eq_one_iff.mpr (UInt32.le_iff_toNat_le.mpr hd)
  rcases toLower_cases c with hc | ⟨-, hhi, hc⟩
  · rw [hc]
  · rw [hone c (by omega), hone c.toLower (by omega)]

/-! ## Cutting by bytes -/

namespace Text

variable {t s : Text} {n : Nat}

/-- The bytes that a text takes in UTF-8. -/
def byteLength : Text → Nat
  | [] => 0
  | c :: t => c.utf8Size + byteLength t

/-- What follows the first `n` bytes of a text, if they end where a character ends. -/
def dropBytes? : Nat → Text → Option Text
  | 0, t => some t
  | _ + 1, [] => none
  | n + 1, c :: t => if c.utf8Size ≤ n + 1 then dropBytes? (n + 1 - c.utf8Size) t else none

theorem byteLength_append (s t : Text) : (s ++ t).byteLength = s.byteLength + t.byteLength := by
  induction s with
  | nil => exact (Nat.zero_add _).symm
  | cons c s ih => rw [List.cons_append, byteLength, byteLength, ih, Nat.add_assoc]

theorem byteLength_map_toLower (t : Text) : byteLength (t.map Char.toLower) = t.byteLength := by
  induction t with
  | nil => rfl
  | cons c t ih => rw [List.map_cons, byteLength, byteLength, utf8Size_toLower, ih]

/-- Bytes can be cut off exactly where they make up a front part of the text. -/
theorem dropBytes?_eq_some_iff :
    dropBytes? n t = some s ↔ ∃ x, t = x ++ s ∧ byteLength x = n := by
  induction t generalizing n with
  | nil =>
      cases n with
      | zero =>
          rw [dropBytes?]
          constructor
          · rintro ⟨⟩
            exact ⟨[], rfl, rfl⟩
          · rintro ⟨x, hx, -⟩
            rw [(List.append_eq_nil_iff.mp hx.symm).2]
      | succ n =>
          rw [dropBytes?]
          refine iff_of_false (fun h => nomatch h) ?_
          rintro ⟨x, hx, hn⟩
          rw [(List.append_eq_nil_iff.mp hx.symm).1] at hn
          exact nomatch hn
  | cons c t ih =>
      have hc := c.utf8Size_pos
      cases n with
      | zero =>
          rw [dropBytes?]
          constructor
          · rintro ⟨⟩
            exact ⟨[], rfl, rfl⟩
          · rintro ⟨x, hx, hn⟩
            cases x with
            | nil => rw [hx]; rfl
            | cons d x =>
                have hd := d.utf8Size_pos
                rw [byteLength] at hn
                omega
      | succ n =>
          rw [dropBytes?]
          split
          · rename_i hle
            rw [ih]
            constructor
            · rintro ⟨x, rfl, hn⟩
              exact ⟨c :: x, rfl, by rw [byteLength, hn]; omega⟩
            · rintro ⟨x, hx, hn⟩
              cases x with
              | nil => exact nomatch hn
              | cons d x =>
                  obtain ⟨rfl, rfl⟩ := List.cons_eq_cons.mp hx
                  rw [byteLength] at hn
                  exact ⟨x, rfl, by omega⟩
          · rename_i hgt
            refine iff_of_false (fun h => nomatch h) ?_
            rintro ⟨x, hx, hn⟩
            cases x with
            | nil => exact nomatch hn
            | cons d x =>
                obtain ⟨rfl, rfl⟩ := List.cons_eq_cons.mp hx
                rw [byteLength] at hn
                omega

end Text

end BareCode
