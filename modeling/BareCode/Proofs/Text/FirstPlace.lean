import BareCode.Proofs.Text.Search
/-! # First places — the scan as a number

    `Text.splitAtFirst?` cuts a text around a piece.  Where the piece stands can also be
    said by a number alone, the least one behind which the text begins with the piece.
    Both say the same: the number is the length of what the scan leaves in front
    (`firstPlace?_eq`), and cutting a text around a piece amounts to finding its first
    place (`splitAtFirst?_eq_some_iff`). -/

namespace BareCode.Text

variable {t needle before rest : Text} {k : Nat}

/-- The first place of a text at which a piece stands, in characters from the front. -/
def firstPlace? (t needle : Text) : Option Nat :=
  (List.range (t.length + 1)).find? fun k => needle.isPrefixOf (t.drop k)

/-- A place is the first one when the piece stands there and at no place before. -/
theorem firstPlace?_eq_some_iff :
    t.firstPlace? needle = some k ↔
      k ≤ t.length ∧ needle <+: t.drop k ∧ ∀ j < k, ¬ needle <+: t.drop j := by
  rw [firstPlace?, List.find?_range_eq_some, List.mem_range, Nat.lt_succ_iff]
  simp only [List.isPrefixOf_iff_prefix, Bool.not_eq_true', ← Bool.not_eq_true]
  exact and_left_comm

/-- The first place of a longer text is its front, or one place behind that in its tail. -/
theorem firstPlace?_cons (c : Char) (t needle : Text) :
    firstPlace? (c :: t) needle
      = if needle <+: c :: t then some 0 else (t.firstPlace? needle).map (· + 1) := by
  rw [firstPlace?, List.length_cons, List.range_succ_eq_map, List.find?_cons]
  by_cases h : needle <+: c :: t
  · rw [if_pos h, List.drop_zero, List.isPrefixOf_iff_prefix.mpr h]
  · have hfalse : needle.isPrefixOf (c :: t) = false := by
      rwa [← Bool.not_eq_true, List.isPrefixOf_iff_prefix]
    rw [if_neg h, List.drop_zero, hfalse, List.find?_map]
    rfl

/-- The first place is where the scan finds the piece. -/
theorem firstPlace?_eq (t needle : Text) :
    t.firstPlace? needle = (t.splitAtFirst? needle).map fun s => s.1.length := by
  induction t with
  | nil =>
      cases needle with
      | nil => rfl
      | cons c needle => rfl
  | cons c t ih =>
      rw [firstPlace?_cons]
      by_cases h : needle <+: c :: t
      · obtain ⟨rest, hrest⟩ := Option.isSome_iff_exists.mp (startsWith_iff.mpr h)
        rw [if_pos h, splitAtFirst?_cons_of_isPrefix hrest]
        rfl
      · rw [if_neg h, splitAtFirst?_cons_of_not_isPrefix h, ih, Option.map_map, Option.map_map]
        rfl

/-- A text is cut around a piece exactly when the piece stands between the two parts and
    the length of the first is its first place. -/
theorem splitAtFirst?_eq_some_iff :
    t.splitAtFirst? needle = some (before, rest) ↔
      t = before ++ needle ++ rest ∧ t.firstPlace? needle = some before.length := by
  rw [firstPlace?_eq]
  constructor
  · intro h
    exact ⟨splitAtFirst?_eq_some h, by rw [h]; rfl⟩
  · rintro ⟨ht, hplace⟩
    obtain ⟨⟨b, r⟩, hs, hlen⟩ := Option.map_eq_some_iff.mp hplace
    -- both ways to cut the text leave the same length in front
    have hsplit : b ++ (needle ++ r) = before ++ (needle ++ rest) := by
      rw [← List.append_assoc, ← List.append_assoc, ← ht]
      exact (splitAtFirst?_eq_some hs).symm
    obtain ⟨rfl, htail⟩ := List.append_inj hsplit hlen
    obtain rfl := List.append_cancel_left htail
    exact hs

/-- What stands in front of the first place is that many characters of the text. -/
theorem take_of_splitAtFirst? (h : t.splitAtFirst? needle = some (before, rest)) :
    t.take before.length = before := by
  rw [splitAtFirst?_eq_some h, List.append_assoc, List.take_left]

end BareCode.Text
