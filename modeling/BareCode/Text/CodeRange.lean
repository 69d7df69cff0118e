/-! # Ranges of code points — how the table of a character property is read -/

namespace BareCode

/-- A closed range of code points: its first and its last. -/
abbrev CodeRange := Nat × Nat

/-- Whether a character lies in one of the ranges of a table. -/
def inRanges (table : List CodeRange) (c : Char) : Bool :=
  table.any fun r => r.1 ≤ c.toNat && c.toNat ≤ r.2

/-- A character is in a table when some range of it holds the character's code. -/
theorem inRanges_iff {table : List CodeRange} {c : Char} :
    inRanges table c = true ↔ ∃ r ∈ table, r.1 ≤ c.toNat ∧ c.toNat ≤ r.2 := by
  simp [inRanges]

end BareCode
