import BareCode.Excerpt.Basic
import Mathlib.Data.List.Basic
/-! # Ranges — where the block around a line begins and ends

    A block takes at least its first line and never more lines than there are or than
    the limit allows (`le_blockLast`, `blockLast_lt`, `blockLast_lt_add`).  The line that
    encloses another is the nearest one above it that can (`encloser?_eq_some_iff`), and
    its block counts only if it reaches down (`rangeAround_cases`).  So the range around a
    line always holds that line and keeps to the limit (`rangeAround_spec`). -/

namespace BareCode

variable {ls : List Line} {i k s limit : Nat} {p : Line → Bool}

/-! ## Where a block ends -/

/-- No bracket is blank. -/
theorem bracketStep_of_isBlank {c : Char} (h : isBlank c = true) : bracketStep c = 0 := by
  unfold bracketStep
  split
  case h_7 => rfl
  all_goals exact absurd h (by decide)

/-- Blanks open and close nothing. -/
theorem Line.bracketBalance_of_allBlank {l : Line} (h : Text.allBlank l = true) :
    l.bracketBalance = 0 := by
  induction l with
  | nil => rfl
  | cons c l ih =>
      rw [Text.allBlank, List.all_cons, Bool.and_eq_true] at h
      rw [bracketBalance, bracketStep_of_isBlank h.1, ih h.2, Int.zero_add]

theorem closingLength_le (depth : Int) (ls : List Line) : closingLength depth ls ≤ ls.length := by
  induction ls generalizing depth with
  | nil => exact Nat.le_refl 0
  | cons l ls ih =>
      have := ih (depth + l.bracketBalance)
      rw [closingLength, List.length_cons]
      split
      · omega
      · omega

theorem openingLength_le (ls : List Line) : openingLength ls ≤ ls.length := by
  induction ls with
  | nil => exact Nat.le_refl 0
  | cons l ls ih =>
      have := closingLength_le l.bracketBalance ls
      rw [openingLength, List.length_cons]
      split
      · omega
      · split
        · omega
        · omega

theorem blockLength_le (ls : List Line) : blockLength ls ≤ ls.length := by
  cases ls with
  | nil => exact Nat.le_refl 0
  | cons l ls =>
      have := closingLength_le l.bracketBalance ls
      have := openingLength_le ls
      rw [blockLength, List.length_cons]
      split
      · omega
      · split
        · omega
        · omega

/-- A block takes its first line, whatever that holds. -/
theorem blockLength_pos (h : ls ≠ []) : 0 < blockLength ls := by
  obtain ⟨l, ls, rfl⟩ := List.exists_cons_of_ne_nil h
  rw [blockLength]
  split
  · omega
  · split
    · omega
    · omega

/-- A block takes some of the lines that the limit leaves it. -/
theorem blockLength_window (h : s < ls.length) (limit : Nat) :
    0 < blockLength ((ls.drop s).take (max limit 1)) ∧
      blockLength ((ls.drop s).take (max limit 1)) ≤ min (max limit 1) (ls.length - s) := by
  have hlen : ((ls.drop s).take (max limit 1)).length = min (max limit 1) (ls.length - s) := by
    rw [List.length_take, List.length_drop]
  constructor
  · refine blockLength_pos (List.ne_nil_of_length_pos ?_)
    omega
  · rw [← hlen]
    exact blockLength_le _

theorem le_blockLast (h : s < ls.length) (limit : Nat) : s ≤ blockLast ls s limit := by
  have := blockLength_window h limit
  rw [blockLast]
  omega

theorem blockLast_lt (h : s < ls.length) (limit : Nat) : blockLast ls s limit < ls.length := by
  have := blockLength_window h limit
  rw [blockLast]
  omega

/-- A block keeps to the limit, except that it takes at least one line. -/
theorem blockLast_lt_add (h : s < ls.length) (limit : Nat) :
    blockLast ls s limit < s + max limit 1 := by
  have := blockLength_window h limit
  rw [blockLast]
  omega

/-! ## Which line encloses -/

/-- Counting up from a line comes to the lines above it. -/
theorem getElem?_reverse_take (hi : i ≤ ls.length) (hk : k < i) :
    (ls.take i).reverse[k]? = some (ls.getD (i - 1 - k) []) := by
  have hlen : (ls.take i).length = i := List.length_take_of_le hi
  have hlt : i - 1 - k < ls.length := by omega
  rw [List.getElem?_reverse (by omega), hlen, List.getElem?_take_of_lt (by omega),
    List.getElem?_eq_getElem hlt, List.getD_eq_getElem?_getD, List.getElem?_eq_getElem hlt]
  rfl

/-- Looking for a property from a line upwards finds the nearest line above that has it. -/
theorem map_findIdx?_reverse_take_eq_some_iff (hi : i ≤ ls.length) :
    ((ls.take i).reverse.findIdx? p).map (fun up => i - 1 - up) = some s ↔
      s < i ∧ p (ls.getD s []) = true ∧ ∀ k, s < k → k < i → p (ls.getD k []) = false := by
  have hlen : (ls.take i).reverse.length = i := by
    rw [List.length_reverse, List.length_take_of_le hi]
  have hget : ∀ {k : Nat} (hk : k < (ls.take i).reverse.length),
      (ls.take i).reverse[k] = ls.getD (i - 1 - k) [] := by
    intro k hk
    have := getElem?_reverse_take hi (hlen ▸ hk)
    rwa [List.getElem?_eq_getElem hk, Option.some_inj] at this
  simp only [Option.map_eq_some_iff, List.findIdx?_eq_some_iff_getElem]
  constructor
  · rintro ⟨up, ⟨hup, hp, hnear⟩, rfl⟩
    rw [hget hup] at hp
    refine ⟨by omega, hp, fun k hk hki => ?_⟩
    have := hnear (i - 1 - k) (by omega)
    rw [hget] at this
    have hkk : i - 1 - (i - 1 - k) = k := by omega
    rw [hkk] at this
    exact Bool.eq_false_iff.mpr this
  · rintro ⟨hs, hp, hnear⟩
    have hss : i - 1 - (i - 1 - s) = s := by omega
    refine ⟨i - 1 - s, ⟨by omega, ?_, fun j hj => ?_⟩, hss⟩
    · rw [hget, hss]
      exact hp
    · rw [hget]
      exact Bool.eq_false_iff.mp (hnear _ (by omega) (by omega))

/-- The line that encloses another is the nearest one above it that can. -/
theorem encloser?_eq_some_iff (hi : i ≤ ls.length) :
    encloser? ls i = some s ↔ s < i ∧
      Line.encloses (ls.getD s []) (Line.indentation (ls.getD i [])) = true ∧
      ∀ k, s < k → k < i →
        Line.encloses (ls.getD k []) (Line.indentation (ls.getD i [])) = false :=
  map_findIdx?_reverse_take_eq_some_iff hi

/-! ## The range around a line -/

theorem rangeAround_of_declares (h : Line.declares (ls.getD i []) = true) (limit : Nat) :
    rangeAround limit ls i = ⟨i, blockLast ls i limit⟩ :=
  if_pos h

theorem rangeAround_of_reaches (h : Line.declares (ls.getD i []) = false)
    (hs : encloser? ls i = some s) (hreach : i ≤ blockLast ls s limit) :
    rangeAround limit ls i = ⟨s, blockLast ls s limit⟩ := by
  rw [rangeAround, h, hs]
  exact if_pos hreach

/-- The range around a line is the block that the line starts, or the block of the line that
    encloses it, or the line alone. -/
theorem rangeAround_cases (limit : Nat) (ls : List Line) (i : Nat) :
    (Line.declares (ls.getD i []) = true ∧
      rangeAround limit ls i = ⟨i, blockLast ls i limit⟩) ∨
    (∃ s, Line.declares (ls.getD i []) = false ∧ encloser? ls i = some s ∧
      i ≤ blockLast ls s limit ∧ rangeAround limit ls i = ⟨s, blockLast ls s limit⟩) ∨
    Line.declares (ls.getD i []) = false ∧
      (∀ s, encloser? ls i = some s → blockLast ls s limit < i) ∧
      rangeAround limit ls i = ⟨i, i⟩ := by
  cases hdecl : Line.declares (ls.getD i []) with
  | true => exact Or.inl ⟨rfl, rangeAround_of_declares hdecl limit⟩
  | false =>
      right
      cases hs : encloser? ls i with
      | none =>
          refine Or.inr ⟨rfl, fun s h => (nomatch h), ?_⟩
          rw [rangeAround, hdecl, hs]
          rfl
      | some s =>
          by_cases hreach : i ≤ blockLast ls s limit
          · exact Or.inl ⟨s, rfl, rfl, hreach, rangeAround_of_reaches hdecl hs hreach⟩
          · refine Or.inr ⟨rfl, fun s' h => ?_, ?_⟩
            · obtain rfl := Option.some.inj h
              exact Nat.lt_of_not_le hreach
            · rw [rangeAround, hdecl, hs]
              exact if_neg hreach

/-- The range around a line holds the line, ends within the text, and takes no more lines
    than the limit allows, which always allows one. -/
theorem rangeAround_spec (hi : i < ls.length) (limit : Nat) :
    (rangeAround limit ls i).first ≤ i ∧ i ≤ (rangeAround limit ls i).last ∧
      (rangeAround limit ls i).last < ls.length ∧
      (rangeAround limit ls i).last + 1 - (rangeAround limit ls i).first ≤ max limit 1 := by
  rcases rangeAround_cases limit ls i with ⟨-, h⟩ | ⟨s, -, hs, hreach, h⟩ | ⟨-, -, h⟩
  · have hkeep := blockLast_lt_add hi limit
    rw [h]
    refine ⟨Nat.le_refl i, le_blockLast hi limit, blockLast_lt hi limit, ?_⟩
    show blockLast ls i limit + 1 - i ≤ max limit 1
    omega
  · have hsi : s < i := ((encloser?_eq_some_iff (Nat.le_of_lt hi)).mp hs).1
    have hkeep := blockLast_lt_add (Nat.lt_trans hsi hi) limit
    rw [h]
    refine ⟨Nat.le_of_lt hsi, hreach, blockLast_lt (Nat.lt_trans hsi hi) limit, ?_⟩
    show blockLast ls s limit + 1 - s ≤ max limit 1
    omega
  · rw [h]
    refine ⟨Nat.le_refl i, Nat.le_refl i, hi, ?_⟩
    show i + 1 - i ≤ max limit 1
    omega

end BareCode
