import BareCode.Proofs.Excerpt.Range
/-! # Extents — a limit only cuts short, and blocks nest

    The lines of a block are counted one by one, so of the first `n` lines it takes what
    it takes of all, as far as they go (`blockLength_take`).  A limit does nothing but
    cut (`blockLast_eq`), and a larger one cuts less (`blockLast_mono`).

    A block that starts within another has at every line the brackets open that the other
    opened since, and no more.  So it closes no later, and where the other ends for want of
    an open bracket it ends as well: blocks nest unless the limit cuts the outer one
    (`add_blockLength_drop_le`, `blockLast_le_of_within`). -/

namespace BareCode

variable {ls : List Line} {l : Line} {n k s b limit limit' : Nat} {depth depth' : Int}

/-- The number of lines that a block still takes from a line on that leaves no less open
    than it found, while none of its brackets is open. -/
def startedLength (l : Line) (ls : List Line) : Nat :=
  if 0 < l.bracketBalance then 1 + closingLength l.bracketBalance ls else 1 + openingLength ls

theorem openingLength_cons (l : Line) (ls : List Line) :
    openingLength (l :: ls)
      = if l.allBlank ∨ l.bracketBalance < 0 then 0 else startedLength l ls := rfl

theorem blockLength_cons (l : Line) (ls : List Line) :
    blockLength (l :: ls) = if l.bracketBalance < 0 then 1 else startedLength l ls := rfl

/-! ## A limit cuts short -/

theorem closingLength_take (depth : Int) (n : Nat) (ls : List Line) :
    closingLength depth (ls.take n) = min n (closingLength depth ls) := by
  induction ls generalizing depth n with
  | nil =>
      rw [List.take_nil, closingLength]
      omega
  | cons l ls ih =>
      cases n with
      | zero =>
          rw [List.take_zero, closingLength]
          omega
      | succ n =>
          rw [List.take_succ_cons, closingLength, closingLength, ih]
          split
          · omega
          · omega

theorem startedLength_take (h : openingLength (ls.take n) = min n (openingLength ls)) (l : Line) :
    startedLength l (ls.take n) = min (n + 1) (startedLength l ls) := by
  rw [startedLength, startedLength, closingLength_take, h]
  split
  · omega
  · omega

theorem openingLength_take (n : Nat) (ls : List Line) :
    openingLength (ls.take n) = min n (openingLength ls) := by
  induction ls generalizing n with
  | nil =>
      rw [List.take_nil, openingLength]
      omega
  | cons l ls ih =>
      cases n with
      | zero =>
          rw [List.take_zero, openingLength]
          omega
      | succ n =>
          rw [List.take_succ_cons, openingLength_cons, openingLength_cons,
            startedLength_take (ih n)]
          split
          · omega
          · rfl

/-- Of the first `n` lines a block takes what it takes of all of them, up to `n`. -/
theorem blockLength_take (n : Nat) (ls : List Line) :
    blockLength (ls.take n) = min n (blockLength ls) := by
  cases ls with
  | nil =>
      rw [List.take_nil, blockLength]
      omega
  | cons l ls =>
      cases n with
      | zero =>
          rw [List.take_zero, blockLength]
          omega
      | succ n =>
          rw [List.take_succ_cons, blockLength_cons, blockLength_cons,
            startedLength_take (openingLength_take n ls)]
          split
          · omega
          · rfl

/-- The limit cuts a block short and does nothing else. -/
theorem blockLast_eq (ls : List Line) (s limit : Nat) :
    blockLast ls s limit = s + min (max limit 1) (blockLength (ls.drop s)) - 1 := by
  rw [blockLast, blockLength_take]

theorem blockLast_mono (h : limit ≤ limit') (ls : List Line) (s : Nat) :
    blockLast ls s limit ≤ blockLast ls s limit' := by
  rw [blockLast_eq, blockLast_eq]
  omega

/-! ## Blocks nest -/

/-- With more brackets open, a block closes no earlier. -/
theorem closingLength_mono (h : depth ≤ depth') (ls : List Line) :
    closingLength depth ls ≤ closingLength depth' ls := by
  induction ls generalizing depth depth' with
  | nil => exact Nat.le_refl 0
  | cons l ls ih =>
      have hrest := ih (show depth + l.bracketBalance ≤ depth' + l.bracketBalance by omega)
      rw [closingLength, closingLength]
      split
      · split
        · omega
        · omega
      · rw [if_neg (by omega)]
        omega

/-- With a bracket open, a block goes on at least as far as without. -/
theorem startedLength_le_closingLength (h : 0 < depth) (hl : ¬ l.bracketBalance < 0)
    (hls : openingLength ls ≤ closingLength depth ls) :
    startedLength l ls ≤ closingLength depth (l :: ls) := by
  rw [startedLength, closingLength, if_neg (show ¬ depth + l.bracketBalance ≤ 0 by omega)]
  split
  · have := closingLength_mono (show l.bracketBalance ≤ depth + l.bracketBalance by omega) ls
    omega
  · have hflat : depth + l.bracketBalance = depth := by omega
    rw [hflat]
    omega

theorem openingLength_le_closingLength (h : 0 < depth) (ls : List Line) :
    openingLength ls ≤ closingLength depth ls := by
  induction ls with
  | nil => exact Nat.le_refl 0
  | cons l ls ih =>
      rw [openingLength_cons]
      split
      · exact Nat.zero_le _
      · rename_i hgo
        exact startedLength_le_closingLength h (fun hneg => hgo (Or.inr hneg)) ih

/-- A block of its own ends no later than one that has a bracket open already. -/
theorem blockLength_le_closingLength (h : 0 < depth) (ls : List Line) :
    blockLength ls ≤ closingLength depth ls := by
  cases ls with
  | nil => exact Nat.le_refl 0
  | cons l ls =>
      rw [blockLength_cons]
      split
      · rw [closingLength]
        split
        · omega
        · omega
      · rename_i hstay
        exact startedLength_le_closingLength h hstay (openingLength_le_closingLength h ls)

/-- A block that starts where another is closing ends within it. -/
theorem add_blockLength_drop_le_closingLength (h : 0 < depth) (hk : k < closingLength depth ls) :
    k + blockLength (ls.drop k) ≤ closingLength depth ls := by
  induction ls generalizing depth k with
  | nil => exact absurd hk (Nat.not_lt_zero k)
  | cons l ls ih =>
      cases k with
      | zero =>
          have := blockLength_le_closingLength h (l :: ls)
          rw [List.drop_zero]
          omega
      | succ k =>
          rw [closingLength] at hk ⊢
          split at hk
          · omega
          · rename_i hopen
            have hin : k < closingLength (depth + l.bracketBalance) ls := by omega
            have := ih (by omega) hin
            rw [if_neg hopen, List.drop_succ_cons]
            omega

/-- So does one that starts behind the first line of another, if that is so while the other
    is opening. -/
theorem succ_add_blockLength_drop_le_startedLength
    (hopening : k < openingLength ls → k + blockLength (ls.drop k) ≤ openingLength ls)
    (hk : k + 1 < startedLength l ls) :
    k + 1 + blockLength (ls.drop k) ≤ startedLength l ls := by
  rw [startedLength] at hk ⊢
  split at hk
  · rename_i hopen
    have hin : k < closingLength l.bracketBalance ls := by omega
    have := add_blockLength_drop_le_closingLength hopen hin
    rw [if_pos hopen]
    omega
  · rename_i hflat
    have := hopening (by omega)
    rw [if_neg hflat]
    omega

/-- A block that starts where another is still opening ends within it. -/
theorem add_blockLength_drop_le_openingLength (hk : k < openingLength ls) :
    k + blockLength (ls.drop k) ≤ openingLength ls := by
  induction ls generalizing k with
  | nil => exact absurd hk (Nat.not_lt_zero k)
  | cons l ls ih =>
      rw [openingLength_cons] at hk ⊢
      split at hk
      · exact absurd hk (Nat.not_lt_zero k)
      · rename_i hgo
        have hstay : ¬ l.bracketBalance < 0 := fun hneg => hgo (Or.inr hneg)
        rw [if_neg hgo]
        cases k with
        | zero =>
            -- a line that goes on with a block starts the same block on its own
            rw [List.drop_zero, blockLength_cons, if_neg hstay]
            omega
        | succ k => exact succ_add_blockLength_drop_le_startedLength ih hk

/-- A block that starts within another ends within it. -/
theorem add_blockLength_drop_le (hk : k < blockLength ls) :
    k + blockLength (ls.drop k) ≤ blockLength ls := by
  cases k with
  | zero =>
      rw [List.drop_zero]
      omega
  | succ k =>
      cases ls with
      | nil => exact absurd hk (Nat.not_lt_zero _)
      | cons l ls =>
          rw [blockLength_cons] at hk ⊢
          split at hk
          · omega
          · rename_i hstay
            rw [if_neg hstay]
            exact succ_add_blockLength_drop_le_startedLength
              add_blockLength_drop_le_openingLength hk

/-- A block that starts within another ends within it, unless the limit cuts the other
    short: then that one takes all the lines that the limit allows, and more without it. -/
theorem blockLast_le_of_within (hs : s < ls.length) (hsb : s ≤ b)
    (hb : b ≤ blockLast ls s limit) :
    blockLast ls b limit ≤ blockLast ls s limit ∨
      blockLast ls s limit + 1 = s + max limit 1 ∧ max limit 1 < blockLength (ls.drop s) := by
  have hpos : 0 < blockLength (ls.drop s) := blockLength_pos fun h => by
    have := List.drop_eq_nil_iff.mp h
    omega
  rw [blockLast_eq ls s] at hb ⊢
  by_cases hcut : max limit 1 < blockLength (ls.drop s)
  · right
    exact ⟨by omega, hcut⟩
  · left
    have hin : b - s < blockLength (ls.drop s) := by omega
    have hnest := add_blockLength_drop_le hin
    have hdrop : (ls.drop s).drop (b - s) = ls.drop b := by
      rw [List.drop_drop, Nat.add_sub_cancel' hsb]
    rw [hdrop] at hnest
    rw [blockLast_eq]
    omega

end BareCode
