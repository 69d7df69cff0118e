import BareCode.Proofs.Excerpt.Extent
import Mathlib.Data.List.GetD
/-! # Block ends — the last line of a block from the depth of brackets alone

    A block is measured line by line, at first with no bracket open and then with one.
    Here its last line is said all at once, by three lines that are each the first of
    their kind: the one behind which the brackets are no longer level, the blank one, and
    the one behind which they are level again (`blockEnd`).

    * `add_closingLength_drop` and `add_openingLength_drop` — from any line on, each of the
      two measures ends where `blockEnd` says, given the depth that was reached before it;
    * `blockLast_eq_min_blockEnd` — so the limit only cuts the block short. -/

namespace BareCode

variable {ls : List Line} {start j lo hi k limit : Nat} {test : Nat → Bool}

/-! ## First places -/

/-- The first index from `lo` on, and below `hi`, that passes a test. -/
def firstIndex? (lo hi : Nat) (test : Nat → Bool) : Option Nat :=
  (List.range' lo (hi - lo)).find? test

theorem firstIndex?_eq_some_iff :
    firstIndex? lo hi test = some k ↔
      lo ≤ k ∧ k < hi ∧ test k = true ∧ ∀ i, lo ≤ i → i < k → test i = false := by
  rw [firstIndex?, List.find?_range'_eq_some, List.mem_range'_1]
  simp only [Bool.not_eq_true']
  constructor
  · rintro ⟨hk, ⟨hlo, hhi⟩, hbefore⟩
    exact ⟨hlo, by omega, hk, hbefore⟩
  · rintro ⟨hlo, hhi, hk, hbefore⟩
    exact ⟨hk, ⟨hlo, by omega⟩, hbefore⟩

theorem firstIndex?_of_le (h : hi ≤ lo) (test : Nat → Bool) : firstIndex? lo hi test = none := by
  rw [firstIndex?, Nat.sub_eq_zero_of_le h]
  rfl

/-- The first index is where the search begins, or the first one behind that. -/
theorem firstIndex?_of_lt (h : lo < hi) (test : Nat → Bool) :
    firstIndex? lo hi test = if test lo = true then some lo else firstIndex? (lo + 1) hi test := by
  have hlen : hi - lo = (hi - (lo + 1)) + 1 := by omega
  rw [firstIndex?, hlen, List.range'_succ]
  by_cases ht : test lo = true
  · rw [if_pos ht, List.find?_cons_of_pos ht]
  · rw [if_neg ht, List.find?_cons_of_neg ht]
    rfl

/-! ## The depth of brackets -/

/-- How much some lines change the depth of brackets. -/
def bracketDepth : List Line → Int
  | [] => 0
  | l :: ls => l.bracketBalance + bracketDepth ls

/-- The depth of brackets behind line `j`, counted from line `start`. -/
def depthAt (ls : List Line) (start j : Nat) : Int :=
  bracketDepth (LineRange.slice ⟨start, j⟩ ls)

theorem bracketDepth_append (ls ls' : List Line) :
    bracketDepth (ls ++ ls') = bracketDepth ls + bracketDepth ls' := by
  induction ls with
  | nil => rw [List.nil_append, bracketDepth, Int.zero_add]
  | cons l ls ih => rw [List.cons_append, bracketDepth, bracketDepth, ih, Int.add_assoc]

/-- A single line, if there is one, changes the depth by its balance. -/
theorem bracketDepth_getElem? (ls : List Line) (j : Nat) :
    bracketDepth ls[j]?.toList = Line.bracketBalance (ls.getD j []) := by
  rw [List.getD_eq_getElem?_getD]
  cases ls[j]? with
  | none => rfl
  | some l => exact Int.add_zero _

theorem depthAt_self (ls : List Line) (start : Nat) :
    depthAt ls start start = Line.bracketBalance (ls.getD start []) := by
  have hone : start + 1 - start = 0 + 1 := by omega
  rw [depthAt, LineRange.slice, hone, List.take_add_one, List.getElem?_drop, List.take_zero,
    List.nil_append]
  exact bracketDepth_getElem? ls start

theorem depthAt_succ (h : start ≤ j) (ls : List Line) :
    depthAt ls start (j + 1) = depthAt ls start j + Line.bracketBalance (ls.getD (j + 1) []) := by
  have hlen : j + 1 + 1 - start = (j + 1 - start) + 1 := by omega
  have hnext : start + (j + 1 - start) = j + 1 := by omega
  rw [depthAt, LineRange.slice, hlen, List.take_add_one, List.getElem?_drop, hnext,
    bracketDepth_append, bracketDepth_getElem?]
  rfl

/-! ## Where a block ends -/

/-- Where a block ends whose brackets are first uneven behind line `p`: in front of a line
    that closes more than it opens, else with the line behind which they are level again. -/
def closingEnd (ls : List Line) (start p : Nat) : Nat :=
  if depthAt ls start p < 0 then max (p - 1) start
  else (firstIndex? (p + 1) ls.length fun i => depthAt ls start i ≤ 0).getD (ls.length - 1)

/-- Where a block ends, given the first line behind which its brackets are uneven and the
    first blank line. -/
def endBetween (ls : List Line) (start : Nat) : Option Nat → Option Nat → Nat
  | none, none => ls.length - 1
  | none, some blank => blank - 1
  | some p, none => closingEnd ls start p
  | some p, some blank => if blank < p then blank - 1 else closingEnd ls start p

/-- The first line from `lo` on behind which the brackets, counted from `start`, are not
    level. -/
def firstUneven? (ls : List Line) (start lo : Nat) : Option Nat :=
  firstIndex? lo ls.length fun i => depthAt ls start i ≠ 0

/-- The first blank line from `lo` on. -/
def firstBlank? (ls : List Line) (lo : Nat) : Option Nat :=
  firstIndex? lo ls.length fun i => Text.allBlank (ls.getD i [])

/-- Where the block that starts at line `start` ends, whatever the limit. -/
def blockEnd (ls : List Line) (start : Nat) : Nat :=
  endBetween ls start (firstUneven? ls start start) (firstBlank? ls (start + 1))

/-- A blank line in front of which the brackets are level comes before they are uneven. -/
theorem endBetween_of_blank_lt {uneven : Option Nat} (h : ∀ p ∈ uneven, k < p) :
    endBetween ls start uneven (some k) = k - 1 := by
  cases uneven with
  | none => rfl
  | some p => exact if_pos (h p rfl)

/-- A line behind which the brackets are uneven comes before all blank lines behind it. -/
theorem endBetween_of_lt_blank {blank : Option Nat} (h : ∀ b ∈ blank, k < b) :
    endBetween ls start (some k) blank = closingEnd ls start k := by
  cases blank with
  | none => rfl
  | some b => exact if_neg (Nat.lt_asymm (h b rfl))

theorem lt_of_mem_firstIndex?_succ (h : k ∈ firstIndex? (j + 1) hi test) : j < k :=
  (firstIndex?_eq_some_iff.mp h).1

theorem drop_eq_getD_cons (h : j < ls.length) :
    ls.drop j = ls.getD j [] :: ls.drop (j + 1) := by
  rw [List.drop_eq_getElem_cons h, List.getD_eq_getElem ls [] h]

/-- With a bracket open behind line `j`, the block takes the lines up to the one behind
    which the brackets are level again, or all. -/
theorem add_closingLength_drop (hs : start ≤ j) (hj : j < ls.length) :
    j + 1 + closingLength (depthAt ls start j) (ls.drop (j + 1))
      = (firstIndex? (j + 1) ls.length fun i => depthAt ls start i ≤ 0).getD (ls.length - 1)
        + 1 := by
  obtain ⟨n, hn⟩ := Nat.exists_eq_add_of_lt hj
  induction n generalizing j with
  | zero =>
      rw [firstIndex?_of_le (by omega), List.drop_of_length_le (by omega), closingLength]
      show j + 1 + 0 = ls.length - 1 + 1
      omega
  | succ n ih =>
      have hnext : j + 1 < ls.length := by omega
      have hrest := ih (by omega) hnext (by omega)
      rw [drop_eq_getD_cons hnext, closingLength, ← depthAt_succ hs,
        firstIndex?_of_lt hnext]
      by_cases hlevel : depthAt ls start (j + 1) ≤ 0
      · rw [if_pos hlevel, if_pos (decide_eq_true hlevel)]
        rfl
      · rw [if_neg hlevel, if_neg (by simpa using hlevel), ← hrest]
        omega

/-- A block goes on from a line that leaves no less open than it found. -/
theorem add_startedLength (hs : start ≤ j) (hj : j < ls.length)
    (hdepth : depthAt ls start j = Line.bracketBalance (ls.getD j []))
    (hstay : ¬ Line.bracketBalance (ls.getD j []) < 0)
    (hopening : depthAt ls start j = 0 → j + 1 + openingLength (ls.drop (j + 1))
      = endBetween ls start (firstUneven? ls start (j + 1)) (firstBlank? ls (j + 1)) + 1) :
    j + startedLength (ls.getD j []) (ls.drop (j + 1))
      = endBetween ls start (firstUneven? ls start j) (firstBlank? ls (j + 1)) + 1 := by
  rw [startedLength, firstUneven?, firstIndex?_of_lt hj, ← hdepth]
  rw [← hdepth] at hstay
  by_cases hopen : 0 < depthAt ls start j
  · have hne : depthAt ls start j ≠ 0 := by omega
    rw [if_pos hopen, if_pos (decide_eq_true hne), firstBlank?,
      endBetween_of_lt_blank fun b => lt_of_mem_firstIndex?_succ, closingEnd, if_neg hstay,
      ← add_closingLength_drop hs hj]
    omega
  · have hlevel : depthAt ls start j = 0 := by omega
    have hrest := hopening hlevel
    rw [if_neg hopen, if_neg (by simpa using hlevel)]
    rw [firstUneven?] at hrest
    omega

/-- While no bracket is open, the block takes the lines in front of the first blank one and
    of the first that closes more than it opens, or goes on from the first that opens. -/
theorem add_openingLength_drop (hs : start ≤ j) (hj : j < ls.length)
    (hlevel : depthAt ls start j = 0) :
    j + 1 + openingLength (ls.drop (j + 1))
      = endBetween ls start (firstUneven? ls start (j + 1)) (firstBlank? ls (j + 1)) + 1 := by
  obtain ⟨n, hn⟩ := Nat.exists_eq_add_of_lt hj
  induction n generalizing j with
  | zero =>
      rw [firstUneven?, firstBlank?, firstIndex?_of_le (by omega), firstIndex?_of_le (by omega),
        List.drop_of_length_le (by omega), openingLength]
      show j + 1 + 0 = ls.length - 1 + 1
      omega
  | succ n ih =>
      have hnext : j + 1 < ls.length := by omega
      have hdepth : depthAt ls start (j + 1) = Line.bracketBalance (ls.getD (j + 1) []) := by
        rw [depthAt_succ hs, hlevel, Int.zero_add]
      rw [drop_eq_getD_cons hnext, openingLength_cons, firstBlank?, firstIndex?_of_lt hnext]
      by_cases hblank : Text.allBlank (ls.getD (j + 1) []) = true
      · -- a blank line is level, so whatever is uneven comes behind it
        have hzero := Line.bracketBalance_of_allBlank hblank
        rw [hzero] at hdepth
        rw [if_pos (Or.inl hblank), if_pos hblank, firstUneven?, firstIndex?_of_lt hnext,
          if_neg (by simpa using hdepth),
          endBetween_of_blank_lt fun p => lt_of_mem_firstIndex?_succ]
        omega
      · rw [if_neg hblank]
        by_cases hclose : Line.bracketBalance (ls.getD (j + 1) []) < 0
        · have hne : depthAt ls start (j + 1) ≠ 0 := by omega
          rw [if_pos (Or.inr hclose), firstUneven?, firstIndex?_of_lt hnext,
            if_pos (decide_eq_true hne),
            endBetween_of_lt_blank fun b => lt_of_mem_firstIndex?_succ, closingEnd,
            if_pos (hdepth ▸ hclose)]
          omega
        · rw [if_neg (not_or.mpr ⟨hblank, hclose⟩)]
          exact add_startedLength (by omega) hnext hdepth hclose fun hlevel' =>
            ih (by omega) hnext hlevel' (by omega)

/-- A block that no limit cuts short ends where its brackets and blank lines say. -/
theorem add_blockLength_drop (hs : start < ls.length) :
    start + blockLength (ls.drop start) = blockEnd ls start + 1 := by
  have hdepth := depthAt_self ls start
  rw [drop_eq_getD_cons hs, blockLength_cons, blockEnd]
  by_cases hclose : Line.bracketBalance (ls.getD start []) < 0
  · have hne : depthAt ls start start ≠ 0 := by omega
    rw [if_pos hclose, firstUneven?, firstIndex?_of_lt hs, if_pos (decide_eq_true hne),
      firstBlank?, endBetween_of_lt_blank fun b => lt_of_mem_firstIndex?_succ, closingEnd,
      if_pos (hdepth ▸ hclose)]
    omega
  · rw [if_neg hclose]
    exact add_startedLength (Nat.le_refl start) hs hdepth hclose
      (add_openingLength_drop (Nat.le_refl start) hs)

/-- The limit only cuts this short. -/
theorem blockLast_eq_min (hs : start < ls.length) (limit : Nat) :
    blockLast ls start limit = min (blockEnd ls start) (start + max limit 1 - 1) := by
  have hend := add_blockLength_drop hs
  rw [blockLast_eq]
  omega

/-! ## The result -/

/-- **A block ends where its brackets and blank lines say, or where the limit cuts it.**
    The block from line `start` on ends in front of the first blank line behind it, if the
    brackets are level up to there.  Else it ends in front of the first line behind which
    they are not level, though not before it began, if that line closes more than it opens,
    and otherwise with the first line behind that one which brings them back to level or
    below.  Where there is no such line it takes all lines that are left.  The limit, of
    one line at least, does nothing but cut the block short, and the block ends within the
    lines. -/
theorem blockLast_eq_min_blockEnd (hs : start < ls.length) (limit : Nat) :
    blockLast ls start limit = min (blockEnd ls start) (start + max limit 1 - 1) ∧
      start ≤ blockLast ls start limit ∧ blockLast ls start limit < ls.length :=
  ⟨blockLast_eq_min hs limit, le_blockLast hs limit, blockLast_lt hs limit⟩

/-- A block with a blank line in it and another block behind it, cut short by one line. -/
theorem blockLast_eq_min_blockEnd_cut :
    2 < (Text.lines "a\n\nf(x, \x7b\n  b[\n\n  ]\n\x7d)\n\x7d".toList).length ∧
    blockEnd (Text.lines "a\n\nf(x, \x7b\n  b[\n\n  ]\n\x7d)\n\x7d".toList) 2 = 6 ∧
    blockLast (Text.lines "a\n\nf(x, \x7b\n  b[\n\n  ]\n\x7d)\n\x7d".toList) 2 4 = 5 := by
  have hs : 2 < (Text.lines "a\n\nf(x, \x7b\n  b[\n\n  ]\n\x7d)\n\x7d".toList).length := by decide
  have hend : blockEnd (Text.lines "a\n\nf(x, \x7b\n  b[\n\n  ]\n\x7d)\n\x7d".toList) 2 = 6 := by
    decide
  have hlast := (blockLast_eq_min_blockEnd hs 4).1
  rw [hend] at hlast
  exact ⟨hs, hend, hlast⟩

end BareCode
