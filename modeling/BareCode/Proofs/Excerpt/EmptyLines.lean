import BareCode.Proofs.Excerpt.Layout
/-! # Empty lines in a row — one more does not change an excerpt

    Two empty lines stand at the indices `n` and `n + 1`.  Without the second, every line
    behind them moves up by one (`squeeze`).  No excerpt begins or ends at the two: an
    empty line mentions nothing and encloses nothing, a block that has no bracket open
    ends in front of the first, and one that has ends behind the second
    (`CountsAround`).  So every index that is computed along the way is away from the two
    and moves along with its line, and the excerpts are the same but for the line that
    went (`excerpts_squeeze`).  What is written loses at most one of two empty lines in a
    row, behind the line that the excerpt begins with (`capLines_writtenLines_squeeze`). -/

namespace BareCode

open Text

variable {xs ys : List Line} {es : List Excerpt} {r r' : LineRange} {phrase : Text}
  {n i s limit : Nat}

/-! ## Indices -/

/-- Where the line at an index stands when the line behind index `n` goes. -/
def squeeze (n i : Nat) : Nat := if i ≤ n then i else i - 1

/-- The indices other than `n` and the one behind it. -/
def AwayFrom (n i : Nat) : Prop := i < n ∨ n + 1 < i

/-- A range whose lines move along when the line behind index `n` goes. -/
def LineRange.squeeze (n : Nat) (r : LineRange) : LineRange :=
  ⟨BareCode.squeeze n r.first, BareCode.squeeze n r.last⟩

/-- A range that neither begins nor ends at `n` or behind it. -/
def LineRange.AwayFrom (n : Nat) (r : LineRange) : Prop :=
  BareCode.AwayFrom n r.first ∧ BareCode.AwayFrom n r.last

/-- An excerpt whose lines move along when the line behind index `n` goes. -/
def Excerpt.squeeze (n : Nat) (e : Excerpt) : Excerpt :=
  ⟨BareCode.squeeze n e.line, e.range.squeeze n⟩

theorem squeeze_lt_squeeze_iff {j : Nat} (h : AwayFrom n i ∨ AwayFrom n j) :
    squeeze n i < squeeze n j ↔ i < j := by
  rw [AwayFrom, AwayFrom] at h
  rw [squeeze, squeeze]
  split
  · split
    · omega
    · omega
  · split
    · omega
    · omega

/-- The order of indices stays when one of them is away from the two lines. -/
theorem squeeze_le_squeeze_iff {j : Nat} (h : AwayFrom n i ∨ AwayFrom n j) :
    squeeze n i ≤ squeeze n j ↔ i ≤ j := by
  rw [← Nat.not_lt, squeeze_lt_squeeze_iff h.symm, Nat.not_lt]

/-- Every index is one to which some line moves. -/
theorem exists_squeeze_eq (n i : Nat) : ∃ j, squeeze n j = i := by
  by_cases h : i ≤ n
  · exact ⟨i, if_pos h⟩
  · refine ⟨i + 1, ?_⟩
    rw [squeeze, if_neg (by omega)]
    rfl

/-- The line at an index moves along. -/
theorem getD_squeeze (xs ys : List Line) (i : Nat) :
    (xs ++ [] :: ys).getD (squeeze xs.length i) [] = (xs ++ [] :: [] :: ys).getD i [] := by
  rw [List.getD_eq_getElem?_getD, List.getD_eq_getElem?_getD, squeeze]
  rcases Nat.lt_trichotomy i xs.length with h | h | h
  · rw [if_pos (Nat.le_of_lt h), List.getElem?_append_left h, List.getElem?_append_left h]
  · rw [if_pos (Nat.le_of_eq h), List.getElem?_append_right (Nat.le_of_eq h.symm),
      List.getElem?_append_right (Nat.le_of_eq h.symm), h, Nat.sub_self]
    rfl
  · obtain ⟨k, rfl⟩ := Nat.exists_eq_add_of_lt h
    have h1 : xs.length + k + 1 - 1 - xs.length = k := by omega
    have h2 : xs.length + k + 1 - xs.length = k + 1 := by omega
    rw [if_neg (by omega), List.getElem?_append_right (by omega),
      List.getElem?_append_right (by omega), h1, h2]
    rfl

theorem getD_of_not_awayFrom (h : ¬ AwayFrom xs.length i) :
    (xs ++ [] :: [] :: ys).getD i [] = [] := by
  rw [AwayFrom] at h
  have hi : i = xs.length ∨ i = xs.length + 1 := by omega
  rw [List.getD_eq_getElem?_getD]
  rcases hi with rfl | rfl
  · simp
  · simp

/-- An empty line encloses none. -/
theorem awayFrom_of_encloses
    (h : Line.encloses ((xs ++ [] :: [] :: ys).getD i []) n = true) : AwayFrom xs.length i := by
  by_contra hno
  rw [getD_of_not_awayFrom hno] at h
  exact Bool.noConfusion h

/-! ## Which lines mention the phrase -/

theorem mentionsAt_append (phrase : Text) (xs ys : List Line) :
    mentionsAt phrase (xs ++ ys)
      = mentionsAt phrase xs ++ (mentionsAt phrase ys).map (· + xs.length) := by
  rw [mentionsAt, mentionsAt, mentionsAt, List.zipIdx_append, List.filter_append, List.map_append,
    Nat.zero_add, List.zipIdx_eq_map_add (l := ys), List.filter_map, List.map_map, List.map_map]
  refine congrArg _ (List.map_congr_left fun x _ => ?_)
  exact Nat.add_comm xs.length x.2

/-- An empty line mentions nothing. -/
theorem not_mentions_empty (hne : phrase ≠ []) : (lower []).mentions phrase = false := by
  refine Bool.eq_false_iff.mpr fun h => hne ?_
  exact List.infix_nil.mp (mentions_iff.mp h)

theorem mentionsAt_empty_cons (hne : phrase ≠ []) (ys : List Line) :
    mentionsAt phrase ([] :: ys) = (mentionsAt phrase ys).map (· + 1) := by
  have hnone : mentionsAt phrase [[]] = [] := by
    refine List.eq_nil_iff_forall_not_mem.mpr fun i hi => ?_
    obtain ⟨l, hl, hm⟩ := mem_mentionsAt.mp hi
    obtain rfl : l = [] := List.mem_singleton.mp (List.mem_of_getElem? hl)
    rw [not_mentions_empty hne] at hm
    exact Bool.noConfusion hm
  have happ := mentionsAt_append phrase [[]] ys
  rwa [hnone] at happ

/-- The lines that mention the phrase move along. -/
theorem mentionsAt_squeeze (hne : phrase ≠ []) (xs ys : List Line) :
    mentionsAt phrase (xs ++ [] :: ys)
      = (mentionsAt phrase (xs ++ [] :: [] :: ys)).map (squeeze xs.length) := by
  rw [mentionsAt_append, mentionsAt_append, mentionsAt_empty_cons hne, mentionsAt_empty_cons hne,
    mentionsAt_empty_cons hne, List.map_append, List.map_map, List.map_map, List.map_map,
    List.map_map]
  have hfront : (mentionsAt phrase xs).map (squeeze xs.length) = mentionsAt phrase xs := by
    refine (List.map_congr_left fun i hi => ?_).trans (List.map_id _)
    exact if_pos (Nat.le_of_lt (lt_length_of_mem_mentionsAt hi))
  rw [hfront]
  refine congrArg _ (List.map_congr_left fun i _ => ?_)
  show i + 1 + xs.length = squeeze xs.length (i + 1 + 1 + xs.length)
  rw [squeeze, if_neg (by omega)]
  omega

theorem awayFrom_of_mem_mentionsAt (hne : phrase ≠ [])
    (h : i ∈ mentionsAt phrase (xs ++ [] :: [] :: ys)) : AwayFrom xs.length i := by
  obtain ⟨l, hl, hm⟩ := mem_mentionsAt.mp h
  by_contra hno
  have hempty : (xs ++ [] :: [] :: ys).getD i [] = [] := getD_of_not_awayFrom hno
  rw [List.getD_eq_getElem?_getD, hl] at hempty
  obtain rfl : l = [] := hempty
  rw [not_mentions_empty hne] at hm
  exact Bool.noConfusion hm

/-! ## Which line encloses -/

/-- The line that encloses another moves along. -/
theorem encloser?_squeeze (hi : AwayFrom xs.length i) (hlt : i < (xs ++ [] :: [] :: ys).length) :
    encloser? (xs ++ [] :: ys) (squeeze xs.length i)
      = (encloser? (xs ++ [] :: [] :: ys) i).map (squeeze xs.length) := by
  have hlen : squeeze xs.length i ≤ (xs ++ [] :: ys).length := by
    simp only [List.length_append, List.length_cons] at hlt ⊢
    rw [squeeze]
    split
    · omega
    · omega
  refine Option.ext fun t => ?_
  rw [encloser?_eq_some_iff hlen, Option.map_eq_some_iff]
  simp only [encloser?_eq_some_iff (Nat.le_of_lt hlt), getD_squeeze]
  constructor
  · rintro ⟨hsi, hs, hnear⟩
    obtain ⟨s, rfl⟩ := exists_squeeze_eq xs.length t
    rw [getD_squeeze] at hs
    have haway := awayFrom_of_encloses hs
    refine ⟨s, ⟨(squeeze_lt_squeeze_iff (Or.inr hi)).mp hsi, hs, fun k hk hki => ?_⟩, rfl⟩
    rw [← getD_squeeze]
    exact hnear _ ((squeeze_lt_squeeze_iff (Or.inl haway)).mpr hk)
      ((squeeze_lt_squeeze_iff (Or.inr hi)).mpr hki)
  · rintro ⟨s, ⟨hsi, hs, hnear⟩, rfl⟩
    have haway := awayFrom_of_encloses hs
    refine ⟨(squeeze_lt_squeeze_iff (Or.inr hi)).mpr hsi, ?_, fun k hk hki => ?_⟩
    · rw [getD_squeeze]
      exact hs
    · obtain ⟨k, rfl⟩ := exists_squeeze_eq xs.length k
      rw [getD_squeeze]
      exact hnear k ((squeeze_lt_squeeze_iff (Or.inl haway)).mp hk)
        ((squeeze_lt_squeeze_iff (Or.inr hi)).mp hki)

/-! ## Which blocks are covered -/

theorem covers_squeeze (h : r.AwayFrom n) (r' : LineRange) :
    (r.squeeze n).covers (r'.squeeze n) = r.covers r' := by
  rw [Bool.eq_iff_iff, covers_iff, covers_iff]
  exact and_congr (squeeze_le_squeeze_iff (Or.inl h.1)) (squeeze_le_squeeze_iff (Or.inr h.2))

/-- The blocks that are taken move along. -/
theorem dropCovered_squeeze {taken : List LineRange} (htaken : ∀ r ∈ taken, r.AwayFrom n)
    (hes : ∀ e ∈ es, e.range.AwayFrom n) :
    dropCovered (taken.map (LineRange.squeeze n)) (es.map (Excerpt.squeeze n))
      = (dropCovered taken es).map (Excerpt.squeeze n) := by
  induction es generalizing taken with
  | nil => rfl
  | cons e es ih =>
      have hes' : ∀ e' ∈ es, e'.range.AwayFrom n :=
        fun e' he' => hes e' (List.mem_cons_of_mem e he')
      have hany : (taken.map (LineRange.squeeze n)).any (·.covers (Excerpt.squeeze n e).range)
          = taken.any (·.covers e.range) := by
        rw [List.any_map, Bool.eq_iff_iff, List.any_eq_true, List.any_eq_true]
        refine exists_congr fun r => and_congr_right fun hr => ?_
        rw [Function.comp, Excerpt.squeeze, covers_squeeze (htaken r hr)]
      have htaken' : ∀ r ∈ e.range :: taken, r.AwayFrom n := by
        intro r hr
        rcases List.mem_cons.mp hr with rfl | hr
        · exact hes e List.mem_cons_self
        · exact htaken r hr
      rw [List.map_cons, dropCovered, dropCovered]
      by_cases hcovered : taken.any (·.covers e.range) = true
      · rw [if_pos hcovered, if_pos (hany.trans hcovered)]
        exact ih htaken hes'
      · rw [if_neg hcovered, if_neg (hany ▸ hcovered)]
        exact congrArg (Excerpt.squeeze n e :: ·) (ih htaken' hes')

/-! ## Where a block ends -/

/-- Lines are counted alike with the second empty line and without, if the count stops in
    front of both or goes on behind them. -/
def CountsAround (n short long : Nat) : Prop :=
  long ≤ n ∧ short = long ∨ n + 2 < long ∧ short + 1 = long

theorem CountsAround.succ {short long : Nat} (h : CountsAround n short long) :
    CountsAround (n + 1) (1 + short) (1 + long) := by
  rw [CountsAround] at h ⊢
  omega

theorem CountsAround.of_le {k : Nat} (h : k ≤ n) : CountsAround n k k := Or.inl ⟨h, rfl⟩

theorem closingLength_pos {ls : List Line} (depth : Int) (h : ls ≠ []) :
    0 < closingLength depth ls := by
  obtain ⟨l, ls, rfl⟩ := List.exists_cons_of_ne_nil h
  rw [closingLength]
  split
  · omega
  · omega

/-- A block that has a bracket open goes on through empty lines. -/
theorem closingLength_empty {depth : Int} (h : 0 < depth) (ls : List Line) :
    closingLength depth ([] :: ls) = 1 + closingLength depth ls := by
  have hdepth : depth + Line.bracketBalance [] = depth := Int.add_zero depth
  rw [closingLength, hdepth, if_neg (by omega)]

theorem countsAround_closingLength {depth : Int} (hdepth : 0 < depth) (hys : ys ≠ [])
    (xs : List Line) :
    CountsAround xs.length (closingLength depth (xs ++ [] :: ys))
      (closingLength depth (xs ++ [] :: [] :: ys)) := by
  induction xs generalizing depth with
  | nil =>
      have := closingLength_pos depth hys
      rw [List.nil_append, List.nil_append, closingLength_empty hdepth, closingLength_empty hdepth,
        closingLength_empty hdepth]
      refine Or.inr ⟨?_, ?_⟩
      · rw [List.length_nil]
        omega
      · omega
  | cons l xs ih =>
      rw [List.cons_append, List.cons_append, closingLength, closingLength, List.length_cons]
      by_cases h : depth + l.bracketBalance ≤ 0
      · rw [if_pos h, if_pos h]
        exact CountsAround.of_le (Nat.le_add_left 1 _)
      · rw [if_neg h, if_neg h]
        exact (ih (by omega)).succ

theorem countsAround_openingLength (hys : ys ≠ []) (xs : List Line) :
    CountsAround xs.length (openingLength (xs ++ [] :: ys))
      (openingLength (xs ++ [] :: [] :: ys)) := by
  induction xs with
  | nil => exact CountsAround.of_le (Nat.le_refl 0)
  | cons l xs ih =>
      rw [List.cons_append, List.cons_append, openingLength, openingLength, List.length_cons]
      split
      · exact CountsAround.of_le (Nat.zero_le _)
      · by_cases h : 0 < l.bracketBalance
        · rw [if_pos h, if_pos h]
          exact (countsAround_closingLength h hys xs).succ
        · rw [if_neg h, if_neg h]
          exact ih.succ

/-- A block ends in front of the two empty lines or goes on behind them. -/
theorem countsAround_blockLength (hys : ys ≠ []) (hxs : xs ≠ []) :
    CountsAround xs.length (blockLength (xs ++ [] :: ys))
      (blockLength (xs ++ [] :: [] :: ys)) := by
  obtain ⟨l, xs, rfl⟩ := List.exists_cons_of_ne_nil hxs
  rw [List.cons_append, List.cons_append, blockLength, blockLength, List.length_cons]
  split
  · exact CountsAround.of_le (Nat.le_add_left 1 _)
  · by_cases h : 0 < l.bracketBalance
    · rw [if_pos h, if_pos h]
      exact (countsAround_closingLength h hys xs).succ
    · rw [if_neg h, if_neg h]
      exact (countsAround_openingLength hys xs).succ

/-- Behind the two empty lines the lines are the same. -/
theorem drop_squeeze (h : xs.length + 1 < s) :
    (xs ++ [] :: ys).drop (s - 1) = (xs ++ [] :: [] :: ys).drop s := by
  obtain ⟨k, rfl⟩ := Nat.exists_eq_add_of_lt h
  have h1 : xs.length + 1 + k + 1 - 1 = xs.length + (k + 1) := by omega
  have h2 : xs.length + 1 + k + 1 = xs.length + (k + 2) := by omega
  rw [h1, h2, List.drop_length_add_append, List.drop_length_add_append]
  rfl

/-- If all lines fit the limit, it cuts no block short. -/
theorem blockLast_of_length_le {ls : List Line} (h : ls.length ≤ limit) (s : Nat) :
    blockLast ls s limit = s + blockLength (ls.drop s) - 1 := by
  rw [blockLast, List.take_of_length_le]
  rw [List.length_drop]
  omega

/-! ## Which excerpts there are -/

section Excerpts

variable (hys : ys ≠ []) (hlimit : (xs ++ [] :: [] :: ys).length ≤ limit)

include hys hlimit

/-- The last line of a block is away from the two empty lines and moves along. -/
theorem blockLast_squeeze (hs : AwayFrom xs.length s) (hlt : s < (xs ++ [] :: [] :: ys).length) :
    AwayFrom xs.length (blockLast (xs ++ [] :: [] :: ys) s limit) ∧
      blockLast (xs ++ [] :: ys) (squeeze xs.length s) limit
        = squeeze xs.length (blockLast (xs ++ [] :: [] :: ys) s limit) := by
  have hlimit' : (xs ++ [] :: ys).length ≤ limit := by
    simp only [List.length_append, List.length_cons] at hlimit ⊢
    omega
  have hpos : 0 < blockLength ((xs ++ [] :: [] :: ys).drop s) :=
    blockLength_pos fun h => by
      have := List.drop_eq_nil_iff.mp h
      omega
  rw [blockLast_of_length_le hlimit, blockLast_of_length_le hlimit', AwayFrom, squeeze, squeeze]
  rcases hs with hs | hs
  · have hne : xs.drop s ≠ [] := fun h => by
      have := List.drop_eq_nil_iff.mp h
      omega
    have hcount := countsAround_blockLength hys hne
    rw [CountsAround, List.length_drop] at hcount
    rw [if_pos (by omega)]
    rw [List.drop_append_of_le_length (by omega)] at hpos ⊢
    rw [List.drop_append_of_le_length (by omega)]
    split
    · omega
    · omega
  · rw [if_neg (by omega), drop_squeeze hs, if_neg (by omega)]
    omega

/-- The range around a line is away from the two empty lines and moves along. -/
theorem rangeAround_squeeze (hi : AwayFrom xs.length i)
    (hlt : i < (xs ++ [] :: [] :: ys).length) :
    (rangeAround limit (xs ++ [] :: [] :: ys) i).AwayFrom xs.length ∧
      rangeAround limit (xs ++ [] :: ys) (squeeze xs.length i)
        = (rangeAround limit (xs ++ [] :: [] :: ys) i).squeeze xs.length := by
  rw [rangeAround, rangeAround, getD_squeeze]
  split
  · obtain ⟨haway, hmove⟩ := blockLast_squeeze hys hlimit hi hlt
    rw [hmove]
    exact ⟨⟨hi, haway⟩, rfl⟩
  · rw [encloser?_squeeze hi hlt]
    cases hs : encloser? (xs ++ [] :: [] :: ys) i with
    | none => exact ⟨⟨hi, hi⟩, rfl⟩
    | some s =>
        obtain ⟨hsi, hencloses, -⟩ := (encloser?_eq_some_iff (Nat.le_of_lt hlt)).mp hs
        have hsaway := awayFrom_of_encloses hencloses
        obtain ⟨haway, hmove⟩ := blockLast_squeeze hys hlimit hsaway (Nat.lt_trans hsi hlt)
        dsimp only [Option.map_some]
        rw [hmove]
        by_cases hreach : i ≤ blockLast (xs ++ [] :: [] :: ys) s limit
        · rw [if_pos hreach, if_pos ((squeeze_le_squeeze_iff (Or.inl hi)).mpr hreach)]
          exact ⟨⟨hsaway, haway⟩, rfl⟩
        · rw [if_neg hreach, if_neg fun h => hreach ((squeeze_le_squeeze_iff (Or.inl hi)).mp h)]
          exact ⟨⟨hi, hi⟩, rfl⟩

/-- An excerpt is away from the two empty lines. -/
theorem awayFrom_of_mem_excerpts (hne : phrase ≠ []) {e : Excerpt}
    (he : e ∈ excerpts limit phrase (xs ++ [] :: [] :: ys)) : e.range.AwayFrom xs.length := by
  obtain ⟨hmention, hrange⟩ := of_mem_excerpts he
  rw [hrange]
  exact (rangeAround_squeeze hys hlimit (awayFrom_of_mem_mentionsAt (lower_ne_nil hne) hmention)
    (lt_length_of_mem_mentionsAt hmention)).1

/-- The excerpts move along. -/
theorem excerpts_squeeze (hne : phrase ≠ []) :
    excerpts limit phrase (xs ++ [] :: ys)
      = (excerpts limit phrase (xs ++ [] :: [] :: ys)).map (Excerpt.squeeze xs.length) := by
  have hrange : ∀ i ∈ mentionsAt phrase.lower (xs ++ [] :: [] :: ys),
      (rangeAround limit (xs ++ [] :: [] :: ys) i).AwayFrom xs.length ∧
        rangeAround limit (xs ++ [] :: ys) (squeeze xs.length i)
          = (rangeAround limit (xs ++ [] :: [] :: ys) i).squeeze xs.length := by
    intro i hi
    exact rangeAround_squeeze hys hlimit (awayFrom_of_mem_mentionsAt (lower_ne_nil hne) hi)
      (lt_length_of_mem_mentionsAt hi)
  have hes : ∀ e ∈ (mentionsAt phrase.lower (xs ++ [] :: [] :: ys)).map fun i =>
      Excerpt.mk i (rangeAround limit (xs ++ [] :: [] :: ys) i), e.range.AwayFrom xs.length := by
    intro e he
    obtain ⟨i, hi, rfl⟩ := List.mem_map.mp he
    exact (hrange i hi).1
  have hnone : ∀ r ∈ ([] : List LineRange), r.AwayFrom xs.length := fun r hr => nomatch hr
  rw [excerpts, excerpts, ← dropCovered_squeeze hnone hes,
    mentionsAt_squeeze (lower_ne_nil hne), List.map_map, List.map_map]
  refine congrArg (dropCovered []) (List.map_congr_left fun i hi => ?_)
  exact congrArg (Excerpt.mk _) (hrange i hi).2

end Excerpts

/-! ## What is written -/

/-- A range away from the two empty lines holds both, behind its first line and in front of
    its last, or none. -/
theorem slice_squeeze (hr : r.AwayFrom xs.length) (hle : r.first ≤ r.last)
    (hlast : r.last < (xs ++ [] :: [] :: ys).length) :
    (r.squeeze xs.length).slice (xs ++ [] :: ys) = r.slice (xs ++ [] :: [] :: ys) ∨
      ∃ p q, p ≠ [] ∧ q ≠ [] ∧ r.slice (xs ++ [] :: [] :: ys) = p ++ [] :: [] :: q ∧
        (r.squeeze xs.length).slice (xs ++ [] :: ys) = p ++ [] :: q := by
  obtain ⟨first, last⟩ := r
  obtain ⟨hfirst, hend⟩ := hr
  simp only [AwayFrom, List.length_append, List.length_cons] at hfirst hend hle hlast
  simp only [LineRange.squeeze, LineRange.slice]
  rcases hfirst with hfirst | hfirst
  · have hdrop : ∀ zs, (xs ++ zs).drop first = xs.drop first ++ zs := fun zs =>
      List.drop_append_of_le_length (Nat.le_of_lt hfirst)
    have hlen : (xs.drop first).length = xs.length - first := List.length_drop
    have hsame : squeeze xs.length first = first := if_pos (Nat.le_of_lt hfirst)
    rw [hsame, hdrop, hdrop]
    rcases hend with hend | hend
    · left
      have hsame' : squeeze xs.length last = last := if_pos (Nat.le_of_lt hend)
      rw [hsame', List.take_append_of_le_length (by omega),
        List.take_append_of_le_length (by omega)]
    · right
      obtain ⟨k, rfl⟩ := Nat.exists_eq_add_of_lt hend
      have hmove : squeeze xs.length (xs.length + 1 + k + 1) = xs.length + 1 + k :=
        if_neg (by omega)
      refine ⟨xs.drop first, ys.take (k + 1), ?_, ?_, ?_, ?_⟩
      · exact List.ne_nil_of_length_pos (by omega)
      · refine List.ne_nil_of_length_pos ?_
        rw [List.length_take]
        omega
      · have htake : xs.length + 1 + k + 1 + 1 - first = (xs.drop first).length + (k + 3) := by
          omega
        rw [htake, List.take_length_add_append]
        rfl
      · have htake : xs.length + 1 + k + 1 - first = (xs.drop first).length + (k + 2) := by omega
        rw [hmove, htake, List.take_length_add_append]
        rfl
  · left
    have hmove : squeeze xs.length first = first - 1 := if_neg (by omega)
    have hmove' : squeeze xs.length last = last - 1 := if_neg (by omega)
    have htake : last - 1 + 1 - (first - 1) = last + 1 - first := by omega
    rw [hmove, hmove', drop_squeeze hfirst, htake]

/-- Where each of several pieces can be exchanged, all of them can. -/
theorem capLines_flatMap_congr {f g : Excerpt → List Line}
    (h : ∀ e ∈ es, ∀ p q, capLines 0 (p ++ (f e ++ q)) = capLines 0 (p ++ (g e ++ q)))
    (p : List Line) : capLines 0 (p ++ es.flatMap f) = capLines 0 (p ++ es.flatMap g) := by
  induction es generalizing p with
  | nil => rfl
  | cons e es ih =>
      have hrest := ih (fun e' he' => h e' (List.mem_cons_of_mem e he')) (p ++ g e)
      rw [List.append_assoc, List.append_assoc] at hrest
      rw [List.flatMap_cons, List.flatMap_cons, h e List.mem_cons_self, hrest]

/-- What is written loses at most one of two empty lines in a row. -/
theorem capLines_writtenLines_squeeze (hys : ys ≠ [])
    (hlimit : (xs ++ [] :: [] :: ys).length ≤ limit) (hne : phrase ≠ []) :
    capLines 0 (writtenLines (xs ++ [] :: [] :: ys)
        (excerpts limit phrase (xs ++ [] :: [] :: ys)))
      = capLines 0 (writtenLines (xs ++ [] :: ys) (excerpts limit phrase (xs ++ [] :: ys))) := by
  rw [excerpts_squeeze hys hlimit hne, writtenLines, writtenLines, List.flatMap_map]
  refine capLines_flatMap_congr (fun e he p q => ?_) []
  have haway := awayFrom_of_mem_excerpts hys hlimit hne he
  obtain ⟨hfirst, hlast, hend, -⟩ := range_of_mem_excerpts he
  rcases slice_squeeze haway (Nat.le_trans hfirst hlast) hend with
    hsame | ⟨a, b, ha, hb, hlong, hshort⟩
  · rw [Excerpt.squeeze, hsame]
  · rw [Excerpt.squeeze, hlong, hshort]
    have hdrop : capLines 0 ((p ++ a) ++ [] :: [] :: (b ++ ([[]] ++ q)))
        = capLines 0 ((p ++ a) ++ [] :: (b ++ ([[]] ++ q))) :=
      capLines_append_two_empty (Or.inl (by simp [ha])) (by simp [hb])
    simpa using hdrop

end BareCode
