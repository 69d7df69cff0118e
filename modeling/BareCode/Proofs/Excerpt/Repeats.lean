import BareCode.Proofs.Excerpt.Selection
/-! # Repeats — when two excerpts show the same line

    An excerpt is left out when it lies in one taken before, and nothing else is compared.
    So a line is shown twice when a range comes up that shares it with an earlier one and
    lies in none of them.

    A range is determined by its first line (`rangeAround_eq_rangeFrom`), and ranges nest
    unless the limit cuts the outer one short (`rangeFrom_nest`): a range that has as many
    lines as the limit allows is cut only if its block has more.  That leaves two ways to
    share a line without being left out (`rangeAround_meet`): the later range starts
    further up, since it is the block of the line that encloses its own, and so takes the
    earlier one in; or it starts within a range that the limit cut.

    Among the lines that mention the phrase, the ones that are asked for first are the ones
    taken (`mem_excerpts_iff`), so whether a line is shown twice is decided by the ranges
    around those lines alone (`focusExcerpts_repeat`). -/

namespace BareCode

open Text

variable {taken : List LineRange} {es : List Excerpt} {e : Excerpt} {r r' : LineRange}
  {ls : List Line} {i j k a b limit : Nat} {phrase t : Text}

/-! ## Which ranges are taken -/

theorem pairwise_line_excerpts (limit : Nat) (phrase : Text) (ls : List Line) :
    (excerpts limit phrase ls).Pairwise fun a b => a.line < b.line :=
  (pairwise_line_asked limit phrase.lower ls).sublist (dropCovered_sublist [] _)

/-- In a list that is ordered by lines, a relation holds from front to back if it holds
    from each line to those below. -/
theorem pairwise_iff_of_pairwise_line {R : Excerpt → Excerpt → Prop}
    (hes : es.Pairwise fun a b => a.line < b.line) :
    es.Pairwise R ↔ ∀ a ∈ es, ∀ b ∈ es, a.line < b.line → R a b := by
  constructor
  · intro h
    induction es with
    | nil => exact fun a ha => nomatch ha
    | cons e es ih =>
        obtain ⟨hline, hes⟩ := List.pairwise_cons.mp hes
        obtain ⟨hR, h⟩ := List.pairwise_cons.mp h
        intro a ha b hb hab
        rcases List.mem_cons.mp ha with rfl | ha'
        · rcases List.mem_cons.mp hb with rfl | hb
          · exact absurd hab (Nat.lt_irrefl _)
          · exact hR b hb
        · rcases List.mem_cons.mp hb with rfl | hb
          · exact absurd (hline a ha') (Nat.lt_asymm hab)
          · exact ih hes h a ha' b hb hab
  · intro h
    exact hes.imp_of_mem fun ha hb hab => h _ ha _ hb hab

theorem LineRange.covers_trans {r₁ r₂ r₃ : LineRange} (h : r₁.covers r₂ = true)
    (h' : r₂.covers r₃ = true) : r₁.covers r₃ = true := by
  obtain ⟨hf, hl⟩ := covers_iff.mp h
  obtain ⟨hf', hl'⟩ := covers_iff.mp h'
  exact covers_iff.mpr ⟨Nat.le_trans hf hf', Nat.le_trans hl' hl⟩

/-- Of some excerpts those are taken that lie in no range taken before and in none that an
    earlier one asks for. -/
theorem mem_dropCovered_iff (hes : es.Pairwise fun a b => a.line < b.line) :
    e ∈ dropCovered taken es ↔
      e ∈ es ∧ (∀ r ∈ taken, r.covers e.range = false) ∧
        ∀ e' ∈ es, e'.line < e.line → e'.range.covers e.range = false := by
  fun_induction dropCovered taken es with
  | case1 => simp
  | case2 taken e₀ es h ih =>
      obtain ⟨hline, hes⟩ := List.pairwise_cons.mp hes
      obtain ⟨r, hr, hcov⟩ := List.any_eq_true.mp h
      rw [ih hes]
      constructor
      · rintro ⟨he, hfree, hbefore⟩
        refine ⟨List.mem_cons_of_mem e₀ he, hfree, fun e' he' hlt => ?_⟩
        rcases List.mem_cons.mp he' with rfl | he'
        · -- what lies in the one left out lies in the range it was left out for
          refine Bool.eq_false_iff.mpr fun hcov' => ?_
          have := hfree r hr
          rw [LineRange.covers_trans hcov hcov'] at this
          exact Bool.noConfusion this
        · exact hbefore e' he' hlt
      · rintro ⟨he, hfree, hbefore⟩
        rcases List.mem_cons.mp he with rfl | he
        · rw [hfree r hr] at hcov
          exact Bool.noConfusion hcov
        · exact ⟨he, hfree, fun e' he' => hbefore e' (List.mem_cons_of_mem e₀ he')⟩
  | case3 taken e₀ es h ih =>
      obtain ⟨hline, hes⟩ := List.pairwise_cons.mp hes
      rw [List.mem_cons, ih hes]
      constructor
      · rintro (rfl | ⟨he, hfree, hbefore⟩)
        · refine ⟨List.mem_cons_self, fun r hr => ?_, fun e' he' hlt => ?_⟩
          · exact Bool.eq_false_iff.mpr fun hcov => h (List.any_eq_true.mpr ⟨r, hr, hcov⟩)
          · rcases List.mem_cons.mp he' with rfl | he'
            · exact absurd hlt (Nat.lt_irrefl _)
            · exact absurd (hline e' he') (Nat.lt_asymm hlt)
        · refine ⟨List.mem_cons_of_mem e₀ he, fun r hr => hfree r (List.mem_cons_of_mem _ hr),
            fun e' he' hlt => ?_⟩
          rcases List.mem_cons.mp he' with rfl | he'
          · exact hfree _ List.mem_cons_self
          · exact hbefore e' he' hlt
      · rintro ⟨he, hfree, hbefore⟩
        rcases List.mem_cons.mp he with rfl | he
        · exact Or.inl rfl
        · refine Or.inr ⟨he, fun r hr => ?_, fun e' he' =>
            hbefore e' (List.mem_cons_of_mem e₀ he')⟩
          rcases List.mem_cons.mp hr with rfl | hr
          · exact hbefore e₀ List.mem_cons_self (hline e he)
          · exact hfree r hr

/-- The excerpts are the ranges around the lines that mention the phrase, less those that
    lie in the range around such a line further up. -/
theorem mem_excerpts_iff :
    e ∈ excerpts limit phrase ls ↔
      e.line ∈ mentionsAt phrase.lower ls ∧ e.range = rangeAround limit ls e.line ∧
        ∀ i ∈ mentionsAt phrase.lower ls, i < e.line →
          (rangeAround limit ls i).covers e.range = false := by
  rw [excerpts, mem_dropCovered_iff (pairwise_line_asked limit phrase.lower ls)]
  constructor
  · rintro ⟨he, -, hbefore⟩
    obtain ⟨j, hj, rfl⟩ := List.mem_map.mp he
    exact ⟨hj, rfl, fun i hi hij => hbefore _ (List.mem_map.mpr ⟨i, hi, rfl⟩) hij⟩
  · rintro ⟨hmention, hrange, hbefore⟩
    refine ⟨List.mem_map.mpr ⟨e.line, hmention, ?_⟩, (fun r hr => nomatch hr),
      fun e' he' hlt => ?_⟩
    · rw [← hrange]
    · obtain ⟨i, hi, rfl⟩ := List.mem_map.mp he'
      exact hbefore i hi hlt

/-! ## Which ranges share a line -/

/-- The range of the block that a line starts, or of the line alone if it declares
    nothing. -/
def rangeFrom (limit : Nat) (ls : List Line) (s : Nat) : LineRange :=
  if Line.declares (ls.getD s []) then ⟨s, blockLast ls s limit⟩ else ⟨s, s⟩

/-- Whether the limit cuts a range short: it has all the lines that the limit allows, and
    the block that starts with its first line has more. -/
def LineRange.CutShort (limit : Nat) (ls : List Line) (r : LineRange) : Prop :=
  r.last + 1 = r.first + max limit 1 ∧ max limit 1 < blockLength (ls.drop r.first)

instance (limit : Nat) (ls : List Line) (r : LineRange) : Decidable (r.CutShort limit ls) :=
  inferInstanceAs (Decidable (_ ∧ _))

/-- A block that ends where the limit would end it is not cut. -/
example : rangeAround 2 ["f() \x7b".toList, "\x7d".toList, "x".toList] 0 = ⟨0, 1⟩ ∧
    ¬ LineRange.CutShort 2 ["f() \x7b".toList, "\x7d".toList, "x".toList] ⟨0, 1⟩ := by
  decide

/-- The range around a line starts with the line and is the range from there, or it is the
    block of the line that encloses it. -/
theorem rangeAround_eq_rangeFrom (hi : i < ls.length) (limit : Nat) :
    rangeAround limit ls i = rangeFrom limit ls (rangeAround limit ls i).first ∧
      ((rangeAround limit ls i).first = i ∨
        Line.declares (ls.getD i []) = false ∧
          encloser? ls i = some (rangeAround limit ls i).first ∧
          (rangeAround limit ls i).last = blockLast ls (rangeAround limit ls i).first limit) := by
  rcases rangeAround_cases limit ls i with ⟨hdecl, h⟩ | ⟨s, hdecl, hs, -, h⟩ | ⟨hdecl, -, h⟩
  · rw [h]
    exact ⟨(if_pos hdecl).symm, Or.inl rfl⟩
  · have hs' := ((encloser?_eq_some_iff (Nat.le_of_lt hi)).mp hs).2.1
    rw [Line.encloses, Bool.and_eq_true] at hs'
    rw [h]
    exact ⟨(if_pos hs'.2).symm, Or.inr ⟨hdecl, hs, rfl⟩⟩
  · rw [h]
    exact ⟨(if_neg (Bool.eq_false_iff.mp hdecl)).symm, Or.inl rfl⟩

/-- A range that starts within another ends within it, unless the limit cuts the other
    short. -/
theorem rangeFrom_nest (ha : a < ls.length) (hab : a ≤ b) (hb : b ≤ (rangeFrom limit ls a).last) :
    (rangeFrom limit ls b).last ≤ (rangeFrom limit ls a).last ∨
      (rangeFrom limit ls a).CutShort limit ls := by
  rw [rangeFrom] at hb
  rw [rangeFrom, rangeFrom]
  by_cases hdecl : Line.declares (ls.getD a []) = true
  · rw [if_pos hdecl] at hb ⊢
    split
    · exact blockLast_le_of_within ha hab hb
    · exact Or.inl hb
  · rw [if_neg hdecl] at hb ⊢
    obtain rfl : b = a := Nat.le_antisymm hb hab
    rw [if_neg hdecl]
    exact Or.inl (Nat.le_refl _)

/-- If a range shares a line with one that was asked for before and does not lie in it, then
    it starts further up, as the block of the line that encloses its own, or it starts
    within a range that the limit cut short. -/
theorem rangeAround_meet (hij : i < j) (hj : j < ls.length) (hk : k ∈ rangeAround limit ls i)
    (hk' : k ∈ rangeAround limit ls j)
    (hcov : (rangeAround limit ls i).covers (rangeAround limit ls j) = false) :
    ((rangeAround limit ls j).first < (rangeAround limit ls i).first ∧
      Line.declares (ls.getD j []) = false ∧
      encloser? ls j = some (rangeAround limit ls j).first ∧
      (rangeAround limit ls j).last = blockLast ls (rangeAround limit ls j).first limit ∧
      ((rangeAround limit ls i).last ≤ (rangeAround limit ls j).last ∨
        (rangeAround limit ls j).CutShort limit ls)) ∨
    (rangeAround limit ls i).first < (rangeAround limit ls j).first ∧
      (rangeAround limit ls i).CutShort limit ls := by
  have hi : i < ls.length := Nat.lt_trans hij hj
  obtain ⟨hri, -⟩ := rangeAround_eq_rangeFrom hi limit
  obtain ⟨hrj, hstart⟩ := rangeAround_eq_rangeFrom hj limit
  obtain ⟨hfirst, -⟩ := rangeAround_spec hi limit
  obtain ⟨hfirst', -⟩ := rangeAround_spec hj limit
  have hnocov : ¬ ((rangeAround limit ls i).first ≤ (rangeAround limit ls j).first ∧
      (rangeAround limit ls j).last ≤ (rangeAround limit ls i).last) := by
    intro h
    rw [covers_iff.mpr h] at hcov
    exact Bool.noConfusion hcov
  rcases Nat.lt_trichotomy (rangeAround limit ls i).first (rangeAround limit ls j).first with
    hlt | heq | hgt
  · right
    have hin : (rangeAround limit ls j).first ≤ (rangeAround limit ls i).last :=
      Nat.le_trans hk'.1 hk.2
    rw [hri] at hin
    have hnest := rangeFrom_nest (Nat.lt_of_le_of_lt hfirst hi) (Nat.le_of_lt hlt) hin
    rw [← hri, ← hrj] at hnest
    exact ⟨hlt, hnest.resolve_left fun hle => hnocov ⟨Nat.le_of_lt hlt, hle⟩⟩
  · -- a range is determined by its first line
    have hsame : rangeAround limit ls j = rangeAround limit ls i := by
      rw [hrj, ← heq, ← hri]
    rw [hsame] at hnocov
    exact absurd ⟨Nat.le_refl _, Nat.le_refl _⟩ hnocov
  · left
    have hin : (rangeAround limit ls i).first ≤ (rangeAround limit ls j).last :=
      Nat.le_trans hk.1 hk'.2
    rw [hrj] at hin
    have hnest := rangeFrom_nest (Nat.lt_of_le_of_lt hfirst' hj) (Nat.le_of_lt hgt) hin
    rw [← hri, ← hrj] at hnest
    obtain ⟨hdecl, henc, hblock⟩ := hstart.resolve_left (by omega)
    exact ⟨hgt, hdecl, henc, hblock, hnest⟩

/-! ## The result -/

/-- Two ranges that share no line. -/
def LineRange.Apart (r r' : LineRange) : Prop := ∀ k ∈ r, k ∉ r'

theorem LineRange.apart_iff : r.Apart r' ↔ min r.last r'.last < max r.first r'.first := by
  constructor
  · intro h
    by_contra hmeet
    exact h (max r.first r'.first) ⟨by omega, by omega⟩ ⟨by omega, by omega⟩
  · rintro h k ⟨hf, hl⟩ ⟨hf', hl'⟩
    omega

instance (r r' : LineRange) : Decidable (r.Apart r') := decidable_of_iff _ LineRange.apart_iff.symm

/-- Two excerpts that share a line are of the two kinds that two ranges can be of. -/
theorem pairwise_excerpts_meet (limit : Nat) (phrase : Text) (ls : List Line) :
    (excerpts limit phrase ls).Pairwise fun a b => ¬ a.range.Apart b.range →
      (b.range.first < a.range.first ∧ Line.declares (ls.getD b.line []) = false ∧
        encloser? ls b.line = some b.range.first ∧
        b.range.last = blockLast ls b.range.first limit ∧
        (a.range.last ≤ b.range.last ∨ b.range.CutShort limit ls)) ∨
      a.range.first < b.range.first ∧ a.range.CutShort limit ls := by
  rw [pairwise_iff_of_pairwise_line (pairwise_line_excerpts limit phrase ls)]
  intro a ha b hb hab hmeet
  obtain ⟨hmention, hra, -⟩ := mem_excerpts_iff.mp ha
  obtain ⟨hmention', hrb, hbefore⟩ := mem_excerpts_iff.mp hb
  have hcov := hbefore a.line hmention hab
  rw [LineRange.Apart] at hmeet
  push Not at hmeet
  obtain ⟨k, hk, hk'⟩ := hmeet
  rw [hra] at hk ⊢
  rw [hrb] at hk' hcov ⊢
  exact rangeAround_meet hab (lt_length_of_mem_mentionsAt hmention') hk hk' hcov

/-- The excerpts are apart exactly if each range that is asked for lies in one that was asked
    for before or is apart from all of those. -/
theorem pairwise_apart_excerpts_iff (limit : Nat) (phrase : Text) (ls : List Line) :
    ((excerpts limit phrase ls).Pairwise fun a b => a.range.Apart b.range) ↔
      ∀ j ∈ mentionsAt phrase.lower ls,
        (∃ i ∈ mentionsAt phrase.lower ls, i < j ∧
          (rangeAround limit ls i).covers (rangeAround limit ls j) = true) ∨
        ∀ i ∈ mentionsAt phrase.lower ls, i < j →
          (rangeAround limit ls i).Apart (rangeAround limit ls j) := by
  rw [pairwise_iff_of_pairwise_line (pairwise_line_excerpts limit phrase ls)]
  constructor
  · intro hapart j hj
    by_cases hcov : ∃ i ∈ mentionsAt phrase.lower ls, i < j ∧
        (rangeAround limit ls i).covers (rangeAround limit ls j) = true
    · exact Or.inl hcov
    · right
      intro i hi hij k hk
      -- the range around `i` lies in one that is taken, and the range around `j` is taken
      obtain ⟨e, he, hle, hcov'⟩ := exists_mem_excerpts_covers hi limit
      have hmem : Excerpt.mk j (rangeAround limit ls j) ∈ excerpts limit phrase ls := by
        refine mem_excerpts_iff.mpr ⟨hj, rfl, fun i' hi' hij' => ?_⟩
        exact Bool.eq_false_iff.mpr fun h => hcov ⟨i', hi', hij', h⟩
      exact hapart e he _ hmem (Nat.lt_of_le_of_lt hle hij) k (mem_of_covers hcov' hk)
  · intro h a ha b hb hab
    obtain ⟨hmention, hra, -⟩ := mem_excerpts_iff.mp ha
    obtain ⟨hmention', hrb, hbefore⟩ := mem_excerpts_iff.mp hb
    rcases h b.line hmention' with ⟨i, hi, hib, hcov⟩ | hapart
    · rw [← hrb, hbefore i hi hib] at hcov
      exact Bool.noConfusion hcov
    · rw [hra, hrb]
      exact hapart a.line hmention hab

/-- A line is in two excerpts only where the later of the two starts further up, as the
    block of the line that encloses its own, or starts within one that the limit cut
    short.  If it starts further up, it takes all of the earlier one in unless the limit
    cuts it short.

    No line is in two excerpts exactly if the range around every line that mentions the
    phrase lies in the range around such a line further up or is apart from all of those. -/
theorem focusExcerpts_repeat (limit : Nat) (phrase t : Text) (hphrase : phrase ≠ []) :
    ((focusExcerpts limit phrase t).Pairwise fun a b => ¬ a.range.Apart b.range →
      (b.range.first < a.range.first ∧ Line.declares (t.lines.getD b.line []) = false ∧
        encloser? t.lines b.line = some b.range.first ∧
        b.range.last = blockLast t.lines b.range.first limit ∧
        (a.range.last ≤ b.range.last ∨ b.range.CutShort limit t.lines)) ∨
      a.range.first < b.range.first ∧ a.range.CutShort limit t.lines) ∧
    (((focusExcerpts limit phrase t).Pairwise fun a b => a.range.Apart b.range) ↔
      ∀ j ∈ mentionsAt phrase.lower t.lines,
        (∃ i ∈ mentionsAt phrase.lower t.lines, i < j ∧
          (rangeAround limit t.lines i).covers (rangeAround limit t.lines j) = true) ∨
        ∀ i ∈ mentionsAt phrase.lower t.lines, i < j →
          (rangeAround limit t.lines i).Apart (rangeAround limit t.lines j)) := by
  have hempty : ¬ phrase.isEmpty = true := by simpa using hphrase
  rw [focusExcerpts, if_neg hempty]
  exact ⟨pairwise_excerpts_meet limit phrase t.lines,
    pairwise_apart_excerpts_iff limit phrase t.lines⟩

/-- A call in a function and one behind it ask for ranges that share no line, and so do two
    calls in one function, which ask for the same.  Where a block starts at the last line
    that the limit leaves of another, that one is cut short. -/
theorem focusExcerpts_repeat_apart :
    "hit".toList ≠ [] ∧
    (focusExcerpts 100 "hit".toList "f \x7b\n  hit\n  hit\n\x7d\nhit".toList).Pairwise
      (fun a b => a.range.Apart b.range) ∧
    LineRange.CutShort 2 (Text.lines "hit \x7b\nhit \x7b\nx".toList) ⟨0, 1⟩ := by
  have hne : "hit".toList ≠ [] := by decide
  have hcalls := focusExcerpts_repeat 100 "hit".toList
    "f \x7b\n  hit\n  hit\n\x7d\nhit".toList hne
  have hblocks := focusExcerpts_repeat 2 "hit".toList "hit \x7b\nhit \x7b\nx".toList hne
  have htwo : focusExcerpts 2 "hit".toList "hit \x7b\nhit \x7b\nx".toList
      = [⟨0, ⟨0, 1⟩⟩, ⟨1, ⟨1, 2⟩⟩] := by decide
  rw [htwo] at hblocks
  have hmeet := (List.pairwise_cons.mp hblocks.1).1 ⟨1, ⟨1, 2⟩⟩ List.mem_cons_self (by decide)
  rcases hmeet with ⟨hfirst, -⟩ | ⟨-, hcut⟩
  · exact absurd hfirst (by decide)
  · exact ⟨hne, hcalls.2.mpr (by decide), hcut⟩

/-- The excerpts are not always apart.  A call in an inner block brings that block, and
    one behind it brings the outer block, which holds the inner one; and where the limit
    cuts a block, the next one may start at its last line. -/
theorem focusExcerpts_not_apart :
    focusExcerpts 100 "hit".toList "f \x7b\n  g \x7b\n    hit\n  \x7d\n  hit\n\x7d".toList
      = [⟨2, ⟨1, 3⟩⟩, ⟨4, ⟨0, 5⟩⟩] ∧
    ¬ (focusExcerpts 100 "hit".toList
      "f \x7b\n  g \x7b\n    hit\n  \x7d\n  hit\n\x7d".toList).Pairwise
        (fun a b => a.range.Apart b.range) ∧
    focusExcerpts 2 "hit".toList "hit \x7b\nhit \x7b\nx".toList = [⟨0, ⟨0, 1⟩⟩, ⟨1, ⟨1, 2⟩⟩] ∧
    ¬ (focusExcerpts 2 "hit".toList "hit \x7b\nhit \x7b\nx".toList).Pairwise
        (fun a b => a.range.Apart b.range) := by
  decide

end BareCode
