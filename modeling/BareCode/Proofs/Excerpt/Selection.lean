import BareCode.Proofs.Excerpt.Coverage
import BareCode.Proofs.Excerpt.Extent
import Mathlib.Data.Set.Defs
/-! # Selection — which lines the focus of a text shows

    A block that lies within one taken before is left out, but its lines are shown all the
    same.  So the lines shown are those of the ranges around the lines that mention the
    phrase, whichever of them are taken (`exists_mem_excerpts_iff`), and a selection
    grows with whatever its ranges grow with and with the lines that ask for one:

    * with the limit — a block that is cut later starts where it did, and the block that
      comes to reach a line holds what stood alone before (`mem_rangeAround_mono`);
    * with a part of the phrase — a line that mentions the phrase mentions the part. -/

namespace BareCode

open Text

variable {outer inner : LineRange} {ls : List Line} {i k limit limit' : Nat} {phrase t : Text}

/-! ## The lines of a range -/

/-- A line belongs to a range when its index does. -/
instance : Membership Nat LineRange := ⟨fun r k => r.first ≤ k ∧ k ≤ r.last⟩

theorem mem_of_covers (h : outer.covers inner = true) (hk : k ∈ inner) : k ∈ outer := by
  obtain ⟨hfirst, hlast⟩ := covers_iff.mp h
  exact ⟨Nat.le_trans hfirst hk.1, Nat.le_trans hk.2 hlast⟩

theorem self_mem_rangeAround (hi : i < ls.length) (limit : Nat) : i ∈ rangeAround limit ls i := by
  obtain ⟨hfirst, hlast, -⟩ := rangeAround_spec hi limit
  exact ⟨hfirst, hlast⟩

/-- The range around a line grows with the limit. -/
theorem mem_rangeAround_mono (h : limit ≤ limit') (hi : i < ls.length)
    (hk : k ∈ rangeAround limit ls i) : k ∈ rangeAround limit' ls i := by
  rcases rangeAround_cases limit ls i with
    ⟨hdecl, h'⟩ | ⟨s, hdecl, hs, hreach, h'⟩ | ⟨-, -, h'⟩
  · rw [h'] at hk
    rw [rangeAround_of_declares hdecl]
    exact ⟨hk.1, Nat.le_trans hk.2 (blockLast_mono h ls i)⟩
  · have hmono := blockLast_mono h ls s
    rw [h'] at hk
    rw [rangeAround_of_reaches hdecl hs (Nat.le_trans hreach hmono)]
    exact ⟨hk.1, Nat.le_trans hk.2 hmono⟩
  · -- the line stood alone, and it lies in whatever range it has now
    rw [h'] at hk
    obtain rfl : k = i := Nat.le_antisymm hk.2 hk.1
    exact self_mem_rangeAround hi limit'

/-! ## The lines of all excerpts -/

/-- The excerpts show the lines of all ranges that are asked for. -/
theorem exists_mem_excerpts_iff :
    (∃ e ∈ excerpts limit phrase ls, k ∈ e.range) ↔
      ∃ i ∈ mentionsAt phrase.lower ls, k ∈ rangeAround limit ls i := by
  constructor
  · rintro ⟨e, he, hk⟩
    obtain ⟨hmention, hrange⟩ := of_mem_excerpts he
    exact ⟨e.line, hmention, hrange ▸ hk⟩
  · rintro ⟨i, hi, hk⟩
    obtain ⟨e, he, -, hcov⟩ := exists_mem_excerpts_covers hi limit
    exact ⟨e, he, mem_of_covers hcov hk⟩

/-- A line that mentions a text mentions its parts. -/
theorem mentionsAt_subset {part whole : Text} (h : part <:+: whole)
    (hi : i ∈ mentionsAt whole ls) : i ∈ mentionsAt part ls := by
  obtain ⟨l, hl, hm⟩ := mem_mentionsAt.mp hi
  exact mem_mentionsAt.mpr ⟨l, hl, mentions_iff.mpr (h.trans (mentions_iff.mp hm))⟩

/-! ## The result -/

/-- The lines that the focus of a text shows, by their indices. -/
def focusLines (limit : Nat) (phrase t : Text) : Set Nat :=
  {k | ∃ e ∈ focusExcerpts limit phrase t, k ∈ e.range}

theorem mem_focusLines (hphrase : phrase ≠ []) :
    k ∈ focusLines limit phrase t ↔
      ∃ i ∈ mentionsAt phrase.lower t.lines, k ∈ rangeAround limit t.lines i := by
  have hempty : ¬ phrase.isEmpty = true := by simpa using hphrase
  show (∃ e ∈ focusExcerpts limit phrase t, k ∈ e.range) ↔ _
  rw [focusExcerpts, if_neg hempty]
  exact exists_mem_excerpts_iff

/-- The focus of a text shows the lines of the ranges around all lines that mention the
    phrase, as if none were left out.  So with a larger limit it shows no line less, and
    with a phrase that holds the phrase, in whatever case, no line more. -/
theorem focusLines_mono (limit : Nat) (phrase t : Text) (hphrase : phrase ≠ []) :
    (∀ k, k ∈ focusLines limit phrase t ↔
      ∃ i l, t.lines[i]? = some l ∧ l.lower.mentions phrase.lower = true ∧
        k ∈ rangeAround limit t.lines i) ∧
    (∀ limit', limit ≤ limit' → focusLines limit phrase t ⊆ focusLines limit' phrase t) ∧
    ∀ longer : Text, longer ≠ [] → phrase.lower <:+: longer.lower →
      focusLines limit longer t ⊆ focusLines limit phrase t := by
  refine ⟨?_, ?_, ?_⟩
  · intro k
    rw [mem_focusLines hphrase]
    constructor
    · rintro ⟨i, hi, hk⟩
      obtain ⟨l, hl, hm⟩ := mem_mentionsAt.mp hi
      exact ⟨i, l, hl, hm, hk⟩
    · rintro ⟨i, l, hl, hm, hk⟩
      exact ⟨i, mem_mentionsAt.mpr ⟨l, hl, hm⟩, hk⟩
  · intro limit' hlimit k hk
    obtain ⟨i, hi, hk⟩ := (mem_focusLines hphrase).mp hk
    exact (mem_focusLines hphrase).mpr
      ⟨i, hi, mem_rangeAround_mono hlimit (lt_length_of_mem_mentionsAt hi) hk⟩
  · intro longer hlonger hpart k hk
    obtain ⟨i, hi, hk⟩ := (mem_focusLines hlonger).mp hk
    exact (mem_focusLines hphrase).mpr ⟨i, mentionsAt_subset hpart hi, hk⟩

/-- A call stands alone under a limit that cuts the function above it short, and a larger
    limit brings all of the function along. -/
theorem focusLines_mono_enclosed :
    "hit".toList ≠ [] ∧
    focusExcerpts 3 "hit".toList "f \x7b\n  a\n  b\n  hit()\n\x7d".toList = [⟨3, ⟨3, 3⟩⟩] ∧
    focusExcerpts 5 "hit".toList "f \x7b\n  a\n  b\n  hit()\n\x7d".toList = [⟨3, ⟨0, 4⟩⟩] ∧
    focusLines 3 "hit".toList "f \x7b\n  a\n  b\n  hit()\n\x7d".toList ⊆
      focusLines 5 "hit".toList "f \x7b\n  a\n  b\n  hit()\n\x7d".toList ∧
    focusLines 3 "Hit()".toList "f \x7b\n  a\n  b\n  hit()\n\x7d".toList ⊆
      focusLines 3 "hit".toList "f \x7b\n  a\n  b\n  hit()\n\x7d".toList := by
  have hne : "hit".toList ≠ [] := by decide
  obtain ⟨-, hlimit, hpart⟩ := focusLines_mono 3 "hit".toList
    "f \x7b\n  a\n  b\n  hit()\n\x7d".toList hne
  have hlonger : lower "hit".toList <:+: lower "Hit()".toList :=
    ⟨[], "()".toList, by decide⟩
  exact ⟨hne, by decide, by decide, hlimit 5 (by decide), hpart _ (by decide) hlonger⟩

end BareCode
