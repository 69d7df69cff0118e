import BareCode.Proofs.Excerpt.Coverage
import BareCode.Proofs.Excerpt.Declaration
import BareCode.Proofs.Text.LineLayout
import BareCode.Proofs.Text.Lowercase
import Mathlib.Data.List.GetD
/-! # Layout of single lines — no excerpt depends on it

    Everything that decides where a block begins and ends is blind to the padding around
    a line: whether the line is blank, how it changes the depth of brackets, what it
    declares and whether it mentions the phrase.  Its indentation counts as well, and
    layout keeps that unless all of the line is padding; such a line encloses nothing and
    mentions nothing.  So the lines may be laid out one by one and every excerpt stays
    (`excerpts_map_normal`), which gives the layout of what is written
    (`normalLines_writtenLines`). -/

namespace BareCode

open Text

variable {ls : List Line} {l : Line} {i limit n : Nat} {phrase : Text} {depth : Int}

/-! ## What is seen of a line -/

namespace Line

theorem allBlank_normal (l : Line) : Text.allBlank (normal l) = Text.allBlank l := by
  refine normal_congr (fun b b' hb hb' x => ?_) l
  have h := allBlank_of_isPadding hb
  have h' := allBlank_of_isPadding hb'
  rw [allBlank] at h h' ⊢
  rw [List.all_append, List.all_append, h, h', Bool.true_and, Bool.and_true]
  rfl

theorem bracketBalance_append (a x : Line) :
    bracketBalance (a ++ x) = bracketBalance a + bracketBalance x := by
  induction a with
  | nil => rw [List.nil_append, bracketBalance, Int.zero_add]
  | cons c a ih => rw [List.cons_append, bracketBalance, bracketBalance, ih, Int.add_assoc]

theorem bracketBalance_normal (l : Line) : bracketBalance (normal l) = bracketBalance l := by
  refine normal_congr (fun b b' hb hb' x => ?_) l
  rw [bracketBalance_append, bracketBalance_append,
    bracketBalance_of_allBlank (allBlank_of_isPadding hb),
    bracketBalance_of_allBlank (allBlank_of_isPadding hb'), Int.zero_add, Int.add_zero]

theorem declares_normal (l : Line) : declares (normal l) = declares l :=
  normal_congr (fun _ _ hb hb' x =>
    declares_blanks (allBlank_of_isPadding hb) (allBlank_of_isPadding hb') x) l

/-- A line that is blank encloses none, and any other keeps its indentation. -/
theorem encloses_normal (l : Line) (n : Nat) : (normal l).encloses n = l.encloses n := by
  rw [encloses, encloses, allBlank_normal, declares_normal]
  cases hb : Text.allBlank l with
  | true => rfl
  | false =>
      obtain ⟨c, hc, hblank⟩ := List.all_eq_false.mp hb
      rw [indentation_normal hc (isPadding_eq_false (Bool.eq_false_iff.mpr hblank))]

section Phrase

variable (hne : phrase ≠ []) (hphrase : ∀ c ∈ phrase, isPadding c = false)

include hne hphrase

theorem mentions_normal (l : Line) :
    (Text.lower (normal l)).mentions phrase = (Text.lower l).mentions phrase :=
  normal_congr (f := fun l => (Text.lower l).mentions phrase)
    (fun _ _ hb hb' x => mentions_lower_padding hne hphrase hb hb' x) l

/-- A line that mentions the phrase keeps its indentation. -/
theorem indentation_normal_of_mentions (h : (Text.lower l).mentions phrase = true) :
    indentation (normal l) = indentation l := by
  by_cases hbody : ∃ c ∈ l, isPadding c = false
  · obtain ⟨c, hc, hbody⟩ := hbody
    exact indentation_normal hc hbody
  · have hpad : ∀ c ∈ l, isPadding c = true := by
      intro c hc
      by_contra hno
      exact hbody ⟨c, hc, Bool.eq_false_iff.mpr hno⟩
    have hnone : ∀ c ∈ ([] : Text), isPadding c = true := fun c hc => nomatch hc
    have hempty := mentions_lower_padding hne hphrase hpad hnone []
    rw [List.append_nil, List.append_nil, h, eq_comm] at hempty
    exact absurd (List.infix_nil.mp (mentions_iff.mp hempty)) hne

end Phrase

end Line

/-! ## Where a block ends -/

theorem closingLength_map_normal (depth : Int) (ls : List Line) :
    closingLength depth (ls.map Line.normal) = closingLength depth ls := by
  induction ls generalizing depth with
  | nil => rfl
  | cons l ls ih =>
      rw [List.map_cons, closingLength, closingLength, Line.bracketBalance_normal, ih]

theorem openingLength_map_normal (ls : List Line) :
    openingLength (ls.map Line.normal) = openingLength ls := by
  induction ls with
  | nil => rfl
  | cons l ls ih =>
      rw [List.map_cons, openingLength, openingLength, Line.bracketBalance_normal,
        Line.allBlank_normal, closingLength_map_normal, ih]

theorem blockLength_map_normal (ls : List Line) :
    blockLength (ls.map Line.normal) = blockLength ls := by
  cases ls with
  | nil => rfl
  | cons l ls =>
      rw [List.map_cons, blockLength, blockLength, Line.bracketBalance_normal,
        closingLength_map_normal, openingLength_map_normal]

theorem blockLast_map_normal (ls : List Line) (s limit : Nat) :
    blockLast (ls.map Line.normal) s limit = blockLast ls s limit := by
  rw [blockLast, blockLast, ← List.map_drop, ← List.map_take, blockLength_map_normal]

/-! ## Which excerpts there are -/

theorem getD_map_normal (ls : List Line) (i : Nat) :
    (ls.map Line.normal).getD i [] = Line.normal (ls.getD i []) :=
  List.getD_map ls [] Line.normal

section Phrase

variable (hne : phrase ≠ []) (hphrase : ∀ c ∈ phrase, isPadding c = false)

include hne hphrase

theorem mentionsAt_map_normal (ls : List Line) :
    mentionsAt phrase (ls.map Line.normal) = mentionsAt phrase ls := by
  rw [mentionsAt, mentionsAt, List.zipIdx_map, List.filter_map, List.map_map]
  have hfilter : ∀ x ∈ ls.zipIdx,
      ((fun y : Line × Nat => y.1.lower.mentions phrase) ∘ Prod.map Line.normal id) x
        = x.1.lower.mentions phrase := by
    intro x _
    exact Line.mentions_normal hne hphrase x.1
  rw [List.filter_congr hfilter]
  rfl

theorem encloser?_map_normal (hi : i ∈ mentionsAt phrase ls) :
    encloser? (ls.map Line.normal) i = encloser? ls i := by
  obtain ⟨l, hl, hm⟩ := mem_mentionsAt.mp hi
  have hget : ls.getD i [] = l := by
    rw [List.getD_eq_getElem?_getD, hl]
    rfl
  have hseen : (fun l : Line => l.encloses (Line.indentation (ls.getD i []))) ∘ Line.normal
      = fun l => l.encloses (Line.indentation (ls.getD i [])) := by
    funext l
    exact Line.encloses_normal l _
  rw [encloser?, encloser?, getD_map_normal, hget,
    Line.indentation_normal_of_mentions hne hphrase hm, ← hget, ← List.map_take,
    ← List.map_reverse, List.findIdx?_map, hseen]

theorem rangeAround_map_normal (hi : i ∈ mentionsAt phrase ls) (limit : Nat) :
    rangeAround limit (ls.map Line.normal) i = rangeAround limit ls i := by
  rw [rangeAround, rangeAround, getD_map_normal, Line.declares_normal, blockLast_map_normal,
    encloser?_map_normal hne hphrase hi]
  cases encloser? ls i with
  | none => rfl
  | some s =>
      show (if _ then _ else _) = _
      simp only [blockLast_map_normal]

end Phrase

/-- The lines may be laid out one by one and every excerpt stays. -/
theorem excerpts_map_normal (hne : phrase ≠ []) (hphrase : ∀ c ∈ phrase, isPadding c = false)
    (limit : Nat) (ls : List Line) :
    excerpts limit phrase (ls.map Line.normal) = excerpts limit phrase ls := by
  have hlower : phrase.lower ≠ [] := lower_ne_nil hne
  have hpad : ∀ c ∈ phrase.lower, isPadding c = false := fun c hc =>
    not_isPadding_of_mem_lowerAfter hphrase hc
  rw [excerpts, excerpts, mentionsAt_map_normal hlower hpad]
  refine congrArg (dropCovered []) (List.map_congr_left fun i hi => ?_)
  rw [rangeAround_map_normal hlower hpad hi]

/-! ## What is written -/

/-- The lines that excerpts write, an empty one behind each, before runs are cut. -/
def writtenLines (ls : List Line) (es : List Excerpt) : List Line :=
  es.flatMap fun e => e.range.slice ls ++ [[]]

theorem writtenLines_map_normal (ls : List Line) (es : List Excerpt) :
    writtenLines (ls.map Line.normal) es = (writtenLines ls es).map Line.normal := by
  rw [writtenLines, writtenLines, List.map_flatMap]
  refine List.flatMap_congr fun e _ => ?_
  rw [LineRange.slice, LineRange.slice, ← List.map_drop, ← List.map_take, List.map_append]
  rfl

/-- What is written ends with an empty line, if there is anything. -/
theorem writtenLines_eq_nil_or_concat (ls : List Line) (es : List Excerpt) :
    writtenLines ls es = [] ∨ ∃ ls', writtenLines ls es = ls' ++ [[]] := by
  rcases List.eq_nil_or_concat' es with rfl | ⟨es, e, rfl⟩
  · exact Or.inl rfl
  · refine Or.inr ⟨writtenLines ls es ++ e.range.slice ls, ?_⟩
    rw [writtenLines, List.flatMap_append, List.flatMap_singleton, ← List.append_assoc]
    rfl

/-- The layout of what is written comes from the layout of the lines. -/
theorem normalLines_writtenLines (ls : List Line) (es : List Excerpt) :
    normalLines (writtenLines ls es) = capLines 0 (writtenLines (ls.map Line.normal) es) := by
  rw [writtenLines_map_normal]
  rcases writtenLines_eq_nil_or_concat ls es with h | ⟨ls', h⟩
  · rw [h]
    rfl
  · rw [h]
    exact normalLines_concat_empty ls'

end BareCode
