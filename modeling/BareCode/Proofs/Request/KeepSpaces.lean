import BareCode.Proofs.Excerpt.EmptyLines
import BareCode.Request
/-! # Keeping the layout — it never changes what a request selects

    A request that keeps the layout focuses on the text as it was left, and any other on
    the text in normal layout.  The second text comes from the first by laying out single
    lines and by dropping empty lines in a row, one after another.  Neither changes the
    layout of what the focus writes (`normalLines_excerpts`,
    `normalLines_excerpts_two_empty`), so the two runs agree once the answers are in
    normal layout (`normalize_focus_normalize`, `answer_keepSpaces`).

    The phrase must hold no padding, since padding within a line may change and padding
    at its ends goes; and all lines must fit the limit, since a limit counts empty lines. -/

namespace BareCode

open Text

variable {ls : List Line} {es : List Excerpt} {phrase t : Text} {limit run : Nat}

/-! ## What is written, in normal layout -/

/-- Runs that are cut when excerpts are written do not show in normal layout. -/
theorem normalLines_capLines_writtenLines (ls : List Line) (es : List Excerpt) :
    normalLines (capLines 0 (writtenLines ls es)) = normalLines (writtenLines ls es) := by
  rcases writtenLines_eq_nil_or_concat ls es with h | ⟨ls', h⟩
  · rw [h]
    rfl
  · obtain ⟨ls'', hcap⟩ := capLines_concat 0 ls' []
    rw [h, normalLines_concat_empty, hcap, normalLines_concat_empty, ← hcap,
      capLines_map_capLines Line.normal_nil (Nat.le_refl 0)]

theorem normalize_writeExcerpts (hl : ∀ l ∈ ls, '\n' ∉ l) (es : List Excerpt) :
    normalize (writeExcerpts ls es) = unlines (normalLines (writtenLines ls es)) := by
  have hw : ∀ l ∈ writtenLines ls es, '\n' ∉ l := fun l hm => newline_not_mem_of_mem_written hl hm
  have hcap : writeExcerpts ls es = unlines (capLines 0 (writtenLines ls es)) :=
    capNewlinesAfter_unlines hw 0
  rw [← normalLines_capLines_writtenLines, hcap]
  by_cases h : writtenLines ls es = []
  · rw [h]
    rfl
  · have hlines := lines_unlines (fun l hm => hw l ((capLines_sublist 0 _).subset hm))
      (capLines_ne_nil 0 h)
    rw [← unlines_lines (normalize _), lines_normalize, hlines]

/-! ## The two runs -/

section Phrase

variable (hne : phrase ≠ []) (hphrase : ∀ c ∈ phrase, isPadding c = false)

include hne hphrase

/-- The focus in normal layout is that of the lines in normal layout. -/
theorem normalLines_excerpts (limit : Nat) (ls : List Line) :
    normalLines (writtenLines ls (excerpts limit phrase ls))
      = capLines 0 (writtenLines (ls.map Line.normal)
          (excerpts limit phrase (ls.map Line.normal))) := by
  rw [normalLines_writtenLines, excerpts_map_normal hne hphrase]

/-- In normal layout the focus does not show whether one empty line stands or two. -/
theorem normalLines_excerpts_two_empty {xs ys : List Line} (hys : ys ≠ [])
    (hlimit : (xs ++ [] :: [] :: ys).length ≤ limit) :
    normalLines (writtenLines (xs ++ [] :: [] :: ys)
        (excerpts limit phrase (xs ++ [] :: [] :: ys)))
      = normalLines (writtenLines (xs ++ [] :: ys) (excerpts limit phrase (xs ++ [] :: ys))) := by
  rw [normalLines_excerpts hne hphrase, normalLines_excerpts hne hphrase]
  simp only [List.map_append, List.map_cons, Line.normal_nil]
  refine capLines_writtenLines_squeeze ?_ ?_ hne
  · simpa using hys
  · simpa using hlimit

/-- The focus of the lines in normal layout is that of the lines, in normal layout. -/
theorem normalLines_excerpts_normalLines (hlimit : ls.length ≤ limit) :
    normalLines (writtenLines (normalLines ls) (excerpts limit phrase (normalLines ls)))
      = normalLines (writtenLines ls (excerpts limit phrase ls)) := by
  have hmap := map_normal_trimClosed ls
  have hlen : ((trimClosed ls).map Line.indentWithSpaces).length = ls.length := by
    simpa using congrArg List.length hmap
  have hcap := capLines_induction
    (F := fun ls => normalLines (writtenLines ls (excerpts limit phrase ls)))
    (fun _ _ hq hlen => normalLines_excerpts_two_empty hne hphrase hq hlen) [] 0
    (Or.inl Nat.two_pos) ((trimClosed ls).map Line.indentWithSpaces)
    (by rwa [List.nil_append, hlen])
  rw [List.nil_append, List.nil_append] at hcap
  rw [normalLines_eq_capLines_map ls]
  refine hcap.trans ?_
  rw [normalLines_excerpts hne hphrase, hmap, ← normalLines_excerpts hne hphrase]

end Phrase

/-- Focusing on a text in normal layout gives the focus of the text, in normal layout. -/
theorem normalize_focus_normalize (hphrase : ∀ c ∈ phrase, isPadding c = false)
    (hlimit : t.lines.length ≤ limit) :
    normalize (focus limit phrase (normalize t)) = normalize (focus limit phrase t) := by
  by_cases hne : phrase = []
  · rw [focus, focus, if_pos (by simp [hne]), if_pos (by simp [hne]), normalize_normalize]
  · have hempty : ¬ phrase.isEmpty = true := by simpa using hne
    rw [focus, focus, if_neg hempty, if_neg hempty,
      normalize_writeExcerpts fun l hl => not_mem_of_mem_lines hl,
      normalize_writeExcerpts fun l hl => not_mem_of_mem_lines hl, lines_normalize,
      normalLines_excerpts_normalLines hne hphrase hlimit]

namespace Request

variable {r : Request} {ids : List String}

/-- Whether a request keeps the layout shows only in the layout of its content. -/
theorem normalize_content_keepSpaces (hphrase : ∀ p ∈ r.phrase, ∀ c ∈ p, isPadding c = false)
    (hlimit : (stripLanguages ids { r.stripOptions with normalize := false } t).lines.length
      ≤ r.limit) (k : Bool) :
    (Request.content { r with keepSpaces := k } ids t).normalize
      = (Request.content { r with keepSpaces := true } ids t).normalize := by
  cases k with
  | true => rfl
  | false =>
      have hlaid : stripLanguages ids { r.stripOptions with normalize := true } t
          = normalize (stripLanguages ids { r.stripOptions with normalize := false } t) := rfl
      cases hp : r.phrase with
      | none =>
          simp only [content]
          exact (congrArg normalize hlaid).trans (normalize_normalize _)
      | some phrase =>
          simp only [content]
          refine (congrArg (fun u => normalize (focus r.limit phrase u)) hlaid).trans ?_
          exact normalize_focus_normalize (hphrase phrase hp) hlimit

theorem answer_of_languageIds (h : r.languageIds = .ok ids) :
    r.answer t = .ok ⟨r.content ids t, (Dialect.choose ids).map (·.id)⟩ := by
  rw [answer, h]
  rfl

end Request

end BareCode
