import BareCode.Proofs.Excerpt.Selection
import BareCode.Proofs.Text.FinalSigma
/-! # Verbatim mentions — which phrases are found wherever they stand

    A line is compared with the phrase in lower case, each lowered on its own.  A line that
    holds the phrase as it is may therefore be missed, if the phrase is lowered
    differently in the line.  Sigmas are the only reason, and the phrase tells: if it
    settles the form of each, it is found in every line that holds it, and if not, some line
    that holds it is left out (`focusExcerpts_verbatim_iff`). -/

namespace BareCode

open Text

variable {ls : List Line} {l : Line} {i limit : Nat} {phrase t : Text}

/-- A line that holds a phrase with settled sigmas mentions it. -/
theorem mem_mentionsAt_of_sigmasSettled (h : sigmasSettled phrase = true)
    (hl : ls[i]? = some l) (hp : phrase <:+: l) : i ∈ mentionsAt phrase.lower ls :=
  mem_mentionsAt.mpr ⟨l, hl, mentions_iff.mpr (lower_infix_of_sigmasSettled h hp)⟩

/-- Some line that holds any other phrase does not mention it, if a line can hold it. -/
theorem exists_line_not_mentions (h : sigmasSettled phrase = false) (hn : '\n' ∉ phrase) :
    ∃ l : Line, '\n' ∉ l ∧ phrase <:+: l ∧ l.lower.mentions phrase.lower = false := by
  obtain ⟨l, hl, hno⟩ := exists_not_lower_infix h
  refine ⟨l, ?_, ?_, ?_⟩
  · rcases hl with rfl | rfl
    · simpa using hn
    · simpa using hn
  · rcases hl with rfl | rfl
    · exact (List.suffix_cons 'a' phrase).isInfix
    · exact (List.prefix_append phrase ['a']).isInfix
  · exact Bool.eq_false_iff.mpr fun hm => hno (mentions_iff.mp hm)

/-- Every line that holds the phrase as it is lies in an excerpt, in every text, exactly if
    the phrase settles the form of each of its sigmas or no line can hold it. -/
theorem focusExcerpts_verbatim_iff (limit : Nat) (phrase : Text) (hphrase : phrase ≠ []) :
    (∀ (t : Text) (i : Nat) (l : Line), t.lines[i]? = some l → phrase <:+: l →
      ∃ e ∈ focusExcerpts limit phrase t, i ∈ e.range) ↔
      '\n' ∈ phrase ∨ sigmasSettled phrase = true := by
  have hempty : ¬ phrase.isEmpty = true := by simpa using hphrase
  constructor
  · intro hfound
    by_contra hnot
    obtain ⟨hn, hsettled⟩ := not_or.mp hnot
    -- a text of the one line that does not mention the phrase has no excerpt
    obtain ⟨l, hnl, hp, hno⟩ := exists_line_not_mentions (Bool.eq_false_iff.mpr hsettled) hn
    have hlines : lines l = [l] := lines_of_not_mem hnl
    have hnone : focusExcerpts limit phrase l = [] := by
      rw [focusExcerpts, if_neg hempty, hlines, excerpts_eq_nil_iff]
      intro l' hl'
      obtain rfl : l' = l := List.mem_singleton.mp hl'
      exact hno
    obtain ⟨e, he, -⟩ := hfound l 0 l (by rw [hlines]; rfl) hp
    rw [hnone] at he
    exact List.not_mem_nil he
  · rintro (hn | hsettled) t i l hl hp
    · -- lines hold no newline
      exact absurd (hp.subset hn) (not_mem_of_mem_lines (List.mem_of_getElem? hl))
    · have hmention := mem_mentionsAt_of_sigmasSettled hsettled hl hp
      rw [focusExcerpts, if_neg hempty]
      exact exists_mem_excerpts_iff.mpr
        ⟨i, hmention, self_mem_rangeAround (lt_length_of_mem_mentionsAt hmention) limit⟩

/-- A word with a capital sigma at its end is found wherever it stands when a space follows,
    and not when it may go on. -/
theorem focusExcerpts_verbatim_iff_word :
    "ΛΟΓΟΣ ".toList ≠ [] ∧ "ΛΟΓΟΣ".toList ≠ [] ∧
    (∀ (t : Text) (i : Nat) (l : Line), t.lines[i]? = some l → "ΛΟΓΟΣ ".toList <:+: l →
      ∃ e ∈ focusExcerpts 100 "ΛΟΓΟΣ ".toList t, i ∈ e.range) ∧
    ¬ ∀ (t : Text) (i : Nat) (l : Line), t.lines[i]? = some l → "ΛΟΓΟΣ".toList <:+: l →
      ∃ e ∈ focusExcerpts 100 "ΛΟΓΟΣ".toList t, i ∈ e.range := by
  have hne : "ΛΟΓΟΣ ".toList ≠ [] := by decide
  have hne' : "ΛΟΓΟΣ".toList ≠ [] := by decide
  refine ⟨hne, hne', ?_, ?_⟩
  · exact (focusExcerpts_verbatim_iff 100 _ hne).mpr (by decide +kernel)
  · rw [focusExcerpts_verbatim_iff 100 _ hne']
    decide +kernel

/-- A line that ends with a capital sigma is left out when that is the phrase. -/
theorem focusExcerpts_misses_sigma :
    (lines "ΑΣ".toList)[0]? = some "ΑΣ".toList ∧ "Σ".toList <:+: "ΑΣ".toList ∧
    focusExcerpts 100 "Σ".toList "ΑΣ".toList = [] := by
  refine ⟨by decide, ⟨"Α".toList, [], by decide⟩, by decide +kernel⟩

end BareCode
