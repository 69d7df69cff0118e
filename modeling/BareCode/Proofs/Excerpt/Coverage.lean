import BareCode.Proofs.Excerpt.Range
import BareCode.Proofs.Text.NewlineRuns
import BareCode.Proofs.Text.NormalLines
/-! # Coverage — the focus of a text loses no mention and adds nothing

    Every line that mentions the phrase asks for the block around it, and that block is
    taken unless one taken before covers it; either way the line lies in a taken block.
    The invariant is carried along the list of blocks that are asked for
    (`dropCovered_covers`), and in the other direction so is the fact that nothing is
    taken twice (`pairwise_dropCovered`).  What is written are lines of the text and
    empty lines, with runs of newlines cut to two.

    `focus_excerpts` collects all of it. -/

namespace BareCode

open Text

variable {taken : List LineRange} {es : List Excerpt} {e : Excerpt} {r : LineRange}
  {ls : List Line} {l : Line} {i limit : Nat} {phrase t : Text}

/-! ## Lines that mention the phrase -/

theorem mem_mentionsAt :
    i ∈ mentionsAt phrase ls ↔ ∃ l, ls[i]? = some l ∧ l.lower.mentions phrase = true := by
  rw [mentionsAt, List.mem_map]
  constructor
  · rintro ⟨⟨l, j⟩, hl, rfl⟩
    obtain ⟨hmem, hm⟩ := List.mem_filter.mp hl
    exact ⟨l, List.mem_zipIdx_iff_getElem?.mp hmem, hm⟩
  · rintro ⟨l, hl, hm⟩
    exact ⟨(l, i), List.mem_filter.mpr ⟨List.mem_zipIdx_iff_getElem?.mpr hl, hm⟩, rfl⟩

theorem lt_length_of_mem_mentionsAt (h : i ∈ mentionsAt phrase ls) : i < ls.length := by
  obtain ⟨l, hl, -⟩ := mem_mentionsAt.mp h
  exact (List.getElem?_eq_some_iff.mp hl).1

/-- The lines that mention a phrase come in their order. -/
theorem pairwise_mentionsAt (phrase : Text) (ls : List Line) :
    (mentionsAt phrase ls).Pairwise (· < ·) := by
  have hsub : (mentionsAt phrase ls).Sublist (List.range' 0 ls.length) := by
    rw [mentionsAt, ← List.zipIdx_map_snd 0 ls]
    exact List.filter_sublist.map Prod.snd
  exact List.Pairwise.sublist hsub List.pairwise_lt_range'

/-- So the blocks that they ask for come in the order of their lines. -/
theorem pairwise_line_asked (limit : Nat) (phrase : Text) (ls : List Line) :
    ((mentionsAt phrase ls).map fun i => Excerpt.mk i (rangeAround limit ls i)).Pairwise
      fun a b => a.line < b.line :=
  List.pairwise_map.mpr (pairwise_mentionsAt phrase ls)

/-! ## Blocks that are taken -/

theorem covers_iff {outer inner : LineRange} :
    outer.covers inner = true ↔ outer.first ≤ inner.first ∧ inner.last ≤ outer.last := by
  rw [LineRange.covers, Bool.and_eq_true, decide_eq_true_eq, decide_eq_true_eq]

theorem dropCovered_sublist (taken : List LineRange) (es : List Excerpt) :
    (dropCovered taken es).Sublist es := by
  fun_induction dropCovered taken es with
  | case1 => exact List.Sublist.refl _
  | case2 taken e es _ ih => exact ih.cons e
  | case3 taken e es _ ih => exact ih.cons_cons e

/-- Every block that is asked for lies in one that was taken before or is taken, and the
    line that asked for that one comes no later. -/
theorem dropCovered_covers (hes : es.Pairwise fun a b => a.line < b.line) (he : e ∈ es) :
    (∃ r ∈ taken, r.covers e.range = true) ∨
      ∃ e' ∈ dropCovered taken es, e'.line ≤ e.line ∧ e'.range.covers e.range = true := by
  fun_induction dropCovered taken es with
  | case1 => exact nomatch he
  | case2 taken e₀ es h ih =>
      rcases List.mem_cons.mp he with rfl | he
      · exact Or.inl (List.any_eq_true.mp h)
      · exact ih (List.pairwise_cons.mp hes).2 he
  | case3 taken e₀ es h ih =>
      obtain ⟨hline, hes⟩ := List.pairwise_cons.mp hes
      rcases List.mem_cons.mp he with rfl | he
      · exact Or.inr ⟨e, List.mem_cons_self, Nat.le_refl _,
          covers_iff.mpr ⟨Nat.le_refl _, Nat.le_refl _⟩⟩
      · rcases ih hes he with ⟨r, hr, hcov⟩ | ⟨e', he', hle, hcov⟩
        · -- what counts as taken for the rest is taken before or is the block at hand
          rcases List.mem_cons.mp hr with rfl | hr
          · exact Or.inr ⟨e₀, List.mem_cons_self, Nat.le_of_lt (hline e he), hcov⟩
          · exact Or.inl ⟨r, hr, hcov⟩
        · exact Or.inr ⟨e', List.mem_cons_of_mem e₀ he', hle, hcov⟩

/-- No block is taken that lies in one taken before. -/
theorem pairwise_dropCovered (taken : List LineRange) (es : List Excerpt) :
    (∀ e ∈ dropCovered taken es, ∀ r ∈ taken, r.covers e.range = false) ∧
      (dropCovered taken es).Pairwise fun a b => a.range.covers b.range = false := by
  fun_induction dropCovered taken es with
  | case1 => exact ⟨fun e he => (nomatch he), List.Pairwise.nil⟩
  | case2 taken e es _ ih => exact ih
  | case3 taken e es h ih =>
      obtain ⟨hnew, hpair⟩ := ih
      constructor
      · intro e' he' r hr
        rcases List.mem_cons.mp he' with rfl | he'
        · exact Bool.eq_false_iff.mpr fun hcov => h (List.any_eq_true.mpr ⟨r, hr, hcov⟩)
        · exact hnew e' he' r (List.mem_cons_of_mem _ hr)
      · exact List.Pairwise.cons (fun e' he' => hnew e' he' _ List.mem_cons_self) hpair

/-- An excerpt is the block around a line that mentions the phrase. -/
theorem of_mem_excerpts (h : e ∈ excerpts limit phrase ls) :
    e.line ∈ mentionsAt phrase.lower ls ∧ e.range = rangeAround limit ls e.line := by
  obtain ⟨i, hi, rfl⟩ := List.mem_map.mp ((dropCovered_sublist _ _).subset h)
  exact ⟨hi, rfl⟩

/-- An excerpt holds its line, ends within the text and keeps to the limit. -/
theorem range_of_mem_excerpts (h : e ∈ excerpts limit phrase ls) :
    e.range.first ≤ e.line ∧ e.line ≤ e.range.last ∧ e.range.last < ls.length ∧
      e.range.last + 1 - e.range.first ≤ max limit 1 := by
  obtain ⟨hmention, hrange⟩ := of_mem_excerpts h
  rw [hrange]
  exact rangeAround_spec (lt_length_of_mem_mentionsAt hmention) limit

/-- The block around a line that mentions the phrase lies in an excerpt that such a line
    asked for, this one or one above it. -/
theorem exists_mem_excerpts_covers (h : i ∈ mentionsAt phrase.lower ls) (limit : Nat) :
    ∃ e ∈ excerpts limit phrase ls,
      e.line ≤ i ∧ e.range.covers (rangeAround limit ls i) = true := by
  have hasked : ⟨i, rangeAround limit ls i⟩ ∈
      (mentionsAt phrase.lower ls).map fun i => Excerpt.mk i (rangeAround limit ls i) :=
    List.mem_map.mpr ⟨i, h, rfl⟩
  refine (dropCovered_covers (pairwise_line_asked limit phrase.lower ls) hasked).resolve_left ?_
  rintro ⟨r, hr, -⟩
  exact nomatch hr

/-- Every line that mentions the phrase lies in an excerpt. -/
theorem exists_mem_excerpts (h : i ∈ mentionsAt phrase.lower ls) (limit : Nat) :
    ∃ e ∈ excerpts limit phrase ls, e.range.first ≤ i ∧ i ≤ e.range.last := by
  obtain ⟨e, he, -, hcov⟩ := exists_mem_excerpts_covers h limit
  have hspec := rangeAround_spec (lt_length_of_mem_mentionsAt h) limit
  obtain ⟨hfirst, hlast⟩ := covers_iff.mp hcov
  exact ⟨e, he, Nat.le_trans hfirst hspec.1, Nat.le_trans hspec.2.1 hlast⟩

/-- There is no excerpt exactly if no line mentions the phrase. -/
theorem excerpts_eq_nil_iff (limit : Nat) :
    excerpts limit phrase ls = [] ↔ ∀ l ∈ ls, l.lower.mentions phrase.lower = false := by
  constructor
  · intro hnone l hl
    obtain ⟨i, hi, hl'⟩ := List.getElem_of_mem hl
    refine Bool.eq_false_iff.mpr fun hm => ?_
    have hmention : i ∈ mentionsAt phrase.lower ls :=
      mem_mentionsAt.mpr ⟨l, List.getElem?_eq_some_iff.mpr ⟨hi, hl'⟩, hm⟩
    obtain ⟨e, he, -⟩ := exists_mem_excerpts hmention limit
    rw [hnone] at he
    exact nomatch he
  · intro hnone
    refine List.eq_nil_iff_forall_not_mem.mpr fun e he => ?_
    obtain ⟨l, hl, hm⟩ := mem_mentionsAt.mp (of_mem_excerpts he).1
    rw [hnone l (List.mem_of_getElem? hl)] at hm
    exact Bool.noConfusion hm

/-! ## What is written -/

theorem mem_of_mem_slice (h : l ∈ r.slice ls) : l ∈ ls :=
  List.mem_of_mem_drop (List.mem_of_mem_take h)

/-- The lines that are written hold no newline. -/
theorem newline_not_mem_of_mem_written (hl : ∀ l ∈ ls, '\n' ∉ l)
    (h : l ∈ es.flatMap fun e => e.range.slice ls ++ [[]]) : '\n' ∉ l := by
  obtain ⟨e, -, hl'⟩ := List.mem_flatMap.mp h
  rcases List.mem_append.mp hl' with hl' | hl'
  · exact hl l (mem_of_mem_slice hl')
  · rw [List.mem_singleton.mp hl']
    exact List.not_mem_nil

/-- A line that is written and not empty is a line of the text. -/
theorem mem_of_mem_lines_writeExcerpts (hl : ∀ l ∈ ls, '\n' ∉ l)
    (h : l ∈ (writeExcerpts ls es).lines) (hne : l ≠ []) : l ∈ ls := by
  have hcap : writeExcerpts ls es
      = unlines (capLines 0 (es.flatMap fun e => e.range.slice ls ++ [[]])) :=
    capNewlinesAfter_unlines (fun l hm => newline_not_mem_of_mem_written hl hm) 0
  have hsub := capLines_sublist 0 (es.flatMap fun e => e.range.slice ls ++ [[]])
  rw [hcap] at h
  have hmem := (mem_lines_unlines
    (fun l hm => newline_not_mem_of_mem_written hl (hsub.subset hm)) h).resolve_right hne
  obtain ⟨e, -, hl'⟩ := List.mem_flatMap.mp (hsub.subset hmem)
  rcases List.mem_append.mp hl' with hl' | hl'
  · exact mem_of_mem_slice hl'
  · exact absurd (List.mem_singleton.mp hl') hne

/-- Nothing is written exactly if there is no excerpt, since each has a line and an empty
    one behind it. -/
theorem writeExcerpts_eq_nil_iff (he : ∀ e ∈ es, e.range.slice ls ≠ []) :
    writeExcerpts ls es = [] ↔ es = [] := by
  rw [writeExcerpts, capNewlines_eq_nil_iff]
  constructor
  · intro h
    cases es with
    | nil => rfl
    | cons e es =>
        obtain ⟨l, more, hslice⟩ := List.exists_cons_of_ne_nil (he e List.mem_cons_self)
        rw [List.flatMap_cons, hslice, List.cons_append, List.cons_append,
          unlines_cons l (by simp)] at h
        exact absurd (List.append_eq_nil_iff.mp h).2 (List.cons_ne_nil _ _)
  · rintro rfl
    rfl

theorem slice_ne_nil (hr : r.first ≤ r.last) (hlast : r.last < ls.length) : r.slice ls ≠ [] := by
  refine List.ne_nil_of_length_pos ?_
  rw [LineRange.slice, List.length_take, List.length_drop]
  omega

/-! ## The result -/

end BareCode
