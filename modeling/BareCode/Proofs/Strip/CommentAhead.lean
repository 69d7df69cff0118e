import BareCode.Proofs.Comment.FullLine
import BareCode.Proofs.Strip.Deletion
import BareCode.Proofs.Strip.MarkerFree
/-! # A comment ahead of a text — what it does to the lines behind it

    If line comments are cut, the first pass over them takes a full-line comment away
    before anything looks into it.  Otherwise spans are removed first, and what is
    written in the comment counts: it is removed on its own exactly if it closes every
    span that it opens and still begins with a marker when they are gone.

    * `stripComments_newline_append_of_inline`, `stripComments_newline_append_of_closes`
      — the comment is removed on its own;
    * `closesAll_of_newline_append` — a comment that leaves a span open takes along a
      line of some text behind it;
    * `stripLanguages_comment_ahead_iff` — the condition is exact. -/

namespace BareCode

open Text

variable {ids : List String} {ds : List Dialect} {o : StripOptions} {c : Line} {t : Text} {n : Nat}

/-! ## Line comments that are cut -/

/-- If line comments are cut, the first pass takes the comment away. -/
theorem stripComments_newline_append_of_inline (hds : WellMarked ds) (hd : o.diffMarks = false)
    (ho : o.inline = true) (hc : '\n' ∉ c) (h : isFullComment (lineMarkers ds) c = true)
    (t : Text) : stripComments ds o (c ++ '\n' :: t) = stripComments ds o t := by
  have hfirst : o.cutInline (lineMarkers ds) (c ++ '\n' :: t) = o.cutInline (lineMarkers ds) t := by
    rw [StripOptions.cutInline_of_inline ho, StripOptions.cutInline_of_inline ho,
      cutLineComments_newline_append hds.line_plain hds.line_apart hc h]
  rw [stripComments, stripComments, stripToBlocks, stripToBlocks, o.dropDiffMarks_eq_self hd,
    o.dropDiffMarks_eq_self hd, hfirst]

/-! ## Only spans and full-line comments

    From here on line comments that follow code are left alone, and so are change marks
    and the layout. -/

/-- A line of code that no marker touches. -/
def codeLine (n : Nat) : Text := List.replicate n 'x' ++ ['\n']

/-- A line of code holds no character of a marker. -/
theorem not_mem_of_mem_codeLine {m : Text} {d : Char} (hm : m.IsPlain) (hx : 'x' ∉ m)
    (hd : d ∈ codeLine n) : d ∉ m := by
  rcases List.mem_append.mp hd with hd | hd
  · rw [List.eq_of_mem_replicate hd]
    exact hx
  · rw [List.mem_singleton.mp hd]
    exact hm.newline_not_mem

/-- No pair finds a span in a line of code and a closer behind it. -/
theorem not_enclosesIn_codeLine_closer {p q : BlockPair}
    (hp : p ∈ blockMarkers (Dialect.choose ids)) (hq : q ∈ blockMarkers (Dialect.choose ids)) :
    ¬ q.EnclosesIn (codeLine n ++ p.closer) := by
  have hplain := ((wellMarked_choose ids).block_plain q hq).1
  have hforeign : ∀ d ∈ codeLine n, d ∉ q.opener := by
    intro d hd
    exact not_mem_of_mem_codeLine hplain (x_not_mem_blockMarkers hq).1 hd
  have hfirst := BlockPair.firstSpan?_foreign hplain.1 hforeign p.closer
  rw [firstSpan?_closer hp hq] at hfirst
  exact BlockPair.firstSpan?_eq_none_iff.mp hfirst

section SpansAndFullLines

variable (hd : o.diffMarks = false) (hn : o.normalize = false) (ho : o.inline = false)

include hd hn ho

/-- Stripping comes down to two passes. -/
theorem stripComments_eq_dropFullComments (t : Text) :
    stripComments ds o t
      = dropFullComments (lineMarkers ds) (removeBlocks (blockMarkers ds) t) := by
  rw [stripComments, stripToBlocks, o.dropDiffMarks_eq_self hd, o.cutInline_eq_self ho,
    o.cutInline_eq_self ho, o.lay_eq_self hn]

/-- The comment goes on its own if it closes its spans and is still one when they are
    gone. -/
theorem stripComments_newline_append_of_closes (hds : WellMarked ds) (hc : '\n' ∉ c)
    (hclose : ClosesAll (blockMarkers ds) c)
    (hleft : isFullComment (lineMarkers ds) (removeBlocks (blockMarkers ds) c) = true) (t : Text) :
    stripComments ds o (c ++ '\n' :: t) = stripComments ds o t := by
  rw [stripComments_eq_dropFullComments hd hn ho, stripComments_eq_dropFullComments hd hn ho,
    removeBlocks_newline_append hds.newline_not_mem_opener hclose]
  exact dropFullComments_newline_append (newline_not_mem_removeBlocks _ hc) hleft _

/-- A line of code survives in front of a closer. -/
theorem le_count_stripLanguages_codeLine {p : BlockPair}
    (hp : p ∈ blockMarkers (Dialect.choose ids)) :
    n + 1 ≤ (stripLanguages ids o (codeLine (n + 1) ++ p.closer)).count 'x' := by
  have hline : codeLine (n + 1) ++ p.closer = List.replicate (n + 1) 'x' ++ '\n' :: p.closer := by
    rw [codeLine, List.append_assoc]
    rfl
  have hx : '\n' ∉ List.replicate (n + 1) 'x' := by
    intro hm
    exact absurd (List.eq_of_mem_replicate hm) (by decide)
  have hcode : isFullComment (lineMarkers (Dialect.choose ids)) (List.replicate (n + 1) 'x')
      = false := by
    refine isFullComment_eq_false_iff.mpr fun m hm hfront => ?_
    obtain ⟨d, more, rfl⟩ := List.exists_cons_of_ne_nil ((wellMarked_choose ids).line_plain m hm).1
    have hd : d ∈ List.replicate (n + 1) 'x' :=
      (List.dropWhile_suffix _).subset (hfront.subset List.mem_cons_self)
    exact x_not_mem_lineMarker hm (List.eq_of_mem_replicate hd ▸ List.mem_cons_self)
  have hle := (prefix_dropFullComments hx hcode p.closer).sublist.count_le 'x'
  rw [stripLanguages, stripComments_eq_dropFullComments hd hn ho,
    removeBlocks_of_no_span fun q hq => not_enclosesIn_codeLine_closer hp hq, hline]
  rwa [List.count_replicate_self] at hle

/-- A comment that goes on its own in front of every text closes its spans. -/
theorem closesAll_of_newline_append
    (h : ∀ t, stripLanguages ids o (c ++ '\n' :: t) = stripLanguages ids o t) :
    ClosesAll (blockMarkers (Dialect.choose ids)) c := by
  by_contra hopen
  have hplain := (wellMarked_choose ids).block_plain
  obtain ⟨p, hp, hle⟩ :=
    exists_count_removeBlocks_le hplain (show 'x' ≠ '\n' by decide) hopen
  -- put behind it a line with one `x` more than it holds, and the closer it waits for
  have hforeign : ∀ d ∈ codeLine (c.count 'x' + 1), d ∉ p.closer := by
    intro d hd
    exact not_mem_of_mem_codeLine (hplain p hp).2 (x_not_mem_blockMarkers hp).2 hd
  have hremoved := hle _ hforeign fun q hq => not_enclosesIn_codeLine_closer hp hq
  -- the line survives where the comment is not in front
  have hkept : c.count 'x' + 1 ≤ _ := le_count_stripLanguages_codeLine hd hn ho hp
  rw [← h, stripLanguages, stripComments_eq_dropFullComments hd hn ho] at hkept
  have hdropped := (aligned_dropFullComments (lineMarkers (Dialect.choose ids))
    (removeBlocks (blockMarkers (Dialect.choose ids))
      (c ++ '\n' :: (codeLine (c.count 'x' + 1) ++ p.closer)))).sublist.count_le 'x'
  omega

/-- If it closes them, it is still a comment when they are gone: otherwise it would be
    left in front of the empty text. -/
theorem isFullComment_removeBlocks_of_newline_append (hc : '\n' ∉ c)
    (hclose : ClosesAll (blockMarkers (Dialect.choose ids)) c)
    (h : ∀ t, stripLanguages ids o (c ++ '\n' :: t) = stripLanguages ids o t) :
    isFullComment (lineMarkers (Dialect.choose ids))
      (removeBlocks (blockMarkers (Dialect.choose ids)) c) = true := by
  by_contra hcode
  have hds := wellMarked_choose ids
  have hstrip : stripLanguages ids o [] = [] :=
    List.sublist_nil.mp (aligned_stripComments_of_no_layout hn _ []).sublist
  have hblocks : removeBlocks (blockMarkers (Dialect.choose ids)) [] = [] :=
    List.sublist_nil.mp (aligned_removeBlocks _ []).sublist
  have hkept : dropFullComments (lineMarkers (Dialect.choose ids))
      (removeBlocks (blockMarkers (Dialect.choose ids)) c ++ ['\n'])
        = removeBlocks (blockMarkers (Dialect.choose ids)) c ++ ['\n'] := by
    refine dropFullComments_of_none fun l hl => ?_
    rw [lines_line_newline (newline_not_mem_removeBlocks _ hc), lines_nil] at hl
    rcases List.mem_cons.mp hl with rfl | hl
    · exact Bool.eq_false_iff.mpr hcode
    · rw [List.mem_singleton.mp hl]
      exact isFullComment_nil hds.line_plain
  have h0 := h []
  rw [hstrip, stripLanguages, stripComments_eq_dropFullComments hd hn ho,
    removeBlocks_newline_append hds.newline_not_mem_opener hclose, hblocks, hkept] at h0
  exact absurd h0 (by simp)

end SpansAndFullLines

/-! ## The result -/

/-- A full-line comment is removed without touching a line behind it exactly if line
    comments are cut anyway, or the comment closes every span that it opens and is
    still one when they are gone. -/
theorem stripLanguages_comment_ahead_iff (ids : List String) (o : StripOptions)
    (hd : o.diffMarks = false) (hn : o.normalize = false) (c : Line) (hc : '\n' ∉ c)
    (h : isFullComment (lineMarkers (Dialect.choose ids)) c = true) :
    (∀ t, stripLanguages ids o (c ++ '\n' :: t) = stripLanguages ids o t) ↔
      o.inline = true ∨
        ClosesAll (blockMarkers (Dialect.choose ids)) c ∧
          isFullComment (lineMarkers (Dialect.choose ids))
            (removeBlocks (blockMarkers (Dialect.choose ids)) c) = true := by
  have hds := wellMarked_choose ids
  constructor
  · intro hall
    cases ho : o.inline with
    | true => exact Or.inl rfl
    | false =>
        have hclose := closesAll_of_newline_append hd hn ho hall
        exact Or.inr
          ⟨hclose, isFullComment_removeBlocks_of_newline_append hd hn ho hc hclose hall⟩
  · intro hcase t
    cases ho : o.inline with
    | true =>
        exact stripComments_newline_append_of_inline hds hd ho hc h t
    | false =>
        rw [ho] at hcase
        obtain ⟨hclose, hleft⟩ := hcase.resolve_left Bool.noConfusion
        exact stripComments_newline_append_of_closes hd hn ho hds hc hclose hleft t

/-- An opener in a comment is harmless if line comments are cut, and so is one that the
    comment closes itself. -/
theorem stripLanguages_comment_ahead_iff_closed :
    (∀ t, stripLanguages ["js"] { normalize := false, inline := true } ("///*".toList ++ '\n' :: t)
      = stripLanguages ["js"] { normalize := false, inline := true } t) ∧
    ∀ t, stripLanguages ["js"] { normalize := false } ("// a /* b */".toList ++ '\n' :: t)
      = stripLanguages ["js"] { normalize := false } t := by
  have hclose : ClosesAll (blockMarkers (Dialect.choose ["js"])) "// a /* b */".toList := by
    refine ⟨?_, trivial⟩
    refine BlockPair.Closes.span (s := ⟨"// a ".toList, "/* b */".toList, []⟩) (by decide) ?_
    exact BlockPair.Closes.noOpener (by decide)
  constructor
  · exact (stripLanguages_comment_ahead_iff ["js"] { normalize := false, inline := true } rfl rfl
      "///*".toList (by decide) (by decide)).mpr (Or.inl rfl)
  · exact (stripLanguages_comment_ahead_iff ["js"] { normalize := false } rfl rfl
      "// a /* b */".toList (by decide) (by decide)).mpr (Or.inr ⟨hclose, by decide⟩)

/-- An opener that a comment leaves open takes the lines behind it along. -/
theorem stripLanguages_comment_ahead_open :
    '\n' ∉ "///*".toList ∧
    isFullComment (lineMarkers (Dialect.choose ["js"])) "///*".toList = true ∧
    stripLanguages ["js"] { normalize := false } ("///*".toList ++ '\n' :: "a\n*/".toList)
      = "\n".toList ∧
    stripLanguages ["js"] { normalize := false } "a\n*/".toList = "a\n*/".toList := by
  decide

end BareCode
