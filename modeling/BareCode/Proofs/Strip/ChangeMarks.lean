import BareCode.Proofs.Comment.FullLine
import BareCode.Proofs.Strip.OnePass
import BareCode.Proofs.Strip.Untouched
import BareCode.Proofs.Text.Content
/-! # Change marks — what taking them off leaves of comments

    The pass over change marks runs before anything looks for comments, and the marker `--`
    begins with such a mark.  A line that begins with `--` loses its first dash, and what is
    left begins with a marker only if a third dash follows.  No other marker of the catalog
    begins with a change mark, so no other full-line comment is touched
    (`isFullComment_dropDiffMark_iff`).

    Hence a text whose lines are all full-line comments behind the first pass is stripped to
    nothing (`stripComments_of_full`), and a line that is none any more leaves something
    behind where no pair encloses anything (`stripComments_ne_nil`).  Where one does, it may
    glue the dash that is left to another. -/

namespace BareCode

open Text

variable {order : GuardOrder} {ms : List Text} {m : Text} {l : Line} {t : Text}
  {ids : List String} {ds : List Dialect} {o : StripOptions}

/-! ## One line -/

/-- Whether a line that begins with two dashes, blanks aside, begins with a third. -/
def Line.KeepsDashes (l : Line) : Prop :=
  l.trimStart.startsWith "--".toList = true → l.trimStart.startsWith "---".toList = true

instance (l : Line) : Decidable l.KeepsDashes :=
  inferInstanceAs (Decidable (_ = true → _ = true))

/-- Of the markers of the catalog, only `--` begins with a change mark. -/
theorem exists_head_of_ne_dashes (hm : m ∈ lineMarkers (Dialect.choose ids))
    (hne : m ≠ "--".toList) : ∃ c more, m = c :: more ∧ c ≠ '+' ∧ c ≠ '-' := by
  have hall : ∀ m ∈ lineMarkers catalog, m ≠ "--".toList →
      m.head?.any (fun c => c ≠ '+' ∧ c ≠ '-') = true := by decide
  obtain ⟨c, hc, hmark⟩ := (Option.any_eq_true _ _).mp (hall m (mem_lineMarkers_catalog hm) hne)
  obtain ⟨more, rfl⟩ := List.head?_eq_some_iff.mp hc
  exact ⟨c, more, rfl, by simpa using hmark⟩

/-- The marker `--` is selected with its dialect and with no other. -/
theorem dashes_mem_lineMarkers_iff :
    "--".toList ∈ lineMarkers (Dialect.choose ids) ↔ "sql" ∈ ids := by
  have hall : ∀ d ∈ catalog, "--".toList ∈ d.lineMarkers ↔ d.id = "sql" := by decide
  have hsql : ∃ d ∈ catalog, d.id = "sql" := by decide
  rw [mem_lineMarkers]
  constructor
  · rintro ⟨d, hd, hm⟩
    obtain ⟨hd, hid⟩ := Dialect.mem_choose.mp hd
    rwa [(hall d hd).mp hm] at hid
  · intro hids
    obtain ⟨d, hd, hid⟩ := hsql
    exact ⟨d, Dialect.mem_choose.mpr ⟨hd, hid ▸ hids⟩, (hall d hd).mpr hid⟩

/-- A line that begins with another marker does not begin with two dashes. -/
theorem keepsDashes_of_ne_dashes (hm : m ∈ lineMarkers (Dialect.choose ids))
    (hne : m ≠ "--".toList) (h : m <+: l.trimStart) : l.KeepsDashes := by
  intro htwo
  obtain ⟨c, more, rfl, -, hc⟩ := exists_head_of_ne_dashes hm hne
  obtain ⟨rest, hl⟩ := h
  rw [startsWith_iff, ← hl] at htwo
  exact absurd (List.cons_prefix_cons.mp htwo).1.symm hc

/-- The first of two dashes is taken off, and nothing else. -/
theorem dropDiffMark_of_dashes {rest : Text} (h : "--".toList ++ rest = l.trimStart) :
    l.dropDiffMark = '-' :: rest := by
  rw [Line.dropDiffMark, ← h]
  rfl

/-- So something is left of a line that begins with two dashes. -/
theorem allBlank_dropDiffMark (h : ¬ l.KeepsDashes) : allBlank l.dropDiffMark = false := by
  obtain ⟨htwo, -⟩ := Classical.not_imp.mp h
  obtain ⟨rest, hl⟩ := startsWith_iff.mp htwo
  rw [dropDiffMark_of_dashes hl]
  rfl

/-- A full-line comment is one behind the pass over change marks, unless that pass takes
    the first of just two dashes. -/
theorem isFullComment_dropDiffMark_iff
    (h : isFullComment (lineMarkers (Dialect.choose ids)) l = true) :
    isFullComment (lineMarkers (Dialect.choose ids)) l.dropDiffMark = true ↔ l.KeepsDashes := by
  obtain ⟨m, hm, rest, hl⟩ := isFullComment_eq_true_iff.mp h
  by_cases hdashes : m = "--".toList
  · subst hdashes
    have hthree : l.trimStart.startsWith "---".toList = true ↔ ['-'] <+: rest := by
      rw [startsWith_iff, ← hl]
      exact List.prefix_append_right_inj "--".toList
    have hkeeps : l.KeepsDashes ↔ ['-'] <+: rest := by
      rw [Line.KeepsDashes, hthree, startsWith_iff, ← hl]
      exact imp_iff_right (List.prefix_append _ rest)
    have hdrop : l.dropDiffMark.trimStart = '-' :: rest := by
      rw [dropDiffMark_of_dashes hl]
      rfl
    rw [hkeeps, isFullComment_eq_true_iff, hdrop]
    constructor
    · rintro ⟨m', hm', hp⟩
      -- what begins with a dash begins with no other marker
      by_cases hdashes' : m' = "--".toList
      · subst hdashes'
        exact (List.cons_prefix_cons.mp hp).2
      · obtain ⟨c, more, rfl, -, hc⟩ := exists_head_of_ne_dashes hm' hdashes'
        exact absurd (List.cons_prefix_cons.mp hp).1 hc
    · intro hp
      exact ⟨"--".toList, hm, List.cons_prefix_cons.mpr ⟨rfl, hp⟩⟩
  · have hself : l.dropDiffMark = l := by
      refine Line.dropDiffMark_eq_self_iff.mpr fun d hd => ?_
      obtain ⟨c, more, rfl, hc⟩ := exists_head_of_ne_dashes hm hdashes
      rw [← hl] at hd
      obtain rfl : c = d := Option.some.inj hd
      exact hc
    rw [hself]
    exact iff_of_true h (keepsDashes_of_ne_dashes hm hdashes ⟨rest, hl⟩)

/-- The lines behind the pass over change marks. -/
theorem lines_dropDiffMarks (ho : o.diffMarks = true) (t : Text) :
    (o.dropDiffMarks t).lines = t.lines.map Line.dropDiffMark := by
  rw [StripOptions.dropDiffMarks, if_pos ho]
  exact lines_onLines fun l hl => Line.newline_not_mem_dropDiffMark (not_mem_of_mem_lines hl)

/-! ## What is cut -/

/-- A text all of whose lines begin with a marker is stripped to nothing. -/
theorem stripComments_of_full (hds : WellMarked ds) (ho : o.inline = true)
    (h : ∀ l ∈ (o.dropDiffMarks t).lines, isFullComment (lineMarkers ds) l = true) :
    stripComments ds o t = [] := by
  have hnone : (o.dropDiffMarks t).lines.filterMap (cutLine o.guardOrder (lineMarkers ds)) = [] := by
    refine List.filterMap_eq_nil_iff.mpr fun l hl => ?_
    exact cutLine_of_isFullComment hds.line_plain hds.line_apart (h l hl)
  have hblocks : stripToBlocks ds o t = [] := by
    rw [stripToBlocks, StripOptions.cutInline_of_inline ho, cutLineComments, hnone, unlines_nil]
    exact List.sublist_nil.mp (aligned_removeBlocks _ []).sublist
  rw [stripComments, hblocks, StripOptions.cutInline_of_inline ho, cutLineComments_nil,
    dropFullComments_nil, StripOptions.lay]
  split <;> rfl

/-! ## What is left -/

/-- The markers leave something of a line that is not blank and begins with none of them. -/
theorem exists_cutLine (hms : ∀ m ∈ ms, m.IsPlain) (hfull : isFullComment ms l = false)
    (hb : allBlank l = false) : ∃ l', cutLine order ms l = some l' ∧ allBlank l' = false := by
  induction ms generalizing l with
  | nil => exact ⟨l, rfl, hb⟩
  | cons m ms ih =>
      have ih' : ∀ {l : Line}, isFullComment (m :: ms) l = false → allBlank l = false →
          ∃ l', cutLine order ms l = some l' ∧ allBlank l' = false := by
        intro l hfull hb
        rw [isFullComment, List.any_cons, Bool.or_eq_false_iff] at hfull
        exact ih (fun m' hm' => hms m' (List.mem_cons_of_mem m hm')) hfull.2 hb
      by_cases hset : Settled order m l
      · rw [cutLine_cons_of_settled hset]
        exact ih' hfull hb
      · obtain ⟨before, rest, hs, hv⟩ := verdict_of_not_settled hset
        have hbefore : allBlank before = false := by
          refine Bool.eq_false_iff.mpr fun hblank => ?_
          exact isFullComment_eq_false_iff.mp hfull m List.mem_cons_self
            (prefix_trimStart_of_allBlank (hms m List.mem_cons_self) hs hblank)
        have hfront : before.trimEnd <+: l :=
          (trimEnd_isPrefix before).trans (prefix_of_splitAtFirst? hs)
        rw [cutLine, hv, hbefore, if_neg Bool.false_ne_true]
        exact ih' (isFullComment_of_isPrefix hfront hfull) ((allBlank_trimEnd before).trans hbefore)

/-- Where no pair encloses anything, the first pass over line comments does all the work. -/
theorem stripComments_of_no_span (hds : WellMarked ds) (ho : o.inline = true)
    (h : ∀ p ∈ blockMarkers ds, ¬ p.EnclosesIn t) :
    stripComments ds o t
      = o.lay (cutLineComments o.guardOrder (lineMarkers ds) (o.dropDiffMarks t)) := by
  have hparts : Aligned List.IsInfix
      (cutLineComments o.guardOrder (lineMarkers ds) (o.dropDiffMarks t)) t :=
    (aligned_infix_cutLineComments _ _ _).trans (aligned_infix_dropDiffMarks o t)
  have hspan : ∀ p ∈ blockMarkers ds,
      ¬ p.EnclosesIn (cutLineComments o.guardOrder (lineMarkers ds) (o.dropDiffMarks t)) := by
    intro p hp henc
    obtain ⟨hopen, hclose⟩ := hds.block_plain p hp
    exact h p hp (henc.of_aligned hopen.newline_not_mem hclose.newline_not_mem hparts)
  rw [stripComments, stripToBlocks, StripOptions.cutInline_of_inline ho,
    StripOptions.cutInline_of_inline ho, removeBlocks_of_no_span hspan,
    cutLineComments_cutLineComments, dropFullComments_cutLineComments]

/-- Layout leaves nothing only of a text without a body. -/
theorem lay_ne_nil (hl : l ∈ t.lines) (hb : l.hasBody = true) : o.lay t ≠ [] := by
  have hnil : ∀ {l : Line} {t : Text}, l ∈ t.lines → l.hasBody = true → t ≠ [] := by
    rintro l _ hl hb rfl
    obtain rfl : l = [] := List.mem_singleton.mp hl
    exact Bool.noConfusion hb
  rw [StripOptions.lay]
  split
  · obtain ⟨l', hl', hb'⟩ := exists_hasBody_normalize hl hb
    exact hnil hl' hb'
  · exact hnil hl hb

/-- Where no pair encloses anything, a line that is not blank and begins with no marker
    behind the pass over change marks leaves something. -/
theorem stripComments_ne_nil (hds : WellMarked ds) (ho : o.inline = true)
    (h : ∀ p ∈ blockMarkers ds, ¬ p.EnclosesIn t) (hl : l ∈ (o.dropDiffMarks t).lines)
    (hfull : isFullComment (lineMarkers ds) l = false) (hb : allBlank l = false) :
    stripComments ds o t ≠ [] := by
  obtain ⟨l', hcut, hb'⟩ : ∃ l', cutLine o.guardOrder (lineMarkers ds) l = some l' ∧
      allBlank l' = false := exists_cutLine hds.line_plain hfull hb
  rw [stripComments_of_no_span hds ho h]
  refine lay_ne_nil (l := l') ?_ (Line.hasBody_of_not_allBlank hb')
  have hmem : l' ∈ (o.dropDiffMarks t).lines.filterMap (cutLine o.guardOrder (lineMarkers ds)) :=
    List.mem_filterMap.mpr ⟨l, hl, hcut⟩
  rw [lines_cutLineComments (List.ne_nil_of_mem hmem)]
  exact hmem

/-! ## The result -/

section Selection

variable (hd : o.diffMarks = true) (ho : o.inline = true)
  (hfull : ∀ l ∈ t.lines, isFullComment (lineMarkers (Dialect.choose ids)) l = true)

include hd ho hfull

theorem stripLanguages_of_keepsDashes (hkeeps : ∀ l ∈ t.lines, l.KeepsDashes) :
    stripLanguages ids o t = [] := by
  refine stripComments_of_full (wellMarked_choose ids) ho fun l' hl' => ?_
  rw [lines_dropDiffMarks hd] at hl'
  obtain ⟨l, hl, rfl⟩ := List.mem_map.mp hl'
  exact (isFullComment_dropDiffMark_iff (hfull l hl)).mpr (hkeeps l hl)

theorem keepsDashes_of_stripLanguages
    (hspan : ∀ p ∈ blockMarkers (Dialect.choose ids), ¬ p.EnclosesIn t)
    (hnil : stripLanguages ids o t = []) : ∀ l ∈ t.lines, l.KeepsDashes := by
  intro l hl
  by_contra hkeeps
  have hmem : l.dropDiffMark ∈ (o.dropDiffMarks t).lines := by
    rw [lines_dropDiffMarks hd]
    exact List.mem_map_of_mem hl
  refine stripComments_ne_nil (wellMarked_choose ids) ho hspan hmem ?_
    (allBlank_dropDiffMark hkeeps) hnil
  exact Bool.eq_false_iff.mpr fun h => hkeeps ((isFullComment_dropDiffMark_iff (hfull l hl)).mp h)

end Selection

/-- Taking change marks off rescues no comments but those that begin with just two dashes.
    A text of full-line comments is stripped to nothing while change marks are left alone.
    When they are taken off, it is so if every line that begins with two dashes begins with
    a third, and where no selected pair encloses anything, only then.  So it is for all such
    texts exactly if the dialect of `--` is not selected. -/
theorem stripLanguages_full_comments (ids : List String) :
    (∀ (o : StripOptions) (t : Text), o.inline = true →
      (∀ l ∈ t.lines, isFullComment (lineMarkers (Dialect.choose ids)) l = true) →
      stripLanguages ids { o with diffMarks := false } t = [] ∧
      ((∀ l ∈ t.lines, l.KeepsDashes) → stripLanguages ids { o with diffMarks := true } t = []) ∧
      ((∀ p ∈ blockMarkers (Dialect.choose ids), ¬ p.EnclosesIn t) →
        stripLanguages ids { o with diffMarks := true } t = [] → ∀ l ∈ t.lines, l.KeepsDashes)) ∧
    ((∀ (o : StripOptions) (t : Text), o.inline = true →
        (∀ l ∈ t.lines, isFullComment (lineMarkers (Dialect.choose ids)) l = true) →
        stripLanguages ids { o with diffMarks := true } t = []) ↔
      "sql" ∉ ids) := by
  refine ⟨fun o t ho hfull => ⟨?_, stripLanguages_of_keepsDashes rfl ho hfull,
    keepsDashes_of_stripLanguages rfl ho hfull⟩, ?_, ?_⟩
  · refine stripComments_of_full (wellMarked_choose ids) ho ?_
    rw [StripOptions.dropDiffMarks_eq_self _ rfl]
    exact hfull
  · intro hall hsql
    have hfull : ∀ l ∈ Text.lines "--a".toList,
        isFullComment (lineMarkers (Dialect.choose ids)) l = true := by
      intro l hl
      obtain rfl : l = "--a".toList := List.mem_singleton.mp hl
      exact isFullComment_eq_true_iff.mpr
        ⟨"--".toList, dashes_mem_lineMarkers_iff.mpr hsql, by decide⟩
    have hspan : ∀ p ∈ blockMarkers (Dialect.choose ids), ¬ p.EnclosesIn "--a".toList := by
      have hcatalog : ∀ p ∈ blockMarkers catalog, ¬ p.EnclosesIn "--a".toList := by decide
      exact fun p hp => hcatalog p (mem_blockMarkers_catalog hp)
    have hnil := hall { inline := true } "--a".toList rfl hfull
    have hkeeps := keepsDashes_of_stripLanguages rfl rfl hfull hspan hnil
    exact absurd (hkeeps "--a".toList (List.mem_singleton.mpr rfl)) (by decide)
  · intro hsql o t ho hfull
    refine stripLanguages_of_keepsDashes rfl ho hfull fun l hl => ?_
    obtain ⟨m, hm, hp⟩ := isFullComment_eq_true_iff.mp (hfull l hl)
    have hne : m ≠ "--".toList := by
      rintro rfl
      exact hsql (dashes_mem_lineMarkers_iff.mp hm)
    exact keepsDashes_of_ne_dashes hm hne hp

/-- Of `---` the last two dashes are left, which are a marker again; so this text is
    stripped to nothing with its change marks taken off or not. -/
theorem stripLanguages_full_comments_three :
    (∀ l ∈ Text.lines "// a\n  ---b".toList,
      isFullComment (lineMarkers (Dialect.choose ["js", "sql"])) l = true ∧ l.KeepsDashes) ∧
    (∀ p ∈ blockMarkers (Dialect.choose ["js", "sql"]),
      ¬ p.EnclosesIn "// a\n  ---b".toList) ∧
    stripLanguages ["js", "sql"] { diffMarks := false, inline := true } "// a\n  ---b".toList = [] ∧
    stripLanguages ["js", "sql"] { diffMarks := true, inline := true } "// a\n  ---b".toList = [] := by
  have hlines : ∀ l ∈ Text.lines "// a\n  ---b".toList,
      isFullComment (lineMarkers (Dialect.choose ["js", "sql"])) l = true ∧ l.KeepsDashes := by
    decide
  have hspan : ∀ p ∈ blockMarkers (Dialect.choose ["js", "sql"]),
      ¬ p.EnclosesIn "// a\n  ---b".toList := by
    decide
  obtain ⟨hleft, hnil, hkeeps⟩ := (stripLanguages_full_comments ["js", "sql"]).1 { inline := true }
    "// a\n  ---b".toList rfl fun l hl => (hlines l hl).1
  have htaken := hnil fun l hl => (hlines l hl).2
  exact ⟨fun l hl => ⟨(hlines l hl).1, hkeeps hspan htaken l hl⟩, hspan, hleft, htaken⟩

/-- Of `--` one dash is left, and it stays with what follows it. -/
theorem stripLanguages_full_comments_two :
    (∀ l ∈ Text.lines "--a".toList,
      isFullComment (lineMarkers (Dialect.choose ["sql"])) l = true) ∧
    stripLanguages ["sql"] { diffMarks := false, inline := true } "--a".toList = [] ∧
    stripLanguages ["sql"] { diffMarks := true, inline := true } "--a".toList = "-a".toList := by
  decide

/-- A block that is gone glues the dash to another one, and the line goes after all. -/
example : ¬ Line.KeepsDashes "--/* x */-a".toList ∧
    stripLanguages ["sql"] { diffMarks := true, inline := true } "--/* x */-a".toList = [] := by
  decide

end BareCode
