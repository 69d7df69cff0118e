import BareCode.Comment.Strip
import BareCode.Proofs.Comment.Settled
import BareCode.Proofs.Dialect.Markers
import BareCode.Proofs.Text.NormalLines
/-! # Stripped texts are free of active markers

    Block removal glues text together, and so it may bare a line marker.  The passes
    behind it see to that: whatever text they are given, the last pass over line
    comments leaves settled lines only, the pass over full-line comments leaves no
    line that begins with a marker, and layout changes neither, since it takes
    padding off the end of a line and rewrites it in front.

    * `isFullComment_of_mem_strip` — no line of the result begins with a marker;
    * `settled_of_mem_strip` — if line comments are cut, every marker is settled on
      every line of the result;
    * `stripLanguages_marker_free` — both, in terms of where markers occur. -/

namespace BareCode

open Text

variable {order : GuardOrder} {ms : List Text} {m : Text} {l : Line} {t : Text}
  {ds : List Dialect} {o : StripOptions}

/-! ## Lines that begin with a marker -/

/-- A front part of a line that does not begin with a marker does not either. -/
theorem isFullComment_of_isPrefix {l' : Line} (hp : l' <+: l)
    (h : isFullComment ms l = false) : isFullComment ms l' = false := by
  rw [isFullComment_eq_false_iff] at h ⊢
  exact fun m hm hm' => h m hm (hm'.trans (trimStart_isPrefix hp))

/-- Indentation is nothing to a line that begins with a marker. -/
theorem isFullComment_indentWithSpaces (ms : List Text) (l : Line) :
    isFullComment ms l.indentWithSpaces = isFullComment ms l := by
  rw [isFullComment, isFullComment, Line.trimStart_indentWithSpaces]

theorem isFullComment_nil (hms : ∀ m ∈ ms, m.IsPlain) : isFullComment ms [] = false := by
  rw [isFullComment_eq_false_iff]
  exact fun m hm hp => (hms m hm).1 (List.prefix_nil.mp hp)

/-- No line begins with a marker once the lines that do are dropped. -/
theorem isFullComment_of_mem_dropFullComments (hms : ∀ m ∈ ms, m.IsPlain)
    (h : l ∈ (dropFullComments ms t).lines) : isFullComment ms l = false := by
  rcases mem_lines_dropFullComments h with ⟨-, hl⟩ | rfl
  · exact hl
  · exact isFullComment_nil hms

/-- Normal layout gives no line that begins with a marker. -/
theorem isFullComment_of_mem_normalize
    (ht : ∀ l ∈ t.lines, isFullComment ms l = false) (h : l ∈ (normalize t).lines) :
    isFullComment ms l = false := by
  obtain ⟨l', hl', rfl | rfl⟩ := mem_lines_normalize h
  · rw [isFullComment_indentWithSpaces]
    exact ht l' hl'
  · rw [isFullComment_indentWithSpaces]
    exact isFullComment_of_isPrefix (Line.trimPadding_isPrefix l') (ht l' hl')

/-- No line of a stripped text begins with a marker. -/
theorem isFullComment_of_mem_strip (hds : WellMarked ds)
    (h : l ∈ (stripComments ds o t).lines) : isFullComment (lineMarkers ds) l = false := by
  rw [stripComments, StripOptions.lay] at h
  split at h
  · exact isFullComment_of_mem_normalize
      (fun l hl => isFullComment_of_mem_dropFullComments hds.line_plain hl) h
  · exact isFullComment_of_mem_dropFullComments hds.line_plain h

/-! ## Lines on which a marker is settled -/

theorem settled_nil (hm : m.IsPlain) : Settled order m [] :=
  settled_of_not_isInfix fun hi => hm.1 (List.infix_nil.mp hi)

/-- All markers are settled on the lines that lost their line comments. -/
theorem settled_of_mem_cutLineComments (hms : ∀ m ∈ ms, m.IsPlain)
    (h : l ∈ (cutLineComments order ms t).lines) : ∀ m ∈ ms, Settled order m l := by
  rcases mem_lines_cutLineComments h with ⟨l₀, -, hc⟩ | rfl
  · exact settled_of_cutLine hc
  · exact fun m hm => settled_nil (hms m hm)

/-- Dropping lines unsettles no marker. -/
theorem settled_of_mem_dropFullComments (hms : ∀ m ∈ ms, m.IsPlain)
    (ht : ∀ l ∈ t.lines, ∀ m ∈ ms, Settled order m l)
    (h : l ∈ (dropFullComments ms t).lines) : ∀ m ∈ ms, Settled order m l := by
  rcases mem_lines_dropFullComments h with ⟨hl, -⟩ | rfl
  · exact ht l hl
  · exact fun m hm => settled_nil (hms m hm)

/-- Normal layout unsettles no marker. -/
theorem settled_of_mem_normalize (hms : ∀ m ∈ ms, m.IsPlain)
    (ht : ∀ l ∈ t.lines, ∀ m ∈ ms, Settled order m l) (h : l ∈ (normalize t).lines) :
    ∀ m ∈ ms, Settled order m l := by
  intro m hm
  have hpad : ∀ c ∈ m, isPadding c = false := by
    intro c hc
    exact isPadding_eq_false ((hms m hm).2 c hc)
  obtain ⟨l', hl', rfl | rfl⟩ := mem_lines_normalize h
  · exact (ht l' hl' m hm).indentWithSpaces (hms m hm).1 hpad
  · have := (ht l' hl' m hm).of_isPrefix (Line.trimPadding_isPrefix l')
    exact this.indentWithSpaces (hms m hm).1 hpad

/-- If line comments are cut, every marker is settled on every line of the result. -/
theorem settled_of_mem_strip (hds : WellMarked ds) (ho : o.inline = true)
    (h : l ∈ (stripComments ds o t).lines) :
    ∀ m ∈ lineMarkers ds, Settled o.guardOrder m l := by
  have hdrop : ∀ l ∈ (dropFullComments (lineMarkers ds)
      (o.cutInline (lineMarkers ds) (stripToBlocks ds o t))).lines,
      ∀ m ∈ lineMarkers ds, Settled o.guardOrder m l := by
    intro l hl
    refine settled_of_mem_dropFullComments hds.line_plain (fun l' hl' => ?_) hl
    rw [StripOptions.cutInline, if_pos ho] at hl'
    exact settled_of_mem_cutLineComments hds.line_plain hl'
  rw [stripComments, StripOptions.lay] at h
  split at h
  · exact settled_of_mem_normalize hds.line_plain hdrop h
  · exact hdrop l h

/-! ## The result -/

/-- No active comment marker survives.  If line comments that follow code are left
    alone, no line of a stripped text begins with a selected marker, blanks aside.  If
    they are cut, the markers that cannot be guarded do not occur at all, and `//`
    occurs only where a guard is found at its first place. -/
theorem stripLanguages_marker_free (ids : List String) (o : StripOptions) (t : Text) :
    (o.inline = false → ∀ l ∈ (stripLanguages ids o t).lines,
      ∀ m ∈ lineMarkers (Dialect.choose ids), l.trimStart.startsWith m = false) ∧
    (o.inline = true → ∀ l ∈ (stripLanguages ids o t).lines,
      (∀ m ∈ lineMarkers (Dialect.choose ids), m ≠ doubleSlash → l.mentions m = false) ∧
      (doubleSlash ∈ lineMarkers (Dialect.choose ids) → ∀ order before rest,
        l.splitAtFirst? doubleSlash = some (before, rest) →
          (guard? order before).isSome = true)) := by
  have hds := wellMarked_choose ids
  constructor
  · intro _ l hl m hm
    have hfull := isFullComment_eq_false_iff.mp (isFullComment_of_mem_strip hds hl) m hm
    exact Bool.eq_false_iff.mpr fun hs => hfull (startsWith_iff.mp hs)
  · intro ho l hl
    have hset := settled_of_mem_strip hds ho hl
    constructor
    · intro m hm hne
      exact Bool.eq_false_iff.mpr fun hs => (hset m hm).not_isInfix hne (mentions_iff.mp hs)
    · intro hm order before rest hs
      have hg := hset doubleSlash hm before rest hs
      rw [markerGuard?, if_pos rfl] at hg
      rw [guard?_isSome_iff_quoteOpen_or_endsWithToken] at hg ⊢
      exact hg

/-- A block that is gone bares `//` in one text and `--` in another; neither survives,
    and the `//` that touches `p` stays guarded. -/
theorem stripLanguages_marker_free_glued :
    ("c".toList ∈ (stripLanguages ["js"] {} "/* a */// b\nc".toList).lines ∧
      Text.startsWith (Text.trimStart "c".toList) doubleSlash = false) ∧
    "p//c".toList ∈
      (stripLanguages ["js", "sql"] { inline := true } "p//c/* a */-- b".toList).lines ∧
    Text.mentions "p//c".toList "--".toList = false ∧
    ∀ order, (guard? order "p".toList).isSome = true := by
  have hc : "c".toList ∈ (stripLanguages ["js"] {} "/* a */// b\nc".toList).lines := by decide
  have hp : "p//c".toList ∈
      (stripLanguages ["js", "sql"] { inline := true } "p//c/* a */-- b".toList).lines := by
    decide
  obtain ⟨hdash, hslash⟩ := (stripLanguages_marker_free _ _ _).2 rfl _ hp
  refine ⟨⟨hc, ?_⟩, hp, hdash "--".toList (by decide) (by decide), fun order => ?_⟩
  · exact (stripLanguages_marker_free _ _ _).1 rfl _ hc doubleSlash (by decide)
  · exact hslash (by decide) order "p".toList "c".toList (by decide)

end BareCode
