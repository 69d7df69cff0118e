import BareCode.Proofs.Comment.Bystanders
import BareCode.Proofs.Comment.FullLine
import BareCode.Proofs.Strip.Blocks
/-! # Lines that change — when spans do not notice

    What a bystander does not do to one pair it does not do to several, each of which works
    on what the ones before it left (`removeBlocks_behind`).  So if a line changes before
    spans are removed, what is left of the lines changes in one place at most, and there to
    a front part:

    * `aligned_removeBlocks_change` — a line in which no pair has a marker, dropped or cut;
    * `aligned_removeBlocks_cut` — a line whose end is cut off, if a character that no pair
      uses sets the end off and no marker is in it.  What is left of the line in front of
      the end must be a full-line comment if the whole is, or the cut would keep a line
      that is dropped without it;
    * `aligned_removeBlocks_closed` — a line between spans, if it closes those that it opens,
      whatever stands in it. -/

namespace BareCode

open Text

variable {a b t y : Text} {l l' : Line} {ps : List BlockPair} {ms : List Text}

/-! ## Several pairs -/

/-- A text of newlines holds no marker. -/
theorem absentFrom_newlines {p : BlockPair} (hp : p.opener.IsPlain ∧ p.closer.IsPlain)
    (y : Text) : p.AbsentFrom y.newlines := by
  have hno : ∀ m : Text, m.IsPlain → ¬ m <:+: y.newlines := by
    intro m hm hi
    obtain ⟨c, m', rfl⟩ := List.exists_cons_of_ne_nil hm.1
    have hc := (List.mem_filter.mp (hi.subset List.mem_cons_self)).2
    obtain rfl : c = '\n' := by simpa using hc
    exact hm.newline_not_mem List.mem_cons_self
  exact ⟨hno _ hp.1, hno _ hp.2⟩

/-- A text that is a bystander for several pairs stays or leaves its newlines.  Which of the
    two it is and what is left around it does not depend on it, and if it stays, what
    stands in front of it is treated as if it ended there. -/
theorem removeBlocks_behind (hps : ∀ p ∈ ps, p.opener.IsPlain ∧ p.closer.IsPlain) (s b : Text) :
    (∃ b', ∀ y, (∀ p ∈ ps, p.PassedBy y) →
        removeBlocks ps (s ++ (y ++ b)) = removeBlocks ps s ++ (y ++ b')) ∨
      ∃ s' b', ∀ y, (∀ p ∈ ps, p.PassedBy y) →
        removeBlocks ps (s ++ (y ++ b)) = s' ++ (y.newlines ++ b') := by
  induction ps generalizing s b with
  | nil => exact Or.inl ⟨b, fun y _ => rfl⟩
  | cons p ps ih =>
      obtain ⟨ho, hc⟩ := hps p List.mem_cons_self
      have hps' : ∀ q ∈ ps, q.opener.IsPlain ∧ q.closer.IsPlain := fun q hq =>
        hps q (List.mem_cons_of_mem p hq)
      have hpass : ∀ {y : Text}, (∀ q ∈ p :: ps, q.PassedBy y) → ∀ q ∈ ps, q.PassedBy y :=
        fun h q hq => h q (List.mem_cons_of_mem p hq)
      rcases p.remove_behind ho.newline_not_mem hc.newline_not_mem ho.1 s b with
        ⟨b₁, hstay⟩ | ⟨s₁, b₁, hgo⟩
      · -- it stays, and the other pairs see it as it is
        rcases ih hps' (p.remove s) b₁ with ⟨b', hrest⟩ | ⟨s', b', hrest⟩
        · refine Or.inl ⟨b', fun y hy => ?_⟩
          rw [removeBlocks_cons, removeBlocks_cons, hstay y (hy p List.mem_cons_self),
            hrest y (hpass hy)]
        · refine Or.inr ⟨s', b', fun y hy => ?_⟩
          rw [removeBlocks_cons, hstay y (hy p List.mem_cons_self), hrest y (hpass hy)]
      · -- the newlines that are left are a bystander again
        have hnewlines : ∀ {y : Text}, (∀ q ∈ p :: ps, q.PassedBy y) →
            ∀ q ∈ ps, q.PassedBy y.newlines := by
          intro y hy q hq
          obtain ⟨ho', hc'⟩ := hps' q hq
          exact (hpass hy q hq).newlines (absentFrom_newlines ⟨ho', hc'⟩ y) ho'.newline_not_mem
            hc'.newline_not_mem
        rcases ih hps' s₁ b₁ with ⟨b', hrest⟩ | ⟨s', b', hrest⟩
        · refine Or.inr ⟨removeBlocks ps s₁, b', fun y hy => ?_⟩
          rw [removeBlocks_cons, hgo y (hy p List.mem_cons_self), hrest _ (hnewlines hy)]
        · refine Or.inr ⟨s', b', fun y hy => ?_⟩
          rw [removeBlocks_cons, hgo y (hy p List.mem_cons_self), hrest _ (hnewlines hy), newlines,
            newlines, List.filter_filter]
          simp

/-- No marker stands across a newline. -/
theorem absentFrom_append_newline {p : BlockPair} (hp : p.opener.IsPlain ∧ p.closer.IsPlain)
    (ha : p.AbsentFrom a) (hb : p.AbsentFrom b) : p.AbsentFrom (a ++ '\n' :: b) :=
  ⟨fun ho => (infix_append_wall ho hp.1.newline_not_mem).elim ha.1 hb.1,
    fun hc => (infix_append_wall hc hp.2.newline_not_mem).elim ha.2 hb.2⟩

/-- A newline in front sets whole lines off. -/
theorem passedBy_newline_cons {p : BlockPair} (hp : p.opener.IsPlain ∧ p.closer.IsPlain)
    (hy : WholeLines y) (hfree : p.AbsentFrom y) : p.PassedBy ('\n' :: y) where
  wholeLines := hy.append (a := ['\n']) (wholeLines_newline [])
  absent := absentFrom_append_newline (a := []) hp (hfree.mono List.nil_infix) hfree
  setOff := ⟨'\n', rfl, hp.1.newline_not_mem, hp.2.newline_not_mem⟩

theorem removeBlocks_wholeLines_append (hps : ∀ p ∈ ps, p.opener.IsPlain ∧ p.closer.IsPlain)
    (hy : WholeLines y) (hfree : ∀ p ∈ ps, p.AbsentFrom y) (b : Text) :
    removeBlocks ps (y ++ b) = y ++ removeBlocks ps b := by
  induction ps generalizing b with
  | nil => rfl
  | cons p ps ih =>
      have hp := hps p List.mem_cons_self
      rw [removeBlocks_cons, removeBlocks_cons, p.remove_wholeLines_append hp.1.newline_not_mem hy
        (hfree p List.mem_cons_self).1]
      exact ih (fun q hq => hps q (List.mem_cons_of_mem p hq))
        (fun q hq => hfree q (List.mem_cons_of_mem p hq)) _

/-- Whole lines among others, in which no pair has a marker, stay or leave their newlines. -/
theorem removeBlocks_around (hps : ∀ p ∈ ps, p.opener.IsPlain ∧ p.closer.IsPlain)
    (ha : WholeLines a) (b : Text) :
    ∃ a' b', WholeLines a' ∧
      ((∀ y, WholeLines y → (∀ p ∈ ps, p.AbsentFrom y) →
          removeBlocks ps (a ++ (y ++ b)) = a' ++ (y ++ b')) ∨
        ∀ y, WholeLines y → (∀ p ∈ ps, p.AbsentFrom y) →
          removeBlocks ps (a ++ (y ++ b)) = a' ++ (y.newlines ++ b')) := by
  rcases ha with rfl | ⟨s, rfl⟩
  · exact ⟨[], removeBlocks ps b, wholeLines_nil, Or.inl fun y hy hfree =>
      removeBlocks_wholeLines_append hps hy hfree b⟩
  · have hpass : ∀ {y : Text}, WholeLines y → (∀ p ∈ ps, p.AbsentFrom y) →
        ∀ p ∈ ps, p.PassedBy ('\n' :: y) := fun hy hfree p hp =>
      passedBy_newline_cons (hps p hp) hy (hfree p hp)
    simp only [List.append_assoc, List.singleton_append]
    rcases removeBlocks_behind hps s b with ⟨b', hstay⟩ | ⟨s', b', hgo⟩
    · refine ⟨removeBlocks ps s ++ ['\n'], b', wholeLines_newline _, Or.inl fun y hy hfree => ?_⟩
      rw [List.append_assoc (removeBlocks ps s)]
      exact hstay _ (hpass hy hfree)
    · refine ⟨s' ++ ['\n'], b', wholeLines_newline s', Or.inr fun y hy hfree => ?_⟩
      rw [List.append_assoc s']
      exact hgo _ (hpass hy hfree)

theorem removeBlocks_concat_newline (hps : ∀ p ∈ ps, p.opener.IsPlain ∧ p.closer.IsPlain)
    (t : Text) : removeBlocks ps (t ++ ['\n']) = removeBlocks ps t ++ ['\n'] := by
  induction ps generalizing t with
  | nil => rfl
  | cons p ps ih =>
      obtain ⟨ho, hc⟩ := hps p List.mem_cons_self
      rw [removeBlocks_cons, removeBlocks_cons,
        p.remove_concat_newline hc.newline_not_mem ho.1 hc.1,
        ih fun q hq => hps q (List.mem_cons_of_mem p hq)]

/-! ## Lines among the spans -/

/-- Whether a line is a front part of another and is still a full-line comment if that
    one is. -/
def Line.FrontOf (ms : List Text) (l' l : Line) : Prop :=
  l' <+: l ∧ (isFullComment ms l = true → isFullComment ms l' = true)

instance : Std.Refl (Line.FrontOf ms) := ⟨fun l => ⟨List.prefix_refl l, id⟩⟩

instance : IsTrans Line (Line.FrontOf ms) :=
  ⟨fun _ _ _ h h' => ⟨h.1.trans h'.1, fun hfull => h.2 (h'.2 hfull)⟩⟩

theorem newlines_closedLine (hl : '\n' ∉ l) : (closedLines [l]).newlines = closedLines [[]] := by
  have hnil : l.filter (· = '\n') = [] := by
    refine List.filter_eq_nil_iff.mpr fun c hc h => hl ?_
    obtain rfl : c = '\n' := by simpa using h
    exact hc
  rw [closedLines_singleton, newlines, List.filter_append, hnil]
  rfl

theorem absentFrom_closedLine {p : BlockPair} (hp : p.opener.IsPlain ∧ p.closer.IsPlain)
    (h : p.AbsentFrom l) : p.AbsentFrom (closedLines [l]) := by
  rw [closedLines_singleton]
  exact absentFrom_append_newline hp h (h.mono List.nil_infix)

/-- A character that a pair does not use sets the end of a line off. -/
theorem passedBy_closedLine {p : BlockPair} (hp : p.opener.IsPlain ∧ p.closer.IsPlain)
    (hoff : ∃ c ∈ l.head?, c ∉ p.opener ∧ c ∉ p.closer) (h : p.AbsentFrom l) :
    p.PassedBy (closedLines [l]) where
  wholeLines := wholeLines_closedLines [l]
  absent := absentFrom_closedLine hp h
  setOff := by
    obtain ⟨c, hhead, hc⟩ := hoff
    refine ⟨c, ?_, hc⟩
    rw [closedLines_singleton, List.head?_append, hhead]
    rfl

/-- A line in front of a text may be dropped or give way to a front part. -/
theorem sublistForall₂_lines_change {left : Option Line} (hl : '\n' ∉ l)
    (hfront : ∀ l' ∈ left, Line.FrontOf ms l' l) (t : Text) :
    List.SublistForall₂ (Line.FrontOf ms) (lines (closedLines left.toList ++ t))
      (lines (closedLines [l] ++ t)) := by
  rw [lines_closedLine_append hl]
  cases left with
  | none => exact List.SublistForall₂.cons_right (Std.Refl.refl _)
  | some l' =>
      have hl' : '\n' ∉ l' := fun hm => hl ((hfront l' rfl).1.subset hm)
      rw [Option.toList_some, lines_closedLine_append hl']
      exact List.SublistForall₂.cons (hfront l' rfl) (Std.Refl.refl _)

/-- A line in which no pair has a marker may be dropped or give way to a front part. -/
theorem aligned_removeBlocks_change (hps : ∀ p ∈ ps, p.opener.IsPlain ∧ p.closer.IsPlain)
    (hl : '\n' ∉ l) (hfree : ∀ p ∈ ps, p.AbsentFrom l) {left : Option Line}
    (hfront : ∀ l' ∈ left, Line.FrontOf ms l' l) (ha : WholeLines a) (b : Text) :
    Aligned (Line.FrontOf ms) (removeBlocks ps (a ++ (closedLines left.toList ++ b)))
      (removeBlocks ps (a ++ (closedLines [l] ++ b))) := by
  obtain ⟨a', b', ha', h⟩ := removeBlocks_around hps ha b
  obtain ⟨more, hmore⟩ := exists_lines_wholeLines_append ha'
  have hline : ∀ p ∈ ps, p.AbsentFrom (closedLines [l]) := fun p hp =>
    absentFrom_closedLine (hps p hp) (hfree p hp)
  have hleft : (∀ p ∈ ps, p.AbsentFrom (closedLines left.toList)) ∧
      (closedLines left.toList).newlines = closedLines (left.map fun _ => []).toList := by
    cases left with
    | none => exact ⟨fun p hp => (hfree p hp).mono List.nil_infix, rfl⟩
    | some l' =>
        have hl'l := (hfront l' rfl).1
        exact ⟨fun p hp => absentFrom_closedLine (hps p hp) ((hfree p hp).mono hl'l.isInfix),
          newlines_closedLine fun hm => hl (hl'l.subset hm)⟩
  rcases h with hstay | hgo
  · rw [hstay _ (wholeLines_closedLines _) hleft.1, hstay _ (wholeLines_closedLines _) hline,
      Aligned, hmore, hmore]
    exact sublistForall₂_append_left more (sublistForall₂_lines_change hl hfront b')
  · -- where only newlines are left, the line counts as an empty one
    have hempty : ∀ l' ∈ left.map fun _ => ([] : Line), Line.FrontOf ms l' [] := by
      intro l' hl'
      obtain ⟨-, -, rfl⟩ := Option.map_eq_some_iff.mp hl'
      exact Std.Refl.refl []
    rw [hgo _ (wholeLines_closedLines _) hleft.1, hgo _ (wholeLines_closedLines _) hline, hleft.2,
      newlines_closedLine hl, Aligned, hmore, hmore]
    exact sublistForall₂_append_left more
      (sublistForall₂_lines_change List.not_mem_nil hempty b')

/-- Behind a line that is not blank, a text that begins with a blank is no part of a marker
    at the front. -/
theorem frontOf_append (hms : ∀ m ∈ ms, m.IsPlain) {r : Text} (hl : Text.allBlank l = false)
    (hr : ∃ c ∈ r.head?, isBlank c = true) : Line.FrontOf ms l (l ++ r) := by
  refine ⟨List.prefix_append l r, fun hfull => ?_⟩
  obtain ⟨m, hm, hp⟩ := isFullComment_eq_true_iff.mp hfull
  obtain ⟨c, hhead, hblank⟩ := hr
  obtain ⟨r, rfl⟩ := List.head?_eq_some_iff.mp hhead
  rw [trimStart_append_of_not_allBlank hl] at hp
  exact isFullComment_eq_true_iff.mpr
    ⟨m, hm, prefix_of_prefix_wall ((hms m hm).not_mem_of_isBlank hblank) hp⟩

/-- Behind a text whose last line is a full-line comment if it is one together with the end
    of the line, that end may go. -/
theorem sublistForall₂_lines_cut {r s : Text} (hr : '\n' ∉ r)
    (hfront : ∃ l ∈ s.lines.getLast?, Line.FrontOf ms l (l ++ r)) (t : Text) :
    List.SublistForall₂ (Line.FrontOf ms) (lines (s ++ (['\n'] ++ t)))
      (lines (s ++ (closedLines [r] ++ t))) := by
  obtain ⟨s, l, hs, hl, rfl⟩ := exists_wholeLines_append s
  obtain ⟨more, hmore⟩ := exists_lines_wholeLines_append hs
  have hfront' : Line.FrontOf ms l (l ++ r) := by
    obtain ⟨l', hl', hfront⟩ := hfront
    rw [hmore, lines_of_not_mem hl, List.getLast?_concat, Option.mem_some] at hl'
    rwa [hl']
  have hlr : '\n' ∉ l ++ r := fun hm => (List.mem_append.mp hm).elim hl hr
  have hshort : lines (s ++ l ++ (['\n'] ++ t)) = more ++ l :: lines t := by
    rw [List.append_assoc, hmore]
    exact congrArg (more ++ ·) (lines_line_newline hl t)
  have hlong : lines (s ++ l ++ (closedLines [r] ++ t)) = more ++ (l ++ r) :: lines t := by
    rw [List.append_assoc, hmore, ← lines_closedLine_append hlr, closedLines_singleton,
      closedLines_singleton]
    simp only [List.append_assoc]
  rw [hshort, hlong]
  exact sublistForall₂_append_left more
    (List.SublistForall₂.cons hfront' (Std.Refl.refl _))

/-- A line may lose its end, if that begins with a character that no pair uses and holds no
    marker, and what is left of the text in front of it ends with a full-line comment if it
    does together with the end. -/
theorem aligned_removeBlocks_cut (hps : ∀ p ∈ ps, p.opener.IsPlain ∧ p.closer.IsPlain)
    {r : Text} (hr : '\n' ∉ r) (hoff : ∃ c ∈ r.head?, ∀ p ∈ ps, c ∉ p.opener ∧ c ∉ p.closer)
    (hfree : ∀ p ∈ ps, p.AbsentFrom r)
    (hfront : ∃ l ∈ (removeBlocks ps (a ++ l')).lines.getLast?, Line.FrontOf ms l (l ++ r))
    (b : Text) :
    Aligned (Line.FrontOf ms) (removeBlocks ps (a ++ (closedLines [l'] ++ b)))
      (removeBlocks ps (a ++ (closedLines [l' ++ r] ++ b))) := by
  have hend : ∀ p ∈ ps, p.PassedBy ['\n'] := fun p hp =>
    passedBy_newline_cons (hps p hp) wholeLines_nil ((hfree p hp).mono List.nil_infix)
  have hcut : ∀ p ∈ ps, p.PassedBy (closedLines [r]) := by
    intro p hp
    obtain ⟨c, hhead, hc⟩ := hoff
    exact passedBy_closedLine (hps p hp) ⟨c, hhead, hc p hp⟩ (hfree p hp)
  have hshort : a ++ (closedLines [l'] ++ b) = (a ++ l') ++ (['\n'] ++ b) := by
    rw [closedLines_singleton, List.append_assoc, List.append_assoc]
  have hlong : a ++ (closedLines [l' ++ r] ++ b) = (a ++ l') ++ (closedLines [r] ++ b) := by
    rw [closedLines_singleton, closedLines_singleton]
    simp only [List.append_assoc]
  rw [hshort, hlong]
  rcases removeBlocks_behind hps (a ++ l') b with ⟨b', hstay⟩ | ⟨s', b', hgo⟩
  · rw [hstay _ hend, hstay _ hcut]
    exact sublistForall₂_lines_cut hr hfront b'
  · rw [hgo _ hend, hgo _ hcut, newlines_closedLine hr]
    exact Aligned.refl _

/-! ## Lines between the spans -/

/-- Behind lines that close all their spans, removal goes on as if the text began there. -/
theorem exists_removeBlocks_closedLines_append {ls : List Line} (hps : ∀ p ∈ ps, '\n' ∉ p.opener)
    (h : ClosesAll ps (unlines ls)) :
    ∃ a, WholeLines a ∧ ∀ t, removeBlocks ps (closedLines ls ++ t) = a ++ removeBlocks ps t := by
  by_cases hls : ls = []
  · subst hls
    exact ⟨[], wholeLines_nil, fun t => rfl⟩
  · refine ⟨removeBlocks ps (unlines ls) ++ ['\n'], wholeLines_newline _, fun t => ?_⟩
    rw [closedLines_eq hls, List.append_assoc, List.append_assoc]
    exact removeBlocks_newline_append hps h t

theorem removeBlocks_closedLine_append (hps : ∀ p ∈ ps, '\n' ∉ p.opener) (h : ClosesAll ps l)
    (t : Text) :
    removeBlocks ps (closedLines [l] ++ t)
      = closedLines [removeBlocks ps l] ++ removeBlocks ps t := by
  rw [closedLines_singleton, closedLines_singleton, List.append_assoc, List.append_assoc]
  exact removeBlocks_newline_append hps h t

/-- A line may be dropped or cut where no span is open in front of it or behind it, nor
    behind what is left of it, if that becomes a front part of what the line becomes. -/
theorem aligned_removeBlocks_closed {before : List Line} (hps : ∀ p ∈ ps, '\n' ∉ p.opener)
    (hbefore : ClosesAll ps (unlines before)) (hl : '\n' ∉ l) (hclose : ClosesAll ps l)
    {left : Option Line} (hleft : ∀ l' ∈ left, ClosesAll ps l' ∧
      Line.FrontOf ms (removeBlocks ps l') (removeBlocks ps l)) (b : Text) :
    Aligned (Line.FrontOf ms)
      (removeBlocks ps (closedLines before ++ (closedLines left.toList ++ b)))
      (removeBlocks ps (closedLines before ++ (closedLines [l] ++ b))) := by
  obtain ⟨a, ha, hbehind⟩ := exists_removeBlocks_closedLines_append hps hbefore
  obtain ⟨more, hmore⟩ := exists_lines_wholeLines_append ha
  have hshort : removeBlocks ps (closedLines left.toList ++ b)
      = closedLines (left.map (removeBlocks ps)).toList ++ removeBlocks ps b := by
    cases left with
    | none => rfl
    | some l' => exact removeBlocks_closedLine_append hps (hleft l' rfl).1 b
  have hfront : ∀ l' ∈ left.map (removeBlocks ps), Line.FrontOf ms l' (removeBlocks ps l) := by
    intro l' hl'
    obtain ⟨l', hmem, rfl⟩ := Option.map_eq_some_iff.mp hl'
    exact (hleft l' hmem).2
  rw [hbehind, hbehind, hshort, removeBlocks_closedLine_append hps hclose, Aligned, hmore, hmore]
  exact sublistForall₂_append_left more
    (sublistForall₂_lines_change (newline_not_mem_removeBlocks ps hl) hfront _)

end BareCode
