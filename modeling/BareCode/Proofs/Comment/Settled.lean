import BareCode.Comment.Inline
import BareCode.Proofs.Comment.Guarding
import BareCode.Proofs.Text.Lines
import BareCode.Proofs.Text.Search
/-! # Settled lines — lines that a marker leaves alone

    A marker leaves a line alone when it does not occur in it or a guard keeps it at
    its first place: the marker is *settled* on the line.  Both ways of being settled
    pass on to front parts of the line (`Settled.of_isPrefix`), and a cut leaves a front
    part in which its marker does not occur.  So what the markers leave of a line is
    settled for all of them, the early ones included (`settled_of_cutLine`), and
    cutting it again changes nothing (`cutLine_of_settled`). -/

namespace BareCode

open Text

variable {order : GuardOrder} {m : Text} {ms : List Text} {l l' : Line} {t : Text}

/-- A marker is settled on a line when a guard keeps it at its first place, if it has
    one. -/
def Settled (order : GuardOrder) (m : Text) (l : Line) : Prop :=
  ∀ before rest, l.splitAtFirst? m = some (before, rest) →
    (markerGuard? order m before).isSome = true

/-! ## One marker -/

theorem settled_of_not_isInfix (h : ¬ m <:+: l) : Settled order m l := by
  intro before rest hs
  rw [splitAtFirst?_eq_none_iff.mpr h] at hs
  exact nomatch hs

/-- A settled marker that has no guard does not occur. -/
theorem Settled.not_isInfix (h : Settled order m l) (hm : m ≠ doubleSlash) : ¬ m <:+: l := by
  intro hi
  obtain ⟨before, rest, hs⟩ := exists_splitAtFirst? hi
  have := h before rest hs
  rw [markerGuard?, if_neg hm] at this
  exact Bool.noConfusion this

/-- What is settled on a line is settled on its front parts: the first place is either
    still there, with the same text in front of it, or gone. -/
theorem Settled.of_isPrefix (h : Settled order m l) (hp : l' <+: l) : Settled order m l' := by
  obtain ⟨more, rfl⟩ := hp
  intro before rest hs
  exact h before (rest ++ more) (splitAtFirst?_append hs more)

/-- What a marker does to a line on which it is settled. -/
theorem verdict_of_settled (h : Settled order m l) :
    verdict order m l = .absent ∨ ∃ g, verdict order m l = .guarded g := by
  rw [verdict]
  cases hs : l.splitAtFirst? m with
  | none => exact Or.inl rfl
  | some s =>
      obtain ⟨g, hg⟩ := Option.isSome_iff_exists.mp (h s.1 s.2 hs)
      refine Or.inr ⟨g, ?_⟩
      simp only [hg]

/-- What a marker does to any other line: it drops the line or cuts it. -/
theorem verdict_of_not_settled (h : ¬ Settled order m l) :
    ∃ before rest, l.splitAtFirst? m = some (before, rest) ∧
      verdict order m l = if before.allBlank = true then .dropped else .cut before := by
  rw [Settled] at h
  push Not at h
  obtain ⟨before, rest, hs, hg⟩ := h
  have hg' : markerGuard? order m before = none := Option.not_isSome_iff_eq_none.mp hg
  exact ⟨before, rest, hs, by simp only [verdict, hs, hg']⟩

/-- A marker that cuts a line does not occur in what it leaves. -/
theorem settled_of_cut {before rest : Text} (hs : l.splitAtFirst? m = some (before, rest))
    (hb : before.allBlank = false) : Settled order m before.trimEnd := by
  have hm : m ≠ [] := by
    rintro rfl
    obtain ⟨rfl, -⟩ : [] = before ∧ l = rest := by simpa using hs
    exact Bool.noConfusion hb
  refine settled_of_not_isInfix fun hi => not_infix_before hm hs ?_
  exact hi.trans (trimEnd_isPrefix before).isInfix

/-- A marker at the front of a line has only blanks in front of its first place. -/
theorem exists_allBlank_before (h : m <+: l.trimStart) :
    ∃ before rest, l.splitAtFirst? m = some (before, rest) ∧ before.allBlank = true := by
  obtain ⟨b, hb, hl⟩ := exists_blanks_trimStart l
  obtain ⟨more, hmore⟩ := h
  have hl' : l = b ++ m ++ more := by rw [List.append_assoc, hmore, ← hl]
  have hin : m <:+: l := ⟨b, more, hl'.symm⟩
  obtain ⟨before, rest, hs⟩ := exists_splitAtFirst? hin
  refine ⟨before, rest, hs, ?_⟩
  -- the first place lies within the blanks or right behind them
  have hp := (splitAtFirst?_first hs hl').1
  exact List.all_eq_true.mpr fun c hc => List.all_eq_true.mp hb c (hp.subset hc)

/-- Blanks in front of a text do not change whether a marker behind it is kept. -/
theorem markerGuard?_isSome_blank_append {b : Text} (h : b.allBlank = true) (t : Text) :
    (markerGuard? order m (b ++ t)).isSome = (markerGuard? order m t).isSome := by
  rw [markerGuard?, markerGuard?]
  split
  · exact guard?_isSome_blank_append h t
  · rfl

/-- Indenting a line with spaces keeps what is settled on it, for a marker that holds
    no padding. -/
theorem Settled.indentWithSpaces (h : Settled order m l) (hm : m ≠ [])
    (hp : ∀ c ∈ m, isPadding c = false) : Settled order m l.indentWithSpaces := by
  have hforeign : ∀ pad : Text, (∀ c ∈ pad, isPadding c = true) → ∀ c ∈ pad, c ∉ m := by
    intro pad hpad c hc hcm
    have := hpad c hc
    rw [hp c hcm] at this
    exact Bool.noConfusion this
  have hspaces : ∀ c ∈ List.replicate l.indentation ' ', isPadding c = true := by
    intro c hc
    exact isPadding_of_mem_spaces hc
  obtain ⟨pad, hpad, hl⟩ := Line.exists_padding_dropWhile l
  intro before rest hs
  rw [Line.indentWithSpaces, splitAtFirst?_foreign hm (hforeign _ hspaces)] at hs
  obtain ⟨⟨b, r⟩, hb, he⟩ := Option.map_eq_some_iff.mp hs
  obtain ⟨rfl, rfl⟩ : List.replicate l.indentation ' ' ++ b = before ∧ r = rest := by
    simpa using he
  have hg : (markerGuard? order m (pad ++ b)).isSome = true := by
    refine h (pad ++ b) r ?_
    rw [hl, splitAtFirst?_foreign hm (hforeign pad hpad), hb]
    rfl
  -- both paddings are blank, so the guard sees the same text behind either
  rw [markerGuard?_isSome_blank_append (allBlank_of_isPadding hpad)] at hg
  rw [markerGuard?_isSome_blank_append (allBlank_of_isPadding hspaces)]
  exact hg

/-! ## All markers of a line -/

/-- A settled marker passes a line on to the next one. -/
theorem cutLine_cons_of_settled (h : Settled order m l) :
    cutLine order (m :: ms) l = cutLine order ms l := by
  rcases verdict_of_settled h with hv | ⟨g, hv⟩
  · rw [cutLine, hv]
  · rw [cutLine, hv]

/-- What is left of a line when one more marker is looked at: that marker was settled,
    or it cut the line behind something that is not blank. -/
theorem cutLine_cons_eq_some (h : cutLine order (m :: ms) l = some l') :
    (Settled order m l ∧ cutLine order ms l = some l') ∨
      ∃ before rest, l.splitAtFirst? m = some (before, rest) ∧ before.allBlank = false ∧
        cutLine order ms before.trimEnd = some l' := by
  by_cases hset : Settled order m l
  · rw [cutLine_cons_of_settled hset] at h
    exact Or.inl ⟨hset, h⟩
  · obtain ⟨before, rest, hs, hv⟩ := verdict_of_not_settled hset
    refine Or.inr ⟨before, rest, hs, ?_⟩
    by_cases hb : before.allBlank = true
    · rw [cutLine, hv, if_pos hb] at h
      exact nomatch h
    · rw [cutLine, hv, if_neg hb] at h
      exact ⟨Bool.eq_false_iff.mpr hb, h⟩

theorem cutLine_of_settled (h : ∀ m ∈ ms, Settled order m l) : cutLine order ms l = some l := by
  induction ms with
  | nil => rfl
  | cons m ms ih =>
      rw [cutLine_cons_of_settled (h m List.mem_cons_self)]
      exact ih fun m' hm' => h m' (List.mem_cons_of_mem m hm')

/-- The markers leave a front part of the line. -/
theorem prefix_of_cutLine (h : cutLine order ms l = some l') : l' <+: l := by
  induction ms generalizing l with
  | nil =>
      obtain rfl : l = l' := by simpa [cutLine] using h
      exact List.prefix_refl l
  | cons m ms ih =>
      rcases cutLine_cons_eq_some h with ⟨-, h⟩ | ⟨before, rest, hs, -, h⟩
      · exact ih h
      · exact (ih h).trans ((trimEnd_isPrefix before).trans (prefix_of_splitAtFirst? hs))

/-- Every marker is settled on what the markers leave of a line. -/
theorem settled_of_cutLine (h : cutLine order ms l = some l') :
    ∀ m ∈ ms, Settled order m l' := by
  induction ms generalizing l with
  | nil => exact fun m hm => nomatch hm
  | cons m ms ih =>
      intro m' hm'
      -- the marker is settled on what it leaves, and later cuts leave a front part of that
      rcases cutLine_cons_eq_some h with ⟨hset, hrest⟩ | ⟨before, rest, hs, hb, hrest⟩
      · rcases List.mem_cons.mp hm' with rfl | hm'
        · exact hset.of_isPrefix (prefix_of_cutLine hrest)
        · exact ih hrest m' hm'
      · rcases List.mem_cons.mp hm' with rfl | hm'
        · exact (settled_of_cut hs hb).of_isPrefix (prefix_of_cutLine hrest)
        · exact ih hrest m' hm'

/-! ## All lines of a text -/

/-- Whether a line begins with a marker, blanks aside, in terms of front parts. -/
theorem isFullComment_eq_false_iff :
    isFullComment ms l = false ↔ ∀ m ∈ ms, ¬ m <+: l.trimStart := by
  rw [isFullComment, List.any_eq_false]
  simp only [startsWith_iff]

/-- What is left of the lines of a text holds no newline. -/
theorem not_mem_of_mem_filterMap_cutLine (h : l ∈ t.lines.filterMap (cutLine order ms)) :
    '\n' ∉ l := by
  obtain ⟨l₀, hl₀, hc⟩ := List.mem_filterMap.mp h
  exact fun hm => not_mem_of_mem_lines hl₀ ((prefix_of_cutLine hc).subset hm)

/-- The lines of a text that lost its line comments, if it has lines left. -/
theorem lines_cutLineComments (h : t.lines.filterMap (cutLine order ms) ≠ []) :
    (cutLineComments order ms t).lines = t.lines.filterMap (cutLine order ms) :=
  lines_unlines (fun _ hl => not_mem_of_mem_filterMap_cutLine hl) h

/-- A line of a text that lost its line comments was left over from a line, or the
    text has no lines left. -/
theorem mem_lines_cutLineComments (h : l' ∈ (cutLineComments order ms t).lines) :
    (∃ l ∈ t.lines, cutLine order ms l = some l') ∨ l' = [] :=
  (mem_lines_unlines (fun _ hl => not_mem_of_mem_filterMap_cutLine hl) h).imp_left
    List.mem_filterMap.mp

/-- A line of a text without its full-line comments is one of the lines that are none,
    or the text has no lines left. -/
theorem mem_lines_dropFullComments (h : l ∈ (dropFullComments ms t).lines) :
    (l ∈ t.lines ∧ isFullComment ms l = false) ∨ l = [] := by
  have hn : ∀ l ∈ t.lines.filter (!isFullComment ms ·), '\n' ∉ l := by
    intro l hl
    exact not_mem_of_mem_lines (List.mem_filter.mp hl).1
  refine (mem_lines_unlines hn h).imp_left fun hl => ?_
  simpa using List.mem_filter.mp hl

/-- A text of settled lines has no line comment to lose. -/
theorem cutLineComments_of_settled (h : ∀ l ∈ t.lines, ∀ m ∈ ms, Settled order m l) :
    cutLineComments order ms t = t := by
  have hc : t.lines.filterMap (cutLine order ms) = t.lines.filterMap some :=
    List.filterMap_congr fun l hl => cutLine_of_settled (h l hl)
  rw [cutLineComments, hc, List.filterMap_some, unlines_lines]

/-- A text without full-line comments has none to lose. -/
theorem dropFullComments_of_none (h : ∀ l ∈ t.lines, isFullComment ms l = false) :
    dropFullComments ms t = t := by
  have hf : t.lines.filter (!isFullComment ms ·) = t.lines :=
    List.filter_eq_self.mpr fun l hl => by simp [h l hl]
  rw [dropFullComments, hf, unlines_lines]

end BareCode
