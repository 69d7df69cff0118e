import BareCode.Proofs.Comment.Settled
import BareCode.Proofs.Dialect.Markers
/-! # Full-line comments — a line that begins with a marker goes

    A marker at the front of a line drops it, but the markers that are tried before it
    may cut the line first.  They cut it behind the front marker, since none of them
    begins within that one, so the front marker stays where it is and drops the line
    all the same (`cutLine_of_prefix_trimStart`).

    Hence both passes over lines remove a line that begins with a marker, and nothing
    but this line (`cutLineComments_newline_append`, `dropFullComments_newline_append`). -/

namespace BareCode

open Text

variable {order : GuardOrder} {m m' : Text} {ms : List Text} {l : Line} {before rest : Text}

/-- A marker at the front of a line drops the line. -/
theorem verdict_of_prefix_trimStart (h : m <+: l.trimStart) : verdict order m l = .dropped := by
  obtain ⟨before, rest, hs, hblank⟩ := exists_allBlank_before h
  have hg : markerGuard? order m before = none := by
    rw [markerGuard?, guard?_of_allBlank hblank, ite_self]
  simp only [verdict, hs, hg, if_pos hblank]

/-- A marker with nothing but blanks in front of its first place is at the front. -/
theorem prefix_trimStart_of_allBlank (hm : m.IsPlain)
    (hs : l.splitAtFirst? m = some (before, rest)) (hb : before.allBlank = true) :
    m <+: l.trimStart := by
  have hhead : ∀ c ∈ (m ++ rest).head?, isBlank c = false := by
    obtain ⟨c, more, rfl⟩ := List.exists_cons_of_ne_nil hm.1
    intro d hd
    obtain rfl : c = d := Option.some.inj hd
    exact hm.2 c List.mem_cons_self
  rw [splitAtFirst?_eq_some hs, List.append_assoc, trimStart_append_of_allBlank hb,
    trimStart_eq_self hhead]
  exact List.prefix_append m rest

/-- A cut at another marker that does not begin within the one at the front leaves
    that one at the front. -/
theorem prefix_trimStart_of_cut (hm : m.IsPlain) (hm' : m'.IsPlain)
    (hap : ∀ c ∈ m'.head?, c ∉ m) (h : m <+: l.trimStart)
    (hs : l.splitAtFirst? m' = some (before, rest)) (hb : before.allBlank = false) :
    m <+: before.trimEnd.trimStart := by
  obtain ⟨tail, htail, hbefore⟩ := exists_blanks_trimEnd before
  have hb' : before.trimEnd.allBlank = false := (allBlank_trimEnd before).trans hb
  have hl : l.trimStart = before.trimEnd.trimStart ++ (tail ++ (m' ++ rest)) := by
    have hsplit : l = before.trimEnd ++ (tail ++ (m' ++ rest)) := by
      rw [← List.append_assoc, ← hbefore, ← List.append_assoc]
      exact splitAtFirst?_eq_some hs
    conv_lhs => rw [hsplit]
    exact trimStart_append_of_not_allBlank hb' _
  -- what follows the part that is left is a blank or the marker of the cut, so it begins
  -- with a character that the front marker does not hold
  have hwall : ∃ d more, tail ++ (m' ++ rest) = d :: more ∧ d ∉ m := by
    cases tail with
    | nil =>
        obtain ⟨d, m₁, rfl⟩ := List.exists_cons_of_ne_nil hm'.1
        exact ⟨d, m₁ ++ rest, rfl, hap d rfl⟩
    | cons d tail =>
        have hblank : isBlank d = true := List.all_eq_true.mp htail d List.mem_cons_self
        exact ⟨d, tail ++ (m' ++ rest), rfl, hm.not_mem_of_isBlank hblank⟩
  obtain ⟨d, more, hmore, hd⟩ := hwall
  rw [hl, hmore] at h
  exact prefix_of_prefix_wall hd h

/-- Markers that lie apart drop every line that begins with one of them. -/
theorem cutLine_of_prefix_trimStart (hms : ∀ m ∈ ms, m.IsPlain) (hm : m ∈ ms)
    (hap : ∀ m' ∈ ms, (∃ c ∈ m'.head?, c ∈ m) → m' = m) (h : m <+: l.trimStart) :
    cutLine order ms l = none := by
  induction ms generalizing l with
  | nil => cases hm
  | cons m' ms ih =>
      by_cases heq : m' = m
      · rw [cutLine, heq, verdict_of_prefix_trimStart h]
      · have hm0 : m ∈ ms := (List.mem_cons.mp hm).resolve_left fun h0 => heq h0.symm
        have ih' : ∀ {l : Line}, m <+: l.trimStart → cutLine order ms l = none :=
          ih (fun x hx => hms x (List.mem_cons_of_mem m' hx)) hm0
            fun x hx => hap x (List.mem_cons_of_mem m' hx)
        by_contra hne
        obtain ⟨l', hl'⟩ := Option.ne_none_iff_exists'.mp hne
        rcases cutLine_cons_eq_some hl' with ⟨-, hrest⟩ | ⟨before, rest, hs, hb, hrest⟩
        · rw [ih' h] at hrest
          cases hrest
        · have hhead : ∀ c ∈ m'.head?, c ∉ m := fun c hc hcm =>
            heq (hap m' List.mem_cons_self ⟨c, hc, hcm⟩)
          have hplain := hms m' List.mem_cons_self
          have hfront := prefix_trimStart_of_cut (hms m hm) hplain hhead h hs hb
          rw [ih' hfront] at hrest
          cases hrest

/-! ## A line in front of a text -/

/-- Whether a line begins with a marker, blanks aside, in terms of front parts. -/
theorem isFullComment_eq_true_iff : isFullComment ms l = true ↔ ∃ m ∈ ms, m <+: l.trimStart := by
  rw [isFullComment, List.any_eq_true]
  simp only [startsWith_iff]

/-- Markers that lie apart leave nothing of a full-line comment. -/
theorem cutLine_of_isFullComment (hms : ∀ m ∈ ms, m.IsPlain)
    (hap : ∀ m ∈ ms, ∀ m' ∈ ms, (∃ c ∈ m'.head?, c ∈ m) → m' = m)
    (h : isFullComment ms l = true) : cutLine order ms l = none := by
  obtain ⟨m, hm, hp⟩ := isFullComment_eq_true_iff.mp h
  exact cutLine_of_prefix_trimStart hms hm (hap m hm) hp

/-- The pass over line comments takes away a line that begins with a marker. -/
theorem cutLineComments_newline_append (hms : ∀ m ∈ ms, m.IsPlain)
    (hap : ∀ m ∈ ms, ∀ m' ∈ ms, (∃ c ∈ m'.head?, c ∈ m) → m' = m) (hl : '\n' ∉ l)
    (h : isFullComment ms l = true) (t : Text) :
    cutLineComments order ms (l ++ '\n' :: t) = cutLineComments order ms t := by
  rw [cutLineComments, cutLineComments, lines_line_newline hl,
    List.filterMap_cons_none (cutLine_of_isFullComment hms hap h)]

/-- The pass over full-line comments takes away a line that begins with a marker. -/
theorem dropFullComments_newline_append (hl : '\n' ∉ l) (h : isFullComment ms l = true)
    (t : Text) : dropFullComments ms (l ++ '\n' :: t) = dropFullComments ms t := by
  rw [dropFullComments, dropFullComments, lines_line_newline hl,
    List.filter_cons_of_neg (by simp [h])]

/-- It leaves any other line in front of what it leaves of the text. -/
theorem prefix_dropFullComments (hl : '\n' ∉ l) (h : isFullComment ms l = false) (t : Text) :
    l <+: dropFullComments ms (l ++ '\n' :: t) := by
  rw [dropFullComments, lines_line_newline hl, List.filter_cons_of_pos (by simp [h])]
  exact prefix_unlines_cons l _

end BareCode
