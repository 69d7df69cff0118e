import BareCode.Comment.Block
import BareCode.Proofs.Text.Alignment
import BareCode.Proofs.Text.Search
import BareCode.Proofs.Text.WholeLines
/-! # Spans — what a block pair finds and what its removal leaves

    `BlockPair.remove` counts spans down from the number of characters so that it can
    run; here it gets the equations it is meant to have (`remove_of_none`,
    `remove_of_span`) and the induction that goes with them (`span_induction`).

    * `firstSpan?_eq_none_iff` — no span is found exactly when no opener has a closer
      behind it;
    * `EnclosesIn.of_aligned` — so none is found in pieces of the lines of such a text;
    * `remove_sublist`, `count_newline_remove` — removal deletes characters and no
      newline, so every line stays in its place (`aligned_remove`). -/

namespace BareCode

open Text

theorem Text.newlines_sublist (t : Text) : t.newlines.Sublist t :=
  List.filter_sublist

theorem Text.count_newline_newlines (t : Text) : t.newlines.count '\n' = t.count '\n' := by
  rw [newlines, List.count_filter (by simp)]

namespace BlockPair

variable {p : BlockPair} {a b t : Text} {s : SpanSplit}

/-! ## The first span -/

/-- The first span runs from the first opener to the first closer behind it. -/
theorem firstSpan?_eq_some_iff :
    p.firstSpan? t = some s ↔ ∃ body inner,
      t.splitAtFirst? p.opener = some (s.before, body) ∧
      body.splitAtFirst? p.closer = some (inner, s.rest) ∧
      s.span = p.opener ++ inner ++ p.closer := by
  rw [firstSpan?]
  constructor
  · intro h
    split at h
    · cases h
    · rename_i before body ho
      split at h
      · cases h
      · rename_i inner rest hc
        obtain rfl := Option.some.inj h
        exact ⟨body, inner, ho, hc, rfl⟩
  · rintro ⟨body, inner, ho, hc, hs⟩
    simp only [ho, hc, ← hs]

/-- Whether an opener stands somewhere in a text with a closer behind it. -/
def EnclosesIn (p : BlockPair) (t : Text) : Prop :=
  ∃ a b c, t = a ++ p.opener ++ (b ++ p.closer ++ c)

/-- No span is found exactly in the texts where no opener has a closer behind it. -/
theorem firstSpan?_eq_none_iff : p.firstSpan? t = none ↔ ¬ p.EnclosesIn t := by
  constructor
  · rintro h ⟨a, b, c, ht⟩
    obtain ⟨before, body, ho⟩ := exists_splitAtFirst? (t := t) ⟨a, _, ht.symm⟩
    -- the closer stands behind this opener, hence behind the first one
    have hbody : p.closer <:+: body :=
      List.IsInfix.trans ⟨b, c, rfl⟩ (splitAtFirst?_first ho ht).2.isInfix
    obtain ⟨inner, rest, hc⟩ := exists_splitAtFirst? hbody
    have := firstSpan?_eq_some_iff (s := ⟨before, p.opener ++ inner ++ p.closer, rest⟩).mpr
      ⟨body, inner, ho, hc, rfl⟩
    rw [h] at this
    exact nomatch this
  · intro h
    cases hs : p.firstSpan? t with
    | none => rfl
    | some s =>
        obtain ⟨body, inner, ho, hc, -⟩ := firstSpan?_eq_some_iff.mp hs
        refine absurd ⟨s.before, inner, s.rest, ?_⟩ h
        rw [← splitAtFirst?_eq_some hc]
        exact splitAtFirst?_eq_some ho

/-- Whether a pair encloses something is decided by looking for its first span. -/
instance (p : BlockPair) (t : Text) : Decidable (p.EnclosesIn t) :=
  decidable_of_iff (¬ p.firstSpan? t = none) (by rw [firstSpan?_eq_none_iff, not_not])

/-- Text put behind a span is put behind its rest. -/
theorem firstSpan?_append (h : p.firstSpan? t = some s) (more : Text) :
    p.firstSpan? (t ++ more) = some ⟨s.before, s.span, s.rest ++ more⟩ := by
  obtain ⟨body, inner, ho, hc, hs⟩ := firstSpan?_eq_some_iff.mp h
  exact firstSpan?_eq_some_iff.mpr
    ⟨body ++ more, inner, splitAtFirst?_append ho more, splitAtFirst?_append hc more, hs⟩

/-- What follows a span is shorter than the text, unless both markers are empty. -/
theorem length_rest_lt (hp : p.opener ≠ [] ∨ p.closer ≠ []) (h : p.firstSpan? t = some s) :
    s.rest.length < t.length := by
  obtain ⟨body, inner, -, -, hs⟩ := firstSpan?_eq_some_iff.mp h
  have hspan : 0 < s.span.length := by
    rw [List.length_pos_iff, hs]
    rcases hp with hp | hp <;> simp [hp]
  rw [firstSpan?_eq_some h, List.length_append, List.length_append]
  omega

theorem firstSpan?_of_empty (hp : p.opener = [] ∧ p.closer = []) (t : Text) :
    p.firstSpan? t = some ⟨[], [], t⟩ := by
  obtain ⟨ho, hc⟩ := hp
  simp [firstSpan?, ho, hc]

/-! ## Where a pair encloses something -/

/-- A pair encloses something in a text when the text can be cut in two, with an opener in
    front of the cut and a closer behind it. -/
theorem enclosesIn_iff_append :
    p.EnclosesIn t ↔ ∃ a b, t = a ++ b ∧ p.opener <:+: a ∧ p.closer <:+: b := by
  constructor
  · rintro ⟨a, b, c, ht⟩
    exact ⟨_, _, ht, (List.suffix_append a p.opener).isInfix, ⟨b, c, rfl⟩⟩
  · rintro ⟨_, _, rfl, ⟨x, y, rfl⟩, ⟨u, v, rfl⟩⟩
    exact ⟨x, y ++ u, v, by simp⟩

theorem EnclosesIn.mono (h : p.EnclosesIn a) (hab : a <:+: b) : p.EnclosesIn b := by
  obtain ⟨x, y, z, rfl⟩ := h
  obtain ⟨u, v, rfl⟩ := hab
  exact ⟨u ++ x, y, z ++ v, by simp⟩

section

variable (ho : '\n' ∉ p.opener) (hc : '\n' ∉ p.closer)

include ho hc

/-- Markers that hold no newline stand on either side of one. -/
theorem enclosesIn_append_newline :
    p.EnclosesIn (a ++ '\n' :: b) ↔
      p.EnclosesIn a ∨ (p.opener <:+: a ∧ p.closer <:+: b) ∨ p.EnclosesIn b := by
  constructor
  · intro h
    obtain ⟨s, r, hsr, hs, hr⟩ := enclosesIn_iff_append.mp h
    rcases List.append_eq_append_iff.mp hsr with ⟨s', rfl, hb⟩ | ⟨a', rfl, rfl⟩
    · cases s' with
      | nil =>
          -- the cut is right in front of the newline
          rw [List.append_nil] at hs
          rw [List.nil_append] at hb
          rcases infix_append_wall (a := []) (hb ▸ hr) hc with hnil | hb
          · exact Or.inr (Or.inl ⟨hs, hnil.trans List.nil_infix⟩)
          · exact Or.inr (Or.inl ⟨hs, hb⟩)
      | cons c s' =>
          obtain ⟨rfl, rfl⟩ := List.cons_eq_cons.mp hb
          rcases infix_append_wall hs ho with ha | hs'
          · exact Or.inr (Or.inl ⟨ha, hr.trans (List.suffix_append s' r).isInfix⟩)
          · exact Or.inr (Or.inr (enclosesIn_iff_append.mpr ⟨s', r, rfl, hs', hr⟩))
    · rcases infix_append_wall hr hc with ha | hb
      · exact Or.inl (enclosesIn_iff_append.mpr ⟨s, a', rfl, hs, ha⟩)
      · exact Or.inr (Or.inl ⟨hs.trans (List.prefix_append s a').isInfix, hb⟩)
  · rintro (h | ⟨hopen, hclose⟩ | h)
    · exact h.mono (List.prefix_append a _).isInfix
    · exact enclosesIn_iff_append.mpr ⟨a, _, rfl, hopen, List.infix_cons hclose⟩
    · exact h.mono (infix_append_cons a '\n' b)

/-- What a pair encloses in pieces of lines, it encloses in the lines. -/
theorem EnclosesIn.closedLines_of_isInfix {ls ls' : List Line}
    (h : List.SublistForall₂ List.IsInfix ls ls') (hls : p.EnclosesIn (closedLines ls)) :
    p.EnclosesIn (closedLines ls') := by
  induction h with
  | nil => exact hls.mono List.nil_infix
  | @cons a b ls ls' hab hrest ih =>
      rw [closedLines_cons, enclosesIn_append_newline ho hc] at hls ⊢
      rcases hls with ha | ⟨hopen, hclose⟩ | hbehind
      · exact Or.inl (ha.mono hab)
      · exact Or.inr (Or.inl ⟨hopen.trans hab, infix_closedLines_of_isInfix hc hrest hclose⟩)
      · exact Or.inr (Or.inr (ih hbehind))
  | @cons_right b ls ls' _ ih =>
      rw [closedLines_cons]
      exact (ih hls).mono (infix_append_cons b '\n' _)

/-- What a pair encloses in a text of pieces of lines, it encloses in the text they come
    from. -/
theorem EnclosesIn.of_aligned (h : Aligned List.IsInfix a t) (ha : p.EnclosesIn a) :
    p.EnclosesIn t := by
  have hclosed : ∀ t : Text, closedLines t.lines = t ++ ['\n'] := fun t => by
    rw [closedLines_eq (lines_ne_nil t), unlines_lines]
  have ht : p.EnclosesIn (t ++ ['\n']) := by
    rw [← hclosed]
    refine closedLines_of_isInfix ho hc h ?_
    rw [hclosed]
    exact ha.mono (List.prefix_append a _).isInfix
  -- the newline behind the text brings no marker with it
  rcases (enclosesIn_append_newline ho hc).mp ht with ht | ⟨hopen, hclose⟩ | hnil
  · exact ht
  · exact enclosesIn_iff_append.mpr ⟨t, [], (List.append_nil t).symm, hopen, hclose⟩
  · exact hnil.mono List.nil_infix

end

/-! ## Removal -/

theorem removeUpTo_sublist (p : BlockPair) (n : Nat) (t : Text) :
    (p.removeUpTo n t).Sublist t := by
  fun_induction removeUpTo p n t with
  | case1 => exact List.Sublist.refl _
  | case2 => exact List.Sublist.refl _
  | case3 n t s h ih =>
      conv_rhs => rw [firstSpan?_eq_some h]
      exact ((List.Sublist.refl _).append s.span.newlines_sublist).append ih

theorem count_newline_removeUpTo (p : BlockPair) (n : Nat) (t : Text) :
    (p.removeUpTo n t).count '\n' = t.count '\n' := by
  fun_induction removeUpTo p n t with
  | case1 => rfl
  | case2 => rfl
  | case3 n t s h ih =>
      conv_rhs => rw [firstSpan?_eq_some h]
      rw [List.count_append, List.count_append, List.count_append, List.count_append, ih,
        count_newline_newlines]

/-- Removal deletes characters. -/
theorem remove_sublist (p : BlockPair) (t : Text) : (p.remove t).Sublist t :=
  p.removeUpTo_sublist t.length t

/-- Removal deletes no newline. -/
theorem count_newline_remove (p : BlockPair) (t : Text) :
    (p.remove t).count '\n' = t.count '\n' :=
  p.count_newline_removeUpTo t.length t

/-- Removal leaves every line in its place. -/
theorem aligned_remove (p : BlockPair) (t : Text) : Aligned List.Sublist (p.remove t) t :=
  aligned_of_sublist (p.remove_sublist t) (p.count_newline_remove t)

/-- Removing the spans of two empty markers changes nothing. -/
theorem removeUpTo_of_empty (hp : p.opener = [] ∧ p.closer = []) (n : Nat) (t : Text) :
    p.removeUpTo n t = t := by
  induction n with
  | zero => rfl
  | succ n ih =>
      rw [removeUpTo, firstSpan?_of_empty hp]
      exact ih

/-- As many rounds as there are characters are enough. -/
theorem removeUpTo_of_length_le {n k : Nat} (hn : t.length ≤ n) (hk : t.length ≤ k) :
    p.removeUpTo n t = p.removeUpTo k t := by
  by_cases hp : p.opener = [] ∧ p.closer = []
  · rw [removeUpTo_of_empty hp, removeUpTo_of_empty hp]
  · -- every span takes something off the text
    have hp' : p.opener ≠ [] ∨ p.closer ≠ [] := by
      rwa [not_and_or] at hp
    have hnone : ∀ {t : Text}, t.length ≤ 0 → p.firstSpan? t = none := by
      intro t ht
      cases hs : p.firstSpan? t with
      | none => rfl
      | some s => exact absurd (length_rest_lt hp' hs) (by omega)
    induction n generalizing t k with
    | zero =>
        cases k with
        | zero => rfl
        | succ k => rw [removeUpTo, removeUpTo, hnone hn]
    | succ n ih =>
        cases k with
        | zero => rw [removeUpTo, removeUpTo, hnone hk]
        | succ k =>
            rw [removeUpTo, removeUpTo]
            cases hs : p.firstSpan? t with
            | none => rfl
            | some s =>
                have hlt := length_rest_lt hp' hs
                show s.before ++ s.span.newlines ++ p.removeUpTo n s.rest
                  = s.before ++ s.span.newlines ++ p.removeUpTo k s.rest
                rw [ih (k := k) (by omega) (by omega)]

theorem remove_of_none (h : p.firstSpan? t = none) : p.remove t = t := by
  rw [remove]
  cases t.length with
  | zero => rfl
  | succ n => rw [removeUpTo, h]

/-- The first span gives way to its newlines, and removal goes on behind it. -/
theorem remove_of_span (h : p.firstSpan? t = some s) :
    p.remove t = s.before ++ s.span.newlines ++ p.remove s.rest := by
  have hround : p.removeUpTo (t.length + 1) t
      = s.before ++ s.span.newlines ++ p.removeUpTo t.length s.rest := by
    rw [removeUpTo, h]
  have hle : s.rest.length ≤ t.length := by
    rw [firstSpan?_eq_some h, List.length_append]
    omega
  rw [remove, removeUpTo_of_length_le (Nat.le_refl _) (Nat.le_succ _), hround,
    removeUpTo_of_length_le hle (Nat.le_refl _), remove]

/-- Induction along the spans of a text: a property that holds of the texts without a
    span, and of a text when it holds of what follows its first span, holds of all. -/
theorem span_induction (hp : p.opener ≠ [] ∨ p.closer ≠ []) {motive : Text → Prop}
    (none : ∀ t, p.firstSpan? t = none → motive t)
    (span : ∀ t s, p.firstSpan? t = some s → motive s.rest → motive t) (t : Text) : motive t := by
  induction hn : t.length using Nat.strong_induction_on generalizing t with
  | h n ih =>
      cases hs : p.firstSpan? t with
      | none => exact none t hs
      | some s => exact span t s hs (ih _ (hn ▸ length_rest_lt hp hs) s.rest rfl)

end BlockPair

end BareCode
