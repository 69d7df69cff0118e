import BareCode.Proofs.Text.Lines
import Mathlib.Data.List.Forall2
import Mathlib.Data.List.NodupEquivFin
/-! # Alignment — the lines of one text found among the lines of another

    Two texts are aligned for a relation when each line of the first can be matched
    with a line of the second that stands in the relation to it, no two lines with the
    same one and none out of order.  Alignment composes, it can be read as a strictly
    increasing map between line numbers (`Aligned.exists_strictMono`), and it holds in
    particular of a text with some characters deleted but no newline
    (`aligned_of_sublist`). -/

namespace BareCode.Text

variable {R R' : Line → Line → Prop} {s t u : Text} {ls : List Line}

instance : IsTrans Line List.Sublist := ⟨fun _ _ _ => List.Sublist.trans⟩

instance : Std.Refl (List.Sublist : Line → Line → Prop) := ⟨List.Sublist.refl⟩

instance : IsTrans Line List.IsInfix := ⟨fun _ _ _ => List.IsInfix.trans⟩

instance : Std.Refl (List.IsInfix : Line → Line → Prop) := ⟨List.infix_refl⟩

/-- The lines of one text stand in a relation to lines of another, in the same order. -/
def Aligned (R : Line → Line → Prop) (s t : Text) : Prop :=
  List.SublistForall₂ R s.lines t.lines

theorem Aligned.imp (h : Aligned R s t) (hR : ∀ a b, R a b → R' a b) : Aligned R' s t := by
  obtain ⟨ls, hls, hsub⟩ := List.sublistForall₂_iff.mp h
  exact List.sublistForall₂_iff.mpr ⟨ls, hls.imp fun a b hab => hR a b hab, hsub⟩

theorem Aligned.trans [IsTrans Line R] (h : Aligned R s t) (h' : Aligned R t u) : Aligned R s u :=
  IsTrans.trans (r := List.SublistForall₂ R) _ _ _ h h'

theorem Aligned.refl [Std.Refl R] (t : Text) : Aligned R t t :=
  Std.Refl.refl (r := List.SublistForall₂ R) _

/-- Alignment as a map: line numbers go to line numbers, strictly increasing, and
    every line stands in the relation to the line it goes to. -/
theorem Aligned.exists_strictMono (h : Aligned R s t) :
    ∃ f : Fin s.lines.length → Fin t.lines.length,
      StrictMono f ∧ ∀ k, R (s.lines.get k) (t.lines.get (f k)) := by
  obtain ⟨ls, hR, hsub⟩ := List.sublistForall₂_iff.mp h
  obtain ⟨hlen, hget⟩ := List.forall₂_iff_get.mp hR
  obtain ⟨f, hf⟩ := List.sublist_iff_exists_fin_orderEmbedding_get_eq.mp hsub
  refine ⟨fun k => f (Fin.cast hlen k), fun i j hij => f.strictMono hij, fun k => ?_⟩
  rw [← hf (Fin.cast hlen k)]
  exact hget k k.isLt (hlen ▸ k.isLt)

/-- Lines that stand in a relation to lines of a text join to a text aligned with it.
    If there are none, the one empty line they join to needs a partner, so the empty
    line has to stand in the relation to every line. -/
theorem aligned_unlines (hl : ∀ l ∈ ls, '\n' ∉ l) (hnil : ∀ l, R [] l)
    (h : List.SublistForall₂ R ls t.lines) : Aligned R (unlines ls) t := by
  by_cases hls : ls = []
  · -- the one line of the empty text goes with any line
    subst hls
    obtain ⟨hd, tl, ht⟩ := List.exists_cons_of_ne_nil (lines_ne_nil t)
    rw [Aligned, ht]
    exact List.SublistForall₂.cons (hnil hd) List.SublistForall₂.nil
  · rw [Aligned, lines_unlines hl hls]
    exact h

/-- Changing each line on its own keeps the text aligned. -/
theorem aligned_onLines {f : Line → Line} (hf : ∀ l ∈ t.lines, '\n' ∉ f l)
    (hR : ∀ l, R (f l) l) : Aligned R (onLines f t) t := by
  rw [Aligned, lines_onLines hf, List.sublistForall₂_map_left_iff]
  exact List.sublistForall₂_iff.mpr
    ⟨t.lines, List.forall₂_same.mpr fun l _ => hR l, List.Sublist.refl _⟩

/-- Dropping lines and changing the others keeps what is left related to the lines it
    comes from. -/
theorem sublistForall₂_filterMap {f : Line → Option Line}
    (hR : ∀ l l', f l = some l' → R l' l) (ls : List Line) :
    List.SublistForall₂ R (ls.filterMap f) ls := by
  induction ls with
  | nil => exact List.SublistForall₂.nil
  | cons l ls ih =>
      cases hf : f l with
      | none =>
          rw [List.filterMap_cons_none hf]
          exact List.SublistForall₂.cons_right ih
      | some l' =>
          rw [List.filterMap_cons_some hf]
          exact List.SublistForall₂.cons (hR l l' hf) ih

/-- The same lines in front keep lines related. -/
theorem sublistForall₂_append_left [Std.Refl R] {ls' : List Line} (more : List Line)
    (h : List.SublistForall₂ R ls ls') : List.SublistForall₂ R (more ++ ls) (more ++ ls') := by
  induction more with
  | nil => exact h
  | cons l more ih => exact List.SublistForall₂.cons (Std.Refl.refl l) ih

/-- Without their last lines, lines stay related. -/
theorem sublistForall₂_of_concat {ls' : List Line} {l l' : Line}
    (h : List.SublistForall₂ R (ls ++ [l]) (ls' ++ [l'])) : List.SublistForall₂ R ls ls' := by
  have hshort : ∀ {a : Line} {more : List Line}, ¬ List.SublistForall₂ R (a :: more) [] := by
    intro a more h
    cases h
  induction ls' generalizing ls with
  | nil =>
      cases ls with
      | nil => exact List.SublistForall₂.nil
      | cons a ls =>
          cases h with
          | cons _ hrest => cases ls <;> exact absurd hrest hshort
          | cons_right hrest => exact absurd hrest hshort
  | cons b ls' ih =>
      cases ls with
      | nil => exact List.SublistForall₂.nil
      | cons a ls =>
          cases h with
          | cons hab hrest => exact List.SublistForall₂.cons hab (ih hrest)
          | cons_right hrest => exact List.SublistForall₂.cons_right (ih hrest)

/-- Changing the first lines in step keeps lines related. -/
theorem forall₂_modifyHead {f g : Line → Line} {ls ls' : List Line}
    (h : List.Forall₂ R ls ls') (hfg : ∀ a b, R a b → R (f a) (g b)) :
    List.Forall₂ R (ls.modifyHead f) (ls'.modifyHead g) := by
  cases h with
  | nil => exact List.Forall₂.nil
  | cons hab hrest => exact List.Forall₂.cons (hfg _ _ hab) hrest

/-- Deleting characters but no newline deletes characters within each line. -/
theorem forall₂_lines_of_sublist (h : s.Sublist t) (hn : s.count '\n' = t.count '\n') :
    List.Forall₂ List.Sublist s.lines t.lines := by
  induction h with
  | slnil => exact List.Forall₂.cons (List.Sublist.refl _) List.Forall₂.nil
  | @cons s t c hst ih =>
      by_cases hc : c = '\n'
      · -- a newline cannot have been deleted
        subst hc
        have := hst.count_le '\n'
        rw [List.count_cons_self] at hn
        omega
      · rw [List.count_cons_of_ne hc] at hn
        have hid : lines s = (lines s).modifyHead id := by rw [List.modifyHead_id, id]
        rw [lines_cons_of_ne hc, hid]
        exact forall₂_modifyHead (ih hn) fun a b hab => hab.cons c
  | @cons_cons s t c hst ih =>
      by_cases hc : c = '\n'
      · subst hc
        rw [List.count_cons_self, List.count_cons_self] at hn
        rw [lines_newline_cons, lines_newline_cons]
        exact List.Forall₂.cons (List.Sublist.refl _) (ih (by omega))
      · rw [List.count_cons_of_ne hc, List.count_cons_of_ne hc] at hn
        rw [lines_cons_of_ne hc, lines_cons_of_ne hc]
        exact forall₂_modifyHead (ih hn) fun a b hab => hab.cons_cons c

/-- Deleting characters but no newline keeps the text aligned. -/
theorem aligned_of_sublist (h : s.Sublist t) (hn : s.count '\n' = t.count '\n') :
    Aligned List.Sublist s t :=
  List.sublistForall₂_iff.mpr ⟨t.lines, forall₂_lines_of_sublist h hn, List.Sublist.refl _⟩

/-- Joined lines that are parts of other lines are part of the joined other lines. -/
theorem unlines_sublist {ls' : List Line} (h : List.SublistForall₂ List.Sublist ls ls') :
    (unlines ls).Sublist (unlines ls') := by
  induction h with
  | nil => exact List.nil_sublist _
  | @cons a b ls ls' hab hrest ih =>
      by_cases hls' : ls' = []
      · subst hls'
        cases hrest
        simpa using hab
      · rw [unlines_cons b hls']
        by_cases hls : ls = []
        · subst hls
          rw [unlines_singleton]
          exact hab.trans (List.sublist_append_left b _)
        · rw [unlines_cons a hls]
          exact hab.append (ih.cons_cons '\n')
  | @cons_right b ls ls' hrest ih =>
      by_cases hls' : ls' = []
      · subst hls'
        cases hrest
        exact List.nil_sublist _
      · rw [unlines_cons b hls']
        exact (ih.cons '\n').trans (List.sublist_append_right b _)

/-- Pieces of lines are what is left of them when characters are deleted. -/
theorem Aligned.sublist_of_isInfix (h : Aligned List.IsInfix s t) : Aligned List.Sublist s t :=
  h.imp fun _ _ hab => hab.sublist

/-- A text whose lines are parts of the lines of another is part of it. -/
theorem Aligned.sublist (h : Aligned List.Sublist s t) : s.Sublist t := by
  have := unlines_sublist h
  rwa [unlines_lines, unlines_lines] at this

end BareCode.Text
