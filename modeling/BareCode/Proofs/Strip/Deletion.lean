import BareCode.Comment.Strip
import BareCode.Proofs.Comment.Settled
import BareCode.Proofs.Strip.Blocks
import BareCode.Proofs.Text.NormalLines
/-! # Stripping only deletes, and never mixes lines

    Three kinds of passes, one argument.  A pass over lines drops some of them and cuts
    others; a pass over spans deletes characters and no newline; either way the result
    is aligned with what the pass was given, and alignment composes.  Layout also
    replaces padding by other padding, so it is aligned only up to padding.

    * `aligned_stripComments_of_no_layout` — all passes but the last;
    * `aligned_normalize` — the last one, up to padding;
    * `stripComments_only_deletes` — the whole, as a map between line numbers. -/

namespace BareCode

open Text

variable {l : Line} {t : Text} {ds : List Dialect} {o : StripOptions}

/-! ## Passes that are wanted, and passes that are not -/

namespace StripOptions

theorem dropDiffMarks_eq_self (o : StripOptions) (h : o.diffMarks = false) (t : Text) :
    o.dropDiffMarks t = t :=
  if_neg (Bool.eq_false_iff.mp h)

theorem cutInline_of_inline (h : o.inline = true) (ms : List Text) (t : Text) :
    o.cutInline ms t = cutLineComments o.guardOrder ms t :=
  if_pos h

theorem cutInline_eq_self (o : StripOptions) (h : o.inline = false) (ms : List Text) (t : Text) :
    o.cutInline ms t = t :=
  if_neg (Bool.eq_false_iff.mp h)

theorem lay_eq_self (o : StripOptions) (h : o.normalize = false) (t : Text) : o.lay t = t :=
  if_neg (Bool.eq_false_iff.mp h)

end StripOptions

/-! ## The passes over lines -/

/-- Taking the mark of a change off a line leaves the end of the line. -/
theorem Line.dropDiffMark_isSuffix (l : Line) : l.dropDiffMark <:+ l := by
  have hstart : ∀ {c : Char} {rest : Text}, l.trimStart = c :: rest →
      Text.trimStart rest <:+ l := by
    intro c rest h
    have hrest : c :: rest <:+ l := h ▸ List.dropWhile_suffix _
    exact (List.dropWhile_suffix _).trans ((List.suffix_cons c rest).trans hrest)
  rw [Line.dropDiffMark]
  split
  · exact hstart (by assumption)
  · exact hstart (by assumption)
  · exact List.suffix_refl l

theorem Line.newline_not_mem_dropDiffMark (h : '\n' ∉ l) : '\n' ∉ l.dropDiffMark :=
  fun hm => h (l.dropDiffMark_isSuffix.subset hm)

/-- The pass over change marks changes each line on its own. -/
theorem aligned_infix_dropDiffMarks (o : StripOptions) (t : Text) :
    Aligned List.IsInfix (o.dropDiffMarks t) t := by
  rw [StripOptions.dropDiffMarks]
  split
  · refine aligned_onLines (fun l hl => ?_) fun l => l.dropDiffMark_isSuffix.isInfix
    exact Line.newline_not_mem_dropDiffMark (not_mem_of_mem_lines hl)
  · exact Aligned.refl t

theorem aligned_dropDiffMarks (o : StripOptions) (t : Text) :
    Aligned List.Sublist (o.dropDiffMarks t) t :=
  (aligned_infix_dropDiffMarks o t).sublist_of_isInfix

/-- The pass over line comments drops lines and leaves front parts of the others. -/
theorem aligned_infix_cutLineComments (order : GuardOrder) (ms : List Text) (t : Text) :
    Aligned List.IsInfix (cutLineComments order ms t) t := by
  refine aligned_unlines (fun l hl => not_mem_of_mem_filterMap_cutLine hl)
    (fun l => List.nil_infix) (sublistForall₂_filterMap (fun l l' h => ?_) t.lines)
  exact (prefix_of_cutLine h).isInfix

theorem aligned_cutLineComments (order : GuardOrder) (ms : List Text) (t : Text) :
    Aligned List.Sublist (cutLineComments order ms t) t :=
  (aligned_infix_cutLineComments order ms t).sublist_of_isInfix

/-- The pass over line comments, whether it is wanted or not. -/
theorem aligned_infix_cutInline (o : StripOptions) (ms : List Text) (t : Text) :
    Aligned List.IsInfix (o.cutInline ms t) t := by
  rw [StripOptions.cutInline]
  split
  · exact aligned_infix_cutLineComments o.guardOrder ms t
  · exact Aligned.refl t

theorem aligned_cutInline (o : StripOptions) (ms : List Text) (t : Text) :
    Aligned List.Sublist (o.cutInline ms t) t :=
  (aligned_infix_cutInline o ms t).sublist_of_isInfix

/-- The pass over full-line comments drops lines. -/
theorem aligned_dropFullComments (ms : List Text) (t : Text) :
    Aligned List.Sublist (dropFullComments ms t) t := by
  refine aligned_unlines (fun l hl => ?_) (fun l => List.nil_sublist l) ?_
  · exact not_mem_of_mem_lines (List.mem_filter.mp hl).1
  · exact List.filter_sublist.sublistForall₂

/-! ## All passes but the last -/

/-- Up to block comments, stripping only deletes. -/
theorem aligned_stripToBlocks (ds : List Dialect) (o : StripOptions) (t : Text) :
    Aligned List.Sublist (stripToBlocks ds o t) t :=
  (aligned_removeBlocks _ _).trans ((aligned_cutInline o _ _).trans (aligned_dropDiffMarks o t))

/-- Without layout, stripping only deletes. -/
theorem aligned_stripComments_of_no_layout (hn : o.normalize = false) (ds : List Dialect)
    (t : Text) : Aligned List.Sublist (stripComments ds o t) t := by
  rw [stripComments, o.lay_eq_self hn]
  exact (aligned_dropFullComments _ _).trans
    ((aligned_cutInline o _ _).trans (aligned_stripToBlocks ds o t))

/-! ## Layout -/

/-- A text without its spaces and tabs. -/
def Text.unpadded (t : Text) : Text := t.filter fun c => !isPadding c

/-- Padding in front of a text is not among what is left without padding. -/
theorem Text.unpadded_padding_append {pad : Text} (hp : ∀ c ∈ pad, isPadding c = true)
    (t : Text) : (pad ++ t).unpadded = t.unpadded := by
  have hnil : pad.filter (fun c => !isPadding c) = [] :=
    List.filter_eq_nil_iff.mpr fun c hc => by simp [hp c hc]
  rw [unpadded, List.filter_append, hnil]
  rfl

/-- Indentation is padding. -/
theorem Line.unpadded_indentWithSpaces (l : Line) :
    l.indentWithSpaces.unpadded = l.unpadded := by
  obtain ⟨pad, hpad, hl⟩ := Line.exists_padding_dropWhile l
  rw [Line.indentWithSpaces, Text.unpadded_padding_append fun c => isPadding_of_mem_spaces]
  conv_rhs => rw [hl]
  rw [Text.unpadded_padding_append hpad]

/-- Trimming deletes characters, and those that are no padding among them. -/
theorem Line.unpadded_trimPadding_sublist (l : Line) :
    l.trimPadding.unpadded.Sublist l.unpadded :=
  (Line.trimPadding_isPrefix l).sublist.filter _

/-- Whether all of a line is part of another one, spaces and tabs aside. -/
def Line.WithinUnpadded (a b : Line) : Prop := a.unpadded.Sublist b.unpadded

instance : IsTrans Line Line.WithinUnpadded := ⟨fun _ _ _ => List.Sublist.trans⟩

instance : Std.Refl Line.WithinUnpadded := ⟨fun _ => List.Sublist.refl _⟩

/-- Up to padding, layout only drops lines. -/
theorem aligned_normalize (t : Text) : Aligned Line.WithinUnpadded (normalize t) t := by
  -- the three steps of layout, the last one first
  have hindent : List.SublistForall₂ Line.WithinUnpadded (normalLines t.lines)
      (capLines 0 (trimClosed t.lines)) := by
    rw [normalLines, List.sublistForall₂_map_left_iff]
    refine List.sublistForall₂_iff.mpr ⟨_, List.forall₂_same.mpr fun l _ => ?_, List.Sublist.refl _⟩
    rw [Line.WithinUnpadded, Line.unpadded_indentWithSpaces]
  have hcap : List.SublistForall₂ Line.WithinUnpadded (capLines 0 (trimClosed t.lines))
      (trimClosed t.lines) :=
    (capLines_sublist 0 _).sublistForall₂
  have htrim : List.SublistForall₂ Line.WithinUnpadded (trimClosed t.lines) t.lines := by
    refine List.sublistForall₂_iff.mpr
      ⟨t.lines, (forall₂_trimClosed t.lines).imp fun a b hab => ?_, List.Sublist.refl _⟩
    rcases hab with rfl | rfl
    · exact List.Sublist.refl _
    · exact Line.unpadded_trimPadding_sublist b
  rw [Aligned, lines_normalize]
  exact Trans.trans (Trans.trans hindent hcap) htrim

/-! ## The result -/

/-- The pass over layout, whether it is wanted or not. -/
theorem aligned_lay (o : StripOptions) (t : Text) : Aligned Line.WithinUnpadded (o.lay t) t := by
  rw [StripOptions.lay]
  split
  · exact aligned_normalize t
  · exact Aligned.refl t

/-- Deletion is deletion up to padding. -/
theorem Text.Aligned.withinUnpadded {s t : Text} (h : Aligned List.Sublist s t) :
    Aligned Line.WithinUnpadded s t :=
  h.imp fun _ _ hab => hab.filter _

/-- Up to padding, the passes behind the one over spans only delete. -/
theorem aligned_stripComments_stripToBlocks (ds : List Dialect) (o : StripOptions) (t : Text) :
    Aligned Line.WithinUnpadded (stripComments ds o t) (stripToBlocks ds o t) :=
  (aligned_lay o _).trans
    ((aligned_dropFullComments _ _).trans (aligned_cutInline o _ _)).withinUnpadded

/-- Up to padding, stripping only deletes. -/
theorem aligned_stripComments (ds : List Dialect) (o : StripOptions) (t : Text) :
    Aligned Line.WithinUnpadded (stripComments ds o t) t :=
  (aligned_stripComments_stripToBlocks ds o t).trans (aligned_stripToBlocks ds o t).withinUnpadded

/-- Stripping only deletes, and never mixes lines.  Line numbers of the result go to
    line numbers of the text, strictly increasing: without layout every line of the
    result is what is left of the line it goes to, and with layout it is so once
    spaces and tabs are taken off both.  Nothing is asked of the dialects.  A pair with two
    empty markers is none the program can work with, as a scan for its spans never ends;
    here its removal is total and leaves the text as it is. -/
theorem stripComments_only_deletes (ds : List Dialect) (o : StripOptions) (t : Text) :
    (o.normalize = false →
      ∃ f : Fin (stripComments ds o t).lines.length → Fin t.lines.length,
        StrictMono f ∧ ∀ k, ((stripComments ds o t).lines.get k).Sublist (t.lines.get (f k))) ∧
    (o.normalize = true →
      ∃ f : Fin (stripComments ds o t).lines.length → Fin t.lines.length,
        StrictMono f ∧ ∀ k,
          ((stripComments ds o t).lines.get k).unpadded.Sublist (t.lines.get (f k)).unpadded) := by
  constructor
  · intro hn
    exact (aligned_stripComments_of_no_layout hn ds t).exists_strictMono
  · intro _
    exact (aligned_stripComments ds o t).exists_strictMono

/-- A line comment and a block over two lines: four of the five lines are left. -/
theorem stripComments_only_deletes_block :
    (stripComments (Dialect.choose ["js"]) { normalize := false }
      "a\n/* x\ny */b\n// c\nd".toList).lines = ["a", "", "b", "d"].map String.toList ∧
    ∃ f : Fin (stripComments (Dialect.choose ["js"]) { normalize := false }
        "a\n/* x\ny */b\n// c\nd".toList).lines.length →
      Fin (Text.lines "a\n/* x\ny */b\n// c\nd".toList).length,
      StrictMono f ∧ ∀ k, ((stripComments (Dialect.choose ["js"]) { normalize := false }
        "a\n/* x\ny */b\n// c\nd".toList).lines.get k).Sublist
          ((Text.lines "a\n/* x\ny */b\n// c\nd".toList).get (f k)) :=
  ⟨by decide, (stripComments_only_deletes _ _ _).1 rfl⟩

end BareCode
