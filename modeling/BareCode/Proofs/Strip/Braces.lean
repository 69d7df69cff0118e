import BareCode.Proofs.Comment.Segmentation
import BareCode.Proofs.Strip.Deletion
/-! # Comments in braces — a pair whose markers hold those of another

    The comments of a template stand in braces, and the catalog has a pair for them that
    takes the braces along.  But its markers hold those of the plain pair, which comes
    first.  Where a comment stands in braces, the plain pair therefore takes it out from
    between them, and nothing is left that the pair with the braces could find.

    * `firstSpan?_enclose` — the first span, where nothing can be found too early: no
      opener stands in front, no closer between, and neither overlaps itself
      (`Text.Unbordered`);
    * `stripLanguages_jsx_braces` — so the braces stay, though with the two pairs in the
      other order they would go. -/

namespace BareCode

open Text

variable {p : BlockPair} {gap inner rest needle b t : Text} {o : StripOptions}

/-! ## Pieces that do not overlap themselves -/

namespace Text

/-- Whether no proper end of a piece is the beginning of it. -/
def Unbordered (m : Text) : Prop := ∀ k < m.length, 0 < k → ¬ m.drop k <+: m

instance (m : Text) : Decidable m.Unbordered :=
  inferInstanceAs (Decidable (∀ k < m.length, 0 < k → ¬ m.drop k <+: m))

/-- Such a piece, put behind a text that does not hold it, is found nowhere before. -/
theorem splitAtFirst?_concat (hu : needle.Unbordered) (hb : ¬ needle <:+: b) :
    splitAtFirst? (b ++ needle) needle = some (b, []) := by
  obtain ⟨before, rest, hs⟩ := exists_splitAtFirst? (List.suffix_append b needle).isInfix
  have ht : b ++ needle = b ++ needle ++ [] := (List.append_nil _).symm
  obtain ⟨⟨x, rfl⟩, -⟩ := splitAtFirst?_first hs ht
  have hfound : needle <+: x ++ needle := by
    have hsplit := splitAtFirst?_eq_some hs
    rw [List.append_assoc, List.append_assoc, List.append_cancel_left_eq] at hsplit
    exact ⟨rest, hsplit.symm⟩
  have hx : x = [] := by
    rcases prefix_append_cases hfound with hin | ⟨c, more, hneedle, hmore⟩
    · exact absurd (hin.isInfix.trans (List.suffix_append before x).isInfix) hb
    · -- the piece would begin with what it ends with behind `x`
      by_contra hne
      have hdrop : needle.drop x.length = c :: more := by
        rw [hneedle, List.drop_left]
      have hlen : x.length < needle.length := by
        rw [hneedle, List.length_append, List.length_cons]
        omega
      exact hu x.length hlen (List.length_pos_iff.mpr hne) (hdrop ▸ hmore)
  subst hx
  rw [List.append_nil] at hs ⊢
  have hrest : rest = [] := by
    have hlen := congrArg List.length (splitAtFirst?_eq_some hs)
    simp only [List.length_append] at hlen
    exact List.length_eq_zero_iff.mp (by omega)
  rw [hs, hrest]

/-- A piece does not stand in a text that lacks one of its characters. -/
theorem not_infix_of_not_mem {c : Char} (hc : c ∈ needle) (ht : c ∉ t) : ¬ needle <:+: t :=
  fun h => ht (h.subset hc)

end Text

/-! ## A span that cannot be missed -/

namespace BlockPair

/-- A span is the first one if no marker overlaps itself, no opener stands in front and no
    closer between the markers. -/
theorem firstSpan?_enclose (ho : p.opener.Unbordered) (hc : p.closer.Unbordered)
    (hgap : ¬ p.opener <:+: gap) (hin : ¬ p.closer <:+: inner) (rest : Text) :
    p.firstSpan? (gap ++ p.enclose inner ++ rest) = some ⟨gap, p.enclose inner, rest⟩ := by
  have hopen := splitAtFirst?_append (splitAtFirst?_concat ho hgap) (inner ++ p.closer ++ rest)
  have hclose := splitAtFirst?_append (splitAtFirst?_concat hc hin) rest
  have ht : gap ++ p.enclose inner ++ rest
      = gap ++ p.opener ++ (inner ++ p.closer ++ rest) := by
    simp only [enclose, List.append_assoc]
  rw [ht]
  exact firstSpan?_eq_some_iff.mpr ⟨_, inner, hopen, hclose, rfl⟩

/-- Without a character of its opener a text has no span. -/
theorem remove_of_not_mem {c : Char} (hc : c ∈ p.opener) (ht : c ∉ t) : p.remove t = t := by
  refine remove_of_none (firstSpan?_eq_none_iff.mpr ?_)
  rintro ⟨x, y, z, rfl⟩
  exact not_infix_of_not_mem hc ht ⟨x, _, rfl⟩

/-- A span gives way to the newlines between its markers, if these hold none. -/
theorem newlines_enclose (ho : '\n' ∉ p.opener) (hc : '\n' ∉ p.closer) (inner : Text) :
    (p.enclose inner).newlines = inner.newlines := by
  have hnone : ∀ {m : Text}, '\n' ∉ m → m.newlines = [] := by
    intro m hm
    refine List.filter_eq_nil_iff.mpr fun c hcm => ?_
    rw [decide_eq_true_eq]
    rintro rfl
    exact hm hcm
  have ho' := hnone ho
  have hc' := hnone hc
  rw [newlines] at ho' hc'
  rw [enclose, newlines, List.filter_append, List.filter_append, ho', hc', List.nil_append,
    List.append_nil]
  rfl

/-- Removal takes a span that cannot be missed out of a text and goes on behind it. -/
theorem remove_enclose (hp : p.opener.IsPlain ∧ p.closer.IsPlain)
    (hu : p.opener.Unbordered ∧ p.closer.Unbordered) (hgap : ¬ p.opener <:+: gap)
    (hin : ¬ p.closer <:+: inner) (rest : Text) :
    p.remove (gap ++ p.enclose inner ++ rest) = gap ++ inner.newlines ++ p.remove rest := by
  rw [remove_of_span (firstSpan?_enclose hu.1 hu.2 hgap hin rest),
    newlines_enclose hp.1.newline_not_mem hp.2.newline_not_mem]

end BlockPair

/-! ## The two pairs of a template -/

/-- The comments of a template, with the braces around them. -/
def bracedBlock : BlockPair := ⟨"\x7b/*".toList, "*/\x7d".toList⟩

theorem blockMarkers_jsx : blockMarkers (Dialect.choose ["jsx"]) = [cBlock, bracedBlock] := by
  decide

theorem lineMarkers_jsx : lineMarkers (Dialect.choose ["jsx"]) = ["//".toList] := by
  decide

/-- A text without a slash has no comment that takes its line along. -/
theorem dropFullComments_of_no_slash (h : '/' ∉ t) : dropFullComments ["//".toList] t = t := by
  refine dropFullComments_of_none fun l hl => Bool.eq_false_iff.mpr fun hfull => ?_
  obtain ⟨m, hm, hstart⟩ := List.any_eq_true.mp hfull
  rw [List.mem_singleton.mp hm, startsWith_iff] at hstart
  have hslash : '/' ∈ l.trimStart := hstart.subset (by decide)
  exact h ((infix_of_mem_lines hl).subset ((List.dropWhile_suffix _).subset hslash))

/-- Newlines are no slashes. -/
theorem slash_not_mem_newlines (b : Text) : '/' ∉ b.newlines := by
  intro hm
  exact absurd (List.mem_filter.mp hm).2 (by decide)

section Template

variable {front back : Text}

/-- The plain pair takes a comment out from between its braces. -/
theorem remove_cBlock_braced (hfront : '/' ∉ front) (hback : '/' ∉ back)
    (hb : ¬ "*/".toList <:+: b) :
    cBlock.remove (front ++ "\x7b/*".toList ++ b ++ "*/\x7d".toList ++ back)
      = front ++ "\x7b".toList ++ b.newlines ++ "\x7d".toList ++ back := by
  have ht : front ++ "\x7b/*".toList ++ b ++ "*/\x7d".toList ++ back
      = front ++ "\x7b".toList ++ cBlock.enclose b ++ ("\x7d".toList ++ back) := by
    simp [BlockPair.enclose, cBlock]
  have hgap : '/' ∉ front ++ "\x7b".toList := by
    rw [List.mem_append, not_or]
    exact ⟨hfront, by decide⟩
  have hrest : '/' ∉ "\x7d".toList ++ back := by
    rw [List.mem_append, not_or]
    exact ⟨by decide, hback⟩
  have hopen : ¬ cBlock.opener <:+: front ++ "\x7b".toList :=
    not_infix_of_not_mem (by decide) hgap
  rw [ht, BlockPair.remove_enclose (by decide) (by decide) hopen hb,
    BlockPair.remove_of_not_mem (by decide) hrest, ← List.append_assoc]

/-- The pair with the braces, on its own, takes them along. -/
theorem remove_bracedBlock (hfront : '/' ∉ front) (hback : '/' ∉ back)
    (hb : ¬ "*/".toList <:+: b) :
    bracedBlock.remove (front ++ "\x7b/*".toList ++ b ++ "*/\x7d".toList ++ back)
      = front ++ b.newlines ++ back := by
  have ht : front ++ "\x7b/*".toList ++ b ++ "*/\x7d".toList ++ back
      = front ++ bracedBlock.enclose b ++ back := by
    simp only [BlockPair.enclose, bracedBlock, List.append_assoc]
  have hin : ¬ bracedBlock.closer <:+: b := fun h => hb (List.IsInfix.trans (by decide) h)
  have hopen : ¬ bracedBlock.opener <:+: front := not_infix_of_not_mem (by decide) hfront
  rw [ht, BlockPair.remove_enclose (by decide) (by decide) hopen hin,
    BlockPair.remove_of_not_mem (by decide) hback]

/-! ## The result -/

/-- **A comment in braces leaves its braces behind.**  Between texts without a slash,
    stripping a template takes out the comment with the plain markers around it and keeps
    the braces, so the result is never what the pair with the braces is there for.  The
    order of the two pairs is all there is to it: in the other order the braces go. -/
theorem stripLanguages_jsx_braces (hn : o.normalize = false) (hm : o.diffMarks = false)
    (hi : o.inline = false) (hfront : '/' ∉ front) (hback : '/' ∉ back)
    (hb : ¬ "*/".toList <:+: b) :
    stripLanguages ["jsx"] o (front ++ "\x7b/*".toList ++ b ++ "*/\x7d".toList ++ back)
      = front ++ "\x7b".toList ++ b.newlines ++ "\x7d".toList ++ back ∧
    stripLanguages ["jsx"] o (front ++ "\x7b/*".toList ++ b ++ "*/\x7d".toList ++ back)
      ≠ front ++ b.newlines ++ back ∧
    removeBlocks (blockMarkers (Dialect.choose ["jsx"])).reverse
        (front ++ "\x7b/*".toList ++ b ++ "*/\x7d".toList ++ back)
      = front ++ b.newlines ++ back := by
  have hnewlines := slash_not_mem_newlines b
  have hkept : '/' ∉ front ++ "\x7b".toList ++ b.newlines ++ "\x7d".toList ++ back := by
    simp [hfront, hback, hnewlines]
  have hgone : '/' ∉ front ++ b.newlines ++ back := by
    simp [hfront, hback, hnewlines]
  have hstrip : stripLanguages ["jsx"] o
      (front ++ "\x7b/*".toList ++ b ++ "*/\x7d".toList ++ back)
        = front ++ "\x7b".toList ++ b.newlines ++ "\x7d".toList ++ back := by
    rw [stripLanguages, stripComments, stripToBlocks, o.lay_eq_self hn, o.cutInline_eq_self hi,
      o.cutInline_eq_self hi, o.dropDiffMarks_eq_self hm, blockMarkers_jsx, lineMarkers_jsx]
    -- what the plain pair leaves has no slash, so no later pass finds anything
    show dropFullComments _ (bracedBlock.remove (cBlock.remove _)) = _
    rw [remove_cBlock_braced hfront hback hb, BlockPair.remove_of_not_mem (by decide) hkept,
      dropFullComments_of_no_slash hkept]
  refine ⟨hstrip, ?_, ?_⟩
  · intro h
    have hlen := congrArg List.length (hstrip.symm.trans h)
    simp only [List.length_append, String.length_toList] at hlen
    have hbrace : "\x7b".length = 1 := by decide
    omega
  · rw [blockMarkers_jsx]
    show cBlock.remove (bracedBlock.remove _) = _
    rw [remove_bracedBlock hfront hback hb, BlockPair.remove_of_not_mem (by decide) hgone]

end Template

/-- A comment that begins with a slash and ends with a star, in braces of its own and
    between others. -/
theorem stripLanguages_jsx_braces_doubled :
    '/' ∉ "<b>\x7b".toList ∧ '/' ∉ "\x7d".toList ∧ ¬ "*/".toList <:+: "/ x\n*".toList ∧
    stripLanguages ["jsx"] { normalize := false } "<b>\x7b\x7b/*/ x\n**/\x7d\x7d".toList
      = "<b>\x7b\x7b\n\x7d\x7d".toList := by
  have hfront : '/' ∉ "<b>\x7b".toList := by decide
  have hback : '/' ∉ "\x7d".toList := by decide
  have hb : ¬ "*/".toList <:+: "/ x\n*".toList := by decide
  exact ⟨hfront, hback, hb, (stripLanguages_jsx_braces rfl rfl rfl hfront hback hb).1⟩

/-- A comment in braces and nothing else does not go altogether. -/
theorem stripLanguages_jsx_braces_stay :
    ¬ "*/".toList <:+: " x ".toList ∧
    stripLanguages ["jsx"] { normalize := false }
      ([] ++ "\x7b/*".toList ++ " x ".toList ++ "*/\x7d".toList ++ [])
        ≠ [] ++ Text.newlines " x ".toList ++ [] := by
  decide

end BareCode
