import BareCode.Dialect.Catalog
import BareCode.Proofs.Comment.Span
import BareCode.Proofs.Text.FirstPlace
/-! # Segmentation — a text as gaps and spans, read from the left

    Removal goes through a text round by round: it looks for the first opener in what is
    left, for the first closer behind it, and goes on behind that.  Here the whole run is
    one value, a `Segmentation`: gap, span, gap, span, …, tail.  It is *leftmost and
    shortest* when every span begins at the first opener of what is left and ends at its
    first closer, and the tail holds no span.

    * `LeftmostShortest.firstSpan?` — such a segmentation begins with the first span, hence
      a text has no two of them (`LeftmostShortest.eq_of_text_eq`);
    * `exists_leftmostShortest` — and every text has one, by induction along its spans;
    * `removeUpTo_text` — rounds and spans correspond, so as many rounds as there are spans
      give the text with every span replaced by its newlines. -/

namespace BareCode

open Text

/-- A text cut into gaps and spans.  A span is given by what its markers enclose, and the
    tail is what follows the last one. -/
inductive Segmentation
  | tail (t : Text)
  | span (gap inner : Text) (more : Segmentation)

namespace BlockPair

variable {p : BlockPair} {t gap inner rest : Text} {s : SpanSplit}

/-- A text between the two markers of a pair. -/
def enclose (p : BlockPair) (inner : Text) : Text := p.opener ++ inner ++ p.closer

/-- Every round of removal takes both markers off what is left. -/
theorem length_rest_le (h : p.firstSpan? t = some s) :
    s.rest.length + (p.opener.length + p.closer.length) ≤ t.length := by
  obtain ⟨body, inner, ho, hc, -⟩ := firstSpan?_eq_some_iff.mp h
  rw [splitAtFirst?_eq_some ho, splitAtFirst?_eq_some hc]
  simp only [List.length_append]
  omega

/-- The closer stands at its first place behind what it closes, whatever follows it. -/
theorem splitAtFirst?_closer_iff :
    (inner ++ p.closer ++ rest).splitAtFirst? p.closer = some (inner, rest) ↔
      (inner ++ p.closer).firstPlace? p.closer = some inner.length := by
  have hshort : (inner ++ p.closer).firstPlace? p.closer = some inner.length ↔
      (inner ++ p.closer).splitAtFirst? p.closer = some (inner, []) := by
    rw [splitAtFirst?_eq_some_iff, List.append_nil]
    exact (and_iff_right rfl).symm
  rw [hshort]
  constructor
  · intro h
    obtain ⟨b, r, hs⟩ := exists_splitAtFirst? (t := inner ++ p.closer)
      ⟨inner, [], List.append_nil _⟩
    have hs' := splitAtFirst?_append hs rest
    rw [h] at hs'
    obtain ⟨rfl, hrest⟩ : inner = b ∧ rest = r ++ rest := by simpa using hs'
    rw [hs, List.self_eq_append_left.mp hrest]
  · intro h
    exact splitAtFirst?_append h rest

/-- A span is the first one exactly when it begins at the first opener and ends at the
    first closer behind that. -/
theorem firstSpan?_enclose_iff :
    p.firstSpan? (gap ++ p.enclose inner ++ rest) = some ⟨gap, p.enclose inner, rest⟩ ↔
      (gap ++ p.enclose inner ++ rest).firstPlace? p.opener = some gap.length ∧
        (inner ++ p.closer).firstPlace? p.closer = some inner.length := by
  have hopen : gap ++ p.enclose inner ++ rest = gap ++ p.opener ++ (inner ++ p.closer ++ rest) := by
    simp only [enclose, List.append_assoc]
  rw [firstSpan?_eq_some_iff]
  constructor
  · rintro ⟨body, inner', ho, hc, hspan⟩
    obtain ⟨ht, hplace⟩ := splitAtFirst?_eq_some_iff.mp ho
    obtain rfl : inner = inner' := by
      simpa only [enclose, List.append_cancel_right_eq, List.append_cancel_left_eq] using hspan
    rw [hopen, List.append_cancel_left_eq] at ht
    subst ht
    exact ⟨hplace, splitAtFirst?_closer_iff.mp hc⟩
  · rintro ⟨hplace, hc⟩
    exact ⟨inner ++ p.closer ++ rest, inner, splitAtFirst?_eq_some_iff.mpr ⟨hopen, hplace⟩,
      splitAtFirst?_closer_iff.mpr hc, rfl⟩

end BlockPair

namespace Segmentation

variable {p : BlockPair} {s s' : Segmentation} {t : Text}

/-- The text that is cut. -/
def text (p : BlockPair) : Segmentation → Text
  | tail t => t
  | span gap inner more => gap ++ p.enclose inner ++ more.text p

/-- The text with every span replaced by its newlines. -/
def bared (p : BlockPair) : Segmentation → Text
  | tail t => t
  | span gap inner more => gap ++ (p.enclose inner).newlines ++ more.bared p

/-- The number of spans. -/
def spans : Segmentation → Nat
  | tail _ => 0
  | span _ _ more => more.spans + 1

/-- What follows the last span. -/
def lastGap : Segmentation → Text
  | tail t => t
  | span _ _ more => more.lastGap

/-- Whether every span begins at the first opener of what is left and ends at the first
    closer behind it, and no opener of the tail has a closer behind it. -/
def LeftmostShortest (p : BlockPair) : Segmentation → Prop
  | tail t => ¬ p.EnclosesIn t
  | span gap inner more =>
      (text p (span gap inner more)).firstPlace? p.opener = some gap.length ∧
        (inner ++ p.closer).firstPlace? p.closer = some inner.length ∧
        more.LeftmostShortest p

/-- A leftmost and shortest segmentation begins with the first span of the text. -/
theorem LeftmostShortest.firstSpan? {gap inner : Text} {more : Segmentation}
    (h : (span gap inner more).LeftmostShortest p) :
    p.firstSpan? (text p (span gap inner more)) = some ⟨gap, p.enclose inner, more.text p⟩ :=
  BlockPair.firstSpan?_enclose_iff.mpr ⟨h.1, h.2.1⟩

/-- A text has at most one such segmentation. -/
theorem LeftmostShortest.eq_of_text_eq (h : s.LeftmostShortest p) (h' : s'.LeftmostShortest p)
    (ht : s.text p = s'.text p) : s = s' := by
  induction s generalizing s' with
  | tail t =>
      have hnone := BlockPair.firstSpan?_eq_none_iff.mpr h
      cases s' with
      | tail t' => exact congrArg tail ht
      | span gap' inner' more' =>
          have hsome := h'.firstSpan?
          rw [← ht] at hsome
          exact nomatch hnone.symm.trans hsome
  | span gap inner more ih =>
      have hsome := h.firstSpan?
      cases s' with
      | tail t' =>
          have hnone := BlockPair.firstSpan?_eq_none_iff.mpr h'
          rw [ht] at hsome
          exact nomatch hnone.symm.trans hsome
      | span gap' inner' more' =>
          -- both begin with the first span and are segmentations of what follows it
          rw [ht, h'.firstSpan?, Option.some.injEq, SpanSplit.mk.injEq] at hsome
          obtain ⟨rfl, hspan, hrest⟩ := hsome
          obtain rfl : inner' = inner := by
            simpa only [BlockPair.enclose, List.append_cancel_right_eq,
              List.append_cancel_left_eq] using hspan
          rw [ih h.2.2 h'.2.2 hrest.symm]

/-- Every text has such a segmentation. -/
theorem exists_leftmostShortest (hp : p.opener ≠ [] ∨ p.closer ≠ []) (t : Text) :
    ∃ s : Segmentation, s.text p = t ∧ s.LeftmostShortest p := by
  induction t using BlockPair.span_induction hp with
  | none t h => exact ⟨tail t, rfl, BlockPair.firstSpan?_eq_none_iff.mp h⟩
  | span t first h ih =>
      obtain ⟨more, hmore, hshort⟩ := ih
      obtain ⟨-, inner, -, -, hinner⟩ := BlockPair.firstSpan?_eq_some_iff.mp h
      have ht : text p (span first.before inner more) = t := by
        rw [text, hmore, BlockPair.enclose, ← hinner, ← BlockPair.firstSpan?_eq_some h]
      have hfirst : p.firstSpan? (first.before ++ p.enclose inner ++ more.text p)
          = some ⟨first.before, p.enclose inner, more.text p⟩ := by
        rw [hmore, BlockPair.enclose, ← hinner, ← BlockPair.firstSpan?_eq_some h]
        exact h
      obtain ⟨hopen, hclose⟩ := BlockPair.firstSpan?_enclose_iff.mp hfirst
      exact ⟨span first.before inner more, ht, hopen, hclose, hshort⟩

/-- Each round of removal bares one span, so rounds enough for all spans bare the text. -/
theorem removeUpTo_text (h : s.LeftmostShortest p) {n : Nat} (hn : s.spans ≤ n) :
    p.removeUpTo n (s.text p) = s.bared p := by
  induction s generalizing n with
  | tail t =>
      cases n with
      | zero => rfl
      | succ n =>
          rw [BlockPair.removeUpTo, text, BlockPair.firstSpan?_eq_none_iff.mpr h]
          rfl
  | span gap inner more ih =>
      cases n with
      | zero => exact absurd hn (Nat.not_succ_le_zero _)
      | succ n =>
          have hmore : p.removeUpTo n (more.text p) = more.bared p :=
            ih h.2.2 (Nat.le_of_succ_le_succ hn)
          rw [BlockPair.removeUpTo, h.firstSpan?]
          show gap ++ (p.enclose inner).newlines ++ p.removeUpTo n (more.text p) = _
          rw [hmore]
          rfl

/-- The markers of all spans fit into the text. -/
theorem spans_mul_le_length (p : BlockPair) (s : Segmentation) :
    s.spans * (p.opener.length + p.closer.length) ≤ (s.text p).length := by
  induction s with
  | tail t => simp [spans]
  | span gap inner more ih =>
      simp only [spans, text, BlockPair.enclose, List.length_append, Nat.add_mul, Nat.one_mul]
      omega

theorem lastGap_isSuffix (p : BlockPair) (s : Segmentation) : s.lastGap <:+ s.bared p := by
  induction s with
  | tail t => exact List.suffix_refl t
  | span gap inner more ih => exact ih.trans (List.suffix_append _ _)

end Segmentation

namespace BlockPair

/-- **Removal is the leftmost and shortest segmentation.**  Every round takes both markers
    off what is left, so the rounds come to an end, and there are as many as there are
    spans.  The text has exactly one segmentation that is leftmost and shortest, and its
    removal is that segmentation with every span replaced by its newlines.  An opener that
    nothing closes therefore stays, with all that follows it, and so does the number of
    lines. -/
theorem remove_segmentation (p : BlockPair) (hp : p.opener ≠ [] ∨ p.closer ≠ []) (t : Text) :
    (∀ u s, p.firstSpan? u = some s →
      s.rest.length + (p.opener.length + p.closer.length) ≤ u.length) ∧
    (∃ s : Segmentation, s.text p = t ∧ s.LeftmostShortest p ∧
      (∀ s' : Segmentation, s'.text p = t → s'.LeftmostShortest p → s' = s) ∧
      p.remove t = s.bared p ∧ (∀ n, s.spans ≤ n → p.removeUpTo n t = p.remove t) ∧
      ∀ a b, s.lastGap = a ++ p.opener ++ b → p.opener ++ b <:+ p.remove t) ∧
    (p.remove t).lines.length = t.lines.length := by
  obtain ⟨s, rfl, hs⟩ := Segmentation.exists_leftmostShortest hp t
  have hpos : 0 < p.opener.length + p.closer.length := by
    rcases hp with hp | hp
    · have := List.length_pos_iff.mpr hp
      omega
    · have := List.length_pos_iff.mpr hp
      omega
  have hspans : s.spans ≤ (s.text p).length :=
    (Nat.le_mul_of_pos_right s.spans hpos).trans (s.spans_mul_le_length p)
  have hremove : p.remove (s.text p) = s.bared p := Segmentation.removeUpTo_text hs hspans
  refine ⟨fun u first h => length_rest_le h, ⟨s, rfl, hs, ?_, hremove, ?_, ?_⟩, ?_⟩
  · exact fun s' ht hs' => hs'.eq_of_text_eq hs ht
  · intro n hn
    rw [hremove]
    exact Segmentation.removeUpTo_text hs hn
  · intro a b hgap
    rw [hremove]
    refine List.IsSuffix.trans ⟨a, ?_⟩ (s.lastGap_isSuffix p)
    rw [hgap, List.append_assoc]
  · have hlines := forall₂_lines_of_sublist (p.remove_sublist (s.text p))
      (p.count_newline_remove (s.text p))
    exact hlines.length_eq

/-- The closer of the first span may not share a character with its opener, the second span
    encloses nothing, and the last opener stays. -/
theorem remove_segmentation_overlapping :
    (cBlock.opener ≠ [] ∨ cBlock.closer ≠ []) ∧
    (∀ s : Segmentation, s.text cBlock = "/*/a\n*/b/**/c/*d".toList → s.LeftmostShortest cBlock →
      s = .span [] "/a\n".toList (.span "b".toList [] (.tail "c/*d".toList))) ∧
    cBlock.remove "/*/a\n*/b/**/c/*d".toList = "\nbc/*d".toList ∧
    "/*d".toList <:+ cBlock.remove "/*/a\n*/b/**/c/*d".toList ∧
    (cBlock.remove "/*/a\n*/b/**/c/*d".toList).lines.length = 2 := by
  have hp : cBlock.opener ≠ [] ∨ cBlock.closer ≠ [] := by decide
  obtain ⟨-, ⟨s, ht, hs, honly, hremove, -, hopen⟩, hlines⟩ :=
    remove_segmentation cBlock hp "/*/a\n*/b/**/c/*d".toList
  have hshort : Segmentation.LeftmostShortest cBlock
      (.span [] "/a\n".toList (.span "b".toList [] (.tail "c/*d".toList))) := by
    refine ⟨by decide, by decide, by decide, by decide, ?_⟩
    exact firstSpan?_eq_none_iff.mp (by decide)
  obtain rfl := honly _ (by decide) hshort
  exact ⟨hp, honly, hremove, hopen "c".toList "d".toList rfl, hlines⟩

end BlockPair

end BareCode
