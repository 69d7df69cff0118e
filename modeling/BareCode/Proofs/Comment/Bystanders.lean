import BareCode.Proofs.Comment.Closing
import BareCode.Proofs.Text.WholeLines
/-! # Bystanders — text that holds no marker of a pair and is set off from the rest

    Take some text that ends with its line, in which a pair has no marker, and which
    begins with a character that is in none, such as a blank.  It neither opens nor closes
    a span, not even together with what stands around it, so its surroundings alone decide
    what becomes of it: it stands between spans and stays, or a span runs over it and
    leaves its newlines (`remove_behind`, by induction along the spans in front of it).
    Nothing else changes when it gives way to another text of this kind. -/

namespace BareCode

open Text

variable {a b s t y before : Text}

theorem Text.wholeLines_newlines (t : Text) : WholeLines t.newlines := by
  rcases List.eq_nil_or_concat' t.newlines with h | ⟨s, c, h⟩
  · exact Or.inl h
  · have hc : c ∈ t.newlines := by simp [h]
    obtain rfl : c = '\n' := by simpa using (List.mem_filter.mp hc).2
    exact Or.inr ⟨s, h⟩

namespace BlockPair

variable {p : BlockPair}

/-- Whether a pair has neither of its markers in a text. -/
def AbsentFrom (p : BlockPair) (t : Text) : Prop := ¬ p.opener <:+: t ∧ ¬ p.closer <:+: t

theorem AbsentFrom.mono (h : p.AbsentFrom t) (hy : y <:+: t) : p.AbsentFrom y :=
  ⟨fun ho => h.1 (ho.trans hy), fun hc => h.2 (hc.trans hy)⟩

/-- Whether a text is a bystander for a pair: it ends with its line, no marker is in it, and
    none can reach into it. -/
structure PassedBy (p : BlockPair) (y : Text) : Prop where
  wholeLines : WholeLines y
  absent : p.AbsentFrom y
  setOff : ∃ c ∈ y.head?, c ∉ p.opener ∧ c ∉ p.closer

/-- The newlines of a bystander are one. -/
theorem PassedBy.newlines (h : p.PassedBy y) (hp : p.AbsentFrom y.newlines)
    (ho : '\n' ∉ p.opener) (hc : '\n' ∉ p.closer) : p.PassedBy y.newlines where
  wholeLines := wholeLines_newlines y
  absent := hp
  setOff := by
    obtain ⟨c, hy, -⟩ := h.setOff
    obtain ⟨s, rfl⟩ := h.wholeLines.resolve_left fun h0 => by simp [h0] at hy
    refine ⟨'\n', ?_, ho, hc⟩
    have hmem : '\n' ∈ (s ++ ['\n']).newlines := List.mem_filter.mpr ⟨by simp, by simp⟩
    obtain ⟨d, more, hd⟩ := List.exists_cons_of_ne_nil (List.ne_nil_of_mem hmem)
    have hd' : d ∈ (s ++ ['\n']).newlines := hd ▸ List.mem_cons_self
    obtain rfl : d = '\n' := by simpa using (List.mem_filter.mp hd').2
    rw [hd]
    rfl

/-! ## What removal does to them -/

/-- Text in front of which an opener is not looked for stays. -/
theorem remove_append_left
    (h : splitAtFirst? (a ++ t) p.opener
      = (splitAtFirst? t p.opener).map fun (before, rest) => (a ++ before, rest)) :
    p.remove (a ++ t) = a ++ p.remove t := by
  have hfirst := firstSpan?_append_left h
  cases ht : p.firstSpan? t with
  | none =>
      rw [ht, Option.map_none] at hfirst
      rw [remove_of_none ht, remove_of_none hfirst]
  | some s =>
      rw [ht, Option.map_some] at hfirst
      rw [remove_of_span ht, remove_of_span hfirst]
      simp only [List.append_assoc]

/-- Whole lines without an opener stay at the front of a text. -/
theorem remove_wholeLines_append (ho : '\n' ∉ p.opener) (ha : WholeLines a)
    (hno : ¬ p.opener <:+: a) (b : Text) : p.remove (a ++ b) = a ++ p.remove b :=
  remove_append_left (splitAtFirst?_wholeLines ha hno ho b)

section

variable (ho : '\n' ∉ p.opener) (hc : '\n' ∉ p.closer)

include hc in
/-- A bystander within a span that is open stays if nothing closes the span, and else leaves
    its newlines. -/
theorem remove_behind_open {body : Text} (hs : splitAtFirst? s p.opener = some (before, body))
    (hbody : ¬ p.closer <:+: body) (b : Text) :
    (∀ y, p.PassedBy y → p.remove (s ++ (y ++ b)) = s ++ (y ++ b)) ∨
      ∃ s' b', ∀ y, p.PassedBy y → p.remove (s ++ (y ++ b)) = s' ++ (y.newlines ++ b') := by
  have hclose : ∀ y, p.PassedBy y → splitAtFirst? (body ++ (y ++ b)) p.closer
      = (splitAtFirst? b p.closer).map fun (inner, rest) => (body ++ (y ++ inner), rest) := by
    intro y hy
    obtain ⟨c, hhead, -, hforeign⟩ := hy.setOff
    exact splitAtFirst?_append_wholeLines hbody ⟨c, hhead, hforeign⟩ hy.wholeLines
      hy.absent.2 hc b
  cases hb : splitAtFirst? b p.closer with
  | none =>
      refine Or.inl fun y hy => remove_of_none ?_
      rw [firstSpan?, splitAtFirst?_append hs]
      simp only [hclose y hy, hb, Option.map_none]
  | some c =>
      obtain ⟨inner, rest⟩ := c
      refine Or.inr ⟨before ++ (p.opener ++ body).newlines,
        (inner ++ p.closer).newlines ++ p.remove rest, fun y hy => ?_⟩
      have hspan : p.firstSpan? (s ++ (y ++ b))
          = some ⟨before, p.opener ++ (body ++ (y ++ inner)) ++ p.closer, rest⟩ := by
        rw [firstSpan?, splitAtFirst?_append hs]
        simp only [hclose y hy, hb, Option.map_some]
      rw [remove_of_span hspan]
      simp [Text.newlines, List.filter_append, List.append_assoc]

include ho hc

/-- A bystander stays or leaves its newlines.  Which of the two it is and what is left
    around it does not depend on it, and if it stays, what stands in front of it is
    treated as if it ended there. -/
theorem remove_behind (hne : p.opener ≠ []) (s b : Text) :
    (∃ b', ∀ y, p.PassedBy y → p.remove (s ++ (y ++ b)) = p.remove s ++ (y ++ b')) ∨
      ∃ s' b', ∀ y, p.PassedBy y → p.remove (s ++ (y ++ b)) = s' ++ (y.newlines ++ b') := by
  induction s using span_induction (p := p) (Or.inl hne) with
  | span s sp hs ih =>
      -- a span in front is removed on its own, and what follows it is shorter
      rcases ih with ⟨b', hstay⟩ | ⟨s', b', hgo⟩
      · refine Or.inl ⟨b', fun y hy => ?_⟩
        rw [remove_of_span (firstSpan?_append hs _), remove_of_span hs, hstay y hy,
          List.append_assoc _ (p.remove sp.rest)]
      · refine Or.inr ⟨sp.before ++ sp.span.newlines ++ s', b', fun y hy => ?_⟩
        rw [remove_of_span (firstSpan?_append hs _), hgo y hy, List.append_assoc _ s']
  | none s hs =>
      rw [remove_of_none hs]
      by_cases hopen : p.opener <:+: s
      · obtain ⟨before, body, hsplit⟩ := exists_splitAtFirst? hopen
        have hbody : ¬ p.closer <:+: body := by
          rintro ⟨u, v, hu⟩
          refine firstSpan?_eq_none_iff.mp hs ⟨before, u, v, ?_⟩
          rw [hu]
          exact splitAtFirst?_eq_some hsplit
        exact (remove_behind_open hc hsplit hbody b).imp_left fun hstay => ⟨b, hstay⟩
      · -- no span is open, and the bystander opens none
        refine Or.inl ⟨p.remove b, fun y hy => ?_⟩
        obtain ⟨c, hhead, hforeign, -⟩ := hy.setOff
        have hpass := splitAtFirst?_append_wholeLines hopen ⟨c, hhead, hforeign⟩ hy.wholeLines
          hy.absent.1 ho b
        simp only [← List.append_assoc] at hpass ⊢
        exact remove_append_left hpass

end

/-- A newline behind a text stays behind what is left of it. -/
theorem remove_concat_newline (hc : '\n' ∉ p.closer) (hne : p.opener ≠ []) (hnc : p.closer ≠ [])
    (t : Text) : p.remove (t ++ ['\n']) = p.remove t ++ ['\n'] := by
  induction t using span_induction (p := p) (Or.inl hne) with
  | span t s hs ih =>
      rw [remove_of_span (firstSpan?_append hs _), remove_of_span hs, ih,
        List.append_assoc _ _ ['\n']]
  | none t hs =>
      have hnone : p.firstSpan? (t ++ ['\n']) = none := by
        refine firstSpan?_eq_none_iff.mpr ?_
        rintro ⟨u, v, w, h⟩
        rcases List.eq_nil_or_concat' w with rfl | ⟨w, d, rfl⟩
        · -- then the closer would end with the newline
          obtain ⟨c, d, hcd⟩ := (List.eq_nil_or_concat' p.closer).resolve_left hnc
          rw [List.append_nil, hcd, ← List.append_assoc, ← List.append_assoc] at h
          obtain ⟨-, hd⟩ := List.append_inj' h rfl
          obtain rfl : '\n' = d := List.singleton_inj.mp hd
          exact hc (by simp [hcd])
        · rw [← List.append_assoc, ← List.append_assoc] at h
          obtain ⟨ht, -⟩ := List.append_inj' h rfl
          exact firstSpan?_eq_none_iff.mp hs ⟨u, v, w, by rw [ht, List.append_assoc]⟩
      rw [remove_of_none hs, remove_of_none hnone]

end BlockPair

end BareCode
