import BareCode.Proofs.Comment.Span
/-! # Closing — texts that leave no span open at their end

    A span may run over newlines, so what a pair removes from a text depends on the
    lines in front of it.  It does not if these lines close every span that they open:
    then removal goes on behind them as if the text began there
    (`remove_newline_append`).  If they leave one open, the next closer ends it, however
    far behind, and everything up to there goes (`count_remove_le`). -/

namespace BareCode

open Text

variable {a b t : Text} {k : Char}

namespace BlockPair

variable {p : BlockPair} {s : SpanSplit}

/-- Whether a text closes every span that a pair opens in it. -/
inductive Closes (p : BlockPair) : Text → Prop where
  /-- There is no opener. -/
  | noOpener {t : Text} : ¬ p.opener <:+: t → Closes p t
  /-- The first span is closed, and what follows closes the others. -/
  | span {t : Text} {s : SpanSplit} : p.firstSpan? t = some s → Closes p s.rest → Closes p t

/-! ## Where the first span is -/

/-- Text in front of which an opener is not looked for stays in front of the span. -/
theorem firstSpan?_append_left
    (h : splitAtFirst? (a ++ t) p.opener
      = (splitAtFirst? t p.opener).map fun (before, rest) => (a ++ before, rest)) :
    p.firstSpan? (a ++ t) = (p.firstSpan? t).map fun s => ⟨a ++ s.before, s.span, s.rest⟩ := by
  rw [firstSpan?, firstSpan?, h]
  cases splitAtFirst? t p.opener with
  | none => rfl
  | some o =>
      obtain ⟨before, body⟩ := o
      simp only [Option.map_some]
      cases splitAtFirst? body p.closer with
      | none => rfl
      | some c => rfl

/-- Foreign characters stay in front of the first span. -/
theorem firstSpan?_foreign (hn : p.opener ≠ []) (ha : ∀ d ∈ a, d ∉ p.opener) (t : Text) :
    p.firstSpan? (a ++ t) = (p.firstSpan? t).map fun s => ⟨a ++ s.before, s.span, s.rest⟩ :=
  firstSpan?_append_left (splitAtFirst?_foreign hn ha t)

/-- A line without an opener stays in front of the first span. -/
theorem firstSpan?_newline_append (ho : '\n' ∉ p.opener) (ha : ¬ p.opener <:+: a) (t : Text) :
    p.firstSpan? (a ++ '\n' :: t)
      = (p.firstSpan? t).map fun s => ⟨a ++ '\n' :: s.before, s.span, s.rest⟩ := by
  have hwall : splitAtFirst? ((a ++ ['\n']) ++ t) p.opener
      = (splitAtFirst? t p.opener).map fun (before, rest) => ((a ++ ['\n']) ++ before, rest) := by
    simpa using splitAtFirst?_wall ha ho t
  simpa using firstSpan?_append_left hwall

/-! ## Removal behind a text that closes its spans -/

/-- Removal passes a newline behind a text that closes its spans. -/
theorem remove_newline_append (ho : '\n' ∉ p.opener) (h : p.Closes a) (b : Text) :
    p.remove (a ++ '\n' :: b) = p.remove a ++ '\n' :: p.remove b := by
  induction h with
  | @noOpener a ha =>
      have hnone : p.firstSpan? a = none := by
        rw [firstSpan?_eq_none_iff]
        rintro ⟨x, y, z, hx⟩
        exact ha ⟨x, _, hx.symm⟩
      have hfirst := firstSpan?_newline_append ho ha b
      rw [remove_of_none hnone]
      cases hb : p.firstSpan? b with
      | none =>
          rw [hb, Option.map_none] at hfirst
          rw [remove_of_none hb, remove_of_none hfirst]
      | some s =>
          rw [hb, Option.map_some] at hfirst
          rw [remove_of_span hb, remove_of_span hfirst]
          simp only [List.append_assoc, List.cons_append]
  | @span a s hs _ ih =>
      rw [remove_of_span hs, remove_of_span (firstSpan?_append hs _), ih]
      simp only [List.append_assoc]

/-- A text that leaves a span open lets it run up to the next closer: of what stands in
    between only newlines are left. -/
theorem count_remove_le (ho : p.opener ≠ []) (hc : '\n' ∉ p.closer) (hne : p.closer ≠ [])
    (hk : k ≠ '\n') (hb : ∀ d ∈ b, d ∉ p.closer) (h : ¬ p.Closes a) :
    (p.remove (a ++ '\n' :: (b ++ p.closer))).count k ≤ a.count k := by
  have hnewlines : ∀ t : Text, t.newlines.count k = 0 := by
    intro t
    exact List.count_eq_zero.mpr fun hm => hk (by simpa using (List.mem_filter.mp hm).2)
  induction a using span_induction (p := p) (Or.inl ho) with
  | none a hs =>
      have hopen : p.opener <:+: a := by
        by_contra hopen
        exact h (Closes.noOpener hopen)
      obtain ⟨before, body, hsplit⟩ := exists_splitAtFirst? hopen
      have hbody : ¬ p.closer <:+: body := by
        rintro ⟨x, y, hx⟩
        refine firstSpan?_eq_none_iff.mp hs ⟨before, x, y, ?_⟩
        rw [hx]
        exact splitAtFirst?_eq_some hsplit
      -- the closer at the end is the first one behind that opener
      have hclose : splitAtFirst? (body ++ '\n' :: (b ++ p.closer)) p.closer
          = some (body ++ '\n' :: b, []) := by
        rw [splitAtFirst?_wall hbody hc, splitAtFirst?_foreign hne hb, splitAtFirst?_self]
        simp
      have hspan : p.firstSpan? (a ++ '\n' :: (b ++ p.closer))
          = some ⟨before, p.opener ++ (body ++ '\n' :: b) ++ p.closer, []⟩ :=
        firstSpan?_eq_some_iff.mpr ⟨_, _, splitAtFirst?_append hsplit _, hclose, rfl⟩
      have hnil : p.remove [] = [] := List.sublist_nil.mp (p.remove_sublist [])
      rw [remove_of_span hspan]
      conv_rhs => rw [splitAtFirst?_eq_some hsplit]
      simp only [List.count_append, hnewlines, hnil, List.count_nil]
      omega
  | span a s hs ih =>
      have hrest : ¬ p.Closes s.rest := fun hr => h (Closes.span hs hr)
      have hle := ih hrest
      rw [remove_of_span (firstSpan?_append hs _)]
      conv_rhs => rw [firstSpan?_eq_some hs]
      simp only [List.count_append, hnewlines]
      omega

end BlockPair

end BareCode
