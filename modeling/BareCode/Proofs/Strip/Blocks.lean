import BareCode.Comment.Strip
import BareCode.Proofs.Comment.Closing
import BareCode.Proofs.Dialect.Markers
/-! # Blocks — the spans of several pairs, removed one pair after another

    Each pair works on what the pairs before it left, so the laws of one pair carry
    over by induction on the pairs, along the texts that lie between them:

    * `aligned_removeBlocks` — every line stays in its place;
    * `removeBlocks_of_no_span` — pairs that find nothing change nothing;
    * `removeBlocks_newline_append` — behind a text that closes all its spans, removal
      goes on as if the text began there;
    * `exists_count_removeBlocks_le` — a text that leaves a span open takes lines behind
      it along. -/

namespace BareCode

open Text

variable {ps : List BlockPair} {a t : Text} {k : Char}

theorem removeBlocks_cons (p : BlockPair) (ps : List BlockPair) (t : Text) :
    removeBlocks (p :: ps) t = removeBlocks ps (p.remove t) := rfl

/-- Removal leaves every line in its place. -/
theorem aligned_removeBlocks (ps : List BlockPair) (t : Text) :
    Aligned List.Sublist (removeBlocks ps t) t := by
  induction ps generalizing t with
  | nil => exact Aligned.refl t
  | cons p ps ih => exact (ih (p.remove t)).trans (p.aligned_remove t)

/-- What removal leaves of a line is a line. -/
theorem newline_not_mem_removeBlocks (ps : List BlockPair) (h : '\n' ∉ t) :
    '\n' ∉ removeBlocks ps t := by
  intro hm
  exact h ((aligned_removeBlocks ps t).sublist.subset hm)

/-- Pairs that enclose nothing remove nothing. -/
theorem removeBlocks_of_no_span (h : ∀ p ∈ ps, ¬ p.EnclosesIn t) : removeBlocks ps t = t := by
  induction ps with
  | nil => rfl
  | cons p ps ih =>
      have hp : p.remove t = t :=
        BlockPair.remove_of_none (BlockPair.firstSpan?_eq_none_iff.mpr (h p List.mem_cons_self))
      have ih' := ih fun q hq => h q (List.mem_cons_of_mem p hq)
      rwa [removeBlocks_cons, hp]

/-- Whether a text closes every span that some pairs open in it, each in what the ones
    before it left. -/
def ClosesAll : List BlockPair → Text → Prop
  | [], _ => True
  | p :: ps, t => p.Closes t ∧ ClosesAll ps (p.remove t)

/-- Removal passes a newline behind a text that closes all its spans. -/
theorem removeBlocks_newline_append (hps : ∀ p ∈ ps, '\n' ∉ p.opener) (h : ClosesAll ps a)
    (b : Text) :
    removeBlocks ps (a ++ '\n' :: b) = removeBlocks ps a ++ '\n' :: removeBlocks ps b := by
  induction ps generalizing a b with
  | nil => rfl
  | cons p ps ih =>
      obtain ⟨hp, hrest⟩ := h
      rw [removeBlocks_cons, removeBlocks_cons, removeBlocks_cons,
        p.remove_newline_append (hps p List.mem_cons_self) hp]
      exact ih (fun q hq => hps q (List.mem_cons_of_mem p hq)) hrest _

/-- If a text leaves a span open, some pair has a closer that takes all with it that
    stands in front, provided that no pair finds a span there. -/
theorem exists_count_removeBlocks_le
    (hps : ∀ p ∈ ps, p.opener.IsPlain ∧ p.closer.IsPlain) (hk : k ≠ '\n') (h : ¬ ClosesAll ps a) :
    ∃ p ∈ ps, ∀ b, (∀ d ∈ b, d ∉ p.closer) → (∀ q ∈ ps, ¬ q.EnclosesIn (b ++ p.closer)) →
      (removeBlocks ps (a ++ '\n' :: (b ++ p.closer))).count k ≤ a.count k := by
  induction ps generalizing a with
  | nil => exact absurd trivial h
  | cons p ps ih =>
      obtain ⟨ho, hc⟩ := hps p List.mem_cons_self
      by_cases hp : p.Closes a
      · -- the text stays open for a later pair, and this one passes by
        obtain ⟨q, hq, hle⟩ := ih (fun q hq => hps q (List.mem_cons_of_mem p hq))
          fun hrest => h ⟨hp, hrest⟩
        refine ⟨q, List.mem_cons_of_mem p hq, fun b hb hnone => ?_⟩
        have hpb : p.remove (b ++ q.closer) = b ++ q.closer :=
          BlockPair.remove_of_none
            (BlockPair.firstSpan?_eq_none_iff.mpr (hnone p List.mem_cons_self))
        rw [removeBlocks_cons, p.remove_newline_append ho.newline_not_mem hp, hpb]
        exact (hle b hb fun q' hq' => hnone q' (List.mem_cons_of_mem p hq')).trans
          ((p.remove_sublist a).count_le k)
      · refine ⟨p, List.mem_cons_self, fun b hb _ => ?_⟩
        rw [removeBlocks_cons]
        exact ((aligned_removeBlocks ps _).sublist.count_le k).trans
          (p.count_remove_le ho.1 hc.newline_not_mem hc.1 hk hb hp)

end BareCode
