import BareCode.Proofs.Text.Search
import BareCode.Text.Layout
import Mathlib.Data.List.SplitBy
/-! # Runs of newlines — each of them cut to two

    `Text.capNewlines` counts newlines as it goes along.  Here the count is taken out of
    it: a text is cut into its runs of newlines and its other characters, and every piece
    keeps its first two characters (`capNewlines_eq_flatMap_newlineRuns`).  So no three
    newlines stand in a row in the result (`not_infix_capNewlines`). -/

namespace BareCode.Text

variable {t rest : Text} {run k : Nat}

/-- A text cut into its longest runs of newlines and, one by one, its other characters. -/
def newlineRuns (t : Text) : List Text := t.splitBy fun a b => a == '\n' && b == '\n'

theorem newlineRuns_cons_of_ne {c : Char} (hc : c ≠ '\n') (t : Text) :
    newlineRuns (c :: t) = [c] :: newlineRuns t := by
  have happ : newlineRuns ([c] ++ t) = newlineRuns [c] ++ newlineRuns t :=
    List.splitBy_append (by simp [hc])
  exact happ

theorem newlineRuns_replicate_append (hrest : rest.head? ≠ some '\n') :
    newlineRuns (List.replicate (k + 1) '\n' ++ rest)
      = List.replicate (k + 1) '\n' :: newlineRuns rest := by
  have hrun : newlineRuns (List.replicate (k + 1) '\n') = [List.replicate (k + 1) '\n'] :=
    List.splitBy_of_isChain (List.cons_ne_nil _ _) (List.isChain_replicate_of_rel _ (by decide))
  have happ : newlineRuns (List.replicate (k + 1) '\n' ++ rest)
      = newlineRuns (List.replicate (k + 1) '\n') ++ newlineRuns rest := by
    refine List.splitBy_append fun a _ b hb => ?_
    have hb' : b ≠ '\n' := fun h => hrest (h ▸ hb)
    simp [hb']
  rw [happ, hrun]
  rfl

/-- Where no newline follows, those in front do not count. -/
theorem capNewlinesAfter_of_head? (h : t.head? ≠ some '\n') (run : Nat) :
    capNewlinesAfter run t = capNewlines t := by
  cases t with
  | nil => rfl
  | cons c t =>
      have hc : c ≠ '\n' := fun h0 => h (h0 ▸ rfl)
      rw [capNewlines, capNewlinesAfter, capNewlinesAfter, if_neg hc, if_neg hc]

/-- A run of newlines is cut to what is left of the two. -/
theorem capNewlinesAfter_replicate_append (hrest : rest.head? ≠ some '\n') :
    capNewlinesAfter run (List.replicate k '\n' ++ rest)
      = List.replicate (min k (2 - run)) '\n' ++ capNewlines rest := by
  induction k generalizing run with
  | zero =>
      rw [Nat.zero_min]
      exact capNewlinesAfter_of_head? hrest run
  | succ k ih =>
      rw [List.replicate_succ, List.cons_append, capNewlinesAfter, if_pos rfl]
      by_cases h : run < 2
      · have hmin : min (k + 1) (2 - run) = min k (2 - (run + 1)) + 1 := by omega
        rw [if_pos h, ih, hmin, List.replicate_succ, List.cons_append]
      · have hmin : min (k + 1) (2 - run) = min k (2 - run) := by omega
        rw [if_neg h, ih, hmin]

/-- A text that begins with a newline begins with a run of them that is over behind it. -/
theorem exists_newline_run (t : Text) :
    ∃ k rest, '\n' :: t = List.replicate (k + 1) '\n' ++ rest ∧ rest.head? ≠ some '\n' := by
  induction t with
  | nil => exact ⟨0, [], rfl, by simp⟩
  | cons c t ih =>
      by_cases hc : c = '\n'
      · obtain ⟨k, rest, ht, hrest⟩ := ih
        refine ⟨k + 1, rest, ?_, hrest⟩
        rw [hc, ht]
        rfl
      · exact ⟨0, c :: t, rfl, by simpa using hc⟩

/-- Cutting runs of newlines to two cuts every run by itself and leaves the rest alone. -/
theorem capNewlines_eq_flatMap_newlineRuns (t : Text) :
    capNewlines t = (newlineRuns t).flatMap (List.take 2) := by
  induction hn : t.length using Nat.strong_induction_on generalizing t with
  | h n ih =>
      cases t with
      | nil => rfl
      | cons c t =>
          by_cases hc : c = '\n'
          · obtain ⟨k, rest, ht, hrest⟩ := exists_newline_run t
            have hlen : rest.length < n := by
              have := congrArg List.length ht
              rw [List.length_append, List.length_replicate, List.length_cons] at this
              rw [List.length_cons] at hn
              omega
            rw [hc, ht, capNewlines, capNewlinesAfter_replicate_append hrest,
              newlineRuns_replicate_append hrest, List.flatMap_cons, List.take_replicate,
              ih _ hlen rest rfl, Nat.min_comm]
          · have hlen : t.length < n := by
              rw [List.length_cons] at hn
              omega
            rw [newlineRuns_cons_of_ne hc, List.flatMap_cons, ← ih _ hlen t rfl, capNewlines,
              capNewlinesAfter, if_neg hc]
            rfl

/-- The first character always stays. -/
theorem capNewlines_eq_nil_iff : capNewlines t = [] ↔ t = [] := by
  constructor
  · intro h
    cases t with
    | nil => rfl
    | cons c t =>
        rw [capNewlines, capNewlinesAfter] at h
        split at h
        · exact absurd h (List.cons_ne_nil _ _)
        · exact absurd h (List.cons_ne_nil _ _)
  · rintro rfl
    rfl

/-- With the newlines that stand in front, a text whose runs are cut has no three
    newlines in a row. -/
theorem not_infix_replicate_append_capNewlinesAfter (hrun : run ≤ 2) (t : Text) :
    ¬ List.replicate 3 '\n' <:+: List.replicate run '\n' ++ capNewlinesAfter run t := by
  have hshort : ∀ {k : Nat}, k ≤ 2 → ¬ List.replicate 3 '\n' <:+: List.replicate k '\n' := by
    intro k hk hi
    have := hi.length_le
    rw [List.length_replicate, List.length_replicate] at this
    omega
  fun_induction capNewlinesAfter run t with
  | case1 run =>
      rw [List.append_nil]
      exact hshort hrun
  | case2 run t h ih =>
      rw [List.append_cons, ← List.replicate_succ']
      exact ih h
  | case3 run t h ih => exact ih hrun
  | case4 run c t hc ih =>
      -- the other character ends the run in front
      intro hi
      rcases infix_append_wall hi (fun hm => hc (List.eq_of_mem_replicate hm)) with hi | hi
      · exact hshort hrun hi
      · exact ih (Nat.zero_le 2) hi

/-- No three newlines stand in a row once runs are cut. -/
theorem not_infix_capNewlines (t : Text) : ¬ List.replicate 3 '\n' <:+: capNewlines t :=
  not_infix_replicate_append_capNewlinesAfter (Nat.zero_le 2) t

/-- With the newlines that stand in front, a text without three newlines in a row has no
    run to cut. -/
theorem capNewlinesAfter_eq_self (hrun : run ≤ 2)
    (h : ¬ List.replicate 3 '\n' <:+: List.replicate run '\n' ++ t) :
    capNewlinesAfter run t = t := by
  fun_induction capNewlinesAfter run t with
  | case1 run => rfl
  | case2 run t hlt ih =>
      rw [List.append_cons, ← List.replicate_succ'] at h
      rw [ih hlt h]
  | case3 run t hlt ih =>
      -- two newlines in front, and here is the third
      obtain rfl : run = 2 := by omega
      exact absurd ⟨[], t, rfl⟩ h
  | case4 run c t hc ih =>
      rw [ih (Nat.zero_le 2) fun hi => h (hi.trans ⟨List.replicate run '\n' ++ [c], [], by simp⟩)]

/-- The texts that keep all their newlines are those without three in a row. -/
theorem capNewlines_eq_self_iff : capNewlines t = t ↔ ¬ List.replicate 3 '\n' <:+: t := by
  constructor
  · intro h
    rw [← h]
    exact not_infix_capNewlines t
  · exact capNewlinesAfter_eq_self (Nat.zero_le 2)

end BareCode.Text
