import BareCode.Proofs.Text.Lowercase
/-! # Final sigma — the lower case of a text within another

    Only the lower case of a capital sigma depends on what stands around it.  Its form is
    decided by the nearest character on either side that is not looked through, so within
    a text it may be settled by the text itself or left to what comes before and behind
    (`formSettled`).

    * `lower_infix_of_sigmasSettled` — a text that settles its sigmas has the same lower
      case wherever it stands;
    * `exists_not_lower_infix` — any other text stands in some text whose lower case does
      not hold its own.  One letter in front or behind gives a sigma its other form, and
      the new lower case is too short to hold the old one elsewhere, unless
      all of it is that letter. -/

namespace BareCode

namespace Text

variable {seen after seen' after' u v t p l : Text} {c : Char}

/-! ## What decides the form of a sigma -/

/-- The nearest character that is not looked through, in a text that begins with the
    nearest. -/
def nearest? (t : Text) : Option Char := (t.dropWhile isCaseIgnorable).head?

/-- Whether the form of a sigma between two texts, of which the first is read backwards, is
    the same whatever stands around them. -/
def formSettled (before behind : Text) : Bool :=
  match nearest? before, nearest? behind with
  | some _, some _ => true
  | some c, none => !isCased c
  | none, some d => isCased d
  | none, none => false

/-- Whether each sigma of a text that stands behind `seen` has its form settled. -/
def sigmasSettledAfter (seen : Text) : Text → Bool
  | [] => true
  | c :: t => (c != 'Σ' || formSettled seen t) && sigmasSettledAfter (c :: seen) t

/-- Whether a text settles the form of each of its sigmas; a text without one does. -/
def sigmasSettled (t : Text) : Bool := sigmasSettledAfter [] t

/-- Whether a word ends with a sigma between two texts, of which the first is read
    backwards. -/
def endsWord (before behind : Text) : Bool := startsCased before && !startsCased behind

theorem endsWord_eq (before behind : Text) :
    endsWord before behind
      = ((nearest? before).any isCased && !(nearest? behind).any isCased) := rfl

theorem nearest?_append (s t : Text) : nearest? (s ++ t) = (nearest? s).or (nearest? t) := by
  rw [nearest?, nearest?, nearest?, List.dropWhile_append]
  cases hs : s.dropWhile isCaseIgnorable with
  | nil => rfl
  | cons c rest => rfl

/-- What stands around the two texts does not change a settled form. -/
theorem endsWord_of_settled (h : formSettled u v = true) (seen after : Text) :
    endsWord (u ++ seen) (v ++ after) = endsWord u v := by
  rw [endsWord_eq, endsWord_eq, nearest?_append, nearest?_append]
  rw [formSettled] at h
  cases hu : nearest? u with
  | none =>
      cases hv : nearest? v with
      | none =>
          rw [hu, hv] at h
          exact Bool.noConfusion h
      | some d =>
          -- what follows has case, so no word ends here
          rw [hu, hv] at h
          have hd : isCased d = true := h
          simp [hd]
  | some c =>
      cases hv : nearest? v with
      | none =>
          -- what stands in front has no case, so no word does
          rw [hu, hv] at h
          have hc : isCased c = false := by simpa using h
          simp [hc]
      | some d => rfl

theorem isCased_a : isCased 'a' = true ∧ nearest? ['a'] = some 'a' := by decide +kernel

/-- A letter in front of the two texts or behind them changes any other form. -/
theorem endsWord_of_not_settled (h : formSettled u v = false) :
    endsWord (u ++ ['a']) v ≠ endsWord u v ∨ endsWord u (v ++ ['a']) ≠ endsWord u v := by
  obtain ⟨ha, hnear⟩ := isCased_a
  rw [endsWord_eq, endsWord_eq, endsWord_eq, nearest?_append, nearest?_append, hnear]
  rw [formSettled] at h
  cases hu : nearest? u with
  | none =>
      -- with the letter in front a word ends, for nothing with case follows
      left
      have hv : (nearest? v).any isCased = false := by
        cases hv : nearest? v with
        | none => rfl
        | some d =>
            rw [hu, hv] at h
            exact h
      rw [hv]
      simp [ha]
  | some c =>
      right
      cases hv : nearest? v with
      | none =>
          -- a word ended, and it goes on with the letter behind
          rw [hu, hv] at h
          have hc : isCased c = true := by simpa using h
          simp [ha, hc]
      | some d =>
          rw [hu, hv] at h
          exact Bool.noConfusion h

/-! ## The lower case of a text between two others -/

/-- The lower case of a character between two texts, of which the first is read
    backwards. -/
def lowerBetween (seen after : Text) (c : Char) : Text :=
  if c = 'Σ' then [if endsWord seen after then 'ς' else 'σ'] else lowerChar c

/-- The lower case of a text that stands behind `seen` and in front of `after`. -/
def lowerWithin (seen after : Text) : Text → Text
  | [] => []
  | c :: t => lowerBetween seen (t ++ after) c ++ lowerWithin (c :: seen) after t

theorem lowerAfter_cons (seen : Text) (c : Char) (t : Text) :
    lowerAfter seen (c :: t) = lowerBetween seen t c ++ lowerAfter (c :: seen) t := rfl

theorem lowerWithin_nil (seen t : Text) : lowerWithin seen [] t = lowerAfter seen t := by
  induction t generalizing seen with
  | nil => rfl
  | cons c t ih => rw [lowerWithin, lowerAfter_cons, List.append_nil, ih]

theorem lowerAfter_append (seen t after : Text) :
    lowerAfter seen (t ++ after)
      = lowerWithin seen after t ++ lowerAfter (t.reverse ++ seen) after := by
  induction t generalizing seen with
  | nil => rfl
  | cons c t ih =>
      rw [List.cons_append, lowerAfter_cons, ih, lowerWithin, List.append_assoc,
        List.reverse_cons, List.append_assoc]
      rfl

/-! ## Settled sigmas -/

/-- A character keeps its lower case if it is no sigma or one whose form is settled. -/
theorem lowerBetween_of_settled (h : (c != 'Σ' || formSettled u v) = true) (seen after : Text) :
    lowerBetween (u ++ seen) (v ++ after) c = lowerBetween u v c := by
  by_cases hc : c = 'Σ'
  · have hform : formSettled u v = true := by simpa [hc] using h
    rw [lowerBetween, lowerBetween, endsWord_of_settled hform]
  · rw [lowerBetween, lowerBetween, if_neg hc, if_neg hc]

theorem lowerWithin_of_sigmasSettledAfter (h : sigmasSettledAfter u t = true)
    (seen after : Text) : lowerWithin (u ++ seen) after t = lowerAfter u t := by
  induction t generalizing u with
  | nil => rfl
  | cons c t ih =>
      rw [sigmasSettledAfter, Bool.and_eq_true] at h
      have hrest : lowerWithin (c :: (u ++ seen)) after t = lowerAfter (c :: u) t := ih h.2
      rw [lowerWithin, lowerAfter_cons, lowerBetween_of_settled h.1, hrest]

/-- A text that settles its sigmas has the same lower case wherever it stands. -/
theorem lower_infix_of_sigmasSettled (h : sigmasSettled p = true) (hp : p <:+: l) :
    lower p <:+: lower l := by
  obtain ⟨a, b, rfl⟩ := hp
  refine ⟨lowerWithin [] (p ++ b) a, lowerAfter (p.reverse ++ (a.reverse ++ [])) b, ?_⟩
  have hsame := lowerWithin_of_sigmasSettledAfter h (a.reverse ++ []) b
  rw [List.nil_append] at hsame
  rw [lower, lower, ← hsame, List.append_assoc, List.append_assoc, lowerAfter_append,
    lowerAfter_append]

/-! ## Other sigmas -/

/-- A character with the two forms of the small sigma made one. -/
def plainSigma (c : Char) : Char := if c = 'ς' then 'σ' else c

theorem map_plainSigma_lowerBetween (seen after seen' after' : Text) (c : Char) :
    (lowerBetween seen after c).map plainSigma = (lowerBetween seen' after' c).map plainSigma := by
  rw [lowerBetween, lowerBetween]
  split
  · split
    · split
      · rfl
      · rfl
    · split
      · rfl
      · rfl
  · rfl

/-- What stands around a text changes no more of its lower case than the forms of
    sigmas. -/
theorem map_plainSigma_lowerWithin (seen after seen' after' : Text) (t : Text) :
    (lowerWithin seen after t).map plainSigma = (lowerWithin seen' after' t).map plainSigma := by
  induction t generalizing seen seen' with
  | nil => rfl
  | cons c t ih =>
      rw [lowerWithin, lowerWithin, List.map_append, List.map_append, ih (c :: seen) (c :: seen'),
        map_plainSigma_lowerBetween seen _ seen' (t ++ after')]

theorem length_lowerBetween (seen after seen' after' : Text) (c : Char) :
    (lowerBetween seen after c).length = (lowerBetween seen' after' c).length := by
  have := congrArg List.length (map_plainSigma_lowerBetween seen after seen' after' c)
  rwa [List.length_map, List.length_map] at this

/-- The lower case of a sigma shows whether a word ends with it. -/
theorem endsWord_of_lowerBetween_eq
    (h : lowerBetween seen after 'Σ' = lowerBetween seen' after' 'Σ') :
    endsWord seen after = endsWord seen' after' := by
  rw [lowerBetween, lowerBetween, if_pos rfl, if_pos rfl] at h
  have hforms : ('ς' : Char) ≠ 'σ' := by decide
  cases hw : endsWord seen after with
  | true =>
      cases hw' : endsWord seen' after' with
      | true => rfl
      | false => simp [hw, hw', hforms] at h
  | false =>
      cases hw' : endsWord seen' after' with
      | true => simp [hw, hw', hforms.symm] at h
      | false => rfl

theorem lowerWithin_of_not_sigmasSettledAfter (h : sigmasSettledAfter u t = false) :
    lowerWithin (u ++ ['a']) [] t ≠ lowerAfter u t ∨ lowerWithin u ['a'] t ≠ lowerAfter u t := by
  induction t generalizing u with
  | nil => exact Bool.noConfusion h
  | cons c t ih =>
      rw [sigmasSettledAfter, Bool.and_eq_false_iff] at h
      simp only [lowerWithin, lowerAfter_cons]
      rcases h with h | h
      · obtain ⟨rfl, hform⟩ : c = 'Σ' ∧ formSettled u t = false := by simpa using h
        -- the heads differ, and they are of one length
        refine (endsWord_of_not_settled hform).imp (fun hne heq => hne ?_)
          fun hne heq => hne ?_
        · rw [List.append_nil] at heq
          exact endsWord_of_lowerBetween_eq
            (List.append_inj heq (length_lowerBetween _ _ _ _ _)).1
        · exact endsWord_of_lowerBetween_eq
            (List.append_inj heq (length_lowerBetween _ _ _ _ _)).1
      · refine (ih h).imp (fun hne heq => hne ?_) fun hne heq => hne ?_
        · exact (List.append_inj heq (length_lowerBetween _ _ _ _ _)).2
        · exact (List.append_inj heq (length_lowerBetween _ _ _ _ _)).2

/-- A list that takes the same character on either side holds no other. -/
theorem eq_replicate_of_cons_eq_concat {a d : Char} (h : a :: t = t ++ [d]) :
    t = List.replicate t.length a := by
  induction t with
  | nil => rfl
  | cons c t ih =>
      obtain ⟨rfl, hrest⟩ := List.cons_eq_cons.mp h
      rw [List.length_cons, List.replicate_succ, ← ih hrest]

/-- The letter that is no sigma comes from itself only. -/
theorem eq_replicate_of_map_plainSigma {n : Nat} (h : p.map plainSigma = List.replicate n 'a') :
    p = List.replicate n 'a' := by
  have hlen := congrArg List.length h
  rw [List.length_map, List.length_replicate] at hlen
  refine List.eq_replicate_iff.mpr ⟨hlen, fun c hc => ?_⟩
  have hmem : plainSigma c ∈ List.replicate n 'a' := h ▸ List.mem_map_of_mem hc
  have hca : plainSigma c = 'a' := List.eq_of_mem_replicate hmem
  rw [plainSigma] at hca
  split at hca
  · exact absurd hca (by decide)
  · exact hca

/-- A text that differs from another in forms of sigmas only is not in the other with one
    letter more. -/
theorem eq_of_infix_cons (hsame : p.map plainSigma = t.map plainSigma) (h : p <:+: 'a' :: t) :
    p = t := by
  have hlen : p.length = t.length := by
    have := congrArg List.length hsame
    rwa [List.length_map, List.length_map] at this
  obtain ⟨x, y, hxy⟩ := h
  have hlength := congrArg List.length hxy
  simp only [List.length_append, List.length_cons] at hlength
  cases x with
  | cons d x =>
      -- the text stands behind the letter, and is all there is
      have hx : x = [] := List.eq_nil_of_length_eq_zero (by rw [List.length_cons] at hlength; omega)
      have hy : y = [] := List.eq_nil_of_length_eq_zero (by rw [List.length_cons] at hlength; omega)
      rw [hx, hy, List.append_nil] at hxy
      exact (List.cons_eq_cons.mp hxy).2
  | nil =>
      -- the text begins with the letter, so it is that letter all along
      obtain ⟨d, rfl⟩ : ∃ d, y = [d] := List.length_eq_one_iff.mp (by
        rw [List.length_nil] at hlength
        omega)
      have hshift := congrArg (List.map plainSigma) hxy
      rw [List.nil_append, List.map_append, List.map_cons, hsame] at hshift
      have hall := eq_replicate_of_cons_eq_concat hshift.symm
      exact (eq_replicate_of_map_plainSigma (hsame.trans hall)).trans
        (eq_replicate_of_map_plainSigma hall).symm

theorem eq_of_infix_concat (hsame : p.map plainSigma = t.map plainSigma)
    (h : p <:+: t ++ ['a']) : p = t := by
  have hrev : p.reverse.map plainSigma = t.reverse.map plainSigma := by
    rw [List.map_reverse, List.map_reverse, hsame]
  have hinfix : p.reverse <:+: 'a' :: t.reverse := by
    have := List.reverse_infix.mpr h
    rwa [List.reverse_append] at this
  exact List.reverse_injective (eq_of_infix_cons hrev hinfix)

/-- A text that leaves the form of a sigma to what stands around it stands in a text, with
    one letter more, whose lower case does not hold its own. -/
theorem exists_not_lower_infix (h : sigmasSettled p = false) :
    ∃ l, (l = 'a' :: p ∨ l = p ++ ['a']) ∧ ¬ lower p <:+: lower l := by
  rcases lowerWithin_of_not_sigmasSettledAfter h with hne | hne
  · refine ⟨'a' :: p, Or.inl rfl, fun hinfix => hne ?_⟩
    have hl : lower ('a' :: p) = 'a' :: lowerWithin ['a'] [] p := by
      rw [lowerWithin_nil]
      rfl
    rw [hl, lower, ← lowerWithin_nil] at hinfix
    rw [← lowerWithin_nil]
    exact (eq_of_infix_cons (map_plainSigma_lowerWithin _ _ _ _ p) hinfix).symm
  · refine ⟨p ++ ['a'], Or.inr rfl, fun hinfix => hne ?_⟩
    have hl : lower (p ++ ['a']) = lowerWithin [] ['a'] p ++ ['a'] := by
      rw [lower, lowerAfter_append]
      rfl
    rw [hl, lower, ← lowerWithin_nil] at hinfix
    rw [← lowerWithin_nil]
    exact (eq_of_infix_concat (map_plainSigma_lowerWithin _ _ _ _ p) hinfix).symm

end Text

end BareCode
