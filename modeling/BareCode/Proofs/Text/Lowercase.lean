import BareCode.Proofs.Text.Search
import BareCode.Proofs.Text.Trim
import BareCode.Text.Lowercase
/-! # Lower case — padding has none and stays padding

    The lower case of a character depends on its neighbours only for a capital sigma, and
    there padding stands like the end of the text: it has no case, and it is not looked
    through.  So padding around a text goes through unchanged (`lower_padding`), and no
    other character turns into padding (`not_isPadding_of_mem_lowerChar`).  A text that holds
    no padding is therefore mentioned in a line, whatever the case, no matter what padding
    stands around the line (`mentions_lower_padding`). -/

namespace BareCode

namespace Text

variable {b b' t seen phrase : Text} {c : Char}

/-! ## Padding around a text -/

/-- Padding has no case and is not looked through. -/
theorem not_isCased_of_isPadding (h : isPadding c = true) :
    isCased c = false ∧ isCaseIgnorable c = false := by
  rw [isPadding, Bool.or_eq_true, decide_eq_true_eq, decide_eq_true_eq] at h
  rcases h with rfl | rfl
  · decide +kernel
  · decide +kernel

/-- Behind padding no character with case is seen. -/
theorem startsCased_append_padding (hb : ∀ c ∈ b, isPadding c = true) (t : Text) :
    startsCased (t ++ b) = startsCased t := by
  rw [startsCased, startsCased, List.dropWhile_append]
  cases ht : t.dropWhile isCaseIgnorable with
  | cons c rest => rfl
  | nil =>
      cases b with
      | nil => rfl
      | cons c b =>
          obtain ⟨hcased, hpass⟩ := not_isCased_of_isPadding (hb c List.mem_cons_self)
          rw [List.dropWhile_cons_of_neg (Bool.eq_false_iff.mp hpass)]
          simp [hcased]

theorem lowerAfter_cons_of_isPadding (h : isPadding c = true) (seen t : Text) :
    lowerAfter seen (c :: t) = c :: lowerAfter (c :: seen) t := by
  rw [isPadding, Bool.or_eq_true, decide_eq_true_eq, decide_eq_true_eq] at h
  rcases h with rfl | rfl
  · rfl
  · rfl

theorem lowerAfter_padding_append (hb : ∀ c ∈ b, isPadding c = true) (seen t : Text) :
    lowerAfter seen (b ++ t) = b ++ lowerAfter (b.reverse ++ seen) t := by
  induction b generalizing seen with
  | nil => rfl
  | cons c b ih =>
      rw [List.cons_append, lowerAfter_cons_of_isPadding (hb c List.mem_cons_self),
        ih (fun d hd => hb d (List.mem_cons_of_mem c hd)), List.reverse_cons, List.append_assoc]
      rfl

theorem lowerAfter_append_padding (hb : ∀ c ∈ b, isPadding c = true) (seen t : Text) :
    lowerAfter seen (t ++ b) = lowerAfter seen t ++ b := by
  induction t generalizing seen with
  | nil =>
      have := lowerAfter_padding_append hb seen []
      rwa [List.append_nil, lowerAfter, List.append_nil] at this
  | cons c t ih =>
      rw [List.cons_append, lowerAfter, lowerAfter, ih, startsCased_append_padding hb,
        List.append_assoc]

/-- Padding that was seen counts no more than the front of the text. -/
theorem lowerAfter_seen_padding (hb : ∀ c ∈ b, isPadding c = true) (seen t : Text) :
    lowerAfter (seen ++ b) t = lowerAfter seen t := by
  induction t generalizing seen with
  | nil => rfl
  | cons c t ih =>
      rw [lowerAfter, lowerAfter, startsCased_append_padding hb, ← List.cons_append, ih]

/-- Padding around a text stays as it is, and so does the lower case of the text. -/
theorem lower_padding (hb : ∀ c ∈ b, isPadding c = true) (hb' : ∀ c ∈ b', isPadding c = true)
    (t : Text) : lower (b ++ (t ++ b')) = b ++ (lower t ++ b') := by
  have hrev : ∀ c ∈ b.reverse, isPadding c = true := fun c hc => hb c (List.mem_reverse.mp hc)
  have hseen := lowerAfter_seen_padding hrev [] (t ++ b')
  rw [List.nil_append] at hseen
  rw [lower, lower, lowerAfter_padding_append hb, List.append_nil, hseen,
    lowerAfter_append_padding hb']

/-! ## No other padding -/

theorem lowerChar_ne_nil (c : Char) : lowerChar c ≠ [] := by
  rw [lowerChar]
  split
  · exact List.cons_ne_nil _ _
  · split
    · exact List.cons_ne_nil _ _
    · split
      · exact List.cons_ne_nil _ _
      · exact List.cons_ne_nil _ _

/-- The codes of padding are those of the space and below. -/
theorem isPadding_ofNat_of_lt {n : Nat} (h : 0x20 < n) : isPadding (Char.ofNat n) = false := by
  have hn : (Char.ofNat n).toNat = n ∨ (Char.ofNat n).toNat = 0 := by
    by_cases hv : n.isValidChar
    · rw [Char.ofNat, dif_pos hv]
      exact Or.inl rfl
    · rw [Char.ofNat, dif_neg hv]
      exact Or.inr rfl
  have hcode : ∀ c : Char, isPadding c = true → c.toNat = 0x20 ∨ c.toNat = 9 := by
    intro c hc
    rw [isPadding, Bool.or_eq_true, decide_eq_true_eq, decide_eq_true_eq] at hc
    rcases hc with rfl | rfl
    · exact Or.inl rfl
    · exact Or.inr rfl
  refine Bool.eq_false_iff.mpr fun hp => ?_
  have := hcode _ hp
  omega

/-- The lower case of a character is padding only if the character is. -/
theorem not_isPadding_of_mem_lowerChar (hc : isPadding c = false) {d : Char}
    (hd : d ∈ lowerChar c) : isPadding d = false := by
  rw [lowerChar] at hd
  split at hd
  · rename_i hascii
    have hall : ∀ n < 0x80, isPadding (Char.ofNat n) = false →
        isPadding (Char.ofNat n).toLower = false := by decide
    have := hall c.toNat hascii
    rw [Char.ofNat_toNat] at this
    rw [List.mem_singleton.mp hd]
    exact this hc
  · split at hd
    · simp only [List.mem_cons, List.not_mem_nil, or_false] at hd
      rcases hd with rfl | rfl
      · decide
      · decide
    · split at hd
      · rename_i r hr
        rw [List.mem_singleton.mp hd]
        have hall : ∀ r ∈ caseRuns, 0x20 < r.lower := by decide +kernel
        have := hall r (List.mem_of_find?_eq_some hr)
        exact isPadding_ofNat_of_lt (by omega)
      · rw [List.mem_singleton.mp hd]
        exact hc

theorem not_isPadding_of_mem_lowerAfter (ht : ∀ c ∈ t, isPadding c = false)
    (h : c ∈ lowerAfter seen t) : isPadding c = false := by
  induction t generalizing seen with
  | nil => exact nomatch h
  | cons d t ih =>
      rw [lowerAfter] at h
      rcases List.mem_append.mp h with h | h
      · split at h
        · rw [List.mem_singleton.mp h]
          split
          · decide
          · decide
        · exact not_isPadding_of_mem_lowerChar (ht d List.mem_cons_self) h
      · exact ih (fun c hc => ht c (List.mem_cons_of_mem d hc)) h

theorem lower_ne_nil (h : t ≠ []) : lower t ≠ [] := by
  obtain ⟨c, t, rfl⟩ := List.exists_cons_of_ne_nil h
  rw [lower, lowerAfter]
  refine List.append_ne_nil_of_left_ne_nil ?_ _
  split
  · exact List.cons_ne_nil _ _
  · exact lowerChar_ne_nil c

/-- A text without padding is mentioned in the lower case of a line no matter what
    padding stands around the line. -/
theorem mentions_lower_padding (hne : phrase ≠ []) (hphrase : ∀ c ∈ phrase, isPadding c = false)
    (hb : ∀ c ∈ b, isPadding c = true) (hb' : ∀ c ∈ b', isPadding c = true) (t : Text) :
    (lower (b ++ (t ++ b'))).mentions phrase = (lower t).mentions phrase := by
  have hforeign : ∀ {b : Text}, (∀ c ∈ b, isPadding c = true) → ∀ c ∈ b, c ∉ phrase := by
    intro b hb c hc hm
    have := hphrase c hm
    rw [hb c hc] at this
    exact Bool.noConfusion this
  rw [lower_padding hb hb', Bool.eq_iff_iff, mentions_iff, mentions_iff,
    infix_foreign_append hne (hforeign hb), infix_append_foreign hne (hforeign hb')]

end Text

end BareCode
