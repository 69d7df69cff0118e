import BareCode.Text.Basic
/-! # First occurrences — where a piece of text is found, and where it is not

    `Text.splitAtFirst?` scans from the left, so three facts carry every argument
    about it:

    * what is found in a text is found at the same place when more text is put
      behind (`splitAtFirst?_append`), hence nothing is found in front of the first
      place (`splitAtFirst?_before`);
    * it fails exactly on the texts that hold the piece nowhere
      (`splitAtFirst?_eq_none_iff`);
    * a character that is foreign to the piece is a wall: the piece is found on
      one side of it or on the other, never across (`splitAtFirst?_wall`). -/

namespace BareCode.Text

variable {t start needle before rest : Text}

@[simp] theorem dropStart?_nil (t : Text) : dropStart? t [] = some t := by
  cases t <;> rfl

theorem startsWith_iff : startsWith t start = true ↔ start <+: t := by
  rw [startsWith, Option.isSome_iff_exists]
  constructor
  · rintro ⟨rest, h⟩
    exact ⟨rest, (dropStart?_eq_some_iff.mp h).symm⟩
  · rintro ⟨rest, h⟩
    exact ⟨rest, dropStart?_eq_some_iff.mpr h.symm⟩

theorem dropStart?_eq_none_iff : dropStart? t start = none ↔ ¬ start <+: t := by
  rw [← startsWith_iff, startsWith]
  simp

@[simp] theorem splitAtFirst?_nil (t : Text) : splitAtFirst? t [] = some ([], t) := by
  cases t <;> simp [splitAtFirst?]

/-- A text that begins with the piece is cut at its front. -/
theorem splitAtFirst?_cons_of_isPrefix {c : Char} (h : dropStart? (c :: t) needle = some rest) :
    splitAtFirst? (c :: t) needle = some ([], rest) := by
  rw [splitAtFirst?, h]

/-- A text that does not begin with the piece is cut where its tail is. -/
theorem splitAtFirst?_cons_of_not_isPrefix {c : Char} (h : ¬ needle <+: c :: t) :
    splitAtFirst? (c :: t) needle
      = (splitAtFirst? t needle).map fun (before, rest) => (c :: before, rest) := by
  rw [splitAtFirst?, dropStart?_eq_none_iff.mpr h]

theorem mentions_iff : mentions t needle = true ↔ needle <:+: t := by
  induction t with
  | nil =>
      rw [List.infix_nil, mentions, splitAtFirst?]
      cases needle <;> simp
  | cons c t ih =>
      rw [List.infix_cons_iff, ← ih, mentions, mentions]
      by_cases h : needle <+: c :: t
      · obtain ⟨rest, hr⟩ := Option.isSome_iff_exists.mp (startsWith_iff.mpr h)
        rw [splitAtFirst?_cons_of_isPrefix hr]
        simp [h]
      · rw [splitAtFirst?_cons_of_not_isPrefix h]
        simp [h]

/-- The scan fails exactly on the texts that do not hold the piece. -/
theorem splitAtFirst?_eq_none_iff : splitAtFirst? t needle = none ↔ ¬ needle <:+: t := by
  rw [← mentions_iff, mentions]
  simp

theorem exists_splitAtFirst? (h : needle <:+: t) :
    ∃ before rest, splitAtFirst? t needle = some (before, rest) := by
  cases hs : splitAtFirst? t needle with
  | none => exact absurd h (splitAtFirst?_eq_none_iff.mp hs)
  | some s => exact ⟨s.1, s.2, rfl⟩

theorem splitAtFirst?_self (t : Text) : splitAtFirst? t t = some ([], []) := by
  cases t with
  | nil => rfl
  | cons c t => exact splitAtFirst?_cons_of_isPrefix (dropStart?_eq_some_iff.mpr (by simp))

/-- Text put behind a cut text is put behind its rest: the first place stays. -/
theorem splitAtFirst?_append (h : splitAtFirst? t needle = some (before, rest)) (more : Text) :
    splitAtFirst? (t ++ more) needle = some (before, rest ++ more) := by
  induction t generalizing before with
  | nil =>
      obtain ⟨hb, hn, hr⟩ : before = [] ∧ needle = [] ∧ rest = [] := by
        simpa using splitAtFirst?_eq_some h
      subst hb hn hr
      simp
  | cons c t ih =>
      by_cases hp : needle <+: c :: t
      · obtain ⟨r, hr⟩ := Option.isSome_iff_exists.mp (startsWith_iff.mpr hp)
        rw [splitAtFirst?_cons_of_isPrefix hr] at h
        obtain ⟨rfl, rfl⟩ : [] = before ∧ r = rest := by simpa using h
        refine splitAtFirst?_cons_of_isPrefix (dropStart?_eq_some_iff.mpr ?_)
        rw [← List.append_assoc, ← dropStart?_eq_some_iff.mp hr]
        rfl
      · rw [splitAtFirst?_cons_of_not_isPrefix hp] at h
        obtain ⟨⟨b, r⟩, hb, he⟩ := Option.map_eq_some_iff.mp h
        obtain ⟨rfl, rfl⟩ : c :: b = before ∧ r = rest := by simpa using he
        -- the piece is no longer than `t`, so the new text cannot complete it at the front
        have hlen : needle.length ≤ (c :: t).length := by
          have := congrArg List.length (splitAtFirst?_eq_some hb)
          simp only [List.length_append, List.length_cons] at this ⊢
          omega
        have hp' : ¬ needle <+: c :: (t ++ more) := by
          intro hq
          exact hp (List.prefix_of_prefix_length_le hq (List.prefix_append (c :: t) more) hlen)
        rw [List.cons_append, splitAtFirst?_cons_of_not_isPrefix hp', ih hb]
        rfl

/-- No place in front of the first one holds the piece, not even one that overlaps
    the first place. -/
theorem splitAtFirst?_before (hn : needle ≠ [])
    (h : splitAtFirst? t needle = some (before, rest)) :
    ¬ needle <:+: before ++ needle.dropLast := by
  intro hi
  obtain ⟨b, r, hb⟩ := exists_splitAtFirst? hi
  have ht : t = (before ++ needle.dropLast) ++ (needle.getLast hn :: rest) := by
    have hl : needle.dropLast ++ needle.getLast hn :: rest = needle ++ rest := by
      rw [← List.concat_append, List.concat_eq_append, List.dropLast_concat_getLast hn]
    rw [List.append_assoc, hl, ← List.append_assoc]
    exact splitAtFirst?_eq_some h
  have hb' := splitAtFirst?_append hb (needle.getLast hn :: rest)
  rw [← ht, h] at hb'
  obtain ⟨rfl, -⟩ : before = b ∧ _ := by simpa using hb'
  have hlen := congrArg List.length (splitAtFirst?_eq_some hb)
  have hpos := List.length_pos_iff.mpr hn
  simp only [List.length_append, List.length_dropLast] at hlen
  omega

/-- In particular the text in front of the first place does not hold the piece. -/
theorem not_infix_before (hn : needle ≠ [])
    (h : splitAtFirst? t needle = some (before, rest)) : ¬ needle <:+: before :=
  fun hi => splitAtFirst?_before hn h (hi.trans (List.prefix_append _ _).isInfix)

/-- The first place is the first one: wherever the piece stands, the text in front of
    the first place stands in front of it, and what follows it is part of the rest. -/
theorem splitAtFirst?_first {a r : Text} (h : splitAtFirst? t needle = some (before, rest))
    (ht : t = a ++ needle ++ r) : before <+: a ∧ r <:+ rest := by
  obtain ⟨b, rest', hb⟩ := exists_splitAtFirst? (List.suffix_append a needle).isInfix
  have hb' := splitAtFirst?_append hb r
  rw [← ht, h] at hb'
  obtain ⟨rfl, rfl⟩ : before = b ∧ rest = rest' ++ r := by simpa using hb'
  have hsplit : a ++ needle = before ++ (needle ++ rest') := by
    rw [splitAtFirst?_eq_some hb, List.append_assoc]
  have hlen := congrArg List.length hsplit
  simp only [List.length_append] at hlen
  refine ⟨?_, List.suffix_append rest' r⟩
  refine List.prefix_of_prefix_length_le ?_ (List.prefix_append a needle) (by omega)
  exact ⟨needle ++ rest', hsplit.symm⟩

/-- What the scan leaves in front of a piece is a front part of the text. -/
theorem prefix_of_splitAtFirst? (h : splitAtFirst? t needle = some (before, rest)) : before <+: t :=
  ⟨needle ++ rest, by rw [← List.append_assoc, splitAtFirst?_eq_some h]⟩

/-- A piece in front of two texts ends within the first or reaches into the second. -/
theorem prefix_append_cases {a b : Text} (h : needle <+: a ++ b) :
    needle <+: a ∨ ∃ c more, needle = a ++ c :: more ∧ c :: more <+: b := by
  rcases List.prefix_or_prefix_of_prefix h (List.prefix_append a b) with hp | ⟨z, rfl⟩
  · exact Or.inl hp
  · have hz : z <+: b := (List.prefix_append_right_inj a).mp h
    cases z with
    | nil => exact Or.inl ⟨[], by simp⟩
    | cons c more => exact Or.inr ⟨c, more, rfl, hz⟩

/-- A piece that stands across a character holds that character. -/
theorem prefix_of_prefix_wall {a b : Text} {d : Char} (hd : d ∉ needle)
    (h : needle <+: a ++ d :: b) : needle <+: a := by
  rcases prefix_append_cases h with hp | ⟨c, more, rfl, hmore⟩
  · exact hp
  · obtain ⟨rfl, -⟩ := List.cons_prefix_cons.mp hmore
    exact absurd (by simp) hd

/-- Behind a foreign character the scan starts afresh. -/
theorem splitAtFirst?_cons_wall {d : Char} (hn : needle ≠ []) (hd : d ∉ needle) (b : Text) :
    splitAtFirst? (d :: b) needle
      = (splitAtFirst? b needle).map fun (before, rest) => (d :: before, rest) := by
  refine splitAtFirst?_cons_of_not_isPrefix fun hp => hn ?_
  exact List.prefix_nil.mp (prefix_of_prefix_wall (a := []) hd hp)

/-- A foreign character behind a text that does not hold the piece is a wall: the
    scan starts afresh behind it. -/
theorem splitAtFirst?_wall {a : Text} {d : Char} (ha : ¬ needle <:+: a) (hd : d ∉ needle)
    (b : Text) :
    splitAtFirst? (a ++ d :: b) needle
      = (splitAtFirst? b needle).map fun (before, rest) => (a ++ d :: before, rest) := by
  have hn : needle ≠ [] := by
    rintro rfl
    exact ha List.nil_infix
  induction a with
  | nil => exact splitAtFirst?_cons_wall hn hd b
  | cons c a ih =>
      have hp : ¬ needle <+: c :: (a ++ d :: b) := by
        intro h
        exact ha (prefix_of_prefix_wall (a := c :: a) hd h).isInfix
      have ha' : ¬ needle <:+: a := fun h => ha (List.infix_cons h)
      rw [List.cons_append, splitAtFirst?_cons_of_not_isPrefix hp, ih ha', Option.map_map]
      rfl

/-- A piece that stands around a foreign character stands on one side of it. -/
theorem infix_append_wall {a b : Text} {d : Char} (h : needle <:+: a ++ d :: b)
    (hd : d ∉ needle) : needle <:+: a ∨ needle <:+: b := by
  by_cases ha : needle <:+: a
  · exact Or.inl ha
  · obtain ⟨before, rest, hs⟩ := exists_splitAtFirst? h
    rw [splitAtFirst?_wall ha hd b] at hs
    obtain ⟨s, hs', -⟩ := Option.map_eq_some_iff.mp hs
    exact Or.inr (mentions_iff.mp (by rw [mentions, hs']; rfl))

/-- What stands behind a character of a text stands in the text. -/
theorem infix_append_cons (a : Text) (c : Char) (b : Text) : b <:+: a ++ c :: b :=
  (List.infix_cons (List.infix_refl b)).trans (List.suffix_append a (c :: b)).isInfix

/-- Foreign characters in front of a text do not change where the piece is found. -/
theorem splitAtFirst?_foreign {pad : Text} (hn : needle ≠ []) (hp : ∀ d ∈ pad, d ∉ needle)
    (b : Text) :
    splitAtFirst? (pad ++ b) needle
      = (splitAtFirst? b needle).map fun (before, rest) => (pad ++ before, rest) := by
  induction pad with
  | nil => simp
  | cons d pad ih =>
      rw [List.cons_append, splitAtFirst?_cons_wall hn (hp d List.mem_cons_self),
        ih fun e he => hp e (List.mem_cons_of_mem d he), Option.map_map]
      rfl

/-- A piece that stands in a text behind foreign characters stands in the text. -/
theorem infix_foreign_append {pad : Text} (hn : needle ≠ []) (hp : ∀ d ∈ pad, d ∉ needle) :
    needle <:+: pad ++ t ↔ needle <:+: t := by
  rw [← mentions_iff, ← mentions_iff, mentions, mentions, splitAtFirst?_foreign hn hp,
    Option.isSome_map]

/-- So does a piece that stands in a text with foreign characters behind it. -/
theorem infix_append_foreign {pad : Text} (hn : needle ≠ []) (hp : ∀ d ∈ pad, d ∉ needle) :
    needle <:+: t ++ pad ↔ needle <:+: t := by
  have hrev : ∀ d ∈ pad.reverse, d ∉ needle.reverse := by
    intro d hd hm
    exact hp d (List.mem_reverse.mp hd) (List.mem_reverse.mp hm)
  rw [← List.reverse_infix, List.reverse_append,
    infix_foreign_append (fun h => hn (List.reverse_eq_nil_iff.mp h)) hrev, List.reverse_infix]

end BareCode.Text
