import BareCode.Proofs.Excerpt.Declaration
/-! # The grammar of declarations — what the five tests accept

    Each test scans a line once and never goes back: it drops the longest run of blanks,
    or of characters that a name may hold, and looks at what is left.  The grammar
    (`Declaration`) says only that there is some run with the right text behind it.  Both
    come to the same, since what has to follow a run never begins with a character of it,
    so there is no shorter run to fall back on (`dropWhile_iff`).

    * `startsWithKeyword_iff`, `hasArrow_iff`, `assignsFunction_iff`, `endsWithBrace_iff`
      and `startsWithAssignment_iff` — what each test accepts;
    * `declares_grammar` — the grammar as a whole, and that blanks around a line are
      nothing to it. -/

namespace BareCode

open Text

variable {t word : Text} {l : Line}

/-- Nothing at the front of a text goes on with a word that ends there. -/
def Text.BreaksWord (r : Text) : Prop := ∀ c ∈ r.head?, isWordChar c = false

/-- The lines that look like the start of a declaration. -/
inductive Declaration : Line → Prop
  /-- Behind blanks, a keyword that ends as a word. -/
  | keyword {w k r : Text} (hw : w.allBlank = true) (hk : k ∈ keywords) (hr : r.BreaksWord) :
      Declaration (w ++ k ++ r)
  /-- An arrow anywhere. -/
  | arrow {x r : Text} : Declaration (x ++ "=>".toList ++ r)
  /-- Anywhere an equals sign and, behind blanks, the word `function`. -/
  | function {x w r : Text} (hw : w.allBlank = true) (hr : r.BreaksWord) :
      Declaration (x ++ ['='] ++ w ++ "function".toList ++ r)
  /-- An opening brace with nothing but blanks behind it. -/
  | brace {x w : Text} (hw : w.allBlank = true) : Declaration (x ++ ['\x7b'] ++ w)
  /-- Behind blanks, a name and the single equals sign of an assignment. -/
  | assignment {w d w' r : Text} {c : Char} (hw : w.allBlank = true)
      (hc : isNameStart c = true) (hd : ∀ e ∈ d, isNamePart e = true)
      (hw' : w'.allBlank = true) (hr : r.head? ≠ some '=') :
      Declaration (w ++ [c] ++ d ++ w' ++ ['='] ++ r)

/-! ## Runs of characters -/

/-- What a text must not begin with cannot be left over from a longest run, so it follows
    the longest run exactly if it follows some run. -/
theorem dropWhile_iff {p : Char → Bool} {P : Text → Prop}
    (hP : ∀ s, P s → ∀ c ∈ s.head?, p c = false) :
    P (t.dropWhile p) ↔ ∃ w s, w.all p = true ∧ t = w ++ s ∧ P s := by
  constructor
  · intro h
    exact ⟨t.takeWhile p, t.dropWhile p, List.all_takeWhile,
      List.takeWhile_append_dropWhile.symm, h⟩
  · rintro ⟨w, s, hw, rfl, hs⟩
    rw [List.dropWhile_append_of_pos (List.all_eq_true.mp hw), dropWhile_eq_self (hP s hs)]
    exact hs

/-- The same for the blanks in front of a text. -/
theorem trimStart_iff {P : Text → Prop} (hP : ∀ s, P s → ∀ c ∈ s.head?, isBlank c = false) :
    P t.trimStart ↔ ∃ w s, w.allBlank = true ∧ t = w ++ s ∧ P s :=
  dropWhile_iff hP

theorem startsWithWord_iff :
    t.startsWithWord word = true ↔ ∃ r, t = word ++ r ∧ r.BreaksWord := by
  have hend : ∀ r : Text, (!r.head?.any isWordChar) = true ↔ r.BreaksWord := by
    intro r
    rw [BreaksWord]
    cases r with
    | nil => simp
    | cons c r => simp
  rw [startsWithWord]
  cases ht : t.dropStart? word with
  | none =>
      refine iff_of_false Bool.false_ne_true ?_
      rintro ⟨r, rfl, -⟩
      exact dropStart?_eq_none_iff.mp ht (List.prefix_append word r)
  | some rest =>
      obtain rfl := dropStart?_eq_some_iff.mp ht
      rw [hend]
      constructor
      · intro h
        exact ⟨rest, rfl, h⟩
      · rintro ⟨r, hr, h⟩
        rwa [List.append_cancel_left hr]

/-- A word that begins with no blank stays at the front when blanks are trimmed. -/
theorem startsWithWord_trimStart_iff (hw : word.head?.any (!isBlank ·) = true) :
    (trimStart t).startsWithWord word = true ↔
      ∃ w r, w.allBlank = true ∧ t = w ++ word ++ r ∧ r.BreaksWord := by
  have hfront : ∀ s, startsWithWord s word = true → ∀ c ∈ s.head?, isBlank c = false := by
    intro s hs c hc
    obtain ⟨r, rfl, -⟩ := startsWithWord_iff.mp hs
    obtain ⟨d, hd, hblank⟩ := (Option.any_eq_true _ _).mp hw
    rw [List.head?_append, hd] at hc
    obtain rfl : d = c := Option.some.inj hc
    rwa [Bool.not_eq_true'] at hblank
  rw [trimStart_iff (P := fun s => startsWithWord s word = true) hfront]
  constructor
  · rintro ⟨w, s, hb, rfl, hs⟩
    obtain ⟨r, rfl, hr⟩ := startsWithWord_iff.mp hs
    exact ⟨w, r, hb, (List.append_assoc w word r).symm, hr⟩
  · rintro ⟨w, r, hb, rfl, hr⟩
    exact ⟨w, word ++ r, hb, List.append_assoc w word r, startsWithWord_iff.mpr ⟨r, rfl, hr⟩⟩

/-- No name begins with a blank. -/
theorem not_isNameStart_of_isBlank {c : Char} (h : isBlank c = true) : isNameStart c = false :=
  of_inRanges (P := fun c => isNameStart c = false) (by decide +kernel) h

namespace Line

/-! ## What each test accepts -/

theorem startsWithKeyword_iff :
    l.startsWithKeyword = true ↔
      ∃ w k r, l = w ++ k ++ r ∧ w.allBlank = true ∧ k ∈ keywords ∧ r.BreaksWord := by
  have hfront : ∀ k ∈ keywords, k.head?.any (!isBlank ·) = true := by decide
  rw [startsWithKeyword, List.any_eq_true]
  constructor
  · rintro ⟨k, hk, h⟩
    obtain ⟨w, r, hw, hl, hr⟩ := (startsWithWord_trimStart_iff (hfront k hk)).mp h
    exact ⟨w, k, r, hl, hw, hk, hr⟩
  · rintro ⟨w, k, r, hl, hw, hk, hr⟩
    exact ⟨k, hk, (startsWithWord_trimStart_iff (hfront k hk)).mpr ⟨w, r, hw, hl, hr⟩⟩

theorem hasArrow_iff : l.hasArrow = true ↔ ∃ x r, l = x ++ "=>".toList ++ r := by
  rw [hasArrow, mentions_iff]
  constructor
  · rintro ⟨x, r, h⟩
    exact ⟨x, r, h.symm⟩
  · rintro ⟨x, r, h⟩
    exact ⟨x, r, h.symm⟩

/-- The scan stops at each equals sign and looks at what is behind it. -/
theorem assignsFunction_iff_exists :
    l.assignsFunction = true ↔
      ∃ x y, l = x ++ '=' :: y ∧ (trimStart y).startsWithWord "function".toList = true := by
  induction l with
  | nil => simp [assignsFunction]
  | cons c l ih =>
      rw [assignsFunction, Bool.or_eq_true, Bool.and_eq_true, decide_eq_true_eq, ih]
      constructor
      · rintro (⟨rfl, h⟩ | ⟨x, y, rfl, h⟩)
        · exact ⟨[], l, rfl, h⟩
        · exact ⟨c :: x, y, rfl, h⟩
      · rintro ⟨x, y, hl, h⟩
        cases x with
        | nil =>
            obtain ⟨rfl, rfl⟩ := List.cons_eq_cons.mp hl
            exact Or.inl ⟨rfl, h⟩
        | cons d x =>
            obtain ⟨rfl, rfl⟩ := List.cons_eq_cons.mp hl
            exact Or.inr ⟨x, y, rfl, h⟩

theorem assignsFunction_iff :
    l.assignsFunction = true ↔ ∃ x w r, l = x ++ ['='] ++ w ++ "function".toList ++ r ∧
      w.allBlank = true ∧ r.BreaksWord := by
  rw [assignsFunction_iff_exists]
  constructor
  · rintro ⟨x, y, rfl, h⟩
    obtain ⟨w, r, hw, rfl, hr⟩ := (startsWithWord_trimStart_iff (by decide)).mp h
    exact ⟨x, w, r, by simp, hw, hr⟩
  · rintro ⟨x, w, r, rfl, hw, hr⟩
    refine ⟨x, w ++ "function".toList ++ r, by simp, ?_⟩
    exact (startsWithWord_trimStart_iff (by decide)).mpr ⟨w, r, hw, rfl, hr⟩

theorem endsWithBrace_iff :
    l.endsWithBrace = true ↔ ∃ x w, l = x ++ ['\x7b'] ++ w ∧ w.allBlank = true := by
  rw [endsWithBrace, beq_iff_eq, List.getLast?_eq_some_iff]
  constructor
  · rintro ⟨x, hx⟩
    obtain ⟨w, hw, hl⟩ := exists_blanks_trimEnd l
    exact ⟨x, w, hx ▸ hl, hw⟩
  · rintro ⟨x, w, rfl, hw⟩
    have hbrace : ¬ isBlank '\x7b' = true := by decide
    refine ⟨x, ?_⟩
    rw [trimEnd_append_of_allBlank hw]
    exact List.rdropWhile_concat_neg isBlank x '\x7b' hbrace

theorem startsWithAssign_iff :
    t.startsWithAssign = true ↔ ∃ r, t = '=' :: r ∧ r.head? ≠ some '=' := by
  cases t with
  | nil => simp [Text.startsWithAssign]
  | cons c t =>
      rw [startsWithAssign_cons, Bool.and_eq_true, beq_iff_eq, bne_iff_ne]
      constructor
      · rintro ⟨rfl, h⟩
        exact ⟨t, rfl, h⟩
      · rintro ⟨r, heq, h⟩
        obtain ⟨rfl, rfl⟩ := List.cons_eq_cons.mp heq
        exact ⟨rfl, h⟩

/-- Neither a blank nor a part of a name is an equals sign, so a name ends where the
    characters of names end, and the blanks behind it where the equals sign begins. -/
theorem startsWithAssign_behind_name_iff :
    (trimStart (t.dropWhile isNamePart)).startsWithAssign = true ↔
      ∃ d w r, (∀ e ∈ d, isNamePart e = true) ∧ w.allBlank = true ∧
        t = d ++ w ++ '=' :: r ∧ r.head? ≠ some '=' := by
  have hassign : ∀ s, Text.startsWithAssign s = true → ∀ c ∈ s.head?, isBlank c = false := by
    intro s hs c hc
    obtain ⟨r, rfl, -⟩ := startsWithAssign_iff.mp hs
    obtain rfl : '=' = c := Option.some.inj hc
    decide
  have hname : ∀ s : Text,
      (∃ w r : Text, w.allBlank = true ∧ s = w ++ '=' :: r ∧ r.head? ≠ some '=') →
        ∀ c ∈ s.head?, isNamePart c = false := by
    rintro s ⟨w, r, hw, rfl, -⟩ c hc
    cases w with
    | nil =>
        obtain rfl : '=' = c := Option.some.inj hc
        decide
    | cons b w =>
        obtain rfl : b = c := Option.some.inj hc
        exact (not_isNamePart_of_isBlank (List.all_eq_true.mp hw b List.mem_cons_self)).1
  have hblanks : ∀ s : Text, (trimStart s).startsWithAssign = true ↔
      ∃ w r, w.allBlank = true ∧ s = w ++ '=' :: r ∧ r.head? ≠ some '=' := by
    intro s
    rw [trimStart_iff (P := fun s => Text.startsWithAssign s = true) hassign]
    constructor
    · rintro ⟨w, s, hw, rfl, hs⟩
      obtain ⟨r, rfl, hr⟩ := startsWithAssign_iff.mp hs
      exact ⟨w, r, hw, rfl, hr⟩
    · rintro ⟨w, r, hw, rfl, hr⟩
      exact ⟨w, '=' :: r, hw, rfl, startsWithAssign_iff.mpr ⟨r, rfl, hr⟩⟩
  rw [hblanks, dropWhile_iff hname]
  constructor
  · rintro ⟨d, s, hd, rfl, w, r, hw, rfl, hr⟩
    exact ⟨d, w, r, List.all_eq_true.mp hd, hw, (List.append_assoc d w _).symm, hr⟩
  · rintro ⟨d, w, r, hd, hw, rfl, hr⟩
    exact ⟨d, w ++ '=' :: r, List.all_eq_true.mpr hd, List.append_assoc d w _, w, r, hw, rfl, hr⟩

theorem startsWithAssignment_iff_exists :
    l.startsWithAssignment = true ↔ ∃ c rest, l.trimStart = c :: rest ∧ isNameStart c = true ∧
      (trimStart (rest.dropWhile isNamePart)).startsWithAssign = true := by
  rw [startsWithAssignment]
  cases l.trimStart with
  | nil => simp
  | cons c rest =>
      rw [Bool.and_eq_true]
      constructor
      · intro h
        exact ⟨c, rest, rfl, h⟩
      · rintro ⟨c', rest', heq, h⟩
        obtain ⟨rfl, rfl⟩ := List.cons_eq_cons.mp heq
        exact h

theorem startsWithAssignment_iff :
    l.startsWithAssignment = true ↔
      ∃ (w : Text) (c : Char) (d w' r : Text), l = w ++ [c] ++ d ++ w' ++ ['='] ++ r ∧
        w.allBlank = true ∧ isNameStart c = true ∧ (∀ e ∈ d, isNamePart e = true) ∧
        w'.allBlank = true ∧ r.head? ≠ some '=' := by
  have hfront : ∀ s, (∃ c rest, s = c :: rest ∧ isNameStart c = true ∧
      (trimStart (rest.dropWhile isNamePart)).startsWithAssign = true) →
      ∀ c ∈ s.head?, isBlank c = false := by
    rintro s ⟨c, rest, rfl, hc, -⟩ e he
    obtain rfl : c = e := Option.some.inj he
    refine Bool.eq_false_iff.mpr fun hb => ?_
    rw [not_isNameStart_of_isBlank hb] at hc
    exact Bool.noConfusion hc
  rw [startsWithAssignment_iff_exists, trimStart_iff hfront]
  constructor
  · rintro ⟨w, s, hw, rfl, c, rest, rfl, hc, h⟩
    obtain ⟨d, w', r, hd, hw', rfl, hr⟩ := startsWithAssign_behind_name_iff.mp h
    exact ⟨w, c, d, w', r, by simp, hw, hc, hd, hw', hr⟩
  · rintro ⟨w, c, d, w', r, rfl, hw, hc, hd, hw', hr⟩
    refine ⟨w, c :: (d ++ w' ++ '=' :: r), hw, by simp, c, _, rfl, hc, ?_⟩
    exact startsWithAssign_behind_name_iff.mpr ⟨d, w', r, hd, hw', rfl, hr⟩

/-! ## All of them -/

/-- The tests accept exactly the grammar. -/
theorem declares_iff_declaration (l : Line) : l.declares = true ↔ Declaration l := by
  simp only [declares, Bool.or_eq_true, startsWithKeyword_iff, hasArrow_iff, assignsFunction_iff,
    endsWithBrace_iff, startsWithAssignment_iff]
  constructor
  · rintro ((((⟨w, k, r, rfl, hw, hk, hr⟩ | ⟨x, r, rfl⟩) | ⟨x, w, r, rfl, hw, hr⟩) |
      ⟨x, w, rfl, hw⟩) | ⟨w, c, d, w', r, rfl, hw, hc, hd, hw', hr⟩)
    · exact .keyword hw hk hr
    · exact .arrow
    · exact .function hw hr
    · exact .brace hw
    · exact .assignment hw hc hd hw' hr
  · intro h
    cases h with
    | keyword hw hk hr => exact Or.inl (Or.inl (Or.inl (Or.inl ⟨_, _, _, rfl, hw, hk, hr⟩)))
    | arrow => exact Or.inl (Or.inl (Or.inl (Or.inr ⟨_, _, rfl⟩)))
    | function hw hr => exact Or.inl (Or.inl (Or.inr ⟨_, _, _, rfl, hw, hr⟩))
    | brace hw => exact Or.inl (Or.inr ⟨_, _, rfl, hw⟩)
    | assignment hw hc hd hw' hr => exact Or.inr ⟨_, _, _, _, _, rfl, hw, hc, hd, hw', hr⟩

end Line

/-- **A line declares something exactly if the grammar says so.**  Blanks around the line,
    a carriage return at its end among them, are nothing to the answer. -/
theorem declares_grammar (l : Line) :
    (l.declares = true ↔ Declaration l) ∧ Line.declares l.trim = l.declares ∧
      ∀ b b' : Text, b.allBlank = true → b'.allBlank = true →
        Line.declares (b ++ (l ++ b')) = l.declares := by
  refine ⟨Line.declares_iff_declaration l, ?_, fun b b' hb hb' => Line.declares_blanks hb hb' l⟩
  obtain ⟨b, b', hb, hb', hl⟩ := exists_blanks_trim l
  conv_rhs => rw [hl]
  exact (Line.declares_blanks hb hb' l.trim).symm

/-- The name holds a letter beyond ASCII, and a newline parts it from its equals sign; a tab
    and a carriage return around the line change nothing, a second equals sign does. -/
theorem declares_grammar_assignment :
    (Text.allBlank "\t".toList = true ∧ Text.allBlank "\r".toList = true ∧
      Line.declares ("\t".toList ++ ("$elé.x\n= y".toList ++ "\r".toList)) = true) ∧
    Declaration "$elé.x\n= y".toList ∧ ¬ Declaration "$elé.x\n== y".toList := by
  have htab : Text.allBlank "\t".toList = true := by decide
  have hreturn : Text.allBlank "\r".toList = true := by decide
  have hyes : Line.declares "$elé.x\n= y".toList = true := by decide
  have hno : Line.declares "$elé.x\n== y".toList = false := by decide
  refine ⟨⟨htab, hreturn, ?_⟩, (declares_grammar _).1.mp hyes, fun h => ?_⟩
  · exact ((declares_grammar "$elé.x\n= y".toList).2.2 _ _ htab hreturn).trans hyes
  · rw [(declares_grammar _).1.mpr h] at hno
    exact Bool.noConfusion hno

end BareCode
