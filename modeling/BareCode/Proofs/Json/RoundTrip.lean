import BareCode.Proofs.Json.Reader
/-! # The JSON round trip — reading gives back what was written

    What is written is JSON for the value it was written from: the reader gives the value
    back, whatever follows it (`readValue_render`).  The heart is a single character: it is
    written as one escape that the reader knows, or as itself, and then it is neither of
    the marks that a string reacts to (`escapeChar_cases`).  A value begins with a mark of
    its own kind, so the readers always take the right turn, and every call is paid for
    by a character of what was written, so the bound on them is never reached.

    No written value holds a newline (`newline_not_mem_render`), since a newline within a
    string is escaped and nothing else is written between the pieces. -/

namespace BareCode.JsonValue

variable {c : Char} {t s rest : Text} {n : Nat}

/-! ## One character -/

/-- A character is written as a letter that stands for it, as its code if that is below
    U+0020, or as it is. -/
theorem escapeChar_cases (c : Char) :
    (∃ letter, escapeChar c = ['\\', letter] ∧ escaped? letter = some c) ∨
      (c.toNat < 0x20 ∧ escapeChar c = "\\u00".toList ++ hexPair c.toNat) ∨
      (c ≠ '"' ∧ c ≠ '\\' ∧ 0x20 ≤ c.toNat ∧ escapeChar c = [c]) := by
  rw [escapeChar]
  by_cases hmark : c = '"' ∨ c = '\\'
  · rw [if_pos hmark]
    refine Or.inl ⟨c, rfl, ?_⟩
    rcases hmark with rfl | rfl
    · rfl
    · rfl
  · rw [if_neg hmark]
    cases hletter : letterEscapes.lookup c with
    | some letter =>
        have hall : ∀ p ∈ letterEscapes, escaped? p.2 = some p.1 := by decide
        obtain ⟨l₁, l₂, hl, -⟩ := List.lookup_eq_some_iff.mp hletter
        refine Or.inl ⟨letter, rfl, hall (c, letter) ?_⟩
        rw [hl]
        simp
    | none =>
        dsimp only
        by_cases hcode : c.toNat < 0x20
        · rw [if_pos hcode]
          exact Or.inr (Or.inl ⟨hcode, rfl⟩)
        · rw [if_neg hcode]
          rw [not_or] at hmark
          exact Or.inr (Or.inr ⟨hmark.1, hmark.2, Nat.le_of_not_lt hcode, rfl⟩)

theorem newline_not_mem_escapeChar (c : Char) : '\n' ∉ escapeChar c := by
  rcases escapeChar_cases c with ⟨letter, he, hl⟩ | ⟨hcode, he⟩ | ⟨-, -, hcode, he⟩
  · rw [he]
    intro hm
    obtain rfl : '\n' = letter := by simpa using hm
    exact nomatch hl
  · have hall : ∀ k < 0x20, '\n' ∉ "\\u00".toList ++ hexPair k := by decide
    rw [he]
    exact hall c.toNat hcode
  · rw [he]
    intro hm
    obtain rfl := List.mem_singleton.mp hm
    exact absurd hcode (by decide)

theorem newline_not_mem_quote (t : Text) : '\n' ∉ quote t := by
  have hbody : '\n' ∉ t.flatMap escapeChar := by
    intro hm
    obtain ⟨c, -, hc⟩ := List.mem_flatMap.mp hm
    exact newline_not_mem_escapeChar c hc
  simpa [quote] using hbody

/-! ## Strings -/

theorem readString_letter {letter : Char} (hl : escaped? letter = some c)
    (h : readString t = some (s, rest)) :
    readString ('\\' :: letter :: t) = some (c :: s, rest) := by
  have hu : letter ≠ 'u' := by
    rintro rfl
    exact nomatch hl
  rw [readString, hl, h]
  · rfl
  · exact fun _ _ _ _ _ hletter => absurd hletter hu

theorem readString_code {d₁ d₂ d₃ d₄ : Char} (hn : hexNumber? [d₁, d₂, d₃, d₄] = some n)
    (hlt : n < 0xD800) (h : readString t = some (s, rest)) :
    readString ('\\' :: 'u' :: d₁ :: d₂ :: d₃ :: d₄ :: t) = some (Char.ofNat n :: s, rest) := by
  rw [readString, hn, Option.bind_eq_bind, Option.bind_some, if_pos (Or.inl hlt), h]
  rfl

theorem readString_plain (hq : c ≠ '"') (hb : c ≠ '\\') (hc : 0x20 ≤ c.toNat)
    (h : readString t = some (s, rest)) : readString (c :: t) = some (c :: s, rest) := by
  have hplain : ¬ (c = '\\' ∨ c.toNat < 0x20) := by
    rw [not_or]
    exact ⟨hb, Nat.not_lt.mpr hc⟩
  rw [readString, if_neg hplain, h]
  · rfl
  · exact hq
  · exact fun _ _ _ _ _ hc => absurd hc hb
  · exact fun _ _ hc => absurd hc hb

/-- The reader takes a written character for itself. -/
theorem readString_escapeChar (c : Char) (h : readString t = some (s, rest)) :
    readString (escapeChar c ++ t) = some (c :: s, rest) := by
  rcases escapeChar_cases c with ⟨letter, he, hl⟩ | ⟨hcode, he⟩ | ⟨hq, hb, hcode, he⟩
  · rw [he]
    exact readString_letter hl h
  · have hnumber : ∀ k < 0x20, hexNumber? ('0' :: '0' :: hexPair k) = some k := by decide
    rw [he]
    show readString ('\\' :: 'u' :: '0' :: '0' :: (hexPair c.toNat ++ t)) = _
    rw [hexPair, List.cons_append, List.cons_append, List.nil_append,
      readString_code (hnumber c.toNat hcode) (by omega) h, Char.ofNat_toNat]
  · rw [he]
    exact readString_plain hq hb hcode h

/-- The reader takes a written text for itself, up to the closing quotation mark. -/
theorem readString_flatMap (t rest : Text) :
    readString (t.flatMap escapeChar ++ '"' :: rest) = some (t, rest) := by
  induction t with
  | nil => rfl
  | cons c t ih =>
      rw [List.flatMap_cons, List.append_assoc]
      exact readString_escapeChar c ih

/-! ## The turns of the readers -/

/-- The marks with which a value begins. -/
def openingMarks : List Char := ['"', '[', '\x7b']

theorem skipSpace_cons (h : c ∉ [' ', '\t', '\n', '\r']) (t : Text) :
    skipSpace (c :: t) = c :: t :=
  List.dropWhile_cons_of_neg (by simpa using h)

theorem readValue_string (h : readString t = some (s, rest)) :
    readValue (n + 1) ('"' :: t) = some (.string s, rest) := by
  rw [readValue, skipSpace_cons (by decide)]
  simp [h]

theorem readValue_empty_list (n : Nat) (rest : Text) :
    readValue (n + 1) ('[' :: ']' :: rest) = some (.list [], rest) := by
  rw [readValue, skipSpace_cons (by decide)]
  simp [skipSpace_cons]

theorem readValue_list {items : List JsonValue} (hc : c ∈ openingMarks)
    (h : readItems n (c :: t) = some (items, rest)) :
    readValue (n + 1) ('[' :: c :: t) = some (.list items, rest) := by
  have hspace : c ∉ [' ', '\t', '\n', '\r'] ∧ c ≠ ']' := by
    simp only [openingMarks, List.mem_cons, List.not_mem_nil, or_false] at hc
    rcases hc with rfl | rfl | rfl <;> decide
  rw [readValue, skipSpace_cons (by decide)]
  simp [skipSpace_cons hspace.1, hspace.2, h]

theorem readValue_empty_object (n : Nat) (rest : Text) :
    readValue (n + 1) ('\x7b' :: '\x7d' :: rest) = some (.object [], rest) := by
  rw [readValue, skipSpace_cons (by decide)]
  simp [skipSpace_cons]

theorem readValue_object {fields : List (Text × JsonValue)}
    (h : readFields n ('"' :: t) = some (fields, rest)) :
    readValue (n + 1) ('\x7b' :: '"' :: t) = some (.object fields, rest) := by
  rw [readValue, skipSpace_cons (by decide)]
  simp [skipSpace_cons, h]

theorem readItems_last {v : JsonValue} (h : readValue n t = some (v, ']' :: rest)) :
    readItems (n + 1) t = some ([v], rest) := by
  rw [readItems, h]
  simp [skipSpace_cons]

theorem readItems_more {v : JsonValue} {items : List JsonValue} {t' : Text}
    (h : readValue n t = some (v, ',' :: t')) (h' : readItems n t' = some (items, rest)) :
    readItems (n + 1) t = some (v :: items, rest) := by
  rw [readItems, h]
  simp [skipSpace_cons, h']

theorem readField_of {v : JsonValue} {name t' : Text} (h : readString t = some (name, ':' :: t'))
    (h' : readValue n t' = some (v, rest)) :
    readField (n + 1) ('"' :: t) = some (name, v, rest) := by
  rw [readField, skipSpace_cons (by decide)]
  simp [skipSpace_cons, h, h']

theorem readFields_last {v : JsonValue} {name : Text}
    (h : readField n t = some (name, v, '\x7d' :: rest)) :
    readFields (n + 1) t = some ([(name, v)], rest) := by
  rw [readFields, h]
  simp [skipSpace_cons]

theorem readFields_more {v : JsonValue} {fields : List (Text × JsonValue)} {name t' : Text}
    (h : readField n t = some (name, v, ',' :: t')) (h' : readFields n t' = some (fields, rest)) :
    readFields (n + 1) t = some ((name, v) :: fields, rest) := by
  rw [readFields, h]
  simp [skipSpace_cons, h']

/-! ## What is written -/

theorem quote_append (name t : Text) :
    quote name ++ t = '"' :: (name.flatMap escapeChar ++ '"' :: t) := by
  simp [quote]

theorem renderItems_cons_cons (v w : JsonValue) (items : List JsonValue) :
    renderItems (v :: w :: items) = render v ++ ',' :: renderItems (w :: items) := by
  rw [renderItems]
  exact fun h => nomatch h

theorem renderFields_cons_cons (name : Text) (v : JsonValue) (f : Text × JsonValue)
    (fields : List (Text × JsonValue)) :
    renderFields ((name, v) :: f :: fields)
      = quote name ++ ':' :: render v ++ ',' :: renderFields (f :: fields) := by
  rw [renderFields]
  exact fun h => nomatch h

/-- A written value begins with the mark of its kind. -/
theorem exists_render_eq_cons (v : JsonValue) :
    ∃ c t, render v = c :: t ∧ c ∈ openingMarks := by
  cases v with
  | string s => exact ⟨'"', _, by rw [render]; rfl, by decide⟩
  | list items => exact ⟨'[', _, by rw [render]; rfl, by decide⟩
  | object fields => exact ⟨'\x7b', _, by rw [render]; rfl, by decide⟩

/-- So do the written items of a list. -/
theorem exists_renderItems_eq_cons (v : JsonValue) (items : List JsonValue) :
    ∃ c t, renderItems (v :: items) = c :: t ∧ c ∈ openingMarks := by
  obtain ⟨c, t, hv, hc⟩ := exists_render_eq_cons v
  cases items with
  | nil => exact ⟨c, t, by rw [renderItems, hv], hc⟩
  | cons w items =>
      exact ⟨c, t ++ ',' :: renderItems (w :: items), by
        rw [renderItems_cons_cons, hv, List.cons_append], hc⟩

/-- Written fields begin with the quotation mark of a name. -/
theorem exists_renderFields_eq_cons (f : Text × JsonValue) (fields : List (Text × JsonValue)) :
    ∃ t, renderFields (f :: fields) = '"' :: t := by
  obtain ⟨name, v⟩ := f
  cases fields with
  | nil => exact ⟨_, by rw [renderFields, quote_append]⟩
  | cons f fields => exact ⟨_, by rw [renderFields_cons_cons, List.append_assoc, quote_append]⟩

/-! ## The round trip -/

/-- Reading a field whose value can be read gives its name and the value. -/
theorem readField_quote {v : JsonValue} {value : Text} (name : Text)
    (h : readValue n (value ++ t) = some (v, t)) :
    readField (n + 1) (quote name ++ ':' :: value ++ t) = some (name, v, t) := by
  rw [List.append_assoc, quote_append]
  exact readField_of (readString_flatMap name _) h

mutual

/-- Reading a written value gives the value and what follows it. -/
theorem readValue_render : ∀ (v : JsonValue) (n : Nat) (rest : Text),
    (render v).length ≤ n → readValue n (render v ++ rest) = some (v, rest)
  | .string s, n + 1, rest, _ => by
      rw [render, quote_append]
      exact readValue_string (readString_flatMap s rest)
  | .list [], n + 1, rest, _ => by
      rw [render, renderItems]
      exact readValue_empty_list n rest
  | .list (v :: items), n + 1, rest, h => by
      rw [render, List.cons_append, List.length_cons, List.length_append] at h
      have hitems := readItems_renderItems v items n rest (Nat.le_of_succ_le_succ h)
      obtain ⟨c, t, ht, hc⟩ := exists_renderItems_eq_cons v items
      rw [ht, List.cons_append] at hitems
      rw [render, ht, List.append_assoc]
      exact readValue_list hc hitems
  | .object [], n + 1, rest, _ => by
      rw [render, renderFields]
      exact readValue_empty_object n rest
  | .object (f :: fields), n + 1, rest, h => by
      rw [render, List.cons_append, List.length_cons, List.length_append] at h
      have hfields := readFields_renderFields f fields n rest (Nat.le_of_succ_le_succ h)
      obtain ⟨t, ht⟩ := exists_renderFields_eq_cons f fields
      rw [ht, List.cons_append] at hfields
      rw [render, ht, List.append_assoc]
      exact readValue_object hfields
  | .string s, 0, rest, h => by simp [render, quote] at h
  | .list items, 0, rest, h => by simp [render] at h
  | .object fields, 0, rest, h => by simp [render] at h

/-- Reading the written items of a list gives the items and what follows the bracket. -/
theorem readItems_renderItems : ∀ (v : JsonValue) (items : List JsonValue) (n : Nat) (rest : Text),
    (renderItems (v :: items)).length + 1 ≤ n →
      readItems n (renderItems (v :: items) ++ ']' :: rest) = some (v :: items, rest)
  | v, [], n + 1, rest, h => by
      rw [renderItems] at h ⊢
      exact readItems_last (readValue_render v n _ (Nat.le_of_succ_le_succ h))
  | v, w :: items, n + 1, rest, h => by
      rw [renderItems_cons_cons, List.length_append, List.length_cons] at h
      have hv := readValue_render v n (',' :: (renderItems (w :: items) ++ ']' :: rest)) (by omega)
      have hitems := readItems_renderItems w items n rest (by omega)
      rw [renderItems_cons_cons, List.append_assoc]
      exact readItems_more hv hitems

/-- Reading the written fields of an object gives the fields and what follows the brace. -/
theorem readFields_renderFields : ∀ (f : Text × JsonValue) (fields : List (Text × JsonValue))
    (n : Nat) (rest : Text), (renderFields (f :: fields)).length + 1 ≤ n →
      readFields n (renderFields (f :: fields) ++ '\x7d' :: rest) = some (f :: fields, rest)
  | (name, v), [], n + 2, rest, h => by
      rw [renderFields, List.length_append, List.length_cons] at h
      have hv := readValue_render v n ('\x7d' :: rest) (by omega)
      rw [renderFields]
      exact readFields_last (readField_quote name hv)
  | (name, v), f :: fields, n + 2, rest, h => by
      rw [renderFields_cons_cons, List.length_append, List.length_append, List.length_cons,
        List.length_cons] at h
      have hv := readValue_render v n (',' :: (renderFields (f :: fields) ++ '\x7d' :: rest))
        (by omega)
      have hfields := readFields_renderFields f fields (n + 1) rest (by omega)
      rw [renderFields_cons_cons, List.append_assoc]
      exact readFields_more (readField_quote name hv) hfields
  | (name, v), [], 1, rest, h => by simp [renderFields] at h
  | (name, v), f :: fields, 1, rest, h => by simp [renderFields_cons_cons] at h

end

/-- A text that holds a written value, and white space behind it, stands for that value. -/
theorem read?_render_append (v : JsonValue) (hspace : skipSpace rest = []) :
    read? (render v ++ rest) = some v := by
  have hv := readValue_render v (render v ++ rest).length rest (by
    rw [List.length_append]
    exact Nat.le_add_right _ _)
  rw [read?, hv]
  simp [hspace]

/-! ## Newlines -/

mutual

/-- No written value holds a newline. -/
theorem newline_not_mem_render : ∀ v : JsonValue, '\n' ∉ render v
  | .string s => by
      rw [render]
      exact newline_not_mem_quote s
  | .list items => by
      rw [render]
      simpa using newline_not_mem_renderItems items
  | .object fields => by
      rw [render]
      simpa using newline_not_mem_renderFields fields

theorem newline_not_mem_renderItems : ∀ items : List JsonValue, '\n' ∉ renderItems items
  | [] => by simp [renderItems]
  | [v] => by
      rw [renderItems]
      exact newline_not_mem_render v
  | v :: w :: items => by
      rw [renderItems_cons_cons]
      have hv := newline_not_mem_render v
      have hitems := newline_not_mem_renderItems (w :: items)
      simp [hv, hitems]

theorem newline_not_mem_renderFields : ∀ fields : List (Text × JsonValue),
    '\n' ∉ renderFields fields
  | [] => by simp [renderFields]
  | [(name, v)] => by
      rw [renderFields]
      have hv := newline_not_mem_render v
      simp [newline_not_mem_quote name, hv]
  | (name, v) :: f :: fields => by
      rw [renderFields_cons_cons]
      have hv := newline_not_mem_render v
      have hfields := newline_not_mem_renderFields (f :: fields)
      simp [newline_not_mem_quote name, hv, hfields]

end

end BareCode.JsonValue
