import BareCode.Proofs.Comment.Guarding
import BareCode.Proofs.Text.Bytes
import Mathlib.Algebra.Ring.Parity
/-! # The choice of a guard — what each guard asks, and which one is named

    `Guard.Applies` says in terms of the text alone what each guard asks of the text in
    front of a `//`; the tests that run do the same (`keeps_iff_applies`).  Of the guards
    that apply, the first in the order is named: the token guard only when it stands
    alone, the other two as the order says (`guard?_eq_some_iff`).  None is found in
    exactly one case, whatever the order, and the address guard has no part in it.

    A scheme may also be looked for by cutting as many bytes off the end as it takes.  That
    never cuts through a character, since only a text of letters is compared with it, and
    letters take a byte each in either case (`endsWithScheme_iff_bytes`). -/

namespace BareCode

open Text

variable {before head : Text} {order : GuardOrder} {g g' : Guard}

/-- What a guard asks of the text in front of a `//`: a quote mark that occurs an odd number
    of times, a scheme in any case of its letters with a colon behind it, or a last
    character that is not blank. -/
def Guard.Applies (before : Text) : Guard → Prop
  | .quoted =>
      Odd (before.count '\x27') ∨ Odd (before.count '"') ∨ Odd (before.count '\x60')
  | .url => ∃ x s, before = x ++ s ++ [':'] ∧
      ∃ scheme ∈ webSchemes, s.map Char.toLower = scheme.map Char.toLower
  | .attached => ∃ x c, before = x ++ [c] ∧ isBlank c = false

/-- The guards that are looked at before another one. -/
def GuardOrder.Ahead (order : GuardOrder) (g' : Guard) : Guard → Prop
  | .quoted => order = .urlFirst ∧ g' = .url
  | .url => order = .quotesFirst ∧ g' = .quoted
  | .attached => g' ≠ .attached

/-! ## What each guard asks -/

theorem quoteOpen_iff_applies :
    Guard.quoteOpen before = true ↔ Guard.Applies before .quoted := by
  simp only [Guard.quoteOpen, quoteMarks, List.any_cons, List.any_nil, Bool.or_false,
    Bool.or_eq_true, beq_iff_eq, ← Nat.odd_iff, Guard.Applies]

theorem endsWithToken_iff_applies :
    Guard.endsWithToken before = true ↔ Guard.Applies before .attached := by
  rw [Guard.endsWithToken, Option.any_eq_true]
  constructor
  · rintro ⟨c, hc, hblank⟩
    obtain ⟨x, hx⟩ := List.getLast?_eq_some_iff.mp hc
    exact ⟨x, c, hx, by simpa using hblank⟩
  · rintro ⟨x, c, rfl, hblank⟩
    exact ⟨c, List.getLast?_concat, by simp [hblank]⟩

/-- Schemes are written in small letters. -/
theorem map_toLower_of_mem_webSchemes {s : Text} (h : s ∈ webSchemes) :
    s.map Char.toLower = s := by
  have hall : ∀ s ∈ webSchemes, s.map Char.toLower = s := by decide
  exact hall s h

theorem endsWithScheme_iff_applies :
    Guard.endsWithScheme before = true ↔ Guard.Applies before .url := by
  rw [Guard.endsWithScheme, List.any_eq_true]
  constructor
  · rintro ⟨scheme, hmem, hs⟩
    obtain ⟨y, hy⟩ := List.isSuffixOf_iff_suffix.mp hs
    obtain ⟨x, z, rfl, -, hz⟩ := List.map_eq_append_iff.mp hy.symm
    obtain ⟨s, w, rfl, hlow, hw⟩ := List.map_eq_append_iff.mp hz
    obtain ⟨c, rfl, hc⟩ := List.map_eq_singleton_iff.mp hw
    -- no other character becomes a colon in lower case
    obtain rfl : c = ':' := eq_of_toLower_eq (by decide) hc
    refine ⟨x, s, (List.append_assoc x s [':']).symm, scheme, hmem, ?_⟩
    rw [hlow, map_toLower_of_mem_webSchemes hmem]
  · rintro ⟨x, s, rfl, scheme, hmem, hs⟩
    refine ⟨scheme, hmem, List.isSuffixOf_iff_suffix.mpr ⟨x.map Char.toLower, ?_⟩⟩
    rw [map_toLower_of_mem_webSchemes hmem] at hs
    rw [List.map_append, List.map_append, hs, List.append_assoc]
    rfl

/-- The tests that run ask what the guards ask. -/
theorem keeps_iff_applies (g : Guard) (before : Text) :
    g.keeps before = true ↔ g.Applies before := by
  cases g with
  | quoted => exact quoteOpen_iff_applies
  | url => exact endsWithScheme_iff_applies
  | attached => exact endsWithToken_iff_applies

/-- In front of a colon, a scheme is found by cutting as many bytes off the end as it
    takes. -/
theorem endsWithScheme_iff_bytes (head : Text) :
    Guard.Applies (head ++ [':']) .url ↔ ∃ scheme ∈ webSchemes, ∃ s,
      scheme.byteLength ≤ head.byteLength ∧
      head.dropBytes? (head.byteLength - scheme.byteLength) = some s ∧
      s.map Char.toLower = scheme.map Char.toLower := by
  have hlength : ∀ {s scheme : Text}, s.map Char.toLower = scheme.map Char.toLower →
      s.byteLength = scheme.byteLength := by
    intro s scheme hs
    rw [← byteLength_map_toLower s, hs, byteLength_map_toLower]
  constructor
  · rintro ⟨x, s, hx, scheme, hmem, hs⟩
    obtain rfl : head = x ++ s := List.append_cancel_right hx
    rw [byteLength_append, hlength hs]
    refine ⟨scheme, hmem, s, Nat.le_add_left _ _, ?_, hs⟩
    exact dropBytes?_eq_some_iff.mpr ⟨x, rfl, by omega⟩
  · rintro ⟨scheme, hmem, s, -, hdrop, hs⟩
    obtain ⟨x, rfl, -⟩ := dropBytes?_eq_some_iff.mp hdrop
    exact ⟨x, s, rfl, scheme, hmem, hs⟩

/-! ## Which guard is named -/

/-- The first element that passes a test passes it, and none in front of it does. -/
theorem find?_eq_some_iff_takeWhile {α : Type} [DecidableEq α] {p : α → Bool} {l : List α}
    {a : α} :
    l.find? p = some a ↔ a ∈ l ∧ p a = true ∧ ∀ b ∈ l.takeWhile (· ≠ a), p b = false := by
  induction l with
  | nil => simp
  | cons b l ih =>
      by_cases hb : b = a
      · subst hb
        cases hp : p b with
        | true => simp [hp]
        | false =>
            rw [List.find?_cons_of_neg (by simp [hp]), ih]
            simp [hp]
      · have hne : a ≠ b := fun h => hb h.symm
        cases hp : p b with
        | true => simp [hp, hb]
        | false =>
            rw [List.find?_cons_of_neg (by simp [hp]), ih]
            simp [hp, hb, hne]

theorem GuardOrder.mem_takeWhile_guards :
    g' ∈ order.guards.takeWhile (· ≠ g) ↔ order.Ahead g' g := by
  cases order with
  | quotesFirst => cases g <;> cases g' <;> simp [GuardOrder.guards, GuardOrder.Ahead]
  | urlFirst => cases g <;> cases g' <;> simp [GuardOrder.guards, GuardOrder.Ahead]

theorem guard?_eq_some_iff :
    guard? order before = some g ↔
      g.Applies before ∧ ∀ g', order.Ahead g' g → ¬ g'.Applies before := by
  rw [guard?, find?_eq_some_iff_takeWhile]
  simp only [GuardOrder.mem_takeWhile_guards, keeps_iff_applies, ← Bool.not_eq_true]
  exact and_iff_right (order.mem_guards g)

/-- A text that does not end with a token is empty or ends with a blank. -/
theorem not_applies_attached_iff :
    ¬ Guard.Applies before .attached ↔
      before = [] ∨ ∃ x c, before = x ++ [c] ∧ isBlank c = true := by
  constructor
  · intro h
    rcases List.eq_nil_or_concat before with hnil | ⟨x, c, hx⟩
    · exact Or.inl hnil
    · rw [List.concat_eq_append] at hx
      refine Or.inr ⟨x, c, hx, ?_⟩
      by_contra hc
      exact h ⟨x, c, hx, Bool.eq_false_iff.mpr hc⟩
  · rintro (rfl | ⟨x, c, rfl, hc⟩) ⟨y, d, hy, hd⟩
    · exact absurd (congrArg List.length hy) (by simp)
    · obtain rfl : c = d := List.head_eq_of_cons_eq (List.append_inj_right' hy rfl)
      rw [hc] at hd
      exact Bool.noConfusion hd

theorem guard?_eq_none_iff :
    guard? order before = none ↔ ¬ Guard.Applies before .quoted ∧
      (before = [] ∨ ∃ x c, before = x ++ [c] ∧ isBlank c = true) := by
  rw [← Option.not_isSome_iff_eq_none, guard?_isSome_iff_quoteOpen_or_endsWithToken, not_or,
    quoteOpen_iff_applies, endsWithToken_iff_applies, not_applies_attached_iff]

/-! ## The result -/

/-- **The guards decide as they say.**  Each asks what is written of it, the scheme being
    found by its bytes as well.  No guard is found exactly if no quotation is open and the
    text is empty or ends with a blank, whatever the order.  The guard that is named is the
    first in the order that applies, the token guard only if no other one does. -/
theorem guard?_decides (before : Text) :
    (∀ g : Guard, g.keeps before = true ↔ g.Applies before) ∧
    (∀ head, Guard.url.keeps (head ++ [':']) = true ↔ ∃ scheme ∈ webSchemes, ∃ s,
      scheme.byteLength ≤ head.byteLength ∧
      head.dropBytes? (head.byteLength - scheme.byteLength) = some s ∧
      s.map Char.toLower = scheme.map Char.toLower) ∧
    ∀ order,
      (guard? order before = none ↔ ¬ Guard.Applies before .quoted ∧
        (before = [] ∨ ∃ x c, before = x ++ [c] ∧ isBlank c = true)) ∧
      ∀ g, guard? order before = some g ↔
        g.Applies before ∧ ∀ g', order.Ahead g' g → ¬ g'.Applies before := by
  refine ⟨fun g => keeps_iff_applies g before, fun head => ?_, fun order => ?_⟩
  · rw [keeps_iff_applies]
    exact endsWithScheme_iff_bytes head
  · exact ⟨guard?_eq_none_iff, fun g => guard?_eq_some_iff⟩

/-- An open quotation and a scheme, in capital letters behind a letter of two bytes: the
    order decides which of the two is named. -/
example :
    guard? .quotesFirst "const u = 'éHTTP:".toList = some .quoted ∧
      guard? .urlFirst "const u = 'éHTTP:".toList = some .url := by
  decide

end BareCode
