import BareCode.Dialect.Basic
/-! # Block comments — spans from an opener to the nearest closer

    A span starts at the first opener and ends at the first closer behind it, so an
    opener without a closer is no comment and neither is anything after it.  A span
    gives way to the newlines it held, which keeps every other line in its place.

    A pair with two empty markers is outside the domain of the program: a scan for its
    spans would never end, and `Dialect.check` refuses the dialect.  Removal is total all
    the same: it stops after as many spans as the text has characters, and as each of
    these is empty it leaves the text as it is. -/

namespace BareCode

/-- A text cut around one span: what stands in front, the span itself with both its
    markers, and what follows. -/
structure SpanSplit where
  before : Text
  span : Text
  rest : Text
  deriving DecidableEq

/-- The newlines of a text. -/
def Text.newlines (t : Text) : Text := t.filter (· = '\n')

namespace BlockPair

/-- A text cut around its first span. -/
def firstSpan? (p : BlockPair) (t : Text) : Option SpanSplit :=
  match t.splitAtFirst? p.opener with
  | none => none
  | some (before, body) =>
    match body.splitAtFirst? p.closer with
    | none => none
    | some (inner, rest) => some ⟨before, p.opener ++ inner ++ p.closer, rest⟩

/-- The parts that `firstSpan?` gives make up the text. -/
theorem firstSpan?_eq_some {p : BlockPair} {t : Text} {s : SpanSplit}
    (h : p.firstSpan? t = some s) : t = s.before ++ s.span ++ s.rest := by
  simp only [firstSpan?] at h
  split at h
  · simp at h
  · rename_i before body hOpen
    split at h
    · simp at h
    · rename_i inner rest hClose
      obtain rfl := Option.some.inj h
      rw [Text.splitAtFirst?_eq_some hOpen, Text.splitAtFirst?_eq_some hClose]
      simp

/-- Replace the first `n` spans of a text by their newlines. -/
def removeUpTo (p : BlockPair) : Nat → Text → Text
  | 0, t => t
  | n + 1, t =>
    match p.firstSpan? t with
    | none => t
    | some s => s.before ++ s.span.newlines ++ p.removeUpTo n s.rest

/-- Replace every span of a text by its newlines.  Unless both markers are empty, a span
    takes at least one character, so a text has no more spans than characters. -/
def remove (p : BlockPair) (t : Text) : Text := p.removeUpTo t.length t

end BlockPair

end BareCode
