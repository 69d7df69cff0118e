import BareCode.Text.Basic
/-! # UTF-8 — reading bytes without ever failing

    Bytes that are no UTF-8 are read as replacement characters: each longest piece
    that could still have become a character counts as one, and so does each byte
    that can neither begin nor continue a character.  The reader is a machine that
    holds the character under way and takes one byte at a time. -/

namespace BareCode.Utf8

/-- A character under way: the bits read so far, the number of bytes it still needs,
    and the bounds on the next of them. -/
structure Pending where
  value : Nat
  missing : Nat
  low : Nat
  high : Nat

/-- The character that a byte beyond ASCII begins.  The bounds on its second byte
    leave out the overlong forms, the surrogates and what lies past U+10FFFF. -/
def Pending.begin? (b : Nat) : Option Pending :=
  if 0xC2 ≤ b ∧ b ≤ 0xDF then some ⟨b - 0xC0, 1, 0x80, 0xBF⟩
  else if 0xE0 ≤ b ∧ b ≤ 0xEF then
    some ⟨b - 0xE0, 2, if b = 0xE0 then 0xA0 else 0x80, if b = 0xED then 0x9F else 0xBF⟩
  else if 0xF0 ≤ b ∧ b ≤ 0xF4 then
    some ⟨b - 0xF0, 3, if b = 0xF0 then 0x90 else 0x80, if b = 0xF4 then 0x8F else 0xBF⟩
  else none

/-- What stands for a malformed piece. -/
def replacement : Char := '\ufffd'

/-- The characters that a byte completes between two characters, and the character
    that it begins. -/
def start (b : Nat) : Text × Option Pending :=
  if b < 0x80 then ([Char.ofNat b], none)
  else match Pending.begin? b with
    | some p => ([], some p)
    | none => ([replacement], none)

/-- The characters that a byte completes, and the character under way after it.  A
    byte that cannot continue the character under way ends it as malformed and is
    read anew. -/
def step : Option Pending → Nat → Text × Option Pending
  | none, b => start b
  | some p, b =>
    if p.low ≤ b ∧ b ≤ p.high then
      let value := p.value * 64 + (b - 0x80)
      if p.missing = 1 then ([Char.ofNat value], none)
      else ([], some ⟨value, p.missing - 1, 0x80, 0xBF⟩)
    else
      let (cs, next) := start b
      (replacement :: cs, next)

/-- Read bytes with a character under way; one that the bytes leave unfinished is
    malformed. -/
def decodeFrom : Option Pending → List UInt8 → Text
  | none, [] => []
  | some _, [] => [replacement]
  | pending, b :: bs =>
    let (cs, next) := step pending b.toNat
    cs ++ decodeFrom next bs

/-- The text that a list of bytes stands for. -/
def decode (bytes : List UInt8) : Text := decodeFrom none bytes

end BareCode.Utf8
