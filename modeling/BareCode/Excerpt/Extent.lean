import BareCode.Text.Blank
import BareCode.Text.Layout
/-! # Extents — how many lines a block takes

    A block runs from a given line to where its brackets close again.  Before the
    first bracket is left open the block is only `opening` and ends in front of a
    blank line or of a line that closes more than it opens; from then on it is
    `closing` and ends with the line that brings the depth back to zero.  A limit on
    the number of lines cuts the block short, and so does the end of the text. -/

namespace BareCode

/-- How much a character changes the depth of brackets. -/
def bracketStep (c : Char) : Int :=
  match c with
  | '\x7b' | '(' | '[' => 1
  | '\x7d' | ')' | ']' => -1
  | _ => 0

/-- How much a line changes the depth of brackets. -/
def Line.bracketBalance : Line → Int
  | [] => 0
  | c :: l => bracketStep c + bracketBalance l

/-- The number of lines up to and with the one that brings the given depth to zero. -/
def closingLength (depth : Int) : List Line → Nat
  | [] => 0
  | l :: ls =>
    let depth := depth + l.bracketBalance
    if depth ≤ 0 then 1 else 1 + closingLength depth ls

/-- The number of lines that a block still takes while none of its brackets is open. -/
def openingLength : List Line → Nat
  | [] => 0
  | l :: ls =>
    if l.allBlank ∨ l.bracketBalance < 0 then 0
    else if 0 < l.bracketBalance then 1 + closingLength l.bracketBalance ls
    else 1 + openingLength ls

/-- The number of lines that the block at the front of some lines takes.  Its first
    line belongs to it whatever it holds. -/
def blockLength : List Line → Nat
  | [] => 0
  | l :: ls =>
    if l.bracketBalance < 0 then 1
    else if 0 < l.bracketBalance then 1 + closingLength l.bracketBalance ls
    else 1 + openingLength ls

/-- The index of the last line of the block that starts at index `start` and may take
    `limit` lines, though never fewer than one.  The program adds in words of 64 bits and
    is modelled where `start + limit < 2 ^ 64`; from there on its sum overflows. -/
def blockLast (ls : List Line) (start limit : Nat) : Nat :=
  start + blockLength ((ls.drop start).take (max limit 1)) - 1

end BareCode
