import BareCode.Excerpt.Declaration
import BareCode.Excerpt.Extent
import BareCode.Text.Lowercase
/-! # Excerpts — the blocks around the lines that mention a phrase

    Every line that mentions the phrase, in whatever case, asks for the block that
    holds it: the one it starts itself, the one that the nearest declaration above it
    with less indentation starts, or else the line alone.  Blocks are taken in the
    order of the lines that ask for them, and one that lies within a block taken
    before is left out.

    The focus of a text is the taken blocks, each with an empty line behind it. -/

namespace BareCode

/-- A range of lines, by the indices of its first and its last. -/
structure LineRange where
  first : Nat
  last : Nat
  deriving DecidableEq

namespace LineRange

/-- Whether one range lies within another. -/
def covers (outer inner : LineRange) : Bool :=
  outer.first ≤ inner.first && inner.last ≤ outer.last

/-- The lines of a range. -/
def slice (r : LineRange) (ls : List Line) : List Line :=
  (ls.drop r.first).take (r.last + 1 - r.first)

end LineRange

/-- Whether a line can start the block around a line with the given indentation. -/
def Line.encloses (l : Line) (indent : Nat) : Bool :=
  !l.allBlank && l.indentation < indent && l.declares

/-- The index of the nearest line above index `i` that can start the block around it. -/
def encloser? (ls : List Line) (i : Nat) : Option Nat :=
  let indent := Line.indentation (ls.getD i [])
  ((ls.take i).reverse.findIdx? fun l => l.encloses indent).map fun up => i - 1 - up

/-- The block around the line at index `i`.  The block of an enclosing line counts
    only if it reaches down to `i`. -/
def rangeAround (limit : Nat) (ls : List Line) (i : Nat) : LineRange :=
  if Line.declares (ls.getD i []) then ⟨i, blockLast ls i limit⟩
  else match encloser? ls i with
    | none => ⟨i, i⟩
    | some start =>
      let last := blockLast ls start limit
      if i ≤ last then ⟨start, last⟩ else ⟨i, i⟩

/-- The indices of the lines that mention a phrase in lower case. -/
def mentionsAt (phrase : Text) (ls : List Line) : List Nat :=
  (ls.zipIdx.filter fun (l, _) => l.lower.mentions phrase).map (·.2)

/-- A block that was taken, and the index of the line that asked for it. -/
structure Excerpt where
  line : Nat
  range : LineRange
  deriving DecidableEq

/-- Leave out the excerpts whose block lies within one of the ranges taken before. -/
def dropCovered (taken : List LineRange) : List Excerpt → List Excerpt
  | [] => []
  | e :: es =>
    if taken.any (·.covers e.range) then dropCovered taken es
    else e :: dropCovered (e.range :: taken) es

/-- The excerpts of some lines for a phrase, in the order in which they are taken. -/
def excerpts (limit : Nat) (phrase : Text) (ls : List Line) : List Excerpt :=
  dropCovered [] ((mentionsAt phrase.lower ls).map fun i => ⟨i, rangeAround limit ls i⟩)

/-- Excerpts written one after another, an empty line behind each. -/
def writeExcerpts (ls : List Line) (es : List Excerpt) : Text :=
  Text.capNewlines (Text.unlines (es.flatMap fun e => e.range.slice ls ++ [[]]))

/-- The number of lines that a block may take unless told otherwise. -/
def defaultLimit : Nat := 100

/-- The parts of a text around the lines that mention a phrase; all of it for the
    empty phrase. -/
def focus (limit : Nat) (phrase : Text) (t : Text) : Text :=
  if phrase.isEmpty then t else writeExcerpts t.lines (excerpts limit phrase t.lines)

/-- The excerpts that make up the focus of a text. -/
def focusExcerpts (limit : Nat) (phrase : Text) (t : Text) : List Excerpt :=
  if phrase.isEmpty then [] else excerpts limit phrase t.lines

end BareCode
