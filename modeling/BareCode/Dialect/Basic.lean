import BareCode.Text.Basic
/-! # Comment dialects — what opens and closes a comment

    A dialect is the comment convention of one family of languages: the markers that
    open a comment up to the end of the line, and the pairs that enclose a comment of
    any length.  Both are plain pieces of text, and nothing forces them apart: a pair
    may close with what it opens with, and one marker may contain another. -/

namespace BareCode

/-- The two markers around a block comment. -/
structure BlockPair where
  opener : Text
  closer : Text
  deriving DecidableEq

/-- The comment conventions of one family of languages. -/
structure Dialect where
  id : String
  displayName : String
  /-- The markers of a comment that ends with its line. -/
  lineMarkers : List Text
  /-- The markers around a comment that may span lines. -/
  blockMarkers : List BlockPair
  deriving DecidableEq

/-- The two kinds of comment marker. -/
inductive MarkerKind
  | line
  | block
  deriving DecidableEq

/-- How a kind of marker is called in messages. -/
def MarkerKind.label : MarkerKind → String
  | .line => "single-line"
  | .block => "block"

/-- Whether one of the two markers of a pair is empty. -/
def BlockPair.hasEmpty (p : BlockPair) : Bool := p.opener.isEmpty || p.closer.isEmpty

/-- The kind of marker that a dialect leaves empty; line markers are looked at first. -/
def Dialect.emptyMarker? (d : Dialect) : Option MarkerKind :=
  if d.lineMarkers.any (·.isEmpty) then some .line
  else if d.blockMarkers.any (·.hasEmpty) then some .block
  else none

/-- The line markers of some dialects, each once, where it first comes up. -/
def lineMarkers (ds : List Dialect) : List Text := (ds.flatMap (·.lineMarkers)).eraseDups

/-- The block pairs of some dialects, each once, where it first comes up. -/
def blockMarkers (ds : List Dialect) : List BlockPair := (ds.flatMap (·.blockMarkers)).eraseDups

end BareCode
