import BareCode.Comment.Guard
/-! # Line comments — cutting each line at its markers

    The markers are tried one after another on what the markers before them left of
    the line.  A marker cuts the line at its first place; if nothing but blanks
    stands in front of it, the whole line goes.  A guarded marker leaves the line
    alone, and `keptInLine` lists these occasions. -/

namespace BareCode

/-- What one marker does to a line. -/
inductive Verdict
  /-- The marker does not occur. -/
  | absent
  /-- A guard keeps the marker. -/
  | guarded (guard : Guard)
  /-- The comment has code in front of it. -/
  | cut (before : Text)
  /-- The comment is all there is. -/
  | dropped
  deriving DecidableEq

/-- The guard that keeps a marker behind the text `before`, if it can be guarded. -/
def markerGuard? (order : GuardOrder) (marker before : Text) : Option Guard :=
  if marker = doubleSlash then guard? order before else none

/-- What a marker does to a line, seen at its first place in it. -/
def verdict (order : GuardOrder) (marker : Text) (l : Line) : Verdict :=
  match l.splitAtFirst? marker with
  | none => .absent
  | some (before, _) =>
    match markerGuard? order marker before with
    | some g => .guarded g
    | none => if before.allBlank then .dropped else .cut before

/-- What the markers leave of a line; `none` when the line goes. -/
def cutLine (order : GuardOrder) : List Text → Line → Option Line
  | [], l => some l
  | m :: ms, l =>
    match verdict order m l with
    | .absent | .guarded _ => cutLine order ms l
    | .cut before => cutLine order ms before.trimEnd
    | .dropped => none

/-- A line in which a guard kept a marker, as the line was at that moment. -/
structure KeptMarker where
  guard : Guard
  line : Line
  deriving DecidableEq

/-- The guarded markers that are met while the markers cut a line. -/
def keptInLine (order : GuardOrder) : List Text → Line → List KeptMarker
  | [], _ => []
  | m :: ms, l =>
    match verdict order m l with
    | .absent => keptInLine order ms l
    | .guarded g => ⟨g, l⟩ :: keptInLine order ms l
    | .cut before => keptInLine order ms before.trimEnd
    | .dropped => []

/-- A text without its line comments. -/
def cutLineComments (order : GuardOrder) (markers : List Text) (t : Text) : Text :=
  Text.unlines (t.lines.filterMap (cutLine order markers))

/-- The guarded markers that are met while a text loses its line comments. -/
def keptMarkers (order : GuardOrder) (markers : List Text) (t : Text) : List KeptMarker :=
  t.lines.flatMap (keptInLine order markers)

/-- Whether a line begins, after its blanks, with one of the markers. -/
def isFullComment (markers : List Text) (l : Line) : Bool :=
  markers.any fun m => l.trimStart.startsWith m

/-- A text without the lines that begin with a marker. -/
def dropFullComments (markers : List Text) (t : Text) : Text :=
  Text.unlines (t.lines.filter (!isFullComment markers ·))

end BareCode
