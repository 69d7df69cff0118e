import BareCode.Comment.Inline
import BareCode.Comment.Block
import BareCode.Dialect.Catalog
import BareCode.Text.Layout
/-! # Stripping — the passes that remove comments, in their order

    1. the mark of a change in front of each line, if wanted;
    2. line comments, wherever they start in a line, if wanted;
    3. block comments, one pair after another;
    4. line comments again, since a block that is gone may bare a marker;
    5. lines that begin with a marker;
    6. normal layout, if wanted.

    Each pass is a function of the text alone.  `stripComments` composes them, and
    `stripKept` lists the guarded markers met by passes 2 and 4. -/

namespace BareCode

/-- What to remove besides block comments and lines that begin with a marker. -/
structure StripOptions where
  /-- Bring the result into normal layout. -/
  normalize : Bool := true
  /-- Take a leading `+` or `-` off every line. -/
  diffMarks : Bool := false
  /-- Cut line comments that follow code. -/
  inline : Bool := false
  /-- Which guard is named when two of them keep a marker. -/
  guardOrder : GuardOrder := .quotesFirst
  deriving DecidableEq

/-- A line without its leading `+` or `-` and the blanks around it; a line without
    such a mark stays as it is. -/
def Line.dropDiffMark (l : Line) : Line :=
  match l.trimStart with
  | '+' :: rest | '-' :: rest => Text.trimStart rest
  | _ => l

namespace StripOptions

/-- The text after the pass over change marks. -/
def dropDiffMarks (o : StripOptions) (t : Text) : Text :=
  if o.diffMarks then t.onLines Line.dropDiffMark else t

/-- The text after a pass over line comments. -/
def cutInline (o : StripOptions) (markers : List Text) (t : Text) : Text :=
  if o.inline then cutLineComments o.guardOrder markers t else t

/-- The guarded markers that a pass over line comments meets. -/
def keptInline (o : StripOptions) (markers : List Text) (t : Text) : List KeptMarker :=
  if o.inline then keptMarkers o.guardOrder markers t else []

/-- The text after the pass over layout. -/
def lay (o : StripOptions) (t : Text) : Text := if o.normalize then t.normalize else t

end StripOptions

/-- The text after the pass over block comments. -/
def removeBlocks (pairs : List BlockPair) (t : Text) : Text :=
  pairs.foldl (fun t p => p.remove t) t

/-- The text as the second pass over line comments finds it. -/
def stripToBlocks (ds : List Dialect) (o : StripOptions) (t : Text) : Text :=
  removeBlocks (blockMarkers ds) (o.cutInline (lineMarkers ds) (o.dropDiffMarks t))

/-- A text without the comments of some dialects. -/
def stripComments (ds : List Dialect) (o : StripOptions) (t : Text) : Text :=
  o.lay (dropFullComments (lineMarkers ds)
    (o.cutInline (lineMarkers ds) (stripToBlocks ds o t)))

/-- The guarded markers that are met while a text is stripped. -/
def stripKept (ds : List Dialect) (o : StripOptions) (t : Text) : List KeptMarker :=
  o.keptInline (lineMarkers ds) (o.dropDiffMarks t) ++
    o.keptInline (lineMarkers ds) (stripToBlocks ds o t)

/-- A text without the comments of the dialects whose ids are listed. -/
def stripLanguages (ids : List String) (o : StripOptions) (t : Text) : Text :=
  stripComments (Dialect.choose ids) o t

end BareCode
