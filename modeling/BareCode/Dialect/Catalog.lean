import BareCode.Dialect.Basic
/-! # The catalog — the dialects that are known by name

    The order of the catalog is the order of everything that lists dialects or works
    through their markers.  A selection names dialects by id; it is a filter of the
    catalog, so neither the order of the ids nor their repeats matter
    (`mem_choose`). -/

namespace BareCode

/-- The comments of languages in the family of C. -/
def cBlock : BlockPair := ⟨"/*".toList, "*/".toList⟩

/-- Every known dialect. -/
def catalog : List Dialect :=
  [{ id := "js", displayName := "JavaScript/TypeScript"
     lineMarkers := ["//".toList], blockMarkers := [cBlock] },
   { id := "html", displayName := "HTML/XML"
     lineMarkers := [], blockMarkers := [⟨"<!--".toList, "-->".toList⟩] },
   { id := "css", displayName := "CSS/SCSS"
     lineMarkers := [], blockMarkers := [cBlock] },
   { id := "python", displayName := "Python"
     lineMarkers := ["#".toList]
     blockMarkers := [⟨"'''".toList, "'''".toList⟩, ⟨"\"\"\"".toList, "\"\"\"".toList⟩] },
   { id := "ruby", displayName := "Ruby"
     lineMarkers := ["#".toList], blockMarkers := [⟨"=begin".toList, "=end".toList⟩] },
   { id := "jsx", displayName := "JSX/TSX/React"
     lineMarkers := ["//".toList], blockMarkers := [cBlock, ⟨"\x7b/*".toList, "*/\x7d".toList⟩] },
   { id := "shell", displayName := "Shell/Bash"
     lineMarkers := ["#".toList], blockMarkers := [] },
   { id := "sql", displayName := "SQL"
     lineMarkers := ["--".toList], blockMarkers := [cBlock] }]

/-- The ids of the catalog, in its order. -/
def knownIds : List String := catalog.map (·.id)

/-- Why a choice of dialects, or a dialect itself, is refused. -/
inductive DialectError
  /-- An id that no dialect of the catalog has. -/
  | unknown (id : String)
  /-- A dialect with an empty marker. -/
  | emptyMarker (id : String) (kind : MarkerKind)
  deriving DecidableEq

/-- The wording of an error. -/
def DialectError.message : DialectError → String
  | .unknown id => "unknown language '" ++ id ++ "' (known: " ++ ", ".intercalate knownIds ++ ")"
  | .emptyMarker id kind => "language '" ++ id ++ "' has an empty " ++ kind.label ++ " marker"

namespace Dialect

/-- The dialect of the catalog that has the given id. -/
def ofId? (id : String) : Option Dialect := catalog.find? (·.id == id)

/-- Whether the catalog has a dialect with the given id. -/
def isKnown (id : String) : Bool := knownIds.contains id

/-- Refuse a dialect that has an empty marker. -/
def check (d : Dialect) : Except DialectError Unit :=
  match d.emptyMarker? with
  | some kind => .error (.emptyMarker d.id kind)
  | none => .ok ()

/-- The dialects whose ids are listed, in the order of the catalog; other ids select
    nothing. -/
def choose (ids : List String) : List Dialect := catalog.filter fun d => ids.contains d.id

/-- A dialect is selected when the catalog has it and its id is listed. -/
theorem mem_choose {ids : List String} {d : Dialect} :
    d ∈ choose ids ↔ d ∈ catalog ∧ d.id ∈ ids := by
  simp [choose]

/-- Select dialects, but refuse the first id that is not known. -/
def chooseStrict (ids : List String) : Except DialectError (List Dialect) :=
  match ids.find? (!isKnown ·) with
  | some id => .error (.unknown id)
  | none => .ok (choose ids)

end Dialect

end BareCode
