import BareCode.Comment.Strip
import BareCode.Dialect.Extension
import BareCode.Event
/-! # Requests — stripping a text and focusing the rest

    A request says which languages to strip and whether to focus on a phrase.  The
    languages are those it lists, or else the one that the name of its file suggests,
    or else all of them.  `Request.answer` gives the text, and `Request.events` what
    came up on the way; a request that is refused has no events. -/

namespace BareCode

/-- What is wanted of a text. -/
structure Request where
  /-- The path of the file that the text is from. -/
  path : Option String := none
  /-- The ids of the languages to strip; none stands for all. -/
  languages : List String := []
  /-- Refuse ids that are not known. -/
  strict : Bool := false
  /-- Without languages, take the one that the path suggests. -/
  detect : Bool := false
  /-- Leave the layout alone. -/
  keepSpaces : Bool := false
  /-- Take a leading `+` or `-` off every line. -/
  diffMarks : Bool := false
  /-- Cut line comments that follow code. -/
  inline : Bool := false
  /-- Look for web addresses before quotations. -/
  urlGuardFirst : Bool := false
  /-- Keep only what stands around the lines that mention this. -/
  phrase : Option Text := none
  /-- The number of lines that a block around such a line may take. -/
  limit : Nat := defaultLimit
  deriving DecidableEq

/-- The answer to a request: the text that is left and the dialects that were
    stripped. -/
structure Answer where
  content : Text
  dialects : List String
  deriving DecidableEq

namespace Request

/-- The extension that may choose the dialect. -/
def extension? (r : Request) : Option String :=
  if r.detect then r.path.bind fileExtension? else none

/-- The ids of the languages to strip, as they were listed if they were. -/
def languageIds (r : Request) : Except DialectError (List String) :=
  if r.languages.isEmpty then
    match r.extension?.bind Dialect.ofExtension? with
    | some d => .ok [d.id]
    | none => .ok knownIds
  else if r.strict then (Dialect.chooseStrict r.languages).map fun _ => r.languages
  else .ok r.languages

/-- What comes up while the languages are chosen. -/
def languageEvents (r : Request) : List Event :=
  if r.languages.isEmpty then
    match r.extension? with
    | none => []
    | some ext =>
      match Dialect.ofExtension? ext with
      | some d => [.detected ext d.id]
      | none => [.unknownExtension ext]
  else if r.strict then []
  else (r.languages.filter (!Dialect.isKnown ·)).map .unknownLanguage

/-- How the text is to be stripped. -/
def stripOptions (r : Request) : StripOptions where
  normalize := !r.keepSpaces
  diffMarks := r.diffMarks
  inline := r.inline
  guardOrder := if r.urlGuardFirst then .urlFirst else .quotesFirst

/-- The text that is left when some languages are stripped. -/
def content (r : Request) (ids : List String) (t : Text) : Text :=
  let stripped := stripLanguages ids r.stripOptions t
  match r.phrase with
  | some phrase => focus r.limit phrase stripped
  | none => stripped

/-- What comes up while some languages are stripped and the rest is focused. -/
def contentEvents (r : Request) (ids : List String) (t : Text) : List Event :=
  (stripKept (Dialect.choose ids) r.stripOptions t).map .keptMarker ++
    match r.phrase with
    | some phrase =>
      (focusExcerpts r.limit phrase (stripLanguages ids r.stripOptions t)).map .excerpt
    | none => []

/-- The answer to a request about a text. -/
def answer (r : Request) (t : Text) : Except DialectError Answer :=
  r.languageIds.map fun ids =>
    { content := r.content ids t, dialects := (Dialect.choose ids).map (·.id) }

/-- What comes up while a request is answered. -/
def events (r : Request) (t : Text) : List Event :=
  r.languageEvents ++
    match r.languageIds with
    | .ok ids => r.contentEvents ids t
    | .error _ => []

end Request

end BareCode
