import BareCode.Comment.Inline
import BareCode.Excerpt.Basic
import BareCode.Text.Hex
/-! # Events — what is worth telling about a run

    Events are values that stand beside the result, so a function that lists them has
    no effect on the text.  An event has a level, a message and named fields; a log
    line is the three of them in a row. -/

namespace BareCode

/-- Something that came up while a request was answered. -/
inductive Event
  /-- A guard kept a marker. -/
  | keptMarker (kept : KeptMarker)
  /-- A block was taken for a phrase. -/
  | excerpt (taken : Excerpt)
  /-- A language was asked for that is not known. -/
  | unknownLanguage (id : String)
  /-- No dialect goes with the extension of the file. -/
  | unknownExtension (ext : String)
  /-- The extension of the file chose the dialect. -/
  | detected (ext : String) (id : String)
  deriving DecidableEq

/-- How much an event matters. -/
inductive Level
  | error
  | warn
  | debug
  | trace
  deriving DecidableEq

namespace Level

/-- The name of a level. -/
def label : Level → String
  | error => "ERROR"
  | warn => "WARN"
  | debug => "DEBUG"
  | trace => "TRACE"

/-- The place of a level, the gravest first. -/
def rank : Level → Nat
  | error => 0
  | warn => 1
  | debug => 2
  | trace => 3

end Level

/-- What the field of an event holds. -/
inductive FieldValue
  | number (n : Nat)
  | text (s : String)
  /-- A word that stands without quotation marks. -/
  | word (s : String)
  deriving DecidableEq

/-- A field as log lines write it.  The texts among the fields that a log shows are
    extensions and ids of the catalog, which are plain letters and need no escape. -/
def FieldValue.render : FieldValue → String
  | .number n => toString n
  | .text s => "\"" ++ s ++ "\""
  | .word s => s

/-- The name of a guard in events. -/
def Guard.label : Guard → String
  | .quoted => "StringLiteral"
  | .url => "UrlScheme"
  | .attached => "AttachedToken"

namespace Event

/-- The level of an event. -/
def level : Event → Level
  | keptMarker _ => .trace
  | excerpt _ => .debug
  | unknownLanguage _ => .warn
  | unknownExtension _ => .warn
  | detected _ _ => .debug

/-- The message of an event. -/
def message : Event → String
  | keptMarker _ => "keeping line with non-comment marker"
  | excerpt _ => "emitting block"
  | unknownLanguage id => "Ignoring unknown language '" ++ id ++ "'"
  | unknownExtension ext => "No language known for ." ++ ext ++ "; using all languages"
  | detected _ _ => "detected language from extension"

/-- The fields of an event.  Lines are counted from one. -/
def fields : Event → List (String × FieldValue)
  | keptMarker k => [("guard", .word k.guard.label), ("line", .text (String.ofList k.line))]
  | excerpt e =>
    [("line", .number (e.line + 1)), ("start", .number (e.range.first + 1)),
     ("end", .number (e.range.last + 1))]
  | unknownLanguage _ => []
  | unknownExtension _ => []
  | detected ext id => [("ext", .text ext), ("id", .text id)]

end Event

/-- A character of a message as log lines show it.  Characters that could steer a
    terminal are written by their code. -/
def escapeControl (c : Char) : Text :=
  if c = '\x1b' ∨ c = '\x07' ∨ c = '\x08' ∨ c = '\x0c' ∨ c = '\x7f' then
    "\\x".toList ++ hexPair c.toNat
  else if 0x80 ≤ c.toNat ∧ c.toNat ≤ 0x9F then
    "\\u\x7b".toList ++ hexPair c.toNat ++ ['\x7d']
  else [c]

/-- An event as a line of the log. -/
def Event.logLine (e : Event) : String :=
  e.level.label ++ " " ++ String.ofList (e.message.toList.flatMap escapeControl) ++
    String.join (e.fields.map fun (name, value) => " " ++ name ++ "=" ++ value.render)

end BareCode
