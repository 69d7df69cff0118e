import BareCode.Text.Hex
/-! # JSON values — compact JSON text

    Only the values that answers need: strings, lists, and objects whose fields keep
    their order.  A string escapes the quotation mark, the backslash and the control
    characters below U+0020; every other character stands as it is, so a written value
    holds no newline. -/

namespace BareCode

/-- A JSON value. -/
inductive JsonValue
  | string (t : Text)
  | list (items : List JsonValue)
  | object (fields : List (Text × JsonValue))

namespace JsonValue

/-- The control characters that have an escape of one letter. -/
def letterEscapes : List (Char × Char) :=
  [('\x08', 'b'), ('\x0c', 'f'), ('\n', 'n'), ('\r', 'r'), ('\t', 't')]

/-- A character as it stands within a string. -/
def escapeChar (c : Char) : Text :=
  if c = '"' ∨ c = '\\' then ['\\', c]
  else match letterEscapes.lookup c with
    | some letter => ['\\', letter]
    | none => if c.toNat < 0x20 then "\\u00".toList ++ hexPair c.toNat else [c]

/-- A string between its quotation marks. -/
def quote (t : Text) : Text := '"' :: t.flatMap escapeChar ++ ['"']

mutual

/-- A value written without any white space. -/
def render : JsonValue → Text
  | string t => quote t
  | list items => '[' :: renderItems items ++ [']']
  | object fields => '\x7b' :: renderFields fields ++ ['\x7d']

/-- The items of a list, with commas between them. -/
def renderItems : List JsonValue → Text
  | [] => []
  | [v] => render v
  | v :: vs => render v ++ ',' :: renderItems vs

/-- The fields of an object, with commas between them. -/
def renderFields : List (Text × JsonValue) → Text
  | [] => []
  | [(name, v)] => quote name ++ ':' :: render v
  | (name, v) :: fields => quote name ++ ':' :: render v ++ ',' :: renderFields fields

end

end JsonValue

end BareCode
