import BareCode.Text.Blank
import BareCode.Text.WordChar
/-! # Declarations — lines that look like the start of a block

    A line declares something when it starts with a keyword, holds an arrow, assigns
    a function, ends with an opening brace, or starts with an assignment to a name.
    Each of the five shapes is a test of its own; blanks around the line count for
    none of them. -/

namespace BareCode

/-- The keywords that open a declaration. -/
def keywords : List Text :=
  ["function", "class", "const", "let", "var", "export", "import", "interface", "type", "enum",
   "public", "private", "protected", "static", "async", "def"].map String.toList

/-- Whether a text begins with a word and the word ends there. -/
def Text.startsWithWord (t word : Text) : Bool :=
  match t.dropStart? word with
  | some rest => !rest.head?.any isWordChar
  | none => false

/-- Whether a character can begin the name in an assignment. -/
def isNameStart (c : Char) : Bool := c.isAlpha || c = '_' || c = '$'

/-- Whether a character can continue the name in an assignment, dots included. -/
def isNamePart (c : Char) : Bool := isWordChar c || c = '$' || c = '.'

/-- Whether a text begins with an equals sign that no second one follows. -/
def Text.startsWithAssign : Text → Bool
  | '=' :: rest => rest.head? != some '='
  | _ => false

namespace Line

/-- Whether a line starts with a keyword. -/
def startsWithKeyword (l : Line) : Bool := keywords.any fun k => Text.startsWithWord l.trimStart k

/-- Whether a line holds an arrow. -/
def hasArrow (l : Line) : Bool := l.mentions "=>".toList

/-- Whether an equals sign somewhere in a line is followed by the word `function`. -/
def assignsFunction : Line → Bool
  | [] => false
  | c :: l =>
    (c = '=' && (Text.trimStart l).startsWithWord "function".toList) || assignsFunction l

/-- Whether an opening brace ends a line. -/
def endsWithBrace (l : Line) : Bool := l.trimEnd.getLast? == some '\x7b'

/-- Whether a line starts with the assignment to a name. -/
def startsWithAssignment (l : Line) : Bool :=
  match l.trimStart with
  | [] => false
  | c :: rest => isNameStart c && (Text.trimStart (rest.dropWhile isNamePart)).startsWithAssign

/-- Whether a line looks like the start of a declaration. -/
def declares (l : Line) : Bool :=
  l.startsWithKeyword || l.hasArrow || l.assignsFunction || l.endsWithBrace ||
    l.startsWithAssignment

end Line

end BareCode
