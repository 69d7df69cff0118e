import BareCode.Text.Basic
import BareCode.Text.CodeRange
/-! # Blank characters — the Unicode property `White_Space`

    One class of blanks serves trimming, the guards in front of a marker and the
    shapes of a declaration.  It holds 25 characters, the newline among them; the
    zero-width spaces are not in it. -/

namespace BareCode

/-- The ranges of the Unicode property `White_Space`. -/
def blankRanges : List CodeRange :=
  [(0x9, 0xD), (0x20, 0x20), (0x85, 0x85), (0xA0, 0xA0), (0x1680, 0x1680), (0x2000, 0x200A),
   (0x2028, 0x2029), (0x202F, 0x202F), (0x205F, 0x205F), (0x3000, 0x3000)]

/-- Whether a character is white space. -/
def isBlank (c : Char) : Bool := inRanges blankRanges c

namespace Text

/-- A text without the blanks in front. -/
def trimStart (t : Text) : Text := t.dropWhile isBlank

/-- A text without the blanks at its end. -/
def trimEnd (t : Text) : Text := dropEndWhile isBlank t

/-- A text without the blanks around it. -/
def trim (t : Text) : Text := trimEnd (trimStart t)

/-- Whether a text holds blanks only; the empty text does. -/
def allBlank (t : Text) : Bool := t.all isBlank

end Text

end BareCode
