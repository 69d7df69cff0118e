import BareCode.Text.Basic
/-! # Layout — indentation, trailing padding and runs of newlines

    Padding is made of spaces and tabs only; other blanks are content.  `normalize`
    takes the padding off the end of every line that a newline closes, leaves at most
    one empty line between two others, and writes indentation as spaces.

    Spaces take the columns that the padding took, so a line keeps its indentation
    (`indentation_indentWithSpaces`). -/

namespace BareCode

/-- The columns that a tab in the indentation is worth. -/
def tabColumns : Nat := 2

/-- Whether a character is padding: a space or a tab. -/
def isPadding (c : Char) : Bool := c = ' ' || c = '\t'

/-- The columns that a character of padding takes. -/
def paddingWidth (c : Char) : Nat := if c = '\t' then tabColumns else 1

namespace Line

/-- The columns that the padding in front of a line takes. -/
def indentation : Line → Nat
  | [] => 0
  | c :: l => if isPadding c then paddingWidth c + indentation l else 0

/-- A line with its indentation written as spaces. -/
def indentWithSpaces (l : Line) : Line :=
  List.replicate (indentation l) ' ' ++ l.dropWhile isPadding

/-- Behind the padding in front of a line there is no indentation left. -/
theorem indentation_dropWhile (l : Line) : indentation (l.dropWhile isPadding) = 0 := by
  induction l with
  | nil => rfl
  | cons c l ih =>
    by_cases h : isPadding c = true
    · rw [List.dropWhile_cons_of_pos h]
      exact ih
    · rw [List.dropWhile_cons_of_neg h]
      simp [indentation, h]

/-- Spaces in front of a line add one column each. -/
theorem indentation_replicate_append (n : Nat) (l : Line) :
    indentation (List.replicate n ' ' ++ l) = n + indentation l := by
  induction n with
  | zero => simp
  | succ n ih =>
    have hw : paddingWidth ' ' = 1 := rfl
    have hp : isPadding ' ' = true := rfl
    rw [List.replicate_succ, List.cons_append, indentation, if_pos hp, hw, ih]
    omega

/-- Writing the indentation as spaces keeps its width. -/
theorem indentation_indentWithSpaces (l : Line) :
    indentation (indentWithSpaces l) = indentation l := by
  rw [indentWithSpaces, indentation_replicate_append, indentation_dropWhile]
  rfl

/-- A line without the padding at its end. -/
def trimPadding (l : Line) : Line := Text.dropEndWhile isPadding l

end Line

namespace Text

/-- Cut runs of newlines to two, where `run` newlines, at most two, stand in front.  The
    count stops at two.  The program counts on in a word of 32 bits with a sign, so it is
    modelled for runs of fewer than `2 ^ 31` newlines; a longer one overflows. -/
def capNewlinesAfter (run : Nat) : Text → Text
  | [] => []
  | c :: t =>
    if c = '\n' then
      if run < 2 then c :: capNewlinesAfter (run + 1) t else capNewlinesAfter run t
    else c :: capNewlinesAfter 0 t

/-- Cut every run of three or more newlines to two, so that at most one empty line
    stands between two others. -/
def capNewlines (t : Text) : Text := capNewlinesAfter 0 t

/-- Take the padding off the end of every line but the last, which no newline closes. -/
def trimClosed : List Line → List Line
  | [] => []
  | [l] => [l]
  | l :: next :: ls => l.trimPadding :: trimClosed (next :: ls)

/-- A text in normal layout. -/
def normalize (t : Text) : Text :=
  onLines Line.indentWithSpaces (capNewlines (unlines (trimClosed (lines t))))

end Text

end BareCode
