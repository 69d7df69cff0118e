/-! # Texts and lines — cutting at newlines and at a first occurrence

    Everything in this library is a function on characters, so a text is the plain
    list of them and `String` appears only where a program meets its surroundings.

    * `lines` and `unlines` — cutting a text at its newlines and joining it again;
      `unlines_lines` says that nothing is lost in between.
    * `dropStart?` and `splitAtFirst?` — the two ways to look for a piece of text:
      at the front, and at its first place; `dropStart?_eq_some_iff` and
      `splitAtFirst?_eq_some` say what stands around the piece. -/

namespace BareCode

/-- A text is the list of its characters. -/
abbrev Text := List Char

/-- A line is a text; the lines that `Text.lines` gives hold no newline. -/
abbrev Line := Text

namespace Text

/-- The lines of a text are what stands between its newlines, so a text with `n`
    newlines has `n + 1` lines and the empty text has one empty line. -/
def lines (t : Text) : List Line := t.splitOn '\n'

/-- The lines of a text put together again, one newline between two neighbours. -/
def unlines (ls : List Line) : Text := ['\n'].intercalate ls

/-- Cutting a text into lines and joining them gives the text back. -/
theorem unlines_lines (t : Text) : unlines (lines t) = t :=
  List.intercalate_splitOn '\n'

/-- Change every line of a text on its own. -/
def onLines (f : Line → Line) (t : Text) : Text := unlines ((lines t).map f)

/-- What follows `start` in a text that begins with it. -/
def dropStart? : Text → Text → Option Text
  | t, [] => some t
  | [], _ :: _ => none
  | c :: t, d :: start => if c = d then dropStart? t start else none

/-- `dropStart?` succeeds exactly on the texts that begin with `start`, and then
    gives the rest. -/
theorem dropStart?_eq_some_iff {t start rest : Text} :
    dropStart? t start = some rest ↔ t = start ++ rest := by
  induction start generalizing t with
  | nil => cases t <;> simp [dropStart?]
  | cons d start ih =>
    cases t with
    | nil => simp [dropStart?]
    | cons c t =>
      by_cases h : c = d
      · simp [dropStart?, h, ih]
      · simp [dropStart?, h]

/-- Whether a text begins with `start`. -/
def startsWith (t start : Text) : Bool := (dropStart? t start).isSome

/-- The text before and the text after the first place where `needle` stands; the
    empty needle stands at the very front. -/
def splitAtFirst? : Text → Text → Option (Text × Text)
  | [], needle => if needle.isEmpty then some ([], []) else none
  | c :: t, needle =>
    match dropStart? (c :: t) needle with
    | some rest => some ([], rest)
    | none => (splitAtFirst? t needle).map fun (before, rest) => (c :: before, rest)

/-- The two parts that `splitAtFirst?` gives stand around the needle. -/
theorem splitAtFirst?_eq_some {t needle before rest : Text}
    (h : splitAtFirst? t needle = some (before, rest)) : t = before ++ needle ++ rest := by
  induction t generalizing before with
  | nil =>
    simp only [splitAtFirst?] at h
    split at h
    · simp_all
    · simp at h
  | cons c t ih =>
    simp only [splitAtFirst?] at h
    split at h
    · rename_i r hr
      obtain ⟨rfl, rfl⟩ : [] = before ∧ r = rest := by simpa using h
      simpa using dropStart?_eq_some_iff.1 hr
    · obtain ⟨⟨b, r⟩, hb, he⟩ := Option.map_eq_some_iff.1 h
      obtain ⟨rfl, rfl⟩ : c :: b = before ∧ r = rest := by simpa using he
      simpa using ih hb

/-- Whether `needle` stands anywhere in a text. -/
def mentions (t needle : Text) : Bool := (splitAtFirst? t needle).isSome

/-- Drop the longest tail all of whose characters satisfy `p`. -/
def dropEndWhile (p : Char → Bool) (t : Text) : Text := (t.reverse.dropWhile p).reverse

end Text

end BareCode
