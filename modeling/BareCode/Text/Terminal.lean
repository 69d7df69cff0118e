import BareCode.Text.Basic
/-! # Terminals — the characters of a text that are shown

    A terminal shows most characters and obeys the others: control characters, and the
    sequences that an escape character begins.  `Text.visible` leaves out what would be
    obeyed, so that a text from outside can be quoted without steering the terminal.
    The reader is a machine that holds the kind of sequence it is in and takes one
    character at a time.

    * `visible_sublist` — nothing is added or moved.
    * `isShown_of_mem_visible` — what is left holds no escape character and no other
      control character but those of layout.
    * `visible_eq_self` — a text of shown characters stays as it is. -/

namespace BareCode

namespace Terminal

/-- The control characters that lay a text out and are shown: tab, newline, form feed
    and carriage return. -/
def isLayout (c : Char) : Bool := c = '\t' || c = '\n' || c = '\x0c' || c = '\r'

/-- The characters that are shown outside of any sequence. -/
def isShown (c : Char) : Bool := (' ' ≤ c && c ≠ '\x7f') || isLayout c

/-- The characters that narrow down what a sequence means. -/
def isIntermediate (c : Char) : Bool := ' ' ≤ c && c ≤ '/'

/-- The characters that may end a control sequence. -/
def isFinal (c : Char) : Bool := '@' ≤ c && c ≤ '~'

/-- Whether the byte 9C, which ends a control string, stands in the encoding of a
    character.  It is looked for among the bytes and not the characters, so letters
    such as `М` hold one. -/
def holdsTerminator (c : Char) : Bool := (String.utf8EncodeChar c).contains 0x9C

/-- What a terminal is in the middle of. -/
inductive Mode
  /-- No sequence. -/
  | ground
  /-- A sequence that has only its escape character so far. -/
  | escape
  /-- An escape sequence that intermediates have narrowed down. -/
  | narrowed
  /-- A control sequence, up to the letter that ends it. -/
  | control
  /-- The head of a control string for a device, before its parameters. -/
  | deviceStart
  /-- The parameters in the head of a control string for a device. -/
  | deviceParameters
  /-- The intermediates behind those parameters. -/
  | deviceNarrowed
  /-- A control string, up to its terminator. -/
  | string
  /-- A command for the surroundings of the terminal, up to a bell. -/
  | command
  deriving DecidableEq

namespace Mode

/-- Whether a character is shown.  A layout character is shown even within a sequence
    that is no string. -/
def shows : Mode → Char → Bool
  | ground, c => isShown c
  | escape, c | narrowed, c | control, c => isLayout c
  | _, _ => false

/-- The mode behind the character that follows an escape character. -/
def afterEscape (c : Char) : Mode :=
  if c = '[' then control
  else if c = ']' then command
  else if c = 'P' then deviceStart
  else if c = 'X' ∨ c = '^' ∨ c = '_' then string
  else if isIntermediate c then narrowed
  else if isLayout c ∨ ('0' ≤ c ∧ c ≤ '~') then ground
  else escape

/-- The mode behind a character that belongs to the sequence, if there is one. -/
def proceed : Mode → Char → Mode
  | ground, _ => ground
  | escape, c => afterEscape c
  | narrowed, c => if isLayout c ∨ ('0' ≤ c ∧ c ≤ '~') then ground else narrowed
  | control, c => if isLayout c ∨ isFinal c then ground else control
  | deviceStart, c =>
    if isIntermediate c then deviceNarrowed
    else if '0' ≤ c ∧ c ≤ '?' then deviceParameters
    else if isFinal c then string else deviceStart
  | deviceParameters, c =>
    if isIntermediate c then deviceNarrowed
    else if '<' ≤ c ∧ c ≤ '~' then string else deviceParameters
  | deviceNarrowed, c => if '0' ≤ c ∧ c ≤ '~' then string else deviceNarrowed
  | string, c => if holdsTerminator c then ground else string
  | command, c => if c = '\x07' then ground else command

/-- The mode behind a character.  An escape character begins a sequence in any mode,
    and the characters that cancel and substitute end one. -/
def next (m : Mode) (c : Char) : Mode :=
  if c = '\x1b' then escape
  else if c = '\x18' ∨ c = '\x1a' then ground
  else m.proceed c

/-- What is shown of a text that begins in a mode. -/
def visible (m : Mode) : Text → Text
  | [] => []
  | c :: t => if m.shows c then c :: (m.next c).visible t else (m.next c).visible t

/-- A character that is shown within a sequence would be shown outside of it. -/
theorem isShown_of_shows {m : Mode} {c : Char} (h : m.shows c) : isShown c := by
  cases m <;> simp_all [shows, isShown]

/-- A shown character outside of any sequence begins none. -/
theorem next_ground {c : Char} (h : isShown c) : ground.next c = ground := by
  have hc : c ≠ '\x1b' := by
    rintro rfl
    exact absurd h (by decide)
  simp [next, hc, proceed]

/-- What is shown is part of the text, whatever the mode. -/
theorem visible_sublist (m : Mode) (t : Text) : (m.visible t).Sublist t := by
  induction t generalizing m with
  | nil => exact .slnil
  | cons c t ih =>
    rw [visible]
    split
    · exact (ih _).cons_cons c
    · exact (ih _).cons c

/-- All that is shown are shown characters. -/
theorem isShown_of_mem_visible {m : Mode} {t : Text} {c : Char} (h : c ∈ m.visible t) :
    isShown c := by
  induction t generalizing m with
  | nil => simp [visible] at h
  | cons d t ih =>
    rw [visible] at h
    split at h
    · rename_i hd
      obtain rfl | h := List.mem_cons.1 h
      · exact isShown_of_shows hd
      · exact ih h
    · exact ih h

end Mode

end Terminal

namespace Text

/-- The text without what a terminal would obey. -/
def visible (t : Text) : Text := Terminal.Mode.ground.visible t

/-- A text of shown characters stays as it is. -/
theorem visible_eq_self {t : Text} (h : ∀ c ∈ t, Terminal.isShown c) : visible t = t := by
  unfold visible
  induction t with
  | nil => rfl
  | cons c t ih =>
    have hc : Terminal.isShown c := h c (by simp)
    have ht := ih fun d hd => h d (by simp [hd])
    have hs : Terminal.Mode.ground.shows c = true := hc
    rw [Terminal.Mode.visible, if_pos hs, Terminal.Mode.next_ground hc, ht]

end Text

end BareCode
