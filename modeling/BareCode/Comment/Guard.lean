import BareCode.Text.Blank
/-! # Guards — when `//` is no comment

    The marker `//` also stands in quoted text, in web addresses and in paths, so the
    text in front of it may guard it.  Only the order of the first two guards can be
    chosen.  It decides which guard is named and never whether there is one
    (`guard?_isSome_iff`). -/

namespace BareCode

/-- The one line marker that can be guarded. -/
def doubleSlash : Text := "//".toList

/-- The schemes that make `//` part of a web address when a colon follows them. -/
def webSchemes : List Text := ["http", "https", "ftp", "file", "ws", "wss"].map String.toList

/-- The marks that quote text. -/
def quoteMarks : List Char := ['\x27', '"', '\x60']

/-- Why a `//` does not open a comment. -/
inductive Guard
  /-- A quotation is open in front of the marker. -/
  | quoted
  /-- The marker follows a scheme and its colon. -/
  | url
  /-- The marker touches the text in front of it. -/
  | attached
  deriving DecidableEq

namespace Guard

/-- Whether some quote mark occurs an odd number of times. -/
def quoteOpen (before : Text) : Bool := quoteMarks.any fun q => before.count q % 2 == 1

/-- Whether a text ends with a scheme, in any ASCII case, and a colon. -/
def endsWithScheme (before : Text) : Bool :=
  webSchemes.any fun s => (s ++ [':']).isSuffixOf (before.map Char.toLower)

/-- Whether a text ends with a character that is not blank. -/
def endsWithToken (before : Text) : Bool := before.getLast?.any (!isBlank ·)

/-- Whether a guard keeps the `//` that follows the text `before`. -/
def keeps : Guard → Text → Bool
  | .quoted, before => quoteOpen before
  | .url, before => endsWithScheme before
  | .attached, before => endsWithToken before

end Guard

/-- Which of the two specific guards is looked at first. -/
inductive GuardOrder
  | quotesFirst
  | urlFirst
  deriving DecidableEq

/-- The guards in the order in which they are looked at. -/
def GuardOrder.guards : GuardOrder → List Guard
  | .quotesFirst => [.quoted, .url, .attached]
  | .urlFirst => [.url, .quoted, .attached]

/-- Every guard is looked at, whatever the order. -/
theorem GuardOrder.mem_guards (order : GuardOrder) (g : Guard) : g ∈ order.guards := by
  cases order <;> cases g <;> decide

/-- The first guard that keeps the `//` that follows the text `before`. -/
def guard? (order : GuardOrder) (before : Text) : Option Guard :=
  order.guards.find? (·.keeps before)

/-- A guard is found exactly when one of them keeps the marker. -/
theorem guard?_isSome_iff {order : GuardOrder} {before : Text} :
    (guard? order before).isSome = true ↔ ∃ g : Guard, g.keeps before = true := by
  rw [guard?, List.find?_isSome]
  constructor
  · rintro ⟨g, _, hg⟩
    exact ⟨g, hg⟩
  · rintro ⟨g, hg⟩
    exact ⟨g, order.mem_guards g, hg⟩

end BareCode
