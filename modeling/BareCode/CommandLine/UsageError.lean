import BareCode.CommandLine.Switch
import BareCode.Text.Terminal
/-! # Usage errors — what can be wrong with the arguments -/

namespace BareCode.CommandLine

/-- Why a text is no number of lines. -/
inductive NumberFault
  | empty
  | notADigit
  | tooLarge
  deriving DecidableEq

/-- The wording of a fault. -/
def NumberFault.message : NumberFault → String
  | .empty => "cannot parse integer from empty string"
  | .notADigit => "invalid digit found in string"
  | .tooLarge => "number too large to fit in target type"

/-- The greatest number of lines that can be asked for. -/
def maxNumber : Nat := 0xFFFFFFFFFFFFFFFF

/-- The number that digits continue, read from the left.  The first character that is
    no digit or that makes the number too large decides the fault. -/
def readDigits (n : Nat) : Text → Except NumberFault Nat
  | [] => .ok n
  | c :: t =>
    if !c.isDigit then .error .notADigit
    else
      let next := 10 * n + (c.toNat - '0'.toNat)
      if maxNumber < next then .error .tooLarge else readDigits next t

/-- A number of lines in decimal digits, behind a plus sign if there is one. -/
def readNumber : Text → Except NumberFault Nat
  | [] => .error .empty
  | ['+'] => .error .notADigit
  | '+' :: t => readDigits 0 t
  | t => readDigits 0 t

/-- What is wrong with the arguments. -/
inductive UsageError
  /-- A switch that does not exist, or a second input. -/
  | unexpected (arg : Text)
  | missingValue (s : Slot)
  /-- A value attached to a switch that takes none. -/
  | unneededValue (value : Text) (s : Switch)
  | badNumber (value : Text) (fault : NumberFault)
  | repeatedSwitch (s : Switch)
  | conflict (first second : Flag)
  deriving DecidableEq

/-- A piece of an argument as messages quote it.  Arguments may come from anywhere, so
    what would steer the terminal is left out. -/
def quotation (piece : Text) : String := "'" ++ String.ofList piece.visible ++ "'"

/-- The wording of a usage error. -/
def UsageError.message : UsageError → String
  | .unexpected arg => "unexpected argument " ++ quotation arg ++ " found"
  | .missingValue s => "a value is required for '" ++ s.label ++ "' but none was supplied"
  | .unneededValue value s =>
    "unexpected value " ++ quotation value ++ " for '" ++ s.label ++
      "' found; no more were expected"
  | .badNumber value fault =>
    "invalid value " ++ quotation value ++ " for '" ++ Slot.limit.label ++ "': " ++ fault.message
  | .repeatedSwitch s => "the argument '" ++ s.label ++ "' cannot be used multiple times"
  | .conflict first second =>
    "the argument '" ++ first.label ++ "' cannot be used with '" ++ second.label ++ "'"

end BareCode.CommandLine
