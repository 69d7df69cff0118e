import BareCode.Text.Basic
/-! # Switches — the names that an argument may go by

    A switch is a flag, an option that takes a value, or a request for information
    about the program.  Values also come without a name, as the one input. -/

namespace BareCode.CommandLine

/-- The switches that are either given or not. -/
inductive Flag
  | strict
  | detect
  | keepSpaces
  | diffMarks
  | inline
  | urlGuardFirst
  | json
  | listLanguages
  | verbose
  | quiet
  deriving DecidableEq

/-- The places that a value can go to. -/
inductive Slot
  | languages
  | phrase
  | limit
  | input
  deriving DecidableEq

/-- What a named argument asks for. -/
inductive Switch
  | flag (f : Flag)
  | option (s : Slot)
  | help
  | version
  deriving DecidableEq

/-- The long names. -/
def longNames : List (Text × Switch) :=
  [("lang".toList, .option .languages), ("strict-langs".toList, .flag .strict),
   ("detect".toList, .flag .detect), ("keep-spaces".toList, .flag .keepSpaces),
   ("diff-marks".toList, .flag .diffMarks), ("inline".toList, .flag .inline),
   ("url-guard-first".toList, .flag .urlGuardFirst), ("phrase".toList, .option .phrase),
   ("max-block-lines".toList, .option .limit), ("json".toList, .flag .json),
   ("list-languages".toList, .flag .listLanguages), ("verbose".toList, .flag .verbose),
   ("quiet".toList, .flag .quiet), ("help".toList, .help), ("version".toList, .version)]

/-- The letters that stand for a long name. -/
def shortNames : List (Char × Switch) :=
  [('l', .option .languages), ('p', .option .phrase), ('v', .flag .verbose),
   ('q', .flag .quiet), ('h', .help), ('V', .version)]

/-- How messages call a flag. -/
def Flag.label : Flag → String
  | .strict => "--strict-langs"
  | .detect => "--detect"
  | .keepSpaces => "--keep-spaces"
  | .diffMarks => "--diff-marks"
  | .inline => "--inline"
  | .urlGuardFirst => "--url-guard-first"
  | .json => "--json"
  | .listLanguages => "--list-languages"
  | .verbose => "--verbose"
  | .quiet => "--quiet"

/-- How messages call the place of a value. -/
def Slot.label : Slot → String
  | .languages => "--lang <ID>"
  | .phrase => "--phrase <TEXT>"
  | .limit => "--max-block-lines <N>"
  | .input => "[INPUT]"

/-- How messages call a switch. -/
def Switch.label : Switch → String
  | .flag f => f.label
  | .option s => s.label
  | .help => "--help"
  | .version => "--version"

/-- An argument, told by its first characters. -/
inductive Token
  /-- Two dashes and a name, with the value that an equals sign attaches. -/
  | long (name : Text) (value : Option Text)
  /-- One dash and at least one letter. -/
  | short (letters : Text)
  /-- Anything else, a dash alone included. -/
  | plain (value : Text)
  deriving DecidableEq

/-- The kind of an argument.  The two dashes that end the switches are no matter of
    this function. -/
def Token.ofArgument : Text → Token
  | '-' :: '-' :: rest =>
    match Text.splitAtFirst? rest ['='] with
    | some (name, value) => .long name (some value)
    | none => .long rest none
  | '-' :: c :: rest => .short (c :: rest)
  | arg => .plain arg

end BareCode.CommandLine
