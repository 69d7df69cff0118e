import BareCode.Text.Basic
/-! # Sources — where a text comes from, and why it may not be had -/

namespace BareCode.CommandLine

/-- Where the text comes from. -/
inductive Source
  | standardInput
  | file (path : String)
  deriving DecidableEq

/-- Whether a path is a dash alone, which stands for standard input.  Slashes and
    single dots at its end do not change a path. -/
def isDash (path : Text) : Bool :=
  match path.splitOn '/' with
  | ['-'] :: rest => rest.all fun part => part == [] || part == ['.']
  | _ => false

/-- The source that an input stands for; without an input, text comes from standard
    input. -/
def Source.ofInput : Option Text → Source
  | none => .standardInput
  | some path => if isDash path then .standardInput else .file (String.ofList path)

/-- How messages call a source. -/
def Source.label : Source → String
  | .standardInput => "stdin"
  | .file path => path

/-- Why a source could not be read, and the number of that error. -/
structure ReadFault where
  reason : String
  code : Nat
  deriving DecidableEq

namespace ReadFault

/-- There is no such file. -/
def notFound : ReadFault := ⟨"No such file or directory", 2⟩

/-- A file is used as a directory. -/
def notDirectory : ReadFault := ⟨"Not a directory", 20⟩

/-- A directory is used as a file. -/
def isDirectory : ReadFault := ⟨"Is a directory", 21⟩

/-- A name is longer than a file system takes. -/
def nameTooLong : ReadFault := ⟨"File name too long", 36⟩

/-- The wording of a fault. -/
def message (path : String) (f : ReadFault) : String :=
  "Failed to read " ++ path ++ ": " ++ f.reason ++ " (os error " ++ toString f.code ++ ")"

end ReadFault

end BareCode.CommandLine
