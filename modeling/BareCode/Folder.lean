import BareCode.CommandLine.Source
/-! # Folders — files held in memory

    A folder gives the program something to read without a disk.  Its files lie under
    relative paths, and a directory is there when some file lies below it.  What lies
    outside the folder is not known: the directories above it can be walked through,
    but nothing is found in them. -/

namespace BareCode

open CommandLine (ReadFault Source)

/-- Files, each under the names of the directories it lies in and its own name. -/
structure Folder where
  files : List (List Text × List UInt8)

namespace Folder

/-- What a path leads to. -/
inductive Place
  /-- A directory of the folder, by the names that lead to it. -/
  | inside (names : List Text)
  /-- A directory above the folder. -/
  | outside
  | file (bytes : List UInt8)

/-- The components of a path. -/
def components (path : String) : List Text := path.toList.splitOn '/'

/-- Whether a component of a path stays where it is. -/
def staysHere (name : Text) : Bool := name == [] || name == ['.']

/-- The folder that holds files under relative paths. -/
def ofFiles (files : List (String × List UInt8)) : Folder :=
  ⟨files.map fun (path, bytes) => ((components path).filter (!staysHere ·), bytes)⟩

/-- What a name in a directory of the folder leads to. -/
def enter (d : Folder) (names : List Text) (name : Text) : Except ReadFault Place :=
  let target := names ++ [name]
  if 255 < (String.ofList name).utf8ByteSize then .error .nameTooLong
  else match d.files.lookup target with
    | some bytes => .ok (.file bytes)
    | none =>
      if d.files.any fun (path, _) => target.isPrefixOf path then .ok (.inside target)
      else .error .notFound

/-- The directory above a directory of the folder. -/
def above (names : List Text) : Place :=
  if names.isEmpty then .outside else .inside names.dropLast

/-- Follow the components of a path. -/
def walk (d : Folder) : Place → List Text → Except ReadFault Place
  | place, [] => .ok place
  | .file _, _ :: _ => .error .notDirectory
  | .outside, name :: rest =>
    if staysHere name || name == ['.', '.'] then d.walk .outside rest else .error .notFound
  | .inside names, name :: rest =>
    if staysHere name then d.walk (.inside names) rest
    else if name = ['.', '.'] then d.walk (above names) rest
    else do d.walk (← d.enter names name) rest

/-- Read a file by its path; a path that starts at the root leads out of the folder. -/
def read (d : Folder) (path : String) : Except ReadFault (List UInt8) := do
  let parts := components path
  let start : Place := if parts.head? = some [] then .outside else .inside []
  match ← d.walk start parts with
  | .file bytes => return bytes
  | .inside _ | .outside => throw .isDirectory

/-- Read a source, where standard input holds the given bytes. -/
def readSource (d : Folder) (input : List UInt8) : Source → Except ReadFault (List UInt8)
  | .standardInput => .ok input
  | .file path => d.read path

end Folder

end BareCode
