import BareCode.Dialect.Catalog
/-! # File extensions — the dialect that the name of a file suggests

    Languages that share the comments of another are found under it: the family of C
    under `js`, and configuration files with `#` comments under `shell`. -/

namespace BareCode

/-- The extensions that suggest a dialect, under its id. -/
def extensionTable : List (String × List String) :=
  [("js", ["js", "mjs", "cjs", "ts", "rs", "c", "h", "cpp", "hpp", "cc", "java", "go", "cs",
     "swift", "kt"]),
   ("jsx", ["jsx", "tsx"]),
   ("html", ["html", "htm", "xml", "svg", "vue"]),
   ("css", ["css", "scss", "less"]),
   ("python", ["py"]),
   ("ruby", ["rb"]),
   ("shell", ["sh", "bash", "zsh", "yaml", "yml", "toml"]),
   ("sql", ["sql"])]

/-- The dialect that an extension suggests.  The case of ASCII letters and dots in
    front do not matter. -/
def Dialect.ofExtension? (ext : String) : Option Dialect :=
  let plain := String.ofList ((ext.toList.dropWhile (· = '.')).map Char.toLower)
  match extensionTable.find? (·.2.contains plain) with
  | some (id, _) => Dialect.ofId? id
  | none => none

/-- The file name that ends a path: its last component that is neither empty nor a
    single dot.  A path that ends by going up has none. -/
def fileName? (path : Text) : Option Text :=
  match ((path.splitOn '/').filter fun part => part ≠ [] ∧ part ≠ ['.']).getLast? with
  | some ['.', '.'] => none
  | name => name

/-- What follows the last dot of a file name.  A dot in front of the whole name starts
    no extension. -/
def extensionOfName? (name : Text) : Option Text :=
  match (name.splitOn '.').reverse with
  | ext :: stem :: more => if stem = [] ∧ more = [] then none else some ext
  | _ => none

/-- The extension of the file that a path names. -/
def fileExtension? (path : String) : Option String :=
  (fileName? path.toList).bind fun name => (extensionOfName? name).map String.ofList

end BareCode
