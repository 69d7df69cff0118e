import BareCode.CommandLine.Arguments
import BareCode.CommandLine.Source
import BareCode.Request
/-! # Invocations — what the program is asked to do

    Languages that no argument names come from the environment.  Their ids are
    trimmed and written in lower case, and empty ones do not count. -/

namespace BareCode.CommandLine

/-- What the program is asked to do. -/
structure Invocation where
  request : Request
  source : Source
  /-- Write JSON. -/
  json : Bool
  /-- List the known languages and do nothing else. -/
  listLanguages : Bool
  /-- The least grave level that the log shows. -/
  threshold : Level
  deriving DecidableEq

/-- A language id as it was meant. -/
def plainId (id : Text) : Text := id.trim.map Char.toLower

/-- The ids that a list of language names stands for. -/
def languageIds (names : List Text) : List String :=
  ((names.map plainId).filter (!·.isEmpty)).map String.ofList

namespace Given

/-- The two flags that exclude each other, in the order in which they came.  A flag is
    given once at most, so no other two can be found here. -/
def conflict? (g : Given) : Option (Flag × Flag) :=
  match g.flags.filter fun f => f = .verbose ∨ f = .quiet with
  | [first, second] => some (first, second)
  | _ => none

/-- The least grave level that the log is to show. -/
def threshold (g : Given) : Level :=
  if .verbose ∈ g.flags then .debug else if .quiet ∈ g.flags then .error else .warn

/-- The request that was given, where the environment may name languages too. -/
def request (g : Given) (environment : Option Text) : Request where
  path := g.input.map String.ofList
  languages := languageIds ((g.languages <|> environment.map (·.splitOn ',')).getD [])
  strict := .strict ∈ g.flags
  detect := .detect ∈ g.flags
  keepSpaces := .keepSpaces ∈ g.flags
  diffMarks := .diffMarks ∈ g.flags
  inline := .inline ∈ g.flags
  urlGuardFirst := .urlGuardFirst ∈ g.flags
  phrase := g.phrase
  limit := g.limit.getD defaultLimit

/-- The invocation that was given, unless two flags conflict. -/
def invocation (g : Given) (environment : Option Text) : Except Halt Invocation :=
  match g.conflict? with
  | some (first, second) => .error (.usage (.conflict first second))
  | none => .ok {
      request := g.request environment
      source := Source.ofInput g.input
      json := .json ∈ g.flags
      listLanguages := .listLanguages ∈ g.flags
      threshold := g.threshold }

end Given

/-- The invocation that arguments and environment ask for. -/
def Invocation.ofArguments (environment : Option Text) (args : List Text) :
    Except Halt Invocation := do
  (← Given.ofArguments args).invocation environment

end BareCode.CommandLine
