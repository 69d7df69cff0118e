import BareCode.CommandLine.Invocation
import BareCode.JsonValue
import BareCode.Text.Utf8
/-! # Responses — what the program writes, and its exit status

    `execute` is the whole program but for its surroundings: it is given the arguments, the
    environment and a way to read the source, and it gives both outputs and the status.
    Nothing is read when the arguments are wrong or ask for information only. -/

namespace BareCode

/-- The fields of an answer as JSON. -/
def Answer.toJson (a : Answer) : JsonValue :=
  .object [("content".toList, .string a.content),
    ("dialects".toList, .list (a.dialects.map fun id => .string id.toList))]

/-- What a list of languages tells of a dialect, as JSON. -/
def Dialect.toJson (d : Dialect) : JsonValue :=
  .object [("id".toList, .string d.id.toList), ("display_name".toList, .string d.displayName.toList)]

namespace CommandLine

/-- What the program leaves behind. -/
structure Response where
  /-- The exit status. -/
  status : Nat := 0
  output : Text := []
  /-- The lines on standard error. -/
  errors : List Line := []
  deriving DecidableEq

namespace Response

/-- The name and the version of the program. -/
def versionText : Text := "decomment 0.1.0\n".toList

/-- A stand-in for the text that tells how to call the program.  The real one is laid out by
    the parser of the arguments and its wording is not modelled; no result depends on it. -/
def helpText : Text := Text.unlines
  ["Strip comments from a text, and keep only the blocks that mention a phrase.".toList,
   [],
   "Usage: decomment [OPTIONS] [INPUT]".toList,
   [],
   "  -l, --lang <ID>            languages to strip, separated by commas".toList,
   "      --strict-langs         refuse languages that are not known".toList,
   "      --detect               choose the language by the extension of INPUT".toList,
   "      --keep-spaces          leave the layout alone".toList,
   "      --diff-marks           take a leading + or - off every line".toList,
   "      --inline               cut line comments that follow code".toList,
   "      --url-guard-first      look for web addresses before quotations".toList,
   "  -p, --phrase <TEXT>        keep only the blocks around this text".toList,
   "      --max-block-lines <N>  lines that such a block may take".toList,
   "      --json                 write JSON".toList,
   "      --list-languages       list the known languages".toList,
   "  -v, --verbose              log details".toList,
   "  -q, --quiet                log errors only".toList,
   "  -h, --help                 show this text".toList,
   "  -V, --version              show the version".toList,
   []]

/-- A failure with a message. -/
def failure (message : String) : Response :=
  { status := 1, errors := Text.lines ("Error: " ++ message).toList }

/-- The response to arguments that are not read to their end.  Of a usage error only
    the first line is shown. -/
def ofHalt : Halt → Response
  | .usage e => { status := 2, errors := (Text.lines ("error: " ++ e.message).toList).take 1 }
  | .help => { output := helpText }
  | .version => { output := versionText }

/-- A text with a newline at its end, unless it is empty or has one. -/
def closeLine (t : Text) : Text :=
  if t.isEmpty ∨ t.getLast? = some '\n' then t else t ++ ['\n']

/-- The known languages, as text or as JSON. -/
def languageList (json : Bool) : Text :=
  if json then (JsonValue.list (catalog.map Dialect.toJson)).render ++ ['\n']
  else catalog.flatMap fun d => d.id.toList ++ '\t' :: d.displayName.toList ++ ['\n']

/-- An answer, as text or as JSON. -/
def written (json : Bool) (a : Answer) : Text :=
  if json then a.toJson.render ++ ['\n'] else closeLine a.content

end Response

namespace Invocation

/-- The lines of the log about a text. -/
def logLines (i : Invocation) (t : Text) : List Line :=
  ((i.request.events t).filter fun e => e.level.rank ≤ i.threshold.rank).flatMap fun e =>
    Text.lines e.logLine.toList

/-- The response to an invocation whose source holds a text. -/
def respond (i : Invocation) (t : Text) : Response :=
  match i.request.answer t with
  | .ok a => { output := Response.written i.json a, errors := i.logLines t }
  | .error e =>
    let failure := Response.failure e.message
    { failure with errors := i.logLines t ++ failure.errors }

/-- The response to an invocation, given what reading its source came to. -/
def respondTo (i : Invocation) : Except ReadFault (List UInt8) → Response
  | .ok bytes => i.respond (Utf8.decode bytes)
  | .error fault => Response.failure (fault.message i.source.label)

end Invocation

/-- The program, in any setting that can read a source. -/
def execute {m : Type → Type} [Monad m] (environment : Option Text) (args : List Text)
    (read : Source → m (Except ReadFault (List UInt8))) : m Response :=
  match Invocation.ofArguments environment args with
  | .error halt => pure (Response.ofHalt halt)
  | .ok i =>
    if i.listLanguages then pure { output := Response.languageList i.json }
    else do return i.respondTo (← read i.source)

end CommandLine

end BareCode
