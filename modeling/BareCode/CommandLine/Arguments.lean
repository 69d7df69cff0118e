import BareCode.CommandLine.UsageError
/-! # Arguments — reading them from left to right

    A value may stand in the argument behind its option, so what an option gets is
    known only one argument later.  Until then it is pending, and it is settled before
    the next switch or input takes effect.  An argument that cannot be understood at
    all is reported in place of whatever is pending. -/

namespace BareCode.CommandLine

/-- What the arguments gave so far. -/
structure Given where
  /-- The flags, in the order in which they came. -/
  flags : List Flag := []
  languages : Option (List Text) := none
  phrase : Option Text := none
  limit : Option Nat := none
  input : Option Text := none
  deriving DecidableEq

/-- Why the arguments are not read to their end. -/
inductive Halt
  | usage (e : UsageError)
  | help
  | version
  deriving DecidableEq

namespace Given

/-- Note a flag; a flag can be given once. -/
def raise (g : Given) (f : Flag) : Except Halt Given :=
  if f ∈ g.flags then .error (.usage (.repeatedSwitch (.flag f)))
  else .ok { g with flags := g.flags ++ [f] }

/-- Note a value.  Languages come apart at their commas and add up; the other options
    can be given once. -/
def put (g : Given) (s : Slot) (value : Text) : Except Halt Given :=
  match s with
  | .languages => .ok { g with languages := some (g.languages.getD [] ++ value.splitOn ',') }
  | .phrase =>
    if g.phrase.isSome then .error (.usage (.repeatedSwitch (.option s)))
    else .ok { g with phrase := some value }
  | .limit =>
    if g.limit.isSome then .error (.usage (.repeatedSwitch (.option s)))
    else match readNumber value with
      | .ok n => .ok { g with limit := some n }
      | .error fault => .error (.usage (.badNumber value fault))
  | .input =>
    if value.isEmpty then .error (.usage (.missingValue s))
    else .ok { g with input := some value }

end Given

/-- What was read, and the place that waits to be settled, with its value if that has
    come. -/
structure Reading where
  given : Given := {}
  pending : Option (Slot × Option Text) := none
  deriving DecidableEq

namespace Reading

/-- What is given once nothing is pending. -/
def settle (r : Reading) : Except Halt Given :=
  match r.pending with
  | none => .ok r.given
  | some (s, none) => .error (.usage (.missingValue s))
  | some (s, some value) => r.given.put s value

/-- Let a flag take effect. -/
def flag (r : Reading) (f : Flag) : Except Halt Reading := do
  let g ← (← r.settle).raise f
  return { given := g }

/-- Let an option with its value take effect. -/
def option (r : Reading) (s : Slot) (value : Text) : Except Halt Reading := do
  let g ← (← r.settle).put s value
  return { given := g }

/-- Let an option wait for its value. -/
def await (r : Reading) (s : Slot) : Except Halt Reading := do
  return { given := ← r.settle, pending := some (s, none) }

/-- End the reading, unless what is pending is wrong. -/
def halt (r : Reading) (h : Halt) : Except Halt Reading := do
  let _ ← r.settle
  throw h

/-- Whether the input has been given. -/
def hasInput (r : Reading) : Bool :=
  r.given.input.isSome || r.pending.any fun (s, _) => s == .input

/-- Take a value as the input; there is only one. -/
def takeInput (r : Reading) (value : Text) : Except Halt Reading := do
  if r.hasInput then throw (.usage (.unexpected value))
  return { given := ← r.settle, pending := some (.input, some value) }

/-- Let a switch take effect that has no value attached. -/
def take (r : Reading) : Switch → Except Halt Reading
  | .flag f => r.flag f
  | .option s => r.await s
  | .help => r.halt .help
  | .version => r.halt .version

/-- Read a long switch. -/
def long (r : Reading) (name : Text) (value : Option Text) : Except Halt Reading :=
  match longNames.lookup name, value with
  | none, _ => .error (.usage (.unexpected ("--".toList ++ name)))
  | some s, none => r.take s
  | some (.option s), some v => r.option s v
  | some s, some v => .error (.usage (.unneededValue v s))

/-- The value of an option among the letters behind it, without the equals sign that
    may come first. -/
def attached : Text → Text
  | '=' :: value => value
  | value => value

/-- Read the letters of short switches.  An option takes all the letters behind it as
    its value, and waits for one if there are none. -/
def short (r : Reading) : Text → Except Halt Reading
  | [] => .ok r
  | c :: rest =>
    match shortNames.lookup c, rest with
    | none, _ => .error (.usage (.unexpected ['-', c]))
    | some (.option s), _ :: _ => r.option s (attached rest)
    | some s, _ => do short (← r.take s) rest

/-- Read one argument. -/
def step (r : Reading) (arg : Text) : Except Halt Reading :=
  match Token.ofArgument arg with
  | .long name value => r.long name value
  | .short letters => r.short letters
  | .plain value =>
    match r.pending with
    | some (s, none) => .ok { r with pending := some (s, some value) }
    | _ => r.takeInput value

/-- Read arguments up to two dashes alone, and what follows those as inputs. -/
def steps (r : Reading) : List Text → Except Halt Reading
  | [] => .ok r
  | ['-', '-'] :: args => args.foldlM takeInput r
  | arg :: args => do steps (← r.step arg) args

end Reading

/-- What some arguments give. -/
def Given.ofArguments (args : List Text) : Except Halt Given := do
  (← Reading.steps {} args).settle

end BareCode.CommandLine
