import BareCode.CommandLine.Response
/-! # The program — its arguments, its files and its two outputs -/

namespace BareCode.CommandLine

/-- The number of a system error, which may come with its sign turned. -/
def errorNumber (code : UInt32) : Nat :=
  if code < 0x80000000 then code.toNat else (0 - code).toNat

/-- Why the system refused to read a file. -/
def ReadFault.ofError : IO.Error → ReadFault
  | .noFileOrDirectory _ _ _ => .notFound
  | .inappropriateType _ code _ =>
    if errorNumber code = ReadFault.notDirectory.code then .notDirectory else .isDirectory
  | .permissionDenied _ code _ => ⟨"Permission denied", errorNumber code⟩
  | .invalidArgument _ code details =>
    if errorNumber code = ReadFault.nameTooLong.code then .nameTooLong
    else ⟨details, errorNumber code⟩
  | e => ⟨toString e, 5⟩

/-- Read all that a stream still holds. -/
partial def readAll (stream : IO.FS.Stream) (read : ByteArray) : IO ByteArray := do
  let chunk ← stream.read 65536
  if chunk.isEmpty then return read else readAll stream (read ++ chunk)

/-- Read a source. -/
def readSource : Source → IO (Except ReadFault (List UInt8))
  | .standardInput => do return .ok (← readAll (← IO.getStdin) .empty).toList
  | .file path => do
    try return .ok (← IO.FS.readBinFile path).toList
    catch e => return .error (ReadFault.ofError e)

end BareCode.CommandLine

/-- Answer one call of the program. -/
def main (args : List String) : IO UInt32 := do
  let environment := (← IO.getEnv "DECOMMENT_LANGS").map String.toList
  let response ←
    BareCode.CommandLine.execute environment (args.map String.toList) BareCode.CommandLine.readSource
  for line in response.errors do
    IO.eprintln (String.ofList line)
  IO.print (String.ofList response.output)
  return response.status.toUInt32
