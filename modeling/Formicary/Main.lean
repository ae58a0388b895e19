import Formicary.CommandLine.Arguments
import Formicary.CommandLine.Execute

/-!
# The program

The command line tool: it reads the files that a request names, prints the outcome, and writes
the file that the outcome asks for.
-/

namespace Formicary.CommandLine

/-- The files that a command reads. -/
def filesOf : Command → List String
  | .run request => [request.red, request.black, request.world]
  | .generate _ _ => []
  | .checkBrain file => [file]
  | .checkWorld file _ => [file]

/-- The code with which the system reports an error. -/
def systemCode? : IO.Error → Option UInt32
  | .alreadyExists _ code _ | .interrupted _ code _ | .noFileOrDirectory _ code _
  | .invalidArgument _ code _ | .permissionDenied _ code _ | .resourceExhausted _ code _
  | .inappropriateType _ code _ | .noSuchThing _ code _ => some code
  | .otherError code _ | .resourceBusy code _ | .resourceVanished code _
  | .unsupportedOperation code _ | .hardwareFault code _ | .unsatisfiedConstraints code _
  | .illegalOperation code _ | .protocolError code _ | .timeExpired code _ => some code
  | .unexpectedEof | .userError _ => none

/-- The system's number of an error, whose sign may be reversed in its code. -/
def systemNumber (code : UInt32) : Nat :=
  if code < 0x80000000 then code.toNat else (0 - code).toNat

/-- The failure that the system reports. -/
def fileErrorOf (error : IO.Error) : FileError :=
  match (systemCode? error).bind fun code => FileError.ofNumber? (systemNumber code) with
  | some failure => failure
  | none => .system (toString error)

/-- Read a file. -/
def loadFile (path : String) : IO (Except FileError ByteArray) := do
  try
    return .ok (← IO.FS.readBinFile path)
  catch error => return .error (fileErrorOf error)

/-- A seed that nobody asked for. -/
def randomSeed : IO UInt64 := do
  let bytes ← IO.getRandomBytes 8
  return bytes.foldl (fun seed byte => seed * 256 + byte.toUInt64) 0

/-- Milliseconds with three decimals. -/
def milliseconds (nanoseconds : Nat) : String :=
  let micros := toString (nanoseconds / 1000 % 1000)
  let zeros := String.ofList (List.replicate (3 - micros.length) '0')
  toString (nanoseconds / 1000000) ++ "." ++ zeros ++ micros

/-- Print a failure. -/
def reportFailure (failure : Failure) : IO UInt32 := do
  IO.eprint failure.output
  return 1

/-- Execute a request, write its file and print its outcome. -/
def fulfil (request : Request) : IO UInt32 := do
  let contents ← (filesOf request.command).mapM fun path => do return (path, ← loadFile path)
  let seed ← randomSeed
  let read path := match contents.lookup path with
    | some content => content
    | none => .error .missing
  let started ← IO.monoNanosNow
  match execute { read, seed } request.command with
  | .error failure => reportFailure failure
  | .ok outcome =>
    let finished ← IO.monoNanosNow
    match outcome.file? with
    | none =>
      IO.print (outcome.output (milliseconds (finished - started)))
      return 0
    | some (path, text) =>
      try
        -- Success is announced only after the file has been written.
        IO.FS.withFile path .write fun file => do
          file.putStr text
          file.flush
        IO.print (outcome.output (milliseconds (finished - started)))
        return 0
      catch error => reportFailure (.file (fileErrorOf error))

/-- How the tool is used. -/
def usage : String :=
  "🐜 Ant colony battle simulator\n\n" ++
  "Usage: formicary [-v] <COMMAND>\n\n" ++
  "Commands:\n" ++
  "  run --red FILE --black FILE --world FILE [--rounds N] [--seed N] [--contest] [--quiet]\n" ++
  "  generate [--seed N] [--out FILE]\n" ++
  "  check-brain FILE\n" ++
  "  check-world FILE [--contest]\n" ++
  "  help\n"

/-- What is wrong with a command line, in words. -/
def usageMessage : UsageError → String
  | .nothingGiven => "nothing to do"
  | .helpRequested => "help"
  | .missingCommand => "a command is required"
  | .unknownCommand => "there is no such command"
  | .unknownArgument => "unexpected argument"
  | .emptyValue => "a value is required"
  | .badNumber => "a value is no number in range"
  | .surplusValue => "unexpected value"
  | .repeatedArgument => "an argument cannot be used twice"
  | .missingArgument => "a required argument is missing"

/-- Run the tool. The exit code is `0` on success, `1` on a failure and `2` on a command line that
is no request. -/
def runProgram (args : List String) : IO UInt32 := do
  match parse args with
  | .ok request => fulfil request
  | .error .helpRequested =>
    IO.print usage
    return 0
  | .error error =>
    IO.eprint ("error: " ++ usageMessage error ++ "\n\n" ++ usage)
    return 2

end Formicary.CommandLine

def main (args : List String) : IO UInt32 := Formicary.CommandLine.runProgram args
