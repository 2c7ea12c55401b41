import CiteRender.Command.Run

/-!
# The Program

Carries out the plan of a command line on the files of the machine. Events
go to the standard error, one on a line.
-/

namespace CiteRender

namespace Machine

/-- The fault of a number that the machine gives. -/
def ofCode (code : UInt32) (details : String) : FileFault :=
  match code with
  | 20 => .notDirectory
  | 21 => .isDirectory
  | 28 => .noSpace
  | 36 => .nameTooLong
  | code => .other (details ++ " (os error " ++ toString code ++ ")")

/-- Why the machine could not use a file. -/
def faultOf (error : IO.Error) : FileFault :=
  match error with
  | .noFileOrDirectory _ _ _ => .missing
  | .resourceVanished code details => ofCode code details
  | .resourceExhausted _ code details => ofCode code details
  | .permissionDenied _ code details => ofCode code details
  | .inappropriateType _ code details => ofCode code details
  | .invalidArgument _ code details => ofCode code details
  | error => .other (toString error)

/-- What came of an act on the machine. -/
def attempted {α : Type} (act : IO α) : IO (Except FileFault α) := do
  match ← act.toBaseIO with
  | .ok a => return .ok a
  | .error error => return .error (faultOf error)

/-- All that is left of a stream, after some bytes read from it. -/
partial def readAll (stream : IO.FS.Stream) (bytes : ByteArray) : IO ByteArray := do
  let more ← stream.read 65536
  if more.isEmpty then return bytes
  readAll stream (bytes ++ more)

/-- Carries out a plan on the machine. -/
def carryOut {α : Type} : Plan α → IO α
  | .done result => return result
  | .readInput next => do
    let bytes ← attempted (do readAll (← IO.getStdin) .empty)
    carryOut (next (bytes.bind decodeText))
  | .readFile path next => do
    let bytes ← attempted (IO.FS.readBinFile path)
    carryOut (next (bytes.bind decodeText))
  | .writeFile path text next => do
    let outcome ← attempted (IO.FS.writeBinFile path text.toUTF8)
    carryOut (next outcome)

/-- An event as a line. -/
def eventLine (event : Event) : String :=
  (match event.level with
    | .info => "INFO"
    | .warn => "WARN") ++ " " ++ event.message ++
    String.join (event.fields.map fun field => " " ++ field.1 ++ "=" ++ field.2)

/-- Shows a report, and gives its exit code. -/
def present (report : Report) : IO UInt32 := do
  let errors ← IO.getStderr
  for event in report.events do
    errors.putStrLn (eventLine event)
  errors.putStr report.complaint
  (← IO.getStdout).putStr report.output
  return report.code.toUInt32

end Machine

end CiteRender

/-- Runs a command line. -/
def main (arguments : List String) : IO UInt32 := do
  CiteRender.Machine.present (← CiteRender.Machine.carryOut (CiteRender.runCommandLine arguments))
