import RequestFilter.Command.Basic

/-!
The command line program.
-/

set_option autoImplicit false

namespace RequestFilter

def Command.paths : Command → List String
  | .filter input _ prefs _ => input :: prefs.toList
  | .suggest _ input => input.toList
  | _ => []

/-- A span of nanoseconds in milliseconds, rounded to two places. -/
def milliseconds (nanoseconds : Nat) : String :=
  let hundredths := (nanoseconds + 5000) / 10000
  let places := toString (hundredths % 100)
  s!"{hundredths / 100}." ++ (if places.length < 2 then "0" else "") ++ places

def ReadError.ofIO : IO.Error → ReadError
  | .noFileOrDirectory _ _ _ => .notFound
  | .inappropriateType _ _ _ => .isDirectory
  | e => .other (toString e)

def readText (path : String) : IO (Except ReadError String) := do
  try
    let bytes ← IO.FS.readBinFile path
    match String.fromUTF8? bytes with
    | some text => return .ok text
    | none => return .error .notUtf8
  catch e => return .error (ReadError.ofIO e)

def readFiles (paths : List String) : IO Files := do
  let contents ← paths.mapM fun path => return (path, ← readText path)
  return fun path => ((contents.find? fun c => c.1 == path).map Prod.snd).getD (.error .notFound)

end RequestFilter

open RequestFilter

def main (args : List String) : IO UInt32 := do
  match Command.ofArgs? args with
  | none =>
    Command.usage.forM IO.eprintln
    return 2
  | some command =>
    let files ← readFiles command.paths
    let start ← IO.monoNanosNow
    let outcome := (command.run files).outcome
    let stop ← IO.monoNanosNow
    let transcript := Transcript.ofOutcome (milliseconds (stop - start)) outcome
    IO.print transcript.output
    transcript.messages.forM IO.eprintln
    return transcript.status
