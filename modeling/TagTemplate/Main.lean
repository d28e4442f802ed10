import TagTemplate.Command

/-!
The command line program.
-/

namespace TagTemplate

def readFailure : IO.Error → String
  | .noFileOrDirectory _ code details | .permissionDenied _ code details
  | .inappropriateType _ code details | .resourceExhausted _ code details
  | .invalidArgument _ code details => s!"{details} (os error {code})"
  | error => toString error

def runProgram (arguments : List String) : IO UInt32 := do
  let path := (Command.ofArguments arguments).toOption.bind Command.path?
  let content ← match path with
    | none => pure (.ok .empty)
    | some path =>
        try
          let bytes ← IO.FS.readBinFile path
          pure (.ok bytes)
        catch error => pure (.error (readFailure error))
  let outcome := Command.run arguments fun _ => content
  let output ← IO.getStdout
  output.write outcome.output
  output.flush
  IO.eprint outcome.errorOutput
  return outcome.exitCode.toUInt32

end TagTemplate

def main (arguments : List String) : IO UInt32 :=
  TagTemplate.runProgram arguments
