import CodeGauge.CommandLine.Run

/-!
The program itself. It has no parsers built in, so every language is read as text.
-/
namespace CodeGauge.CommandLine

/-- The settings that are present in the environment. -/
def readEnvironment : IO Environment := do
  let settings ← Setting.all.mapM fun name => do
    return (← IO.getEnv (String.ofList name)).map fun value => (name, value.toList)
  return settings.filterMap id

/-- The fault with a number, which may come with a minus sign in two's complement. -/
def faultOfCode (code : UInt32) : FileFault :=
  .ofCode (min code (0 - code)).toNat

def faultOf : IO.Error → FileFault
  | .noFileOrDirectory _ code _ => faultOfCode code
  | .permissionDenied _ code _ => faultOfCode code
  | .inappropriateType _ code _ => faultOfCode code
  | .invalidArgument _ code _ => faultOfCode code
  | _ => .unreadable

/-- The bytes of a file. -/
def readBytes (path : Path) : IO (Except FileFault (List UInt8)) := do
  try
    let bytes ← IO.FS.readBinFile (String.ofList path.toText)
    return .ok bytes.toList
  catch e => return .error (faultOf e)

/-- Prints how a run ended and gives the exit code. -/
def Outcome.report (o : Outcome) : IO UInt32 := do
  (← IO.getStdout).putStr (String.ofList o.output)
  (← IO.getStderr).putStr (String.ofList o.errors)
  return UInt32.ofNat o.exitCode

end CodeGauge.CommandLine

open CodeGauge.CommandLine

def main (words : List String) : IO UInt32 := do
  let env ← readEnvironment
  let outcome ← run (.ofParsers fun _ => none) readBytes env (words.map String.toList)
  outcome.report
