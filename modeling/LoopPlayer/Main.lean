import LoopPlayer.Replay.Command

/-! The command: replay a program from a file and print what the replay shows. -/
namespace LoopPlayer.Main

def readFile (path : String) : IO (Except SourceFile.Error String) := do
  let path := SourceFile.normalise path
  try
    let bytes ← IO.FS.readBinFile path
    return SourceFile.decode bytes.toList
  catch
    | .noFileOrDirectory .. => return .error (.notFound path)
    | .inappropriateType _ 21 _ => return .error (.isFolder path)
    | .inappropriateType .. => return .error (.notAFolder path)
    | .invalidArgument .. => return .error (.nameTooLong path)
    | error => throw error

def sourceFile (arguments : List String) : IO (Except SourceFile.Error String) :=
  match Replay.Arguments.parse arguments with
  | .options { source := some path, .. } => readFile path
  | _ => return .ok ""

end LoopPlayer.Main

open LoopPlayer in
def main (arguments : List String) : IO UInt32 := do
  let source ← Main.sourceFile arguments
  let outcome := Replay.Command.run (fun _ => source) arguments
  (← IO.getStdout).putStr outcome.stdout
  let stderr ← IO.getStderr
  stderr.putStr (String.join (outcome.reports.map (· ++ "\n")) ++ outcome.stderr)
  match outcome.failure with
  | some failure =>
    stderr.putStr (failure.message ++ "\n")
    return 1
  | none => return (outcome.status.getD 0).toUInt32
