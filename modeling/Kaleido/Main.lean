import Kaleido.CommandLine

/-!
# The program

Runs the command line on the files of the system.
-/
namespace Kaleido.CommandLine

/-- Reads a file of the system. -/
def readFile (path : String) : IO (Except ReadFailure String) := do
  try
    return textOfBytes (← IO.FS.readBinFile path)
  catch
    | .noFileOrDirectory .. => return .error .notFound
    | .inappropriateType _ 21 _ => return .error .isDirectory
    | .inappropriateType .. => return .error .notDirectory
    | .invalidArgument _ 36 _ => return .error .nameTooLong
    | error => return .error (.other error.toString)

/-- Writes the pieces of a report in their order, given the duration of each phase. -/
def write (duration : Phase → Nat) (pieces : List Piece) : IO Unit := do
  let stdout ← IO.getStdout
  let stderr ← IO.getStderr
  for piece in pieces do
    match piece with
    | .out text => stdout.putStr text
    | .err text => stderr.putStr text
    | .elapsed label phase => stdout.putStr (label ++ durationText (duration phase) ++ "\n")

end Kaleido.CommandLine

open Kaleido.CommandLine in
/-- Runs the program. -/
def main (arguments : List String) : IO UInt32 := do
  let start ← IO.monoNanosNow
  let (report, read) ← match Options.parse arguments with
    | .error failure => pure (Report.failed [] failure, start)
    | .ok options => do
      let contents ← readFile options.file
      let read ← IO.monoNanosNow
      pure (report options contents, read)
  let finish ← IO.monoNanosNow
  let duration : Phase → Nat
    | .reading => read - start
    | .compiling => finish - read
    | .whole => finish - start
  write duration report.pieces
  return report.ending.status.toUInt32
