import Chip8.Batch
import Chip8.Settings.CommandLine

/-! The command line: reads the settings and the program, runs it and prints what the run printed. The
    argument `demonstration` alone runs the program that is built in. -/

namespace Chip8

/-- The bytes of a file, or why it cannot be read. -/
def readProgram (path : String) : IO (Except HostError Program) := do
  try
    return .ok (← IO.FS.readBinFile path).toList
  catch _ => return .error (.file .missing path)

def Failure.report : Failure → String
  | .fault f => f.message
  | .host (.file _ path) => "Cannot read the file " ++ path
  | .host error => error.message?.getD ""

/-- Prints an outcome; gives the exit code. -/
def Outcome.emit (o : Outcome) : IO UInt32 := do
  IO.print o.console.text
  match o.result with
  | .ok () => return 0
  | .error failure =>
    IO.eprintln failure.report
    return 1

end Chip8

def main (arguments : List String) : IO UInt32 := do
  match arguments with
  | ["demonstration"] => (Chip8.Batch.demonstrate {}).emit
  | _ =>
    match Chip8.Settings.ofArguments arguments with
    | .error argument =>
      IO.eprintln ("Cannot use the argument " ++ argument)
      return 2
    | .ok settings =>
      let path := ((settings.resolved.bind (·.path)).toOption).getD ""
      let program ← Chip8.readProgram path
      (Chip8.Batch.run settings (fun _ => program) {}).emit
