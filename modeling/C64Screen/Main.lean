import C64Screen.CommandLine.Run

/-!
# The program

Reads the files that the command line names, runs the request and prints its result. The log goes to the
error output.
-/

namespace C64Screen

open CommandLine

def readNode (path : String) : IO (Option Node) := do
  try
    return some (.file (← IO.FS.readBinFile path))
  catch e =>
    match e with
    | .inappropriateType .. => return some .directory
    | .noFileOrDirectory .. | .invalidArgument .. => return none
    | _ => return some .refused

def pathsOf (args : List String) : List String :=
  match Request.ofArgs args with
  | .ok r => r.paths
  | .error _ => []

def helpLines : List String :=
  ["usage: [-h] [--file FILE] [--config CONFIG] [--plain] [--x X] [--y Y] [--colour COLOUR] [--json]",
   "       [--log-level LEVEL] [text]"]

def describe : Failure → String
  | .nothingGiven s => s.label ++ " has no value"
  | .isDirectory => "is a directory"
  | .pathRefused => "a path cannot be followed"
  | .undecodable => "not a text in UTF-8"
  | .load e => e.message?.getD "not a text in UTF-8"
  | .screen e => e.message

def conclude : Except RunError Report → IO UInt32
  | .ok report => do
    IO.eprint report.log
    IO.print report.stdout
    return 0
  | .error (.refused .help) => do
    IO.println ("\n".intercalate helpLines)
    return 0
  | .error (.refused (.usage e)) => do
    IO.eprintln ("error: " ++ e.message)
    return 2
  | .error (.missing m) => do
    IO.eprintln m.message
    return 1
  | .error (.failed f) => do
    IO.eprintln ("error: " ++ describe f)
    return 1

end C64Screen

open C64Screen in
def main (args : List String) : IO UInt32 := do
  let paths := pathsOf args
  let nodes ← paths.mapM readNode
  let files : CommandLine.Files := fun path => ((paths.zip nodes).lookup path).join
  conclude (CommandLine.run files args)
