import QuadOpt.Demo

/-!
# The command line

Runs the demonstration. The argument names a configuration file; the variable `QUADOPT_LOG` holds the
log filter.
-/

namespace QuadOpt.Main

/-- Why a file could not be read, with the number of the system's error. -/
def reasonText : IO.Error → String
  | .noFileOrDirectory .. => "No such file or directory (os error 2)"
  | .permissionDenied .. => "Permission denied (os error 13)"
  | .inappropriateType .. => "Is a directory (os error 21)"
  | e => toString e

def sourceOf (args : List String) : IO Demo.Source := do
  match args with
  | [] => return .none
  | path :: _ =>
    try
      return .text (← IO.FS.readFile path)
    catch e => return .unreadable path (reasonText e)

/-- Prints the report, then what is wrong if something is. -/
def run (args : List String) : IO UInt32 := do
  let filter := Log.Filter.ofText ((← IO.getEnv "QUADOPT_LOG").getD "")
  let outcome := Demo.run .standard .native filter (← sourceOf args)
  for line in outcome.report do
    IO.println line
  if let some complaint := outcome.complaint then
    IO.eprintln complaint
  return outcome.exitCode

end QuadOpt.Main

def main (args : List String) : IO UInt32 := QuadOpt.Main.run args
