import DatePartition.CommandLine.Run

/-!
# The program

Reads what a run needs of its surroundings, and shows what comes out.
-/

namespace DatePartition

open CommandLine

/-- The contents of a file. -/
def readFile (path : String) : IO (Except ReadFailure String) := do
  try
    return .ok (← IO.FS.readFile path)
  catch failure =>
    match failure with
    | .noFileOrDirectory .. => return .error .notFound
    | .inappropriateType .. => return .error .isDirectory
    | other => return .error (.other (toString other))

/-- The contents of the file that the arguments name, which is the only one a run reads. -/
def filesFor (arguments : List String) : IO Files := do
  match Invocation.ofArguments arguments with
  | .run a =>
    match a.config with
    | some path => do
      let contents ← readFile path
      return fun _ => contents
    | none => return fun _ => .error .notFound
  | _ => return fun _ => .error .notFound

end DatePartition

open DatePartition CommandLine

/-- Runs the program. -/
def main (arguments : List String) : IO UInt32 := do
  let files ← filesFor arguments
  let setting ← IO.getEnv "RUST_LOG"
  let shown := outcome files setting arguments
  IO.print shown.output
  for line in shown.log do
    IO.eprintln line
  if shown.error ≠ "" then
    IO.eprintln shown.error
  return shown.code.toUInt32
