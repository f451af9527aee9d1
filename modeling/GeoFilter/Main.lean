import GeoFilter.CommandLine

/-!
The program: it reads the files that its arguments name, and prints the answer.
-/

open GeoFilter

/-- The text of a file, if it can be read. -/
def fileContents (path : String) : IO (Option String) := do
  try
    return some (← IO.FS.readFile path)
  catch _ =>
    return none

def main (texts : List String) : IO UInt32 := do
  let outcome ←
    match Invocation.ofTexts? texts with
    | none => pure CommandLine.usage
    | some invocation => do
        let files ← invocation.files.mapM fun path => return (path, ← fileContents path)
        pure (CommandLine.run invocation fun path => (files.lookup path).join)
  outcome.output.forM IO.println
  outcome.errors.forM IO.eprintln
  return outcome.code.toUInt32
