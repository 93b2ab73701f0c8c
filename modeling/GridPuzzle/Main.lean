import GridPuzzle.Script

/-!
# Command line

Takes the path of a description and maybe the path of the file that the model is written to.
-/

namespace GridPuzzle.Script

/-- Compiles the description in a file, and prints the model or writes it into another file. -/
def compileFile (source : String) (target : Option String) : IO UInt32 := do
  let text ← IO.FS.readFile source
  match run (Text.ofPlain source) (Text.ofPlain text) (target.map Text.ofPlain) with
  | .error fault =>
    IO.eprintln (Text.toPlain fault.settled.message)
    return 1
  | .ok report =>
    match target, report.file with
    | some path, some content =>
      IO.FS.createDirAll (directoryOf path)
      IO.FS.writeFile path (Text.toPlain content)
    | _, _ => pure ()
    IO.print (Text.toPlain report.output)
    return 0

end GridPuzzle.Script

def main (args : List String) : IO UInt32 :=
  match args with
  | [source] => GridPuzzle.Script.compileFile source none
  | [source, target] => GridPuzzle.Script.compileFile source (some target)
  | _ => do
    IO.eprintln "expected the path of a description and maybe a path for the model"
    return 2
