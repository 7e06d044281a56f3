import LexicalGrammar.Command.Response

/-
The program: reads the files that its command line asks for, and writes the answer.
-/
namespace LexicalGrammar.Main

/-- The numbers of the system that tell of a directory, of either sign. -/
def directoryCodes : List UInt32 := [21, 0 - 21]

def failure : IO.Error → ReadFailure
  | .inappropriateType _ code _ =>
    if directoryCodes.contains code then .isDirectory else .notDirectory
  | _ => .notFound

def readText (path : String) : IO (Except ReadFailure String) := do
  try
    match String.fromUTF8? (← IO.FS.readBinFile path) with
    | some text => return .ok text
    | none => return .error .invalidText
  catch e => return .error (failure e)

def readAll (paths : List String) : IO (List (String × Except ReadFailure String)) :=
  paths.mapM fun path => return (path, ← readText path)

end LexicalGrammar.Main

open LexicalGrammar in
def main (arguments : List String) : IO UInt32 := do
  let files ← Main.readAll (Command.paths arguments)
  let readFile (path : String) : Except ReadFailure String :=
    (files.lookup path).getD (.error .notFound)
  let response := Command.respond readFile (← IO.getEnv "RUST_LOG") arguments
  IO.eprint response.log
  IO.print response.output
  return response.status.toUInt32
