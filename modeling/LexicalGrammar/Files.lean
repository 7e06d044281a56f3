/-
Paths, and directories of files that are held in memory.
-/
namespace LexicalGrammar

inductive ReadFailure where
  | notFound
  | isDirectory
  | notDirectory
  | invalidText
  deriving Repr, DecidableEq

def ReadFailure.message : ReadFailure → String
  | .notFound => "No such file or directory (os error 2)"
  | .isDirectory => "Is a directory (os error 21)"
  | .notDirectory => "Not a directory (os error 20)"
  | .invalidText => "stream did not contain valid UTF-8"

namespace Path

def parts (path : String) : List String :=
  path.splitOn "/"

/-- The last name of a path. Slashes and single dots behind it do not count; two dots are no name. -/
def fileName? (path : String) : Option String :=
  match ((parts path).filter fun p => p ≠ "" && p ≠ ".").getLast? with
  | none | some ".." => none
  | name => name

/-- What follows the last dot of the last name, unless that dot is its first character. -/
def extension? (path : String) : Option String :=
  (fileName? path).bind fun name =>
    let ending := name.toList.reverse.takeWhile (· ≠ '.')
    if ending.length + 1 < name.length then some (String.ofList ending.reverse) else none

def normalize (path : String) : String :=
  let names := (parts path).filter fun p => p ≠ "" && p ≠ "."
  let start := if path.startsWith "/" then "/" else ""
  start ++ String.intercalate "/" names

end Path

/-- Files by their paths, which are written without empty or dotted parts. -/
structure Directory where
  files : List (String × String)
  deriving Repr, Inhabited

namespace Directory

def joined (names : List String) : String :=
  String.intercalate "/" names

def file? (d : Directory) (names : List String) : Option String :=
  d.files.lookup (joined names)

def isDirectory (d : Directory) (names : List String) : Bool :=
  names.isEmpty || d.files.any fun f => f.1.startsWith (joined names ++ "/")

/-- Goes down the parts of a path from the names on; `below` counts the steps above the top. -/
def walk (d : Directory) (names : List String) (above : Nat) : List String → Except ReadFailure String
  | [] =>
    if 0 < above then .error .isDirectory
    else
      match d.file? names with
      | some text => .ok text
      | none => if d.isDirectory names then .error .isDirectory else .error .notFound
  | p :: rest =>
    if 0 < above then
      if p = "" || p = "." then walk d names above rest
      else if p = ".." then walk d names (above + 1) rest
      else .error .notFound
    else if !d.isDirectory names then
      .error (if (d.file? names).isSome then .notDirectory else .notFound)
    else if p = "" || p = "." then walk d names above rest
    else if p = ".." then
      if names.isEmpty then walk d [] 1 rest else walk d names.dropLast 0 rest
    else walk d (names ++ [p]) 0 rest

def read (d : Directory) (path : String) : Except ReadFailure String :=
  if path = "" then .error .notFound
  else if path.startsWith "/" then
    if (Path.normalize path) = "/" then .error .isDirectory else .error .notFound
  else walk d [] 0 (Path.parts path)

end Directory
end LexicalGrammar
