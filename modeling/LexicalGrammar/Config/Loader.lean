import LexicalGrammar.Config.Settings
import LexicalGrammar.Files
import LexicalGrammar.Toml.Reader

/-
Layers of configuration: the defaults, files over them in their order, and single settings over all
files.
-/
namespace LexicalGrammar.Config

structure Source where
  path : String
  required : Bool
  deriving Repr, DecidableEq

/-- What is put over the defaults. A setting with the same key as an earlier one replaces it. -/
structure Loader where
  sources : List Source := []
  overrides : List (Key × Value) := []
  deriving Repr, Inhabited

def defaults : List (String × Value) :=
  let options : Pattern.Options := {}
  [("pattern", .table
    [("case_insensitive", .bool options.caseInsensitive), ("size_limit", .int options.sizeLimit)]
    none),
  ("resolution", .table [("on_failure", .text FailurePolicy.abort.name)] none)]

/-- Puts the settings of a layer over a value. A name that reads as a key stands for that key. -/
def layer (entries : List (String × Value)) (root : Value) : Value :=
  entries.foldl (fun root (name, v) =>
    match Key.parse name with
    | .ok key => root.set key v
    | .error _ => root.put name v) root

namespace Source

/-- The files that a path may stand for: the one with just this name, or else the one whose name
goes on with `.toml`. -/
def candidates (path : String) : List String :=
  path :: if (Path.fileName? path).isSome then [Path.normalize path ++ ".toml"] else []

/-- A file that is there. If its bytes are no text, it has none. -/
structure File where
  path : String
  text? : Option String
  deriving Repr, DecidableEq

/-- The first of some files that is there. One whose bytes are no text is not passed over. -/
def firstOf (readFile : String → Except ReadFailure String) : List String → Option File
  | [] => none
  | path :: rest =>
    match readFile path with
    | .ok text => some ⟨path, some text⟩
    | .error .invalidText => some ⟨path, none⟩
    | .error _ => firstOf readFile rest

def withoutMark (text : String) : String :=
  match text.toList with
  | '\ufeff' :: cs => String.ofList cs
  | _ => text

def read (readFile : String → Except ReadFailure String) (s : Source) :
    Except Fault (List (String × Value)) :=
  match firstOf readFile (candidates s.path) with
  | none => if s.required then .error (.missingFile s.path) else .ok []
  | some file =>
    let origin := Path.normalize file.path
    match file.text?.bind fun text => Toml.read? (withoutMark text) with
    | some entries => .ok (Value.ofTomlEntries (some origin) entries)
    | none => .error (.malformedFile origin)

end Source

namespace Loader

def withFile (l : Loader) (path : String) : Loader :=
  { l with sources := l.sources ++ [⟨path, true⟩] }

def withOptionalFile (l : Loader) (path : String) : Loader :=
  { l with sources := l.sources ++ [⟨path, false⟩] }

def addOverride (key : Key) (v : Value) : List (Key × Value) → List (Key × Value)
  | [] => [(key, v)]
  | e :: rest => if e.1 = key then (key, v) :: rest else e :: addOverride key v rest

def setOverride (l : Loader) (key : String) (v : Value) : Except Fault Loader :=
  match Key.parse key with
  | .ok key => .ok { l with overrides := addOverride key v l.overrides }
  | .error cause => .error (.badKey cause)

def merged (l : Loader) (readFile : String → Except ReadFailure String) : Except Fault Value := do
  let base := layer defaults .emptyTable
  let files ← l.sources.mapM (Source.read readFile)
  let root := files.foldl (fun root entries => layer entries root) base
  return l.overrides.foldl (fun root (key, v) => root.set key v) root

def build (l : Loader) (readFile : String → Except ReadFailure String) : Except Fault Config := do
  ofValue (← l.merged readFile)

end Loader
end LexicalGrammar.Config
