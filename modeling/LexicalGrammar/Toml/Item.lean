import LexicalGrammar.Toml.Moment

/-
TOML values, and documents while they are read. Each table is written once: a header opens a table
that is new or was only implied, and a dotted key enters tables that dotted keys have made.
-/
namespace LexicalGrammar.Toml

inductive Value where
  | text (value : String)
  | int (value : Int)
  | float (value : Float)
  | bool (value : Bool)
  | moment (value : Moment)
  | list (items : List Value)
  | table (entries : List (String × Value))
  deriving Repr, Inhabited

inductive Kind where
  /-- By a header of its own. -/
  | written
  /-- By a header of a table below it. -/
  | implied
  /-- By a dotted key. -/
  | dotted
  deriving Repr, DecidableEq

/-- What stands under a key. A list of tables holds the tables before its last one in reverse. -/
inductive Item where
  | value (value : Value)
  | table (kind : Kind) (entries : List (String × Item))
  | tables (before : List (List (String × Item))) (last : List (String × Item))
  deriving Inhabited

abbrev Entries := List (String × Item)

namespace Entries

def replace (entries : Entries) (key : String) (item : Item) : Entries :=
  entries.map fun e => if e.1 = key then (key, item) else e

/-- An operation on a table of some kind; none if the document is not allowed to do it. -/
abbrev Change := Kind → Entries → Option Entries

/-- Changes the table at the end of a path. Tables that are not there are made, and of a list of
tables the last one counts. The keys of a dotted path may not lead through a written table. -/
def descend (dotted : Bool) (change : Change) : List String → Change
  | [], kind, entries => change kind entries
  | key :: path, _, entries =>
    match entries.lookup key with
    | none => do
      let kind : Kind := if dotted then .dotted else .implied
      return entries ++ [(key, .table kind (← descend dotted change path kind []))]
    | some (.value _) => none
    | some (.table kind inner) =>
      if dotted && kind = .written then none
      else do
        return entries.replace key (.table kind (← descend dotted change path kind inner))
    | some (.tables before last) => do
      return entries.replace key (.tables before (← descend dotted change path .written last))

def enter (key : String) (item : Item) : Change := fun _ entries =>
  match entries.lookup key with
  | none => some (entries ++ [(key, item)])
  | some _ => none

def splitLast : List String → Option (List String × String)
  | [] => none
  | [key] => some ([], key)
  | key :: keys => (splitLast keys).map fun (path, last) => (key :: path, last)

def assign (keys : List String) (value : Value) : Change := fun kind entries => do
  let (path, key) ← splitLast keys
  let change : Change := fun kind entries =>
    if path.isEmpty || kind = .dotted then enter key (.value value) kind entries else none
  descend true change path kind entries

def openTable (keys : List String) (entries : Entries) : Option Entries := do
  let (path, key) ← splitLast keys
  let change : Change := fun _ entries =>
    match entries.lookup key with
    | none => some (entries ++ [(key, .table .written [])])
    | some (.table .implied inner) => some (entries.replace key (.table .written inner))
    | some _ => none
  descend false change path .written entries

def openElement (keys : List String) (entries : Entries) : Option Entries := do
  let (path, key) ← splitLast keys
  let change : Change := fun _ entries =>
    match entries.lookup key with
    | none => some (entries ++ [(key, .tables [] [])])
    | some (.tables before last) => some (entries.replace key (.tables (last :: before) []))
    | some _ => none
  descend false change path .written entries

mutual
def valueOf : Item → Value
  | .value v => v
  | .table _ entries => .table (valuesOf entries)
  | .tables before last => .list ((tablesOf before).reverse ++ [.table (valuesOf last)])

def valuesOf : List (String × Item) → List (String × Value)
  | [] => []
  | (key, item) :: rest => (key, valueOf item) :: valuesOf rest

def tablesOf : List (List (String × Item)) → List Value
  | [] => []
  | entries :: rest => .table (valuesOf entries) :: tablesOf rest
end

end Entries
end LexicalGrammar.Toml
