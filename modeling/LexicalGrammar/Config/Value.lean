import LexicalGrammar.Config.Key
import LexicalGrammar.Decimal.Shortest
import LexicalGrammar.Text.Quoted
import LexicalGrammar.Toml.Item
import LexicalGrammar.Unicode.Lowercase
import LexicalGrammar.Word

/-
Values of settings, and how one is put where a key says. Keys are kept in lower case.
-/
namespace LexicalGrammar.Config

inductive Whole where
  | signed64 (value : Int64)
  | unsigned64 (value : UInt64)
  | signed128 (value : BitVec 128)
  | unsigned128 (value : BitVec 128)
  deriving Repr, DecidableEq

namespace Whole

def toInt : Whole → Int
  | .signed64 n => n.toInt
  | .unsigned64 n => n.toNat
  | .signed128 n => n.toInt
  | .unsigned128 n => n.toNat

-- Documents hold numbers of 64 bits only: those with a sign, and greater ones without.
def ofInt (n : Int) : Whole :=
  if Word.fitsSigned n then .signed64 (Int64.ofInt n) else .unsigned64 (UInt64.ofNat n.toNat)

def form : Whole → String
  | .signed64 _ => "64-bit integer"
  | .unsigned64 _ => "64-bit unsigned integer"
  | .signed128 _ => "128-bit integer"
  | .unsigned128 _ => "128-bit unsigned integer"

def found (n : Whole) : String :=
  let plain := s!"integer `{n.toInt}`"
  match n with
  | .signed64 _ | .unsigned64 _ => plain
  | .signed128 _ => plain ++ " as i128"
  | .unsigned128 _ => plain ++ " as u128"

def size? (n : Whole) : Option Nat :=
  if 0 ≤ n.toInt ∧ Word.fits n.toInt.toNat = true then some n.toInt.toNat else none

end Whole

inductive Leaf where
  | nil
  | bool (value : Bool)
  | int (value : Whole)
  | float (value : Float)
  | text (value : String)
  deriving Repr, Inhabited

/-- A value, with the file that it comes from, if it comes from one. -/
inductive Value where
  | leaf (value : Leaf) (origin : Option String)
  | list (items : List Value) (origin : Option String)
  | table (entries : List (String × Value)) (origin : Option String)
  deriving Repr, Inhabited

namespace Value

def nil : Value := .leaf .nil none

def bool (value : Bool) : Value := .leaf (.bool value) none

def int (value : Int) : Value := .leaf (.int (.ofInt value)) none

def text (value : String) : Value := .leaf (.text value) none

def emptyTable : Value := .table [] none

def origin : Value → Option String
  | .leaf _ origin | .list _ origin | .table _ origin => origin

def found : Value → String
  | .leaf .nil _ => "unit value"
  | .leaf (.bool value) _ => s!"boolean `{value}`"
  | .leaf (.int value) _ => value.found
  | .leaf (.float value) _ => "floating point `" ++ Decimal.Style.positionalOnly.render value ++ "`"
  | .leaf (.text value) _ => "string " ++ LexicalGrammar.Text.quoted value
  | .list .. => "sequence"
  | .table .. => "map"

mutual
/-- The value in a TOML document; moments are texts. -/
def ofToml (origin : Option String) : Toml.Value → Value
  | .text s => .leaf (.text s) origin
  | .int n => .leaf (.int (.ofInt n)) origin
  | .float x => .leaf (.float x) origin
  | .bool b => .leaf (.bool b) origin
  | .moment m => .leaf (.text m.text) origin
  | .list items => .list (ofTomlItems origin items) origin
  | .table entries => .table (ofTomlEntries origin entries) origin

def ofTomlItems (origin : Option String) : List Toml.Value → List Value
  | [] => []
  | v :: rest => ofToml origin v :: ofTomlItems origin rest

def ofTomlEntries (origin : Option String) : List (String × Toml.Value) → List (String × Value)
  | [] => []
  | (key, v) :: rest => (key, ofToml origin v) :: ofTomlEntries origin rest
end

def get? (v : Value) (key : String) : Option Value :=
  match v with
  | .table entries _ => entries.lookup key
  | _ => none

def insertEntry (key : String) (v : Value) : List (String × Value) → List (String × Value)
  | [] => [(key, v)]
  | e :: rest => if e.1 = key then (key, v) :: rest else e :: insertEntry key v rest

/-- Puts a value under a key; what is no table becomes one. -/
def insert (target : Value) (key : String) (v : Value) : Value :=
  match target with
  | .table entries origin => .table (insertEntry key v entries) origin
  | _ => .table [(key, v)] none

mutual
/-- Puts a value under a name. A table is merged into what stands there. -/
def put : Value → String → Value → Value
  | target, name, .table incoming _ =>
    let key := Unicode.lowercase name
    target.insert key (putAll ((target.get? key).getD emptyTable) incoming)
  | target, name, v => target.insert (Unicode.lowercase name) v

def putAll : Value → List (String × Value) → Value
  | target, [] => target
  | target, (name, v) :: rest => putAll (put target name v) rest
end

/-- Changes what stands under a name; that is nil if there is nothing. -/
def changeChild (target : Value) (name : String) (change : Value → Value) : Value :=
  let key := Unicode.lowercase name
  target.insert key (change ((target.get? key).getD nil))

/-- A list that is long enough to have a place, and the place counted from its front. Missing items
are nil. -/
def extended (items : List Value) (place : Int) : List Value × Nat :=
  let back := (-place).toNat
  if 0 ≤ place then
    (items ++ List.replicate (place.toNat + 1 - items.length) nil, place.toNat)
  else if back ≤ items.length then (items, items.length - back)
  else (List.replicate (back - items.length) nil ++ items, 0)

def changeItem (target : Value) (place : Int) (change : Value → Value) : Value :=
  let (items, origin) := match target with
    | .list items origin => (items, origin)
    | _ => ([], none)
  let (items, n) := extended items place
  .list (items.modify n change) origin

def setAt (v : Value) : List Step → Value → Value
  | [], _ => v
  | [.child name], target => target.put name v
  | .child name :: rest, target => target.changeChild name (setAt v rest)
  | .index place :: rest, target => target.changeItem place (setAt v rest)

def set (target : Value) (key : Key) (v : Value) : Value :=
  setAt v key.steps target

end Value
end LexicalGrammar.Config
