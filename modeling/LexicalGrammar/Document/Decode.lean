import LexicalGrammar.Document.Basic
import LexicalGrammar.Text.Quoted

/-
From documents to values of a known shape. Entries are judged one by one from left to right, so the
first thing wrong is the one that is told.
-/
namespace LexicalGrammar.Document

inductive Step where
  | field (name : String)
  | index (place : Nat)
  | unnamed
  deriving Repr, DecidableEq

/-- Why a document is not of the wanted shape; `ε` is what else a value may be refused for. -/
inductive Cause (ε : Type) where
  | wrongType (found wanted : String)
  | wrongValue (found wanted : String)
  | wrongLength (length : Nat) (record : String) (fields : Nat)
  | unknownField (name : String) (known : List String)
  | duplicateField (name : String)
  | missingField (name : String)
  | unknownVariant (name : String) (known : List String)
  | refused (reason : ε)
  deriving Repr, DecidableEq

/-- What went wrong first: the document has another shape, or it could not be read. -/
inductive Fault (ε : Type) where
  | shape (path : List Step) (cause : Cause ε)
  | reading (fault : ReadFault)
  deriving Repr, DecidableEq

abbrev Decoded (ε α : Type) := Except (Fault ε) α

structure Convention (Leaf : Type) where
  text? : Leaf → Option String
  found : Leaf → String
  /-- What a leaf claims to be, if it is not. -/
  claimed? : Leaf → Option String
  /-- Whether a leaf stands for no value; an error says what it claims to be and is not. -/
  isAbsent : Leaf → Except String Bool
  isBlank : Leaf → Bool
  /-- Whether a list of the fields in order may stand for a record. -/
  positional : Bool

section
variable {ε α β σ Leaf : Type}

def Fault.below (step : Step) : Fault ε → Fault ε
  | .shape path cause => .shape (step :: path) cause
  | .reading fault => .reading fault

def Decoded.below (step : Step) (r : Decoded ε α) : Decoded ε α :=
  r.mapError (Fault.below step)

def fail (cause : Cause ε) : Decoded ε α :=
  .error (.shape [] cause)

def wrongLeaf (c : Convention Leaf) (wanted : String) (value : Leaf) : Decoded ε α :=
  match c.claimed? value with
  | some claimed => fail (.wrongValue (c.found value) claimed)
  | none => fail (.wrongType (c.found value) wanted)

def wrongType (c : Convention Leaf) (wanted : String) : Document Leaf → Decoded ε α
  | .leaf value => wrongLeaf c wanted value
  | .list .. => fail (.wrongType "sequence" wanted)
  | .table .. => fail (.wrongType "map" wanted)
  | .alias t => wrongType c wanted t
  | .broken fault => .error (.reading fault)

def textOf (c : Convention Leaf) (wanted : String) (t : Document Leaf) : Decoded ε String :=
  match t.target with
  | .leaf value =>
    match c.text? value with
    | some text => .ok text
    | none => wrongLeaf c wanted value
  | t => wrongType c wanted t

/-- Nothing if the collection was closed, or the fault at its end. -/
def closed : Option ReadFault → Decoded ε Unit
  | none => .ok ()
  | some fault => .error (.reading fault)

/-- Items read one by one and then judged. The judgement belongs to the list, not to the item. -/
def itemsFrom (read : Document Leaf → Decoded ε α) (judge : α → Except ε β) :
    Nat → List (Document Leaf) → Decoded ε (List β)
  | _, [] => .ok []
  | place, t :: rest => do
    let a ← Decoded.below (.index place) (read t)
    match judge a with
    | .error reason => fail (.refused reason)
    | .ok b => return b :: (← itemsFrom read judge (place + 1) rest)

def listOf (c : Convention Leaf) (read : Document Leaf → Decoded ε α) (judge : α → Except ε β)
    (t : Document Leaf) : Decoded ε (List β) :=
  match t.target with
  | .list items ending => do
    let values ← itemsFrom read judge 0 items
    closed ending
    return values
  | .leaf value => if c.isBlank value then .ok [] else wrongType c "a sequence" (.leaf value)
  | t => wrongType c "a sequence" t

def textsOf (c : Convention Leaf) (t : Document Leaf) : Decoded ε (List String) :=
  listOf c (textOf c "a string") .ok t

def optional (c : Convention Leaf) (read : Document Leaf → Decoded ε α) (t : Document Leaf) :
    Decoded ε (Option α) :=
  match t.target with
  | .leaf value =>
    match c.isAbsent value with
    | .ok true => .ok none
    | .ok false => (read t).map some
    | .error claimed => fail (.wrongValue (c.found value) claimed)
  | _ => (read t).map some

/-- A field of a record: how it is put into a draft of the record, and whether it is there. -/
structure Field (ε Leaf σ : Type) where
  name : String
  required : Bool
  isSet : σ → Bool
  set : Document Leaf → σ → Decoded ε σ

structure Record (ε Leaf σ : Type) where
  name : String
  fields : List (Field ε Leaf σ)

namespace Record

def fieldNames (r : Record ε Leaf σ) : List String :=
  r.fields.map (·.name)

def stepOf (name : String) : Document Leaf → Step
  | .leaf _ => .field name
  | _ => .unnamed

def addEntry (r : Record ε Leaf σ) (c : Convention Leaf) (draft : σ)
    (entry : Document Leaf × Document Leaf) : Decoded ε σ := do
  let name ← textOf c "field identifier" entry.1
  match r.fields.find? (·.name = name) with
  | none => fail (.unknownField name r.fieldNames)
  | some f =>
    if f.isSet draft then fail (.duplicateField name)
    else Decoded.below (stepOf name entry.1) (f.set entry.2 draft)

def complete (r : Record ε Leaf σ) (draft : σ) : Decoded ε σ :=
  match r.fields.find? fun f => f.required && !f.isSet draft with
  | some f => fail (.missingField f.name)
  | none => .ok draft

def addItems (r : Record ε Leaf σ) (ending : Option ReadFault) :
    Nat → List (Field ε Leaf σ) → List (Document Leaf) → σ → Decoded ε σ
  | _, [], [], draft => do
    closed ending
    return draft
  | _, [], _ :: _, _ => .error (.reading .malformed)
  | place, f :: fields, [], draft => do
    closed ending
    if f.required then fail (.wrongLength place r.name r.fields.length)
    else addItems r ending (place + 1) fields [] draft
  | place, f :: fields, t :: rest, draft => do
    addItems r ending (place + 1) fields rest
      (← Decoded.below (.index place) (f.set t draft))

def read (r : Record ε Leaf σ) (c : Convention Leaf) (start : σ) (t : Document Leaf) : Decoded ε σ :=
  let wanted := "struct " ++ r.name
  match t.target with
  | .table entries ending => do
    let draft ← entries.foldlM (r.addEntry c) start
    closed ending
    r.complete draft
  | .list items ending =>
    if c.positional then r.addItems ending 0 r.fields items start
    else wrongType c wanted (.list items ending)
  | .leaf value =>
    if c.isBlank value then r.complete start else wrongType c wanted (.leaf value)
  | t => wrongType c wanted t

end Record

/-- The value of a whole text: what is wrong behind the document counts last. -/
def Reading.decode (r : Reading Leaf) (read : Document Leaf → Decoded ε α) : Decoded ε α := do
  let value ← read r.tree
  closed r.trailing
  return value

end

def oneOf (names : List String) : String :=
  let quotedNames := names.map fun n => "`" ++ n ++ "`"
  match quotedNames with
  | [a, b] => a ++ " or " ++ b
  | [a] => a
  | names => "one of " ++ String.intercalate ", " names

namespace Cause
variable {ε : Type}

def message (reason : ε → String) : Cause ε → String
  | .wrongType found wanted => s!"invalid type: {found}, expected {wanted}"
  | .wrongValue found wanted => s!"invalid value: {found}, expected {wanted}"
  | .wrongLength length record fields =>
    s!"invalid length {length}, expected struct {record} with {fields} element" ++
      if fields = 1 then "" else "s"
  | .unknownField name known => s!"unknown field `{name}`, expected {oneOf known}"
  | .duplicateField name => s!"duplicate field `{name}`"
  | .missingField name => s!"missing field `{name}`"
  | .unknownVariant name known => s!"unknown variant `{name}`, expected {oneOf known}"
  | .refused why => reason why

end Cause

/-- A path as text, such as `rules[1].next`; empty at the top. -/
def pathText (path : List Step) : String :=
  let add (text : String) (step : Step) : String :=
    let dot := if text.isEmpty then "" else "."
    match step with
    | .field name => text ++ dot ++ name
    | .index place => text ++ s!"[{place}]"
    | .unnamed => text ++ dot ++ "?"
  path.foldl add ""

end LexicalGrammar.Document
