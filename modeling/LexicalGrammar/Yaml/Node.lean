import LexicalGrammar.Yaml.Scalar
import LexicalGrammar.Yaml.Token

/-
Nodes of YAML documents, made from tokens. An alias refers to a number; which node a number stands
for is only settled at the end of the document.
-/
namespace LexicalGrammar.Yaml

inductive Node where
  | scalar (value : Scalar)
  | list (items : List Node) (closed : Bool)
  | table (entries : List (Node × Node)) (closed : Bool)
  | alias (number : Nat)
  | broken
  deriving Repr, Inhabited

namespace Node

/-- An anchored node: the number of its anchor and when that was met. -/
structure Anchored where
  number : Nat
  order : Nat
  node : Node

/-- The tokens that are left, the numbers of the anchors by name, the nodes that have anchors, and
the starts that handles of tags stand for. -/
structure State where
  tokens : List Token
  anchors : List (String × Nat) := []
  anchored : List Anchored := []
  met : Nat := 0
  handles : List (String × String) := []

abbrev Parse (α : Type) := StateM State α

abbrev Progress (α : Type) := α × Bool

def peek? : Parse (Option Token) := return (← get).tokens.head?

def skip : Parse Unit :=
  modify fun s => { s with tokens := s.tokens.drop 1 }

def tagOf (handles : List (String × String)) (handle suffix : String) : Option String :=
  if handle.isEmpty then some suffix
  else
    match handles.lookup handle with
    | some start => some (start ++ suffix)
    | none =>
      if handle = "!" then some ("!" ++ suffix)
      else if handle = "!!" then some (Scalar.standardTag suffix)
      else none

structure Properties where
  anchor : Option String := none
  tag : Option (String × String) := none

def isAny (p : Properties) : Bool :=
  p.anchor.isSome || p.tag.isSome

def properties : Parse Properties := do
  match ← peek? with
  | some (.anchor name) =>
    skip
    match ← peek? with
    | some (.tag handle suffix) =>
      skip
      return ⟨some name, some (handle, suffix)⟩
    | _ => return ⟨some name, none⟩
  | some (.tag handle suffix) =>
    skip
    match ← peek? with
    | some (.anchor name) =>
      skip
      return ⟨some name, some (handle, suffix)⟩
    | _ => return ⟨none, some (handle, suffix)⟩
  | _ => return {}

/-- Numbers an anchor by how many names there are. A name that is met again gets a new number. -/
def meet (anchor : Option String) : Parse (Option (Nat × Nat)) := do
  match anchor with
  | none => return none
  | some name =>
    let s ← get
    let number := s.anchors.length
    set { s with
      anchors := (name, number) :: s.anchors.filter (·.1 ≠ name), met := s.met + 1 }
    return some (number, s.met)

def keep (mark : Option (Nat × Nat)) (n : Node) : Parse Unit :=
  match mark with
  | none => return
  | some (number, order) =>
    modify fun s => { s with anchored := ⟨number, order, n⟩ :: s.anchored }

def emptyScalar : Node := .scalar ⟨"", true, none⟩

def fault : Progress Node := (.broken, false)

def endsItem (indentless : Bool) : Token → Bool
  | .blockEntry | .blockEnd => true
  | .key | .value => indentless
  | _ => false

def endsPart : Token → Bool
  | .key | .value | .blockEnd => true
  | _ => false

/-- The entry of a key that was not read to its end, unless nothing of it was read. -/
def partialEntry : Node → List (Node × Node)
  | .broken => []
  | key => [(key, .broken)]

mutual
/-- A node. In a block it may be a block collection; after a key or a colon it may be a sequence
without an indentation of its own. -/
def node (block indentless : Bool) : Nat → Parse (Progress Node)
  | 0 => return fault
  | fuel + 1 => do
    match ← peek? with
    | some (.alias name) =>
      match (← get).anchors.lookup name with
      | none => return fault
      | some number =>
        skip
        return (.alias number, true)
    | _ =>
      let p ← properties
      match ← peek? with
      | none => return fault
      | some t =>
        let handles := (← get).handles
        let tag : Option (Option String) := match p.tag with
          | none => some none
          | some (handle, suffix) => (tagOf handles handle suffix).map some
        match tag with
        | none => return fault
        | some tag =>
          let collection (read : Parse (Progress Node)) : Parse (Progress Node) := do
            let mark ← meet p.anchor
            let (n, complete) ← read
            keep mark n
            return (n, complete)
          match t with
          | .scalar text plain =>
            let n : Node := .scalar ⟨text, plain, tag⟩
            let mark ← meet p.anchor
            keep mark n
            skip
            return (n, true)
          | .flowSequenceStart =>
            collection do
              skip
              let (items, closed) ← flowItems true fuel
              return (.list items closed, closed)
          | .flowMappingStart =>
            collection do
              skip
              let (entries, closed) ← flowEntries true fuel
              return (.table entries closed, closed)
          | t =>
            if indentless && t = .blockEntry then
              collection do
                let (items, closed) ← indentlessItems fuel
                return (.list items closed, closed)
            else if block && t = .blockSequenceStart then
              collection do
                skip
                let (items, closed) ← blockItems fuel
                return (.list items closed, closed)
            else if block && t = .blockMappingStart then
              collection do
                skip
                let (entries, closed) ← blockEntries fuel
                return (.table entries closed, closed)
            else if isAny p then
              let n : Node := .scalar ⟨"", true, tag⟩
              let mark ← meet p.anchor
              keep mark n
              return (n, true)
            else return fault

def blockItems : Nat → Parse (Progress (List Node))
  | 0 => return ([], false)
  | fuel + 1 => do
    match ← peek? with
    | some .blockEntry =>
      skip
      let (n, complete) ← part (endsItem false) true false fuel
      if !complete then return ([n], false)
      let (rest, closed) ← blockItems fuel
      return (n :: rest, closed)
    | some .blockEnd =>
      skip
      return ([], true)
    | _ => return ([], false)

def indentlessItems : Nat → Parse (Progress (List Node))
  | 0 => return ([], false)
  | fuel + 1 => do
    match ← peek? with
    | some .blockEntry =>
      skip
      let (n, complete) ← part (endsItem true) true false fuel
      if !complete then return ([n], false)
      let (rest, closed) ← indentlessItems fuel
      return (n :: rest, closed)
    | some _ => return ([], true)
    | none => return ([], false)

def part (ends : Token → Bool) (block indentless : Bool) : Nat → Parse (Progress Node)
  | 0 => return fault
  | fuel + 1 => do
    match ← peek? with
    | none => return fault
    | some t => if ends t then return (emptyScalar, true) else node block indentless fuel

def valuePart (ends : Token → Bool) (block : Bool) : Nat → Parse (Progress Node)
  | 0 => return fault
  | fuel + 1 => do
    match ← peek? with
    | none => return fault
    | some .value =>
      skip
      part ends block block fuel
    | some _ => return (emptyScalar, true)

def blockEntries : Nat → Parse (Progress (List (Node × Node)))
  | 0 => return ([], false)
  | fuel + 1 => do
    match ← peek? with
    | some .key =>
      skip
      let (key, complete) ← part endsPart true true fuel
      if !complete then return (partialEntry key, false)
      let (value, complete) ← valuePart endsPart true fuel
      if !complete then return ([(key, value)], false)
      let (rest, closed) ← blockEntries fuel
      return ((key, value) :: rest, closed)
    | some .blockEnd =>
      skip
      return ([], true)
    | _ => return ([], false)

/-- The items of a flow sequence. A key in it begins a mapping with one entry. -/
def flowItems (first : Bool) : Nat → Parse (Progress (List Node))
  | 0 => return ([], false)
  | fuel + 1 => do
    match ← peek? with
    | none => return ([], false)
    | some .flowSequenceEnd =>
      skip
      return ([], true)
    | some t =>
      if !first && t ≠ .flowEntry then return ([], false)
      if !first then skip
      match ← peek? with
      | none => return ([], false)
      | some .flowSequenceEnd =>
        skip
        return ([], true)
      | some .key =>
        skip
        let (entries, complete) ← singleEntry fuel
        if !complete then return ([.table entries false], false)
        let (rest, closed) ← flowItems false fuel
        return (.table entries true :: rest, closed)
      | some _ =>
        let (n, complete) ← node false false fuel
        if !complete then return ([n], false)
        let (rest, closed) ← flowItems false fuel
        return (n :: rest, closed)

/-- The one entry of a mapping that stands in a flow sequence, after the mark of its key. Where
there is no key, the token in its place is stepped over. -/
def singleEntry : Nat → Parse (Progress (List (Node × Node)))
  | 0 => return ([], false)
  | fuel + 1 => do
    let ends (t : Token) : Bool := t = .flowEntry || t = .flowSequenceEnd
    match ← peek? with
    | none => return ([], false)
    | some t =>
      let missing := t = .value || ends t
      if missing then skip
      let (key, complete) ← if missing then pure (emptyScalar, true) else node false false fuel
      if !complete then return (partialEntry key, false)
      let (value, complete) ← valuePart ends false fuel
      if !complete then return ([(key, value)], false)
      return ([(key, value)], (← peek?).isSome)

def flowEntries (first : Bool) : Nat → Parse (Progress (List (Node × Node)))
  | 0 => return ([], false)
  | fuel + 1 => do
    let ends (t : Token) : Bool := t = .flowEntry || t = .flowMappingEnd
    match ← peek? with
    | none => return ([], false)
    | some .flowMappingEnd =>
      skip
      return ([], true)
    | some t =>
      if !first && t ≠ .flowEntry then return ([], false)
      if !first then skip
      match ← peek? with
      | none => return ([], false)
      | some .flowMappingEnd =>
        skip
        return ([], true)
      | some .key =>
        skip
        let (key, complete) ← part (fun t => t = .value || ends t) false false fuel
        if !complete then return (partialEntry key, false)
        let (value, complete) ← valuePart ends false fuel
        if !complete then return ([(key, value)], false)
        let (rest, closed) ← flowEntries false fuel
        return ((key, value) :: rest, closed)
      | some _ =>
        let (key, complete) ← node false false fuel
        if !complete then return (partialEntry key, false)
        if (← peek?).isNone then return ([(key, .broken)], false)
        let (rest, closed) ← flowEntries false fuel
        return ((key, emptyScalar) :: rest, closed)
end

end Node
end LexicalGrammar.Yaml
