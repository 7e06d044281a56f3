import LexicalGrammar.Yaml.Node

/-
Reading a YAML text into a document tree, as far as it goes.
-/
namespace LexicalGrammar.Yaml
open Document (ReadFault Reading)

namespace Reader
open Node (Anchored Parse peek? skip)

/-- The directives of a document; none if they contradict each other or ask for another version. -/
def directives (version : Bool) (handles : List (String × String)) :
    Nat → Parse (Option (List (String × String)))
  | 0 => return none
  | fuel + 1 => do
    match ← peek? with
    | some (.version major minor) =>
      if version || major ≠ 1 || (minor ≠ 1 && minor ≠ 2) then return none
      skip
      directives true handles fuel
    | some (.tagHandle handle start) =>
      if (handles.lookup handle).isSome then return none
      skip
      directives version ((handle, start) :: handles) fuel
    | some _ => return some handles
    | none => return none

def endsDocument : Token → Bool
  | .version .. | .tagHandle .. | .documentStart | .documentEnd | .streamEnd => true
  | _ => false

def root (fuel : Nat) : Parse (Option (Node.Progress Node)) := do
  match ← peek? with
  | none => return some Node.fault
  | some .streamEnd => return none
  | some .documentEnd => return some Node.fault
  | some t =>
    if t = .documentStart || endsDocument t then
      match ← directives false [] fuel with
      | none => return some Node.fault
      | some handles =>
        match ← peek? with
        | some .documentStart =>
          skip
          modify fun s => { s with handles := handles }
          return some (← Node.part endsDocument true false fuel)
        | _ => return some Node.fault
    else return some (← Node.node true false fuel)

def atEnd (fuel : Nat) : Parse Bool := do
  match ← peek? with
  | some .documentEnd =>
    let isEnd (t : Token) : Bool := t = .documentEnd
    let s ← get
    return (s.tokens.take fuel).dropWhile isEnd = [.streamEnd]
  | t => return t = some .streamEnd

/-- How deep a document is looked into: no value that is read from it reaches deeper. Aliases may
make it endless. -/
def maxDepth : Nat := 5

/-- The node that a number stands for: the one that was met last. -/
def find? (anchored : List Anchored) (number : Nat) : Option Node :=
  let candidates := anchored.filter (·.number = number)
  (candidates.find? fun a => candidates.all (·.order ≤ a.order)).map (·.node)

def ending (closed : Bool) : Option ReadFault :=
  if closed then none else some .malformed

def toDocument (anchored : List Anchored) : Nat → Node → Document Scalar
  | 0, _ => .broken .malformed
  | depth + 1, n =>
    let expand (n : Node) : Document Scalar :=
      match n with
      | .scalar value => .leaf value
      | .list items closed => .list (items.map (toDocument anchored depth)) (ending closed)
      | .table entries closed =>
        .table (entries.map fun e => (toDocument anchored depth e.1, toDocument anchored depth e.2))
          (ending closed)
      | .alias _ | .broken => .broken .malformed
    match n with
    | .alias number =>
      match find? anchored number with
      | some n => .alias (expand n)
      | none => .broken .malformed
    | n => expand n

end Reader

/-- The document in a text. A text without a document holds an empty table. -/
def readDocument (source : String) : Reading Scalar :=
  let tokens := (Token.ofText source.toList).1
  let fuel := 4 * tokens.length + 4
  let (r, s) := (Reader.root fuel).run { tokens := tokens }
  match r with
  | none => ⟨.table [] none, none⟩
  | some (n, complete) =>
    let tree := Reader.toDocument s.anchored Reader.maxDepth n
    if complete && ((Reader.atEnd fuel).run s).1 then ⟨tree, none⟩ else ⟨tree, some .malformed⟩

end LexicalGrammar.Yaml
