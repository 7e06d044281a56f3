import LexicalGrammar.Pattern.Machine
import LexicalGrammar.Pattern.Size

/-
Programs out of pattern trees. Parts that need no backtracking become single steps where the way
they match cannot matter to what stands around them; everything else is spelled out.
-/
namespace LexicalGrammar.Pattern
namespace Assemble

structure Draft where
  code : Array Instr
  slots : Nat

abbrev Assembly (α : Type) := StateT Draft (Except BuildFault) α

def here : Assembly Nat := return (← get).code.size

def emit (i : Instr) : Assembly Unit :=
  modify fun d => { d with code := d.code.push i }

def reserve : Assembly Nat := do
  let pc ← here
  emit (.jump 0)
  return pc

def patch (pc : Nat) (i : Instr) : Assembly Unit :=
  modify fun d => { d with code := d.code.setIfInBounds pc i }

def newSlot : Assembly Nat := do
  let slot := (← get).slots
  modify fun d => { d with slots := slot + 1 }
  return slot

/-- A split that prefers to go on right behind it, or else to leave for `next`. -/
def splitAt (pc next : Nat) (greedy : Bool) : Instr :=
  if greedy then .split (pc + 1) next else .split next (pc + 1)

def partRoom : Nat := 10485760

def test? : Node → Option CharTest
  | .any newline => some (Automaton.anyTest newline)
  | .literal c fold => some (Automaton.literalTest c fold)
  | .chars (some set) => some (.set set)
  | _ => none

/-- Nodes side by side as one step. -/
def addPart (nodes : List Node) : Assembly Unit := do
  if nodes.isEmpty then return
  match nodes.mapM Node.plainChar? with
  | some chars => emit (.text chars)
  | none =>
    unless Node.allWellFormed nodes do throw .malformedPart
    if partRoom < Node.roomSum nodes + Node.baseRoom then throw .tooLarge
    match nodes.mapM test? with
    | some tests => tests.forM fun t => emit (.read t)
    | none => emit (.part (Automaton.ofNodes nodes))

/-- Goes back by the length of the body, which has to be known. -/
def addBack (behind : Bool) (body : Node) : Assembly Unit := do
  if behind then
    unless body.hasFixedLength do throw .lookBehindLength
    emit (.back body.minLength)

variable (referenced : List Nat)

def isEasy (n : Node) : Bool := !n.needsBacktracking referenced

def isEasyFixed (n : Node) : Bool := n.hasFixedLength && isEasy referenced n

/-- How many nodes in front, then how many at the end, are gathered into one step each. -/
def gathered (hard : Bool) (parts : List Node) : Nat × Nat :=
  let front := (parts.takeWhile (isEasyFixed referenced)).length
  let ends := (parts.drop front).reverse
  (front, (ends.takeWhile (if hard then isEasyFixed referenced else isEasy referenced)).length)

mutual
/-- Writes the program of a node. Without `hard`, a node that needs no backtracking is one step. -/
def addNode (hard : Bool) : Node → Assembly Unit
  | .empty => if hard then pure () else addPart [.empty]
  | .any newline => addPart [.any newline]
  | .literal c fold => addPart [.literal c fold]
  | .chars set => addPart [.chars set]
  | .anchor kind => emit (.check kind)
  | .concat parts =>
    if !hard && isEasy referenced (.concat parts) then addPart parts
    else do
      let (front, back) := gathered referenced hard parts
      addPart (parts.take front)
      addMiddle front (parts.length - front - back) parts
      addPart (parts.drop (parts.length - back))
  | .alt branches =>
    if !hard && isEasy referenced (.alt branches) then addPart [.alt branches]
    else addBranches hard branches
  | .group index body =>
    if !hard && isEasy referenced (.group index body) then addPart [.group index body]
    else do
      emit (.save (2 * index))
      addNode hard body
      emit (.save (2 * index + 1))
  | .times body least most greedy =>
    if !hard && isEasy referenced (.times body least most greedy) then
      addPart [.times body least most greedy]
    else if least = 0 && most = some 1 then do
      let pc ← reserve
      addNode hard body
      patch pc (splitAt pc (← here) greedy)
    else do
      let hard := hard || body.needsBacktracking referenced
      if most.isNone && body.minLength = 0 then
        let slot ← newSlot
        let place ← newSlot
        emit (.zero slot)
        let pc ← reserve
        addNode hard body
        emit (.jump pc)
        patch pc (.countNonEmpty slot place least (← here) greedy)
      else if most.isNone && least = 0 then
        let pc ← reserve
        addNode hard body
        emit (.jump pc)
        patch pc (splitAt pc (← here) greedy)
      else if most.isNone && least = 1 then
        let pc ← here
        addNode hard body
        let next := (← here) + 1
        emit (if greedy then .split pc next else .split next pc)
      else
        let slot ← newSlot
        emit (.zero slot)
        let pc ← reserve
        addNode hard body
        emit (.jump pc)
        patch pc (.count slot least most (← here) greedy)
  | .look kind body =>
    match body with
    | .alt branches =>
      if kind.behind && !(Node.alt branches).hasFixedLength then
        if kind.negative then addRefusals branches else addBehinds branches
      else if kind.negative then do
        let pc ← reserve
        addBack kind.behind (.alt branches)
        addInner branches
        emit .refute
        patch pc (.split (pc + 1) (← here))
      else do
        let slot ← newSlot
        emit (.save slot)
        addBack kind.behind (.alt branches)
        addInner branches
        emit (.restore slot)
    | body =>
      if kind.negative then do
        let pc ← reserve
        addBack kind.behind body
        addNode false body
        emit .refute
        patch pc (.split (pc + 1) (← here))
      else do
        let slot ← newSlot
        emit (.save slot)
        addBack kind.behind body
        addNode false body
        emit (.restore slot)
  | .groupText index => emit (.sameText index)
  | .groupTest index => emit (.tookPart index)
  | .atomic body => do
    emit .beginAtomic
    addNode false body
    emit .endAtomic
  | .keepOut => emit (.save 0)
  | .searchStart => emit .atSearchStart
  | .choice test yes no => do
    emit .beginAtomic
    let pc ← reserve
    addNode hard test
    emit .endAtomic
    addNode hard yes
    let leave ← reserve
    patch pc (.split (pc + 1) (← here))
    addNode hard no
    patch leave (.jump (← here))

def addInner (branches : List Node) : Assembly Unit :=
  if isEasy referenced (.alt branches) then addPart [.alt branches]
  else addBranches false branches

def addMiddle (before count : Nat) : List Node → Assembly Unit
  | [] => pure ()
  | n :: rest =>
    match before, count with
    | before + 1, count => addMiddle before count rest
    | 0, 0 => pure ()
    | 0, count + 1 => do
      addNode true n
      addMiddle 0 count rest

def addBranches (hard : Bool) : List Node → Assembly Unit
  | [] => pure ()
  | [n] => addNode hard n
  | n :: rest => do
    let pc ← reserve
    addNode hard n
    let leave ← reserve
    patch pc (.split (pc + 1) (← here))
    addBranches hard rest
    patch leave (.jump (← here))

def addBehinds : List Node → Assembly Unit
  | [] => pure ()
  | n :: rest => do
    let pc ← here
    unless rest.isEmpty do emit (.jump 0)
    let slot ← newSlot
    emit (.save slot)
    addBack true n
    addNode false n
    emit (.restore slot)
    unless rest.isEmpty do
      let leave ← reserve
      patch pc (.split (pc + 1) (← here))
      addBehinds rest
      patch leave (.jump (← here))

def addRefusals : List Node → Assembly Unit
  | [] => pure ()
  | n :: rest => do
    let pc ← reserve
    addBack true n
    addNode false n
    emit .refute
    patch pc (.split (pc + 1) (← here))
    addRefusals rest
end

def addSearch (n : Node) : Assembly Unit := do
  emit (.split 3 1)
  emit (.read .any)
  emit (.jump 0)
  emit (.save 0)
  addNode referenced true n
  emit (.save 1)
  emit .done

end Assemble

/-- The program of a pattern. `referenced` are the groups that references mean. -/
def Program.ofNode (referenced : List Nat) (n : Node) : Except BuildFault Program :=
  match (Assemble.addSearch referenced n).run ⟨#[], 2 * (n.groupCount + 1)⟩ with
  | .ok (_, d) => .ok ⟨d.code, d.slots⟩
  | .error fault => .error fault

end LexicalGrammar.Pattern
