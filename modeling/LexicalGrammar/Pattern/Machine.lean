import LexicalGrammar.Pattern.Automaton

/-
Programs for patterns that need backtracking, and the machine that runs them. Places in the text are
character indices.
-/
namespace LexicalGrammar.Pattern

/-- One step of a program. Of a split the first target is tried first. -/
inductive Instr where
  | done
  | read (test : CharTest)
  | text (chars : List Char)
  | check (anchor : Anchor)
  | split (first second : Nat)
  | jump (target : Nat)
  | save (slot : Nat)
  | zero (slot : Nat)
  | restore (slot : Nat)
  | count (slot least : Nat) (most : Option Nat) (next : Nat) (greedy : Bool)
  | countNonEmpty (slot place least next : Nat) (greedy : Bool)
  | back (chars : Nat)
  | refute
  | sameText (group : Nat)
  | tookPart (group : Nat)
  | beginAtomic
  | endAtomic
  | part (automaton : Automaton)
  | atSearchStart
  deriving Inhabited

structure Program where
  code : Array Instr
  slots : Nat
  deriving Inhabited

namespace Machine

def backtrackLimit : Nat := 1000000

/-- A way not yet taken: where to go on in the program and the text, with the slots and the marks of
the open atomic parts. -/
structure Branch where
  pc : Nat
  place : Nat
  slots : Array (Option Nat)
  marks : List Nat
  deriving Inhabited

structure Stack where
  branches : List Branch
  height : Nat
  deriving Inhabited

def Stack.push (s : Stack) (b : Branch) : Stack :=
  ⟨b :: s.branches, s.height + 1⟩

def Stack.cut (s : Stack) (height : Nat) : Stack :=
  if height < s.height then ⟨s.branches.drop (s.height - height), height⟩ else s

/-- Drops the branches down to the latest that goes on at `pc`, this one included. -/
def Stack.dropThrough (pc : Nat) (s : Stack) : Stack :=
  let rest := (s.branches.dropWhile (·.pc ≠ pc)).drop 1
  ⟨rest, rest.length⟩

def textAt (s : Subject) (place : Nat) : List Char → Bool
  | [] => true
  | c :: cs => s.chars[place]? = some c && textAt s (place + 1) cs

inductive Step where
  | go (pc place : Nat) (slots : Array (Option Nat)) (marks : List Nat) (stack : Stack)
  | fail (stack : Stack)
  | found (slots : Array (Option Nat))

def step (p : Program) (s : Subject) (origin pc place : Nat) (slots : Array (Option Nat))
    (marks : List Nat) (stack : Stack) : Step :=
  let get (slot : Nat) : Option Nat := (slots[slot]?).join
  let set (slot : Nat) (value : Option Nat) : Array (Option Nat) := slots.setIfInBounds slot value
  match p.code[pc]?.getD .done with
  | .done => .found slots
  | .read test =>
    if (s.chars[place]?).any test.accepts then .go (pc + 1) (place + 1) slots marks stack
    else .fail stack
  | .text chars =>
    if textAt s place chars then .go (pc + 1) (place + chars.length) slots marks stack
    else .fail stack
  | .check anchor =>
    if s.holds place anchor then .go (pc + 1) place slots marks stack else .fail stack
  | .split first second => .go first place slots marks (stack.push ⟨second, place, slots, marks⟩)
  | .jump target => .go target place slots marks stack
  | .save slot => .go (pc + 1) place (set slot (some place)) marks stack
  | .zero slot => .go (pc + 1) place (set slot (some 0)) marks stack
  | .restore slot => .go (pc + 1) ((get slot).getD place) slots marks stack
  | .count slot least most next greedy =>
    let n := (get slot).getD 0
    if most = some n then .go next place slots marks stack
    else
      let slots := set slot (some (n + 1))
      if n < least then .go (pc + 1) place slots marks stack
      else if greedy then .go (pc + 1) place slots marks (stack.push ⟨next, place, slots, marks⟩)
      else .go next place slots marks (stack.push ⟨pc + 1, place, slots, marks⟩)
  | .countNonEmpty slot check least next greedy =>
    let n := (get slot).getD 0
    if 0 < n && get check = some place then .fail stack
    else
      let slots := set slot (some (n + 1))
      if n < least then .go (pc + 1) place slots marks stack
      else
        let slots := slots.setIfInBounds check (some place)
        if greedy then .go (pc + 1) place slots marks (stack.push ⟨next, place, slots, marks⟩)
        else .go next place slots marks (stack.push ⟨pc + 1, place, slots, marks⟩)
  | .back n => if n ≤ place then .go (pc + 1) (place - n) slots marks stack else .fail stack
  | .refute => .fail (stack.dropThrough (pc + 1))
  | .sameText group =>
    match get (2 * group), get (2 * group + 1) with
    | some first, some last =>
      let chars := (s.chars.extract first last).toList
      if first ≤ last && textAt s place chars then
        .go (pc + 1) (place + chars.length) slots marks stack
      else .fail stack
    | _, _ => .fail stack
  | .tookPart group =>
    if (get (2 * group)).isSome then .go (pc + 1) place slots marks stack else .fail stack
  | .beginAtomic => .go (pc + 1) place slots (stack.height :: marks) stack
  | .endAtomic =>
    match marks with
    | height :: marks => .go (pc + 1) place slots marks (stack.cut height)
    | [] => .go (pc + 1) place slots marks stack
  | .part automaton =>
    match automaton.matchAt s place with
    | some stop => .go (pc + 1) stop slots marks stack
    | none => .fail stack
  | .atSearchStart => if place = origin then .go (pc + 1) place slots marks stack else .fail stack

/-- Runs a program on; `failures` counts the times it went back to a branch. -/
def runFrom (p : Program) (s : Subject) (origin : Nat) : Nat → Nat → Step →
    Except SearchFault (Option (Array (Option Nat)))
  | 0, _, _ => .error .tooManyBacktracks
  | fuel + 1, failures, state =>
    match state with
    | .found slots => .ok (some slots)
    | .go pc place slots marks stack =>
      runFrom p s origin fuel failures (step p s origin pc place slots marks stack)
    | .fail stack =>
      match stack.branches with
      | [] => .ok none
      | b :: rest =>
        if failures < backtrackLimit then
          runFrom p s origin fuel (failures + 1) (.go b.pc b.place b.slots b.marks ⟨rest, stack.height - 1⟩)
        else .error .tooManyBacktracks

def stepBound : Nat := 1000000000000

/-- The first match from `start` on, as a pair of character indices. A start that was moved behind
the end of the match counts as the end. -/
def find (p : Program) (s : Subject) (start : Nat) : Except SearchFault (Option (Nat × Nat)) :=
  match runFrom p s start stepBound 0 (.go 0 start (Array.replicate p.slots none) [] ⟨[], 0⟩) with
  | .error fault => .error fault
  | .ok none => .ok none
  | .ok (some slots) =>
    match (slots[0]?).join, (slots[1]?).join with
    | some first, some last => .ok (some (min first last, last))
    | _, _ => .ok none

end Machine
end LexicalGrammar.Pattern
