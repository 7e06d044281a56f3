import LexicalGrammar.Pattern.Fault
import LexicalGrammar.Pattern.Shape
import LexicalGrammar.Pattern.Subject
import LexicalGrammar.Unicode.Folding

/-
Automata for patterns that need no backtracking. The search runs through the text once with all
threads side by side, ordered by preference, so that the leftmost match wins and, of those, the one
whose earlier branches were taken.
-/
namespace LexicalGrammar.Pattern
open Unicode (CharSet)

namespace Automaton

/-- What a thread does in a state. Of a fork the first branch is preferred. -/
inductive State where
  | read (test : CharTest) (next : Nat)
  | fork (first second : Nat)
  | check (anchor : Anchor) (next : Nat)
  | accept
  deriving Repr, Inhabited

end Automaton

structure Automaton where
  states : Array Automaton.State
  start : Nat
  deriving Repr, Inhabited

namespace Automaton

def literalTest (c : Char) (fold : Bool) : CharTest :=
  if fold then
    let s := Unicode.Folding.close (CharSet.ofChars [c])
    if s.card ≤ 1 then .char c else .set s
  else .char c

def anyTest (newline : Bool) : CharTest :=
  if newline then .any else .notNewline

def add (states : Array State) (state : State) : Array State × Nat :=
  let index := states.size
  (states.push state, index)

def addFork (states : Array State) (greedy : Bool) (body next : Nat) : Array State × Nat :=
  add states (if greedy then .fork body next else .fork next body)

/-- Adds a state that forks into a body and what comes next, where the body leads back to the fork.
Gives the indices of the fork and of the body. -/
def addLoop (states : Array State) (greedy : Bool) (next : Nat)
    (body : Nat → Array State → Array State × Nat) : Array State × Nat × Nat :=
  let index := states.size
  let (states, entry) := body index (states.push .accept)
  (states.setIfInBounds index (if greedy then .fork entry next else .fork next entry), index, entry)

def iterate (step : Nat → Array State → Array State × Nat) :
    Nat → Nat → Array State → Array State × Nat
  | 0, entry, states => (states, entry)
  | n + 1, entry, states =>
    let (states, entry) := step entry states
    iterate step n entry states

mutual
def addNode : Node → Nat → Array State → Array State × Nat
  | .any newline, next, states => add states (.read (anyTest newline) next)
  | .literal c fold, next, states => add states (.read (literalTest c fold) next)
  | .chars set, next, states => add states (.read (.set (set.getD CharSet.empty)) next)
  | .anchor kind, next, states => add states (.check kind next)
  | .concat parts, next, states => addConcat parts next states
  | .alt branches, next, states => addAlt branches next states
  | .group _ body, next, states | .atomic body, next, states => addNode body next states
  | .times body least most greedy, next, states =>
    let step := addNode body
    match most with
    | some most =>
      let optional (entry : Nat) (states : Array State) : Array State × Nat :=
        let (states, body) := step entry states
        addFork states greedy body next
      let (states, entry) := iterate optional (most - least) next states
      iterate step least entry states
    | none =>
      let (states, loop, entry) := addLoop states greedy next step
      if least = 0 then
        if body.minLength = 0 then addFork states greedy entry next else (states, loop)
      else iterate step (least - 1) entry states
  | .empty, next, states | .look .., next, states | .groupText _, next, states
  | .groupTest _, next, states | .keepOut, next, states | .searchStart, next, states
  | .choice .., next, states => (states, next)

def addConcat : List Node → Nat → Array State → Array State × Nat
  | [], next, states => (states, next)
  | n :: rest, next, states =>
    let (states, next) := addConcat rest next states
    addNode n next states

def addAlt : List Node → Nat → Array State → Array State × Nat
  | [], next, states => (states, next)
  | [n], next, states => addNode n next states
  | n :: rest, next, states =>
    let (states, second) := addAlt rest next states
    let (states, first) := addNode n next states
    add states (.fork first second)
end

def ofNodes (parts : List Node) : Automaton :=
  let (states, start) := addConcat parts 0 #[.accept]
  ⟨states, start⟩

structure Thread where
  state : Nat
  origin : Nat
  deriving Inhabited

/-- The threads at one place, in order of preference, and for each state the last place for which
it was entered (counted from one). -/
structure Front where
  threads : Array Thread
  entered : Array Nat
  deriving Inhabited

/-- Enters the states on the stack and those that forks and checks lead to, in order. -/
def enter (a : Automaton) (s : Subject) (place origin : Nat) : Nat → List Nat → Front → Front
  | 0, _, front => front
  | _, [], front => front
  | fuel + 1, index :: stack, ⟨threads, entered⟩ =>
    if entered[index]?.getD 0 = place + 1 then enter a s place origin fuel stack ⟨threads, entered⟩
    else
      let entered := entered.setIfInBounds index (place + 1)
      match a.states[index]? with
      | some (.fork first second) =>
        enter a s place origin fuel (first :: second :: stack) ⟨threads, entered⟩
      | some (.check anchor next) =>
        enter a s place origin fuel (if s.holds place anchor then next :: stack else stack)
          ⟨threads, entered⟩
      | some _ => enter a s place origin fuel stack ⟨threads.push ⟨index, origin⟩, entered⟩
      | none => enter a s place origin fuel stack ⟨threads, entered⟩

def advance (a : Automaton) (s : Subject) (place : Nat) (found : Option (Nat × Nat)) :
    List Thread → Front → Front × Option (Nat × Nat)
  | [], front => (front, found)
  | t :: rest, front =>
    match a.states[t.state]? with
    | some .accept => (front, some (t.origin, place))
    | some (.read test next) =>
      if (s.chars[place]?).any test.accepts then
        advance a s place found rest (enter a s (place + 1) t.origin (2 * a.states.size + 2) [next] front)
      else advance a s place found rest front
    | _ => advance a s place found rest front

/-- Runs the threads on through the text; `left` is the number of places to go. -/
def runFrom (a : Automaton) (s : Subject) (anchored : Bool) :
    Nat → Nat → Option (Nat × Nat) → Front → Option (Nat × Nat)
  | 0, _, found, _ => found
  | left + 1, place, found, front =>
    let front :=
      if found.isSome || (anchored && !front.threads.isEmpty) then front
      else enter a s place place (2 * a.states.size + 2) [a.start] front
    if front.threads.isEmpty && (found.isSome || anchored) then found
    else
      let ⟨threads, entered⟩ := front
      let (next, found) := advance a s place found threads.toList ⟨#[], entered⟩
      if anchored && next.threads.isEmpty then found
      else runFrom a s anchored left (place + 1) found next

/-- The match that begins first at `start` or after it, as a pair of character indices. -/
def find (a : Automaton) (s : Subject) (start : Nat) : Option (Nat × Nat) :=
  runFrom a s false (s.size + 1 - start) start none ⟨#[], Array.replicate a.states.size 0⟩

def matchAt (a : Automaton) (s : Subject) (start : Nat) : Option Nat :=
  (runFrom a s true (s.size + 1 - start) start none ⟨#[], Array.replicate a.states.size 0⟩).map (·.2)

end Automaton
end LexicalGrammar.Pattern
