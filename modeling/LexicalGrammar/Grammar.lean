import LexicalGrammar.Rule

/-
Grammars: states by name, each with its rules in the order in which they were attached. States have
to be declared before rules can be attached to them.
-/
namespace LexicalGrammar
variable [Pattern.Dialect]

structure State where
  name : String
  rules : List Rule
  deriving DecidableEq

namespace State

def size (s : State) : Nat :=
  s.rules.length

def append (s : State) (r : Rule) : State :=
  { s with rules := s.rules ++ [r] }

end State

structure Grammar where
  name : String
  states : NameMap State

namespace Grammar

def empty (name : String) : Grammar :=
  ⟨name, NameMap.empty⟩

def hasState (g : Grammar) (name : String) : Bool :=
  g.states.contains name

def state (g : Grammar) (name : String) : Except ResolveFault State :=
  match g.states.get? name with
  | some s => .ok s
  | none => .error (.stateNotFound name)

/-- Declares a state. One that is declared already keeps its rules. -/
def declare (g : Grammar) (name : String) : Grammar :=
  { g with states := g.states.put name ⟨name, []⟩ }

def declareNew (g : Grammar) (name : String) : Bool × Grammar :=
  if g.hasState name then (false, g) else (true, g.declare name)

def declareAll (g : Grammar) (names : List String) : Grammar :=
  names.foldl declare g

def withStates (name : String) (states : List String) : Grammar :=
  (empty name).declareAll states

def append (g : Grammar) (state : String) (r : Rule) : Except ResolveFault Grammar :=
  if g.hasState state then .ok { g with states := g.states.change state (·.append r) }
  else .error (.stateNotFound state)

def stateNames (g : Grammar) : List String :=
  g.states.names

def ruleCount (g : Grammar) : Nat :=
  (g.states.values.map State.size).foldr (· + ·) 0

end Grammar
end LexicalGrammar
