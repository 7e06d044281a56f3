import LexicalGrammar.Pattern.Assemble
import LexicalGrammar.Pattern.Reader

/-
Compiled patterns. What patterns mean is left to a dialect, and nothing that is proved about
grammars depends on which dialect it is. In the one that runs, patterns are read with line anchors
switched on, and an automaton serves all patterns that need no backtracking.
-/
namespace LexicalGrammar.Pattern

/-- How patterns are compiled. The size limit is the room in bytes that an automaton may take. -/
structure Options where
  caseInsensitive : Bool := false
  sizeLimit : Nat := 10485760
  deriving Repr, DecidableEq, Inhabited

def Options.flags (o : Options) : String :=
  if o.caseInsensitive then "(?mi)" else "(?m)"

structure Engine where
  groups : Nat
  find : Subject → Nat → Except SearchFault (Option (Nat × Nat))

/-- Which patterns are refused, and what finds the matches of the others. -/
class Dialect where
  engine : String → Options → Except Fault Engine

inductive Matcher where
  | automaton (a : Automaton)
  | program (p : Program)
  deriving Inhabited

def Matcher.find (m : Matcher) (s : Subject) (start : Nat) :
    Except SearchFault (Option (Nat × Nat)) :=
  match m with
  | .automaton a => .ok (a.find s start)
  | .program p => Machine.find p s start

def Matcher.ofNode (options : Options) (references : List Nat) (n : Node) :
    Except BuildFault Matcher :=
  if (n.referencesFrom 0).isNone then .error .badReference
  else if n.needsBacktracking references then (Program.ofNode references n).map .program
  else if !n.wellFormed then .error .malformedPart
  else if !n.isTextSearch && options.sizeLimit < n.room + Node.baseRoom then .error .tooLarge
  else .ok (.automaton (Automaton.ofNodes [n]))

def Engine.ofSource (source : String) (options : Options) : Except Fault Engine :=
  match read (options.flags ++ source) with
  | .error fault => .error fault
  | .ok ⟨node, references⟩ =>
    match Matcher.ofNode options references node with
    | .ok matcher => .ok ⟨node.groupCount, matcher.find⟩
    | .error cause => .error (.building cause)

-- The limits on the size of an automaton and on the depth of a pattern are approximate here.
instance : Dialect := ⟨Engine.ofSource⟩

section
variable [Dialect]

/-- A pattern that can be searched for. Its text and options settle its engine. -/
structure Compiled where
  source : String
  options : Options
  engine : Engine
  built : Dialect.engine source options = .ok engine

def compile (source : String) (options : Options) : Except Fault Compiled :=
  match h : Dialect.engine source options with
  | .ok engine => .ok ⟨source, options, engine, h⟩
  | .error fault => .error fault

end

structure Match where
  start : Nat
  stop : Nat
  text : String
  deriving Repr, DecidableEq

namespace Compiled
variable [Dialect]

theorem ext_source {p q : Compiled} (source : p.source = q.source)
    (options : p.options = q.options) : p = q := by
  obtain ⟨_, _, _, hp⟩ := p
  obtain ⟨_, _, _, hq⟩ := q
  subst source options
  simpa using hp.symm.trans hq

instance : DecidableEq Compiled := fun p q =>
  if h : p.source = q.source ∧ p.options = q.options then .isTrue (ext_source h.1 h.2)
  else .isFalse fun same => h (by simp [same])

def groups (p : Compiled) : Nat :=
  p.engine.groups

def fullSource (p : Compiled) : String :=
  p.options.flags ++ p.source

def find (p : Compiled) (text : String) (start : Nat) : Except SearchFault (Option Match) := do
  let length := text.utf8ByteSize
  if length + 1 < start then throw .startOutOfRange
  if length < start then return none
  let s := Subject.ofString text
  let found ← p.engine.find s (s.indexAt start)
  return found.map fun r => ⟨s.offset r.1, s.offset r.2, s.slice r.1 r.2⟩

def isMatch (p : Compiled) (text : String) : Except SearchFault Bool :=
  (p.find text 0).map Option.isSome

end Compiled
end LexicalGrammar.Pattern
