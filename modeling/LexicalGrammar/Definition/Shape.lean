import LexicalGrammar.Builder
import LexicalGrammar.Document.Decode

/-
Grammar definitions and their shape in documents: a name, the states to declare, and the rules in
order.
-/
namespace LexicalGrammar
variable [Pattern.Dialect]
open Document (Convention Decoded Field Record)

structure Definition where
  name : String
  states : List String
  rules : List Descriptor
  deriving Repr, DecidableEq

namespace Definition

def builder (d : Definition) : Builder :=
  d.rules.foldl Builder.push (Builder.ofGrammar (Grammar.withStates d.name d.states))

structure RuleDraft where
  state : Option String := none
  pattern : Option String := none
  categories : Option (List String) := none
  next : Option (Option (List String)) := none
  deriving Repr

def RuleDraft.descriptor (d : RuleDraft) : Except DescriptorFault Descriptor :=
  Descriptor.make (d.state.getD "") (d.pattern.getD "") (d.categories.getD []) d.next.join

structure Draft where
  name : Option String := none
  states : Option (List String) := none
  rules : Option (List Descriptor) := none
  deriving Repr

def Draft.definition (d : Draft) : Definition :=
  ⟨d.name.getD "", d.states.getD [], d.rules.getD []⟩

section
variable {Leaf : Type} (c : Convention Leaf)

def ruleRecord : Record DescriptorFault Leaf RuleDraft where
  name := "RawRule"
  fields := [
    ⟨"state", true, (·.state.isSome), fun t d => return { d with state := ← Document.textOf c "a string" t }⟩,
    ⟨"pattern", true, (·.pattern.isSome), fun t d =>
      return { d with pattern := ← Document.textOf c "a string" t }⟩,
    ⟨"categories", true, (·.categories.isSome), fun t d =>
      return { d with categories := ← Document.textsOf c t }⟩,
    ⟨"next", false, (·.next.isSome), fun t d =>
      return { d with next := some (← Document.optional c (Document.textsOf c) t) }⟩]

def readRule (t : Document Leaf) : Decoded DescriptorFault RuleDraft :=
  (ruleRecord c).read c {} t

def readDescriptor (t : Document Leaf) : Decoded DescriptorFault Descriptor := do
  match (← readRule c t).descriptor with
  | .ok d => return d
  | .error fault => Document.fail (.refused fault)

def record : Record DescriptorFault Leaf Draft where
  name := "GrammarDefinition"
  fields := [
    ⟨"name", true, (·.name.isSome), fun t d => return { d with name := ← Document.textOf c "a string" t }⟩,
    ⟨"states", false, (·.states.isSome), fun t d => return { d with states := ← Document.textsOf c t }⟩,
    ⟨"rules", false, (·.rules.isSome), fun t d =>
      return { d with rules := ← Document.listOf c (readRule c) RuleDraft.descriptor t }⟩]

def read (t : Document Leaf) : Decoded DescriptorFault Definition :=
  ((record c).read c {} t).map Draft.definition

end
end Definition
end LexicalGrammar
