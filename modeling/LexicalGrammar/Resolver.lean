import LexicalGrammar.Descriptor
import LexicalGrammar.Event

/-
Resolving a declared rule: its names are looked up in a fixed order, and only when everything was
found is the rule attached to its state.
-/
namespace LexicalGrammar
variable [Pattern.Dialect]

structure Resolver where
  lookup : String → Option Category
  options : Pattern.Options

namespace Resolver

def ofTable (t : CategoryTable) (options : Pattern.Options) : Resolver :=
  ⟨t.lookup, options⟩

def categories (r : Resolver) : List String → Except ResolveFault (List Category)
  | [] => .ok []
  | name :: rest =>
    match r.lookup name with
    | none => .error (.unknownCategory name)
    | some c =>
      match r.categories rest with
      | .ok cs => .ok (c :: cs)
      | .error fault => .error fault

structure Attempt where
  outcome : Except ResolveFault Unit
  grammar : Grammar
  events : List Event

/-- The warning about categories that the groups of a pattern cannot be meant for. -/
def mismatch (d : Declaration) (p : Pattern.Compiled) (categories : List Category) : List Event :=
  if 1 < categories.length ∧ categories.length ≠ p.groups then
    [.groupMismatch d.state p.source categories.length p.groups]
  else []

def attach (d : Declaration) (g : Grammar) (p : Pattern.Compiled) (categories : List Category) :
    Attempt :=
  let events := mismatch d p categories
  match d.create p categories g with
  | .error fault => ⟨.error fault, g, events⟩
  | .ok rule =>
    match g.append d.state rule with
    | .error fault => ⟨.error fault, g, events⟩
    | .ok g => ⟨.ok (), g, events ++ [.attached g.name d.state d.pattern]⟩

/-- Resolves a declared rule: the state first, then the pattern, the categories and the rule. -/
def resolve (r : Resolver) (d : Declaration) (g : Grammar) : Attempt :=
  let refuse (fault : ResolveFault) : Attempt := ⟨.error fault, g, []⟩
  match g.state d.state with
  | .error fault => refuse fault
  | .ok _ =>
    match Pattern.compile d.pattern r.options with
    | .error cause => refuse (.patternSyntax d.pattern cause)
    | .ok p =>
      match r.categories d.categories with
      | .error fault => refuse fault
      | .ok categories => attach d g p categories

end Resolver
end LexicalGrammar
