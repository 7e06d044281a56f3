import LexicalGrammar.Grammar

/-
Descriptors: rules declared by names only, before they are bound to a grammar.
-/
namespace LexicalGrammar
variable [Pattern.Dialect]

inductive DescriptorFault where
  | emptyStateName
  | emptyPattern
  | noCategories (pattern : String)
  | invalidTransition (cause : TransitionFault)
  deriving Repr, DecidableEq

def DescriptorFault.message : DescriptorFault → String
  | .emptyStateName => "target state name is empty"
  | .emptyPattern => "pattern is empty"
  | .noCategories pattern => s!"rule for pattern `{pattern}` must tag at least one token category"
  | .invalidTransition cause => s!"invalid state transition: {cause.message}"

structure TokenRule where
  state : String
  pattern : String
  categories : List String
  state_ne : state ≠ ""
  pattern_ne : pattern ≠ ""
  categories_ne : categories ≠ []
  deriving Repr, DecidableEq

namespace TokenRule

def make (state pattern : String) (categories : List String) : Except DescriptorFault TokenRule :=
  if hs : state = "" then .error .emptyStateName
  else if hp : pattern = "" then .error .emptyPattern
  else if hc : categories = [] then .error (.noCategories pattern)
  else .ok ⟨state, pattern, categories, hs, hp, hc⟩

def describe (r : TokenRule) : String :=
  r.state ++ ": /" ++ r.pattern ++ "/ -> [" ++ String.intercalate ", " r.categories ++ "]"

end TokenRule

/-- A rule that is to be resolved, as the resolver sees it. The rule itself is made by `create`,
out of what was found for its names, with the grammar as it is then. -/
structure Declaration where
  state : String
  pattern : String
  categories : List String
  create : Pattern.Compiled → List Category → Grammar → Except ResolveFault Rule

def Declaration.plain (state pattern : String) (categories : List String) : Declaration :=
  ⟨state, pattern, categories, fun p cs _ => Rule.make p cs⟩

inductive Descriptor where
  | token (rule : TokenRule)
  | transition (rule : TokenRule) (transition : Transition)
  deriving Repr, DecidableEq

namespace Descriptor

def rule : Descriptor → TokenRule
  | .token r => r
  | .transition r _ => r

def transition? : Descriptor → Option Transition
  | .token _ => none
  | .transition _ t => some t

def make (state pattern : String) (categories : List String) (next : Option (List String)) :
    Except DescriptorFault Descriptor :=
  match TokenRule.make state pattern categories with
  | .error fault => .error fault
  | .ok r =>
    match next with
    | none => .ok (.token r)
    | some entries =>
      match Transition.parse entries with
      | .ok t => .ok (.transition r t)
      | .error cause => .error (.invalidTransition cause)

def describe : Descriptor → String
  | .token r => r.describe
  | .transition r t => r.describe ++ " => " ++ t.describe

def missingTarget? (g : Grammar) : Transition → Option String
  | .pop _ => none
  | .push targets => targets.findSome? fun
    | .current => none
    | .named name => if g.hasState name then none else some name

def create (transition : Option Transition) (p : Pattern.Compiled) (categories : List Category)
    (g : Grammar) : Except ResolveFault Rule :=
  match transition with
  | none => Rule.make p categories
  | some t =>
    match missingTarget? g t with
    | some name => .error (.stateNotFound name)
    | none => (Rule.make p categories).map (·.withTransition t)

def declaration (d : Descriptor) : Declaration :=
  ⟨d.rule.state, d.rule.pattern, d.rule.categories, create d.transition?⟩

end Descriptor
end LexicalGrammar
