import LexicalGrammar.Category
import LexicalGrammar.Pattern.Compiled
import LexicalGrammar.Transition

/-
Compiled rules, and what can go wrong while one is made.
-/
namespace LexicalGrammar
variable [Pattern.Dialect]

inductive ResolveFault where
  | patternSyntax (pattern : String) (cause : Pattern.Fault)
  | unknownCategory (name : String)
  | stateNotFound (name : String)
  | noCategories (pattern : String)
  deriving Repr, DecidableEq

namespace ResolveFault

def message : ResolveFault → String
  | .patternSyntax pattern _ => s!"regex syntax error in pattern `{pattern}`"
  | .unknownCategory name => s!"unknown token category: {name}"
  | .stateNotFound name => s!"state not found: {name}"
  | .noCategories pattern => s!"rule for pattern `{pattern}` declares no token categories"

def detail? : ResolveFault → Option String
  | .patternSyntax _ cause => some cause.message
  | _ => none

def chain (f : ResolveFault) : String :=
  match f.detail? with
  | some detail => f.message ++ ": " ++ detail
  | none => f.message

end ResolveFault

structure Rule where
  pattern : Pattern.Compiled
  categories : List Category
  transition : Option Transition
  nonempty : categories ≠ []
  deriving DecidableEq

namespace Rule

def make (pattern : Pattern.Compiled) (categories : List Category) : Except ResolveFault Rule :=
  if h : categories = [] then .error (.noCategories pattern.source)
  else .ok ⟨pattern, categories, none, h⟩

def withTransition (r : Rule) (t : Transition) : Rule :=
  { r with transition := some t }

end Rule
end LexicalGrammar
