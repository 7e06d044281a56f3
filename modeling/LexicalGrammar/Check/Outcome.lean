import LexicalGrammar.Check.CategoryFile
import LexicalGrammar.Check.Summary
import LexicalGrammar.Config.Loader
import LexicalGrammar.Definition.Load

/-
Checking a grammar definition: every rule is resolved with the categories that were named.
-/
namespace LexicalGrammar
variable [Pattern.Dialect]

structure Check where
  path : String
  categories : List String
  categoryFile : Option String
  config : Option String
  /-- Whether all failures are wanted, whatever the configuration says. -/
  collect : Bool
  deriving Repr, DecidableEq

namespace Check

inductive Fault where
  | config (cause : Config.Fault)
  | categories (cause : ReadFailure)
  | definition (cause : Definition.LoadFault)
  deriving Repr, DecidableEq

def Fault.message : Fault → String
  | .config cause => cause.message
  | .categories cause => cause.message
  | .definition cause => cause.chain

structure Outcome where
  summary : Summary
  events : List Event
  deriving Repr

/-- The configuration file that counts if it is there. -/
def localConfig : String := "lexgram.toml"

def loader (c : Check) : Except Config.Fault Config.Loader :=
  let l := ({} : Config.Loader).withOptionalFile localConfig
  let l := match c.config with
    | some path => l.withFile path
    | none => l
  if c.collect then l.setOverride "resolution.on_failure" (.text FailurePolicy.collect.name)
  else .ok l

def settings (c : Check) (readFile : String → Except ReadFailure String) :
    Except Config.Fault Config := do
  (← c.loader).build readFile

def names (c : Check) (readFile : String → Except ReadFailure String) :
    Except ReadFailure (List String) :=
  match c.categoryFile with
  | none => .ok c.categories
  | some path => (readFile path).map fun text => c.categories ++ CategoryFile.names text

def paths (c : Check) : List String :=
  (localConfig :: c.config.toList).flatMap Config.Source.candidates ++ c.categoryFile.toList ++
    [c.path]

def outcome (config : Config) (names : List String) (d : Definition) : Outcome :=
  let (table, _) := CategoryTable.ofNames names {}
  let pass := d.builder.resolvePending (.ofTable table config.options) config.onFailure
  ⟨.ofPass pass, pass.events⟩

/-- Makes the check: the configuration is read first, then the categories, then the definition. -/
def run (c : Check) (readFile : String → Except ReadFailure String) : Except Fault Outcome := do
  let config ← (c.settings readFile).mapError .config
  let names ← (c.names readFile).mapError .categories
  let d ← (Definition.load readFile c.path).mapError .definition
  return outcome config names d

end Check
end LexicalGrammar
