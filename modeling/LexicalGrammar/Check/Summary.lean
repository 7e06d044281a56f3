import LexicalGrammar.Builder
import LexicalGrammar.Json.Value

/-
What a check has found, and its two written forms.
-/
namespace LexicalGrammar.Check
variable [Pattern.Dialect]

structure FailedRule where
  index : Nat
  rule : String
  error : String
  deriving Repr, DecidableEq

/-- The outcome of a check. There is no name and there are no states if it was stopped. -/
structure Summary where
  grammar : Option String
  states : List (String × Nat)
  failures : List FailedRule
  deriving Repr, DecidableEq

def FailedRule.ofFailure (f : Failure) : FailedRule :=
  ⟨f.index, f.descriptor, f.fault.chain⟩

inductive Format where
  | text
  | json
  deriving Repr, DecidableEq

namespace Format

def name : Format → String
  | .text => "text"
  | .json => "json"

def all : List Format := [.text, .json]

def ofName? (name : String) : Option Format :=
  all.find? (·.name = name)

end Format

namespace Summary

def ofPass (p : Pass) : Summary :=
  match p.outcome with
  | .ok report =>
    let states := p.builder.grammar.states.entries.map fun e => (e.1, e.2.size)
    ⟨some p.builder.grammar.name, states, report.failures.map .ofFailure⟩
  | .error failure => ⟨none, [], [.ofFailure failure]⟩

def isSuccess (s : Summary) : Bool :=
  s.failures.isEmpty

def grammarLines (s : Summary) : List String :=
  match s.grammar with
  | some name =>
    s!"grammar {name}\n" :: s.states.map fun e => s!"  {e.1}: {e.2} rule(s)\n"
  | none => []

def failureLine (f : FailedRule) : String :=
  s!"error: rule #{f.index} ({f.rule}): {f.error}\n"

def toText (s : Summary) : String :=
  String.join (s.grammarLines ++ s.failures.map failureLine)

def toJson (s : Summary) : Json :=
  .object [
    ("grammar", match s.grammar with
      | some name => .text name
      | none => .null),
    ("states", .list (s.states.map fun e => .object [("name", .text e.1), ("rules", .nat e.2)])),
    ("failures", .list (s.failures.map fun f =>
      .object [("index", .nat f.index), ("rule", .text f.rule), ("error", .text f.error)]))]

def render (s : Summary) : Format → String
  | .text => s.toText
  | .json => s.toJson.pretty ++ "\n"

end Summary
end LexicalGrammar.Check
