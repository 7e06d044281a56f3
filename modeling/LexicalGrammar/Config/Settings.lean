import LexicalGrammar.Builder
import LexicalGrammar.Config.Value
import LexicalGrammar.Document.Decode
import LexicalGrammar.Word

/-
The configuration: how patterns are compiled, and what happens when a rule fails. Values are
converted kindly, so that texts and numbers can stand for switches and sizes.
-/
namespace LexicalGrammar

structure Config where
  options : Pattern.Options
  onFailure : FailurePolicy
  deriving Repr, DecidableEq

namespace Config

inductive Fault where
  | badKey (cause : KeyFault)
  | missingFile (path : String)
  | malformedFile (origin : String)
  | conversion (found wanted : String) (place : List Document.Step) (origin : Option String)
  | shape (cause : Document.Cause Empty)
  | noPolicy (name : String)
  | notAPolicy
  deriving Repr, DecidableEq

/-- What the reader says of a file that is no TOML is left out. -/
def Fault.message : Fault → String
  | .badKey cause => cause.message
  | .missingFile path => s!"configuration file \"{path}\" not found"
  | .malformedFile origin => s!"TOML parse error in {origin}"
  | .conversion found wanted place origin =>
    s!"invalid type: {found}, expected {wanted} for key `{Document.pathText place}`" ++
      match origin with
      | some file => s!" in {file}"
      | none => ""
  | .shape cause => cause.message fun e => nomatch e
  | .noPolicy name => s!"enum FailurePolicy does not have variant constructor {name}"
  | .notAPolicy =>
    "value of enum FailurePolicy should be represented by either string or table with exactly " ++
      "one key"

def truth? (text : String) : Option Bool :=
  let word := Unicode.lowercase text
  if ["1", "true", "on", "yes"].contains word then some true
  else if ["0", "false", "off", "no"].contains word then some false
  else none

/-- A number in decimal that fits into 64 bits; a plus may stand in front. -/
def size? (text : String) : Option Nat :=
  let digits := match text.toList with
    | '+' :: cs => cs
    | cs => cs
  (Decimal.natural? 10 digits).filter Word.fits

def sizeOfText? (text : String) : Option Nat :=
  let word := Unicode.lowercase text
  if ["true", "on", "yes"].contains word then some 1
  else if ["false", "off", "no"].contains word then some 0
  else size? text

/-- The nearest size; halves go up. What is no number counts as zero. -/
def roundedSize (x : Float) : Nat :=
  x.round.toUInt64.toNat

/-- A switch. The text of what is none is shown in lower case. -/
def toBool (place : List Document.Step) (v : Value) : Except Fault Bool :=
  let refuse (v : Value) := .error (.conversion v.found "a boolean" place v.origin)
  match v with
  | .leaf (.bool b) _ => .ok b
  | .leaf (.int n) _ => .ok (n.toInt ≠ 0)
  | .leaf (.float x) _ => .ok (x != 0.0)
  | .leaf (.text s) origin =>
    match truth? s with
    | some b => .ok b
    | none => refuse (.leaf (.text (Unicode.lowercase s)) origin)
  | v => refuse v

def toSize (place : List Document.Step) (v : Value) : Except Fault Nat :=
  let refuse (found wanted : String) := .error (.conversion found wanted place v.origin)
  match v with
  | .leaf (.bool b) _ => .ok (if b then 1 else 0)
  | .leaf (.int n) _ =>
    match n.size? with
    | some size => .ok size
    | none => refuse s!"{n.form} `{n.toInt}`" "an unsigned 64 bit or less integer"
  | .leaf (.float x) _ => .ok (roundedSize x)
  | .leaf (.text s) _ =>
    match sizeOfText? s with
    | some n => .ok n
    | none => refuse v.found "an integer"
  | v => refuse v.found "an integer"

def optionsPlace (step : Document.Step) : List Document.Step :=
  [.field "pattern", step]

def addOption (o : Pattern.Options) (entry : String × Value) : Except Fault Pattern.Options := do
  let place := optionsPlace (.field entry.1)
  match entry.1 with
  | "case_insensitive" => return { o with caseInsensitive := ← toBool place entry.2 }
  | "size_limit" => return { o with sizeLimit := ← toSize place entry.2 }
  | name => .error (.shape (.unknownField name ["case_insensitive", "size_limit"]))

/-- The pattern options: a table, or their values in order. -/
def toOptions : Value → Except Fault Pattern.Options
  | .table entries _ => entries.foldlM addOption {}
  | .list [] _ => .ok {}
  | .list [a] _ => do
    return { caseInsensitive := ← toBool (optionsPlace (.index 0)) a }
  | .list (a :: b :: _) _ => do
    return ⟨← toBool (optionsPlace (.index 0)) a, ← toSize (optionsPlace (.index 1)) b⟩
  | v => .error (.shape (.wrongType v.found "struct PatternOptions"))

def policyOfName (name : String) : Except Fault FailurePolicy :=
  match FailurePolicy.ofName? (Unicode.lowercase name) with
  | some policy => .ok policy
  | none => .error (.noPolicy name)

/-- A policy: its name, or a table with its name as the only key. -/
def toPolicy : Value → Except Fault FailurePolicy
  | .leaf (.text name) _ => policyOfName name
  | .table [(name, _)] _ => policyOfName name
  | _ => .error .notAPolicy

/-- What happens when a rule fails: the only entry of a table, or of a list, that counts. -/
def toResolution : Value → Except Fault FailurePolicy
  | .table entries _ =>
    match entries.lookup "on_failure" with
    | some v => toPolicy v
    | none => .error (.shape (.missingField "on_failure"))
  | .list (v :: _) _ => toPolicy v
  | .list [] _ => .error (.shape (.wrongLength 0 "ResolutionConfig" 1))
  | v => .error (.shape (.wrongType v.found "struct ResolutionConfig"))

def part (root : Value) (name : String) : Except Fault Value :=
  match root.get? name with
  | some v => .ok v
  | none => .error (.shape (.missingField name))

/-- The configuration in a value; other parts do not count. -/
def ofValue (root : Value) : Except Fault Config := do
  return ⟨← toOptions (← part root "pattern"), ← toResolution (← part root "resolution")⟩

end Config
end LexicalGrammar
