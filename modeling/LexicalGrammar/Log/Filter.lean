import LexicalGrammar.Decimal.Digits
import LexicalGrammar.Event
import LexicalGrammar.Unicode.Property

/-
Which events are put into a log: rules of the form `source=level`, between commas. The rule with
the longest source counts; `off` lets nothing pass.
-/
namespace LexicalGrammar.Log

/-- The least important level that passes; nothing passes if there is none. -/
abbrev Threshold := Option Level

def rank : Level → Nat
  | .error => 1
  | .warn => 2
  | .info => 3
  | .debug => 4
  | .trace => 5

def Threshold.admits (t : Threshold) (level : Level) : Bool :=
  t.any fun least => rank level ≤ rank least

def thresholds : List (String × Threshold) :=
  [("off", none), ("error", some .error), ("warn", some .warn), ("info", some .info),
    ("debug", some .debug), ("trace", some .trace)]

def threshold? (text : String) : Option Threshold :=
  let digits := match text.toList with
    | '+' :: cs => cs
    | cs => cs
  match Decimal.natural? 10 digits with
  | some n => (thresholds[n]?).map (·.2)
  | none => thresholds.lookup (String.ofList (text.toList.map Char.toLower))

structure Directive where
  source : String
  threshold : Threshold
  deriving Repr, DecidableEq

/-- Directives, the later ones of one source before the earlier ones. -/
abbrev Filter := List Directive

namespace Directive

/-- The level behind a sign of equality. Everything passes if it is left out. -/
def levelAfter (chars : List Char) : Option Threshold :=
  if chars.isEmpty then some (some .trace) else threshold? (String.ofList chars)

/-- What stands behind a span in brackets. No event of this library lies in a span. -/
def afterSpan (chars : List Char) : Option (Option Directive) :=
  match chars.dropWhile (· ≠ ']') with
  | [_] => some none
  | _ :: '=' :: level => (levelAfter level).map fun _ => none
  | _ => none

def startsSource (c : Char) : Bool :=
  Unicode.alphanumeric.contains c || c = '-' || c = ':' || c = '_'

def parse (text : String) : Option (Option Directive) :=
  let chars := text.toList
  let source := chars.takeWhile fun c => c ≠ '=' && c ≠ '['
  let name := String.ofList source
  match chars, chars.drop source.length with
  | '[' :: rest, _ => afterSpan rest
  | c :: _, rest =>
    if !startsSource c then none
    else
      match rest with
      | [] => some (match threshold? name with
        | some t => some ⟨"", t⟩
        | none => some ⟨name, some .trace⟩)
      | '=' :: level => (levelAfter level).map fun t => some ⟨name, t⟩
      | _ :: rest => afterSpan rest
  | [], _ => none

end Directive

namespace Filter

def level (l : Level) : Filter :=
  [⟨"", some l⟩]

def default : Filter :=
  level .warn

/-- The filter in a text. One without directives lets errors pass. -/
def parse? (text : String) : Option Filter :=
  (((text.splitOn ",").filter (· ≠ "")).mapM Directive.parse).map fun found =>
    if found.isEmpty then level .error else (found.filterMap id).reverse

def ofText (text : Option String) : Filter :=
  (text.bind parse?).getD default

def find? (f : Filter) (source : String) : Option Directive :=
  let matching := f.filter fun d => source.startsWith d.source
  matching.find? fun d => matching.all fun other => other.source.length ≤ d.source.length

def admits (f : Filter) (e : Event) : Bool :=
  (f.find? e.source).any fun d => d.threshold.admits e.level

end Filter
end LexicalGrammar.Log
