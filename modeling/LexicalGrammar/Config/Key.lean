import LexicalGrammar.Decimal.Digits
import LexicalGrammar.Word

/-
Keys of settings: a name, and steps to what stands below it.
-/
namespace LexicalGrammar.Config

/-- A step down: to an entry of a table, or to an item of a list. Places below zero are counted from
the end. -/
inductive Step where
  | child (name : String)
  | index (place : Int)
  deriving Repr, DecidableEq

structure Key where
  first : String
  below : List Step
  deriving Repr, DecidableEq

def Key.steps (k : Key) : List Step :=
  .child k.first :: k.below

inductive KeyFault where
  | noName
  | badCharacter
  | noDigits
  | badPlace
  deriving Repr, DecidableEq

def KeyFault.message : KeyFault → String
  | .noName => "IsA"
  | .badCharacter => "Char"
  | .noDigits => "Digit"
  | .badPlace => "Map on Result"

namespace Key

def isNameChar (c : Char) : Bool :=
  c.isAlphanum || c = ' ' || c = '_' || c = '-'

def skipBlank (chars : List Char) : List Char :=
  chars.dropWhile fun c => c = ' ' || c = '\t'

def name? (chars : List Char) : Option (String × List Char) :=
  let name := chars.takeWhile isNameChar
  if name.isEmpty then none else some (String.ofList name, chars.dropWhile isNameChar)

/-- A place in a list, behind its opening bracket; it fits into 64 bits with a sign. -/
def place (chars : List Char) : Except KeyFault (Int × List Char) :=
  let (negative, cs) : Bool × List Char := match skipBlank chars with
    | '-' :: cs => (true, cs)
    | cs => (false, cs)
  match Decimal.natural? 10 (cs.takeWhile Char.isDigit) with
  | none => .error .noDigits
  | some n =>
    let n : Int := if negative then -(n : Int) else n
    if !Word.fitsSigned n then .error .badPlace
    else
      match skipBlank (cs.dropWhile Char.isDigit) with
      | ']' :: cs => .ok (n, cs)
      | _ => .error .badCharacter

def stepsFrom : Nat → List Char → Except KeyFault (List Step)
  | _, [] => .ok []
  | 0, _ => .error .badCharacter
  | fuel + 1, '.' :: cs =>
    match name? cs with
    | some (name, cs) => (stepsFrom fuel cs).map (.child name :: ·)
    | none => .error .badCharacter
  | fuel + 1, '[' :: cs => do
    let (n, cs) ← place cs
    return .index n :: (← stepsFrom fuel cs)
  | _ + 1, _ => .error .badCharacter

/-- The key that a text stands for, such as `a.b[0]`. -/
def parse (text : String) : Except KeyFault Key :=
  match name? text.toList with
  | some (name, cs) => (stepsFrom cs.length cs).map (⟨name, ·⟩)
  | none => .error .noName

end Key
end LexicalGrammar.Config
