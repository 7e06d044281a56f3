import LexicalGrammar.Unicode.CharSet

/-
Runs of case pairs: `count` characters from `first` on, every `step`-th one, each paired with the
character `shift` further on.
-/
namespace LexicalGrammar.Unicode

structure CaseRun where
  first : Nat
  count : Nat
  step : Nat
  shift : Int
  deriving Repr, Inhabited

namespace CaseRun

def pairs (r : CaseRun) : List (Nat × Nat) :=
  (List.range r.count).map fun i =>
    let code := r.first + i * r.step
    (code, ((code : Int) + r.shift).toNat)

def partner? (r : CaseRun) (code : Nat) : Option Nat :=
  if r.first ≤ code ∧ (code - r.first) % r.step = 0 ∧ (code - r.first) / r.step < r.count then
    some ((code : Int) + r.shift).toNat
  else none

def hexInt (digits : List Char) : Int :=
  match digits with
  | '-' :: rest => -(CharSet.hexNat rest : Int)
  | _ => CharSet.hexNat digits

/-- One run per word, its four numbers in hexadecimal. -/
def ofTable (table : String) : List CaseRun :=
  (CharSet.words table).filterMap fun word =>
    match word.splitOn "," with
    | [first, count, step, shift] =>
      some ⟨CharSet.hexNat first.toList, CharSet.hexNat count.toList, CharSet.hexNat step.toList,
        hexInt shift.toList⟩
    | _ => none

end CaseRun
end LexicalGrammar.Unicode
