import LexicalGrammar.Pattern.Node

/-
What a pattern tree tells about its matches: their length in characters, and whether the search has
to backtrack.
-/
namespace LexicalGrammar.Pattern
namespace Node

mutual
def minLength : Node → Nat
  | .any _ | .literal .. | .chars _ => 1
  | .concat parts => minLengthSum parts
  | .alt branches => minLengthLeast branches
  | .group _ body | .atomic body => minLength body
  | .times body least _ _ => minLength body * least
  | .choice test yes no => minLength test + min (minLength yes) (minLength no)
  | _ => 0

def minLengthSum : List Node → Nat
  | [] => 0
  | n :: rest => minLength n + minLengthSum rest

def minLengthLeast : List Node → Nat
  | [] => 0
  | [n] => minLength n
  | n :: rest => min (minLength n) (minLengthLeast rest)
end

mutual
def hasFixedLength : Node → Bool
  | .concat parts => allFixed parts
  | .alt branches => allFixed branches && sameLength branches
  | .group _ body | .atomic body => hasFixedLength body
  | .times body least most _ => hasFixedLength body && most == some least
  | .choice test yes no =>
    hasFixedLength test && hasFixedLength yes && hasFixedLength no &&
      minLength test + minLength yes == minLength no
  | .groupText _ => false
  | _ => true

def allFixed : List Node → Bool
  | [] => true
  | n :: rest => hasFixedLength n && allFixed rest

def sameLength : List Node → Bool
  | a :: b :: rest => minLength a == minLength b && sameLength (b :: rest)
  | _ => true
end

mutual
/-- Whether matching needs backtracking: for looking around, references, atomic parts, conditionals,
moved starts and word starts and ends. `referenced` are the groups that references mean. -/
def needsBacktracking (referenced : List Nat) : Node → Bool
  | .anchor kind => kind = .wordStart || kind = .wordEnd
  | .concat parts => anyNeeds referenced parts
  | .alt branches => anyNeeds referenced branches
  | .group index body => needsBacktracking referenced body || referenced.contains index
  | .times body .. => needsBacktracking referenced body
  | .empty | .any _ | .literal .. | .chars _ => false
  | .look .. | .groupText _ | .groupTest _ | .atomic _ | .keepOut | .searchStart | .choice .. => true

def anyNeeds (referenced : List Nat) : List Node → Bool
  | [] => false
  | n :: rest => needsBacktracking referenced n || anyNeeds referenced rest
end

mutual
/-- The number of groups opened once `n` is read, if every reference in it means a group that was
opened by then; `opened` is their number before. -/
def referencesFrom (opened : Nat) : Node → Option Nat
  | .concat parts => referencesAll opened parts
  | .alt branches => referencesAll opened branches
  | .group _ body => referencesFrom (opened + 1) body
  | .look _ body | .times body _ _ _ | .atomic body => referencesFrom opened body
  | .groupText index | .groupTest index => if index ≤ opened then some opened else none
  | .choice test yes no =>
    match referencesFrom opened test with
    | none => none
    | some opened =>
      match referencesFrom opened yes with
      | none => none
      | some opened => referencesFrom opened no
  | _ => some opened

def referencesAll (opened : Nat) : List Node → Option Nat
  | [] => some opened
  | n :: rest =>
    match referencesFrom opened n with
    | none => none
    | some opened => referencesAll opened rest
end

def plainChar? : Node → Option Char
  | .literal c false => some c
  | _ => none

end Node
end LexicalGrammar.Pattern
