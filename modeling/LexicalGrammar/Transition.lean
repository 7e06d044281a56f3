import LexicalGrammar.Decimal.Digits
import LexicalGrammar.Word

/-
Transitions of the state stack, and their written form: a list of entries, each of which pops
states, pushes the rule's own state again or names a state to push.
-/
namespace LexicalGrammar

inductive StateRef where
  /-- The state that the rule belongs to. -/
  | current
  | named (name : String)
  deriving Repr, DecidableEq, Inhabited

inductive Transition where
  /-- Pushes states in order; the last one becomes active. -/
  | push (targets : List StateRef)
  | pop (count : Nat)
  deriving Repr, DecidableEq, Inhabited

inductive TransitionFault where
  | noEntries
  | badCount (entry : String)
  | popsNothing (entry : String)
  | countOverflow (entry : String)
  | unknownDirective (entry : String)
  | mixed
  deriving Repr, DecidableEq

def TransitionFault.message : TransitionFault → String
  | .noEntries => "no next states given"
  | .badCount entry => s!"bad pop count in `{entry}`"
  | .popsNothing entry => s!"`{entry}` pops nothing"
  | .countOverflow entry => s!"pop count overflows at `{entry}`"
  | .unknownDirective entry => s!"unknown directive `{entry}`"
  | .mixed => "cannot mix pops and pushes"

namespace Transition

/-- Counts of popped states stay below this. -/
def countBound : Nat := Word.count

def pushWord : String := "#push"

def popCount? (entry : String) : Option Nat :=
  match entry.toList with
  | '#' :: 'p' :: 'o' :: 'p' :: rest =>
    match rest with
    | [] => some 1
    | ':' :: digits => Decimal.natural? 10 digits
    | _ => none
  | _ => none

def pushed? (entry : String) : Option StateRef :=
  if entry = pushWord then some .current
  else if entry.isEmpty || entry.toList.head? = some '#' then none
  else some (.named entry)

def parseFrom (pops : Nat) (pushes : List StateRef) : List String →
    Except TransitionFault (Nat × List StateRef)
  | [] => .ok (pops, pushes)
  | entry :: rest =>
    match popCount? entry with
    | some count =>
      if countBound ≤ count then .error (.badCount entry)
      else if count = 0 then .error (.popsNothing entry)
      else if countBound ≤ pops + count then .error (.countOverflow entry)
      else parseFrom (pops + count) pushes rest
    | none =>
      match pushed? entry with
      | some target => parseFrom pops (pushes ++ [target]) rest
      | none => .error (.unknownDirective entry)

def parse (entries : List String) : Except TransitionFault Transition :=
  if entries.isEmpty then .error .noEntries
  else
    match parseFrom 0 [] entries with
    | .error fault => .error fault
    | .ok (0, pushes) => .ok (.push pushes)
    | .ok (count, []) => .ok (.pop count)
    | .ok _ => .error .mixed

def targetEntry : StateRef → String
  | .current => pushWord
  | .named name => name

def entries : Transition → List String
  | .pop count => ["#pop:" ++ toString count]
  | .push targets => targets.map targetEntry

def describe (t : Transition) : String :=
  match t with
  | .pop _ => String.join t.entries
  | .push _ => "[" ++ String.intercalate ", " t.entries ++ "]"

end Transition
end LexicalGrammar
