import LexicalGrammar.Pattern.Shape
import LexicalGrammar.Unicode.Folding

/-
Whether an automaton can be built for a pattern, and how much room it takes.
-/
namespace LexicalGrammar.Pattern
open Unicode (CharSet)
namespace Node

def maxCount : Nat := 4294967295

mutual
def wellFormed : Node → Bool
  | .chars set => set.isSome
  | .concat parts => allWellFormed parts
  | .alt branches => allWellFormed branches
  | .group _ body | .look _ body | .atomic body => wellFormed body
  | .times body least most _ =>
    wellFormed body && least ≤ maxCount && most.all fun m => least ≤ m && m ≤ maxCount
  | .choice test yes no => wellFormed test && wellFormed yes && wellFormed no
  | _ => true

def allWellFormed : List Node → Bool
  | [] => true
  | n :: rest => wellFormed n && allWellFormed rest
end

def stateRoom : Nat := 32

/-- The room for what reads one character of the set: a transition for each range, and states for
the bytes of characters beyond ASCII. -/
def setRoom (s : CharSet) : Nat :=
  stateRoom + (s.ranges.toList.map fun r => if r.2 < 0x80 then 8 else 40).foldr (· + ·) 0

mutual
/-- An estimate of the bytes that the automaton takes. Counted repetitions are written out. -/
def room : Node → Nat
  | .empty => stateRoom
  | .any _ => 12 * stateRoom
  | .anchor _ => stateRoom
  | .literal c _ => (stateRoom + 8) * c.utf8Size
  | .chars set => setRoom (set.getD CharSet.empty)
  | .concat parts => roomSum parts
  | .alt branches => roomSum branches + stateRoom
  | .group _ body => room body + 2 * stateRoom
  | .times body least most _ =>
    match most with
    | none => room body * max least 1 + stateRoom
    | some most => room body * most + stateRoom * (most - least)
  | .look _ body | .atomic body => room body
  | .choice test yes no => room test + room yes + room no
  | .groupText _ | .groupTest _ | .keepOut | .searchStart => stateRoom

def roomSum : List Node → Nat
  | [] => 0
  | n :: rest => room n + roomSum rest
end

def baseRoom : Nat := 192

def maxTexts : Nat := 10

def maxTextBytes : Nat := 100

def productTexts? (xs ys : List (List Char)) : Option (List (List Char)) :=
  if xs.length * ys.length ≤ maxTexts then some (xs.flatMap fun x => ys.map (x ++ ·)) else none

def powerTexts? (xs : List (List Char)) : Nat → Option (List (List Char))
  | 0 => some [[]]
  | n + 1 => (powerTexts? xs n).bind (productTexts? · xs)

def setTexts? (set : CharSet) : Option (List (List Char)) :=
  if set.card ≤ maxTexts then some (set.toChars.map ([·])) else none

mutual
def texts? : Node → Option (List (List Char))
  | .literal c false => some [[c]]
  | .literal c true => setTexts? (Unicode.Folding.close (CharSet.ofChars [c]))
  | .chars (some set) => setTexts? set
  | .concat parts => textsOfAll? parts
  | .alt branches => textsOfAny? branches
  | .times body least most _ =>
    if most = some least && least ≤ maxTexts then (texts? body).bind (powerTexts? · least) else none
  | _ => none

def textsOfAll? : List Node → Option (List (List Char))
  | [] => some [[]]
  | n :: rest => (texts? n).bind fun xs => (textsOfAll? rest).bind (productTexts? xs)

def textsOfAny? : List Node → Option (List (List Char))
  | [] => some []
  | n :: rest => (texts? n).bind fun xs => (textsOfAny? rest).bind fun ys =>
    if (xs ++ ys).length ≤ maxTexts then some (xs ++ ys) else none
end

/-- Whether the pattern is a search for a few texts, for which no automaton is needed. -/
def isTextSearch (n : Node) : Bool :=
  match texts? n with
  | some texts =>
    !texts.isEmpty && texts.all fun t =>
      let bytes := (t.map Char.utf8Size).foldr (· + ·) 0
      1 ≤ bytes && bytes ≤ maxTextBytes
  | none => false

end Node
end LexicalGrammar.Pattern
