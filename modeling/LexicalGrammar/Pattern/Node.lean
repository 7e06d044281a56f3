import LexicalGrammar.Unicode.CharSet

/-
Pattern trees: what a pattern text means before it is matched.
-/
namespace LexicalGrammar.Pattern
open Unicode (CharSet)

inductive Anchor where
  | textStart
  | textEnd
  | lineStart
  | lineEnd
  | wordEdge
  | notWordEdge
  | wordStart
  | wordEnd
  deriving Repr, DecidableEq, Inhabited

structure Look where
  behind : Bool
  negative : Bool
  deriving Repr, DecidableEq

/-- A pattern. Groups carry their number, counted by opening parentheses from one. A character set
that was written badly is `none`: it is only refused when the pattern is assembled. -/
inductive Node where
  | empty
  | any (newline : Bool)
  | anchor (kind : Anchor)
  | literal (char : Char) (fold : Bool)
  | chars (set : Option CharSet)
  | concat (parts : List Node)
  | alt (branches : List Node)
  | group (index : Nat) (body : Node)
  | look (kind : Look) (body : Node)
  | times (body : Node) (least : Nat) (most : Option Nat) (greedy : Bool)
  | groupText (index : Nat)
  | groupTest (index : Nat)
  | atomic (body : Node)
  | keepOut
  | searchStart
  | choice (test yes no : Node)
  deriving Repr, Inhabited

namespace Node

def isEmpty : Node → Bool
  | .empty => true
  | _ => false

def repeatable : Node → Bool
  | .empty | .anchor _ | .look .. => false
  | _ => true

mutual
def groupCount : Node → Nat
  | .concat parts => groupCounts parts
  | .alt branches => groupCounts branches
  | .group _ body => groupCount body + 1
  | .look _ body => groupCount body
  | .times body .. => groupCount body
  | .atomic body => groupCount body
  | .choice test yes no => groupCount test + groupCount yes + groupCount no
  | _ => 0

def groupCounts : List Node → Nat
  | [] => 0
  | n :: rest => groupCount n + groupCounts rest
end

end Node
end LexicalGrammar.Pattern
