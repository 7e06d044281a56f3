import LexicalGrammar.Decimal.Shortest
import LexicalGrammar.Document.Decode

/-
JSON values: leaves, whole values, and their written form.
-/
namespace LexicalGrammar.Json

inductive Leaf where
  | null
  | bool (value : Bool)
  | int (value : Int)
  | float (value : Float)
  | text (value : String)
  deriving Repr, Inhabited

def floatStyle : Decimal.Style where
  positionalFrom := some (-5)
  positionalBelow := some 16
  pointZero := true
  tieUp := false

namespace Leaf

def found : Leaf → String
  | .null => "null"
  | .bool value => s!"boolean `{value}`"
  | .int value => s!"integer `{value}`"
  | .float value => "floating point `" ++ floatStyle.render value ++ "`"
  | .text value => "string " ++ LexicalGrammar.Text.quoted value

def text? : Leaf → Option String
  | .text value => some value
  | _ => none

def isNull : Leaf → Bool
  | .null => true
  | _ => false

end Leaf

/-- Only texts stand for texts; a list may stand for a record. -/
def convention : Document.Convention Leaf where
  text? := Leaf.text?
  found := Leaf.found
  claimed? _ := none
  isAbsent value := .ok value.isNull
  isBlank _ := false
  positional := true

def boolOf {ε : Type} (t : Document Leaf) : Document.Decoded ε Bool :=
  match t.target with
  | .leaf (.bool value) => .ok value
  | t => Document.wrongType convention "a boolean" t

def sizeOf {ε : Type} (t : Document Leaf) : Document.Decoded ε Nat :=
  match t.target with
  | .leaf (.int value) =>
    if 0 ≤ value then .ok value.toNat
    else Document.fail (.wrongValue (Leaf.found (.int value)) "usize")
  | t => Document.wrongType convention "usize" t

end Json

inductive Json where
  | leaf (value : Json.Leaf)
  | list (items : List Json)
  | object (fields : List (String × Json))
  deriving Repr, Inhabited

namespace Json

def null : Json := .leaf .null

def bool (value : Bool) : Json := .leaf (.bool value)

def int (value : Int) : Json := .leaf (.int value)

def nat (value : Nat) : Json := .leaf (.int value)

def text (value : String) : Json := .leaf (.text value)

/-- The value of a field; of several with one name the last counts. -/
def field? (j : Json) (name : String) : Option Json :=
  match j with
  | .object fields => (fields.reverse.find? (·.1 = name)).map (·.2)
  | _ => none

mutual
def ofDocument? : Document Leaf → Option Json
  | .leaf value => some (.leaf value)
  | .list items none => (ofDocuments? items).map .list
  | .table entries none => (ofEntries? entries).map .object
  | .alias t => ofDocument? t
  | _ => none

def ofDocuments? : List (Document Leaf) → Option (List Json)
  | [] => some []
  | t :: rest => (ofDocument? t).bind fun j => (ofDocuments? rest).map (j :: ·)

def ofEntries? : List (Document Leaf × Document Leaf) → Option (List (String × Json))
  | [] => some []
  | (.leaf (.text name), t) :: rest =>
    (ofDocument? t).bind fun j => (ofEntries? rest).map ((name, j) :: ·)
  | _ => none
end

namespace Written

def shortCode (c : Char) : List Char :=
  let digit (n : Nat) : Char := "0123456789abcdef".toList.getD n '0'
  ['\\', 'u', '0', '0', digit (c.toNat / 16 % 16), digit (c.toNat % 16)]

def encodeChar (c : Char) : List Char :=
  match c with
  | '"' => ['\\', '"']
  | '\\' => ['\\', '\\']
  | '\x08' => ['\\', 'b']
  | '\x0c' => ['\\', 'f']
  | '\n' => ['\\', 'n']
  | '\r' => ['\\', 'r']
  | '\t' => ['\\', 't']
  | c => if c.toNat < 0x20 then shortCode c else [c]

def string (value : String) : List Char :=
  '"' :: value.toList.flatMap encodeChar ++ ['"']

def leaf : Leaf → List Char
  | .null => "null".toList
  | .bool value => (if value then "true" else "false").toList
  | .int value => (toString value).toList
  | .float value => (floatStyle.render value).toList
  | .text value => string value

def newline (depth : Nat) : List Char :=
  '\n' :: List.replicate (2 * depth) ' '

mutual
def pretty (depth : Nat) : Json → List Char
  | .leaf value => leaf value
  | .list [] => ['[', ']']
  | .list items => '[' :: prettyItems (depth + 1) items ++ newline depth ++ [']']
  | .object [] => ['\x7b', '\x7d']
  | .object fields => '\x7b' :: prettyFields (depth + 1) fields ++ newline depth ++ ['\x7d']

def prettyItems (depth : Nat) : List Json → List Char
  | [] => []
  | [j] => newline depth ++ pretty depth j
  | j :: rest => newline depth ++ pretty depth j ++ ',' :: prettyItems depth rest

def prettyFields (depth : Nat) : List (String × Json) → List Char
  | [] => []
  | [(name, j)] => newline depth ++ string name ++ ':' :: ' ' :: pretty depth j
  | (name, j) :: rest =>
    newline depth ++ string name ++ ':' :: ' ' :: pretty depth j ++ ',' :: prettyFields depth rest
end

mutual
/-- Written on one line without blanks, in front of what is written behind it. -/
def compact : Json → List Char → List Char
  | .leaf value, behind => leaf value ++ behind
  | .list items, behind => '[' :: compactItems items (']' :: behind)
  | .object fields, behind => '\x7b' :: compactFields fields ('\x7d' :: behind)

def compactItems : List Json → List Char → List Char
  | [], behind => behind
  | [j], behind => compact j behind
  | j :: rest, behind => compact j (',' :: compactItems rest behind)

def compactFields : List (String × Json) → List Char → List Char
  | [], behind => behind
  | [(name, j)], behind => string name ++ ':' :: compact j behind
  | (name, j) :: rest, behind => string name ++ ':' :: compact j (',' :: compactFields rest behind)
end

end Written

def pretty (j : Json) : String :=
  String.ofList (Written.pretty 0 j)

def compact (j : Json) : String :=
  String.ofList (Written.compact j [])

end Json
end LexicalGrammar
