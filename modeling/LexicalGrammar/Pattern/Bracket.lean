import LexicalGrammar.Unicode.Folding
import LexicalGrammar.Unicode.Property

/-
Character classes in brackets: unions of characters, ranges and named sets, nested classes,
complements, and the operators for intersection, difference and symmetric difference. The
operators bind equally, from the left, and weaker than writing items side by side.
-/
namespace LexicalGrammar.Pattern
open Unicode (CharSet)

namespace Bracket

/-- What stands between the brackets: characters that may have a meaning of their own, characters
that stand for themselves, and sets. -/
inductive Item where
  | raw (char : Char)
  | plain (char : Char)
  | set (chars : Option CharSet)
  | nested (chars : CharSet)
  deriving Repr, Inhabited

inductive Op where
  | inter
  | diff
  | symmDiff
  deriving Repr, DecidableEq

def Op.apply : Op → CharSet → CharSet → CharSet
  | .inter => CharSet.inter
  | .diff => CharSet.diff
  | .symmDiff => CharSet.symmDiff

def closeIf (fold : Bool) (s : CharSet) : CharSet :=
  if fold then Unicode.Folding.close s else s

def asciiClass? (name : String) : Option CharSet :=
  let ranges (rs : List (Char × Char)) := some (CharSet.ofRanges (rs.map fun r => (r.1.toNat, r.2.toNat)))
  match name with
  | "alnum" => ranges [('0', '9'), ('A', 'Z'), ('a', 'z')]
  | "alpha" => ranges [('A', 'Z'), ('a', 'z')]
  | "ascii" => ranges [('\x00', '\x7f')]
  | "blank" => ranges [('\t', '\t'), (' ', ' ')]
  | "cntrl" => ranges [('\x00', '\x1f'), ('\x7f', '\x7f')]
  | "digit" => ranges [('0', '9')]
  | "graph" => ranges [('!', '~')]
  | "lower" => ranges [('a', 'z')]
  | "print" => ranges [(' ', '~')]
  | "punct" => ranges [('!', '/'), (':', '@'), ('[', '\x60'), ('\x7b', '~')]
  | "space" => ranges [('\t', '\r'), (' ', ' ')]
  | "upper" => ranges [('A', 'Z')]
  | "word" => ranges [('0', '9'), ('A', 'Z'), ('_', '_'), ('a', 'z')]
  | "xdigit" => ranges [('0', '9'), ('A', 'F'), ('a', 'f')]
  | _ => none

/-- The raw characters before the first colon, and what follows that colon. -/
def untilColon : List Item → Option (List Char × List Item)
  | .raw ':' :: rest => some ([], rest)
  | .raw c :: rest => (untilColon rest).map fun r => (c :: r.1, r.2)
  | _ => none

def named? (fold : Bool) (items : List Item) : Option (CharSet × List Item) :=
  match items with
  | .raw ':' :: rest =>
    let (negated, rest) := match rest with
      | .raw '^' :: r => (true, r)
      | r => (false, r)
    match untilColon rest with
    | some (name, .raw ']' :: rest) =>
      (asciiClass? (String.ofList name)).map fun s =>
        let s := closeIf fold s
        (if negated then s.complement else s, rest)
    | _ => none
  | _ => none

def member? : List Item → Option (CharSet × List Item)
  | first :: rest =>
    let single : Option CharSet := match first with
      | .raw c | .plain c => some (CharSet.ofChars [c])
      | .set chars => chars
      | .nested chars => some chars
    match rest with
    | [] => none
    | .raw '-' :: .raw ']' :: _ | .raw '-' :: .raw '-' :: _ => single.map (·, rest)
    | .raw '-' :: second :: after =>
      match first, second with
      | .raw a, .raw b | .raw a, .plain b | .plain a, .raw b | .plain a, .plain b =>
        if a ≤ b then some (CharSet.ofRanges [(a.toNat, b.toNat)], after) else none
      | _, _ => none
    | .raw '-' :: [] => none
    | _ => single.map (·, rest)
  | [] => none

/-- The left operand together with what stands right of the last operator. -/
def settle (fold : Bool) (pending : Option (Op × CharSet)) (sets : List CharSet) : CharSet :=
  let right := CharSet.unions sets
  match pending with
  | none => right
  | some (op, left) => op.apply (closeIf fold left) (closeIf fold right)

mutual
def open? (fold : Bool) : Nat → List Item → Option (CharSet × List Item)
  | 0, _ => none
  | fuel + 1, items =>
    let (negated, items) := match items with
      | .raw '^' :: rest => (true, rest)
      | rest => (false, rest)
    let isDash : Item → Bool | .raw '-' => true | _ => false
    let dashes := items.takeWhile isDash
    let items := items.dropWhile isDash
    let (sets, items) := match dashes, items with
      | [], .raw ']' :: rest => ([CharSet.ofChars [']']], rest)
      | [], rest => ([], rest)
      | _, rest => ([CharSet.ofChars ['-']], rest)
    (rest? fold fuel none sets items).map fun r =>
      let s := closeIf fold r.1
      (if negated then s.complement else s, r.2)

def rest? (fold : Bool) : Nat → Option (Op × CharSet) → List CharSet → List Item →
    Option (CharSet × List Item)
  | 0, _, _, _ => none
  | fuel + 1, pending, sets, items =>
    match items with
    | .raw ']' :: rest => some (settle fold pending sets, rest)
    | .raw '[' :: rest =>
      match (named? fold rest).orElse fun _ => open? fold fuel rest with
      | some (s, rest) => rest? fold fuel pending (s :: sets) rest
      | none => none
    | .raw '&' :: .raw '&' :: rest =>
      rest? fold fuel (some (.inter, settle fold pending sets)) [] rest
    | .raw '-' :: .raw '-' :: rest =>
      rest? fold fuel (some (.diff, settle fold pending sets)) [] rest
    | .raw '~' :: .raw '~' :: rest =>
      rest? fold fuel (some (.symmDiff, settle fold pending sets)) [] rest
    | .nested s :: rest => rest? fold fuel pending (s :: sets) rest
    | _ =>
      match member? items with
      | some (s, rest) => rest? fold fuel pending (s :: sets) rest
      | none => none
end

/-- The set that a class stands for, given what follows its opening bracket up to its closing one. -/
def read? (fold : Bool) (items : List Item) : Option CharSet :=
  match open? fold (2 * items.length + 2) items with
  | some (s, []) => some s
  | _ => none

def isMeta (c : Char) : Bool :=
  "\\.+*?()|[]\x7b\x7d^$#&-~".toList.contains c

def Item.ofEscaped (c : Char) : Item :=
  if isMeta c then .plain c else .raw c

end Bracket

def propertySet? (fold negated : Bool) (name : List Char) : Option CharSet :=
  let text := String.ofList name
  let (unequal, chars) : Bool × Option CharSet :=
    match text.splitOn "!=" with
    | property :: value :: more =>
      (true, Unicode.Property.findValue? property (String.intercalate "!=" (value :: more)))
    | _ =>
      match text.splitOn ":" with
      | property :: value :: more =>
        (false, Unicode.Property.findValue? property (String.intercalate ":" (value :: more)))
      | _ =>
        match text.splitOn "=" with
        | property :: value :: more =>
          (false, Unicode.Property.findValue? property (String.intercalate "=" (value :: more)))
        | _ => (false, Unicode.Property.find? text)
  chars.map fun s =>
    let s := Bracket.closeIf fold s
    if negated != unequal then s.complement else s

end LexicalGrammar.Pattern
