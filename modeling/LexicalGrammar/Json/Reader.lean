import LexicalGrammar.Decimal.Digits
import LexicalGrammar.Json.Number

/-
Reading JSON text into a document tree, as far as it goes.
-/
namespace LexicalGrammar.Json
open Document (ReadFault Reading)

namespace Reader

def isBlank (c : Char) : Bool :=
  c = ' ' || c = '\n' || c = '\t' || c = '\r'

def skipBlank (chars : List Char) : List Char :=
  chars.dropWhile isBlank

def word : List Char → List Char → Except ReadFault (List Char)
  | [], cs => .ok cs
  | _, [] => .error .ended
  | w :: ws, c :: cs => if c = w then word ws cs else .error .malformed

def hexCode (chars : List Char) : Except ReadFault (Nat × List Char) :=
  let front := chars.take 4
  if (front.map Char.utf8Size).foldr (· + ·) 0 < 4 then .error .ended
  else
    match front.mapM (Decimal.digitValue? 16) with
    | some digits =>
      if digits.length = 4 then .ok (digits.foldl (fun n d => 16 * n + d) 0, chars.drop 4)
      else .error .malformed
    | none => .error .malformed

/-- The second half of a pair of codes, for a character beyond the first plane. -/
def secondHalf (first : Nat) (chars : List Char) : Except ReadFault (Char × List Char) :=
  match chars with
  | [] | ['\\'] => .error .ended
  | '\\' :: 'u' :: cs => do
    let (second, cs) ← hexCode cs
    if second < 0xdc00 || 0xdfff < second then .error .malformed
    else .ok (Char.ofNat ((first - 0xd800) * 0x400 + (second - 0xdc00) + 0x10000), cs)
  | _ => .error .malformed

def escaped (chars : List Char) : Except ReadFault (Char × List Char) :=
  match chars with
  | [] => .error .ended
  | '"' :: cs => .ok ('"', cs)
  | '\\' :: cs => .ok ('\\', cs)
  | '/' :: cs => .ok ('/', cs)
  | 'b' :: cs => .ok ('\x08', cs)
  | 'f' :: cs => .ok ('\x0c', cs)
  | 'n' :: cs => .ok ('\n', cs)
  | 'r' :: cs => .ok ('\r', cs)
  | 't' :: cs => .ok ('\t', cs)
  | 'u' :: cs => do
    let (code, cs) ← hexCode cs
    if 0xdc00 ≤ code && code ≤ 0xdfff then .error .malformed
    else if 0xd800 ≤ code && code ≤ 0xdbff then secondHalf code cs
    else .ok (Char.ofNat code, cs)
  | _ => .error .malformed

def stringFrom : Nat → List Char → List Char → Except ReadFault (String × List Char)
  | 0, _, _ => .error .ended
  | fuel + 1, before, chars =>
    match chars with
    | [] => .error .ended
    | '"' :: cs => .ok (String.ofList before.reverse, cs)
    | '\\' :: cs =>
      match escaped cs with
      | .ok (c, cs) => stringFrom fuel (c :: before) cs
      | .error fault => .error fault
    | c :: cs => if c.toNat < 0x20 then .error .malformed else stringFrom fuel (c :: before) cs

def string (chars : List Char) : Except ReadFault (String × List Char) :=
  stringFrom (chars.length + 1) [] chars

/-- Nodes so far and the text behind them, or why there is none. -/
abbrev Progress (α : Type) := α × Except ReadFault (List Char)

def ending {α : Type} (p : Progress α) : Option ReadFault :=
  match p.2 with
  | .ok _ => none
  | .error fault => some fault

def leafOf (r : Except ReadFault (Leaf × List Char)) : Progress (Document Leaf) :=
  match r with
  | .ok (value, cs) => (.leaf value, .ok cs)
  | .error fault => (.broken fault, .error fault)

def maxDepth : Nat := 127

mutual
/-- A value; `depth` more lists and objects may be opened. -/
def value : Nat → Nat → List Char → Progress (Document Leaf)
  | 0, _, _ => (.broken .ended, .error .ended)
  | fuel + 1, depth, chars =>
    match skipBlank chars with
    | [] => (.broken .ended, .error .ended)
    | 'n' :: cs => leafOf ((word "ull".toList cs).map (.null, ·))
    | 't' :: cs => leafOf ((word "rue".toList cs).map (.bool true, ·))
    | 'f' :: cs => leafOf ((word "alse".toList cs).map (.bool false, ·))
    | '"' :: cs => leafOf ((string cs).map fun r => (.text r.1, r.2))
    | '[' :: cs =>
      match depth with
      | 0 => (.broken .malformed, .error .malformed)
      | depth + 1 =>
        let r := items fuel depth true cs
        (.list r.1 (ending r), r.2)
    | '\x7b' :: cs =>
      match depth with
      | 0 => (.broken .malformed, .error .malformed)
      | depth + 1 =>
        let r := entries fuel depth true cs
        (.table r.1 (ending r), r.2)
    | c :: cs =>
      if c = '-' || c.isDigit then leafOf (Number.read (c :: cs))
      else (.broken .malformed, .error .malformed)

/-- The rest of a list. After a comma there always is an item, if only a broken one. -/
def items : Nat → Nat → Bool → List Char → Progress (List (Document Leaf))
  | 0, _, _, _ => ([], .error .ended)
  | fuel + 1, depth, first, chars =>
    let item (cs : List Char) : Progress (List (Document Leaf)) :=
      let (t, r) := value fuel depth cs
      match r with
      | .error fault => ([t], .error fault)
      | .ok cs =>
        let (ts, r) := items fuel depth false cs
        (t :: ts, r)
    match skipBlank chars with
    | [] => ([], .error .ended)
    | ']' :: cs => ([], .ok cs)
    | c :: cs =>
      if first then item (c :: cs)
      else if c = ',' then
        match skipBlank cs with
        | ']' :: _ => ([.broken .malformed], .error .malformed)
        | cs => item cs
      else ([], .error .malformed)

def entries : Nat → Nat → Bool → List Char → Progress (List (Document Leaf × Document Leaf))
  | 0, _, _, _ => ([], .error .ended)
  | fuel + 1, depth, first, chars =>
    let entry (cs : List Char) : Progress (List (Document Leaf × Document Leaf)) :=
      match cs with
      | [] => ([], .error .ended)
      | '"' :: cs =>
        match string cs with
        | .error fault => ([], .error fault)
        | .ok (name, cs) =>
          match skipBlank cs with
          | ':' :: cs =>
            let (t, r) := value fuel depth cs
            match r with
            | .error fault => ([(.leaf (.text name), t)], .error fault)
            | .ok cs =>
              let (ts, r) := entries fuel depth false cs
              ((.leaf (.text name), t) :: ts, r)
          | [] => ([(.leaf (.text name), .broken .ended)], .error .ended)
          | _ => ([(.leaf (.text name), .broken .malformed)], .error .malformed)
      | _ => ([], .error .malformed)
    match skipBlank chars with
    | [] => ([], .error .ended)
    | '\x7d' :: cs => ([], .ok cs)
    | c :: cs =>
      if first then entry (c :: cs)
      else if c = ',' then entry (skipBlank cs)
      else ([], .error .malformed)
end

def trailing (chars : List Char) : Option ReadFault :=
  if (skipBlank chars).isEmpty then none else some .malformed

end Reader

def readDocument (source : String) : Reading Leaf :=
  let chars := source.toList
  let (t, r) := Reader.value (2 * chars.length + 2) Reader.maxDepth chars
  match r with
  | .ok rest => ⟨t, Reader.trailing rest⟩
  | .error fault => ⟨t, some fault⟩

def parse? (source : String) : Option Json :=
  let r := readDocument source
  if r.trailing.isNone then ofDocument? r.tree else none

end LexicalGrammar.Json
