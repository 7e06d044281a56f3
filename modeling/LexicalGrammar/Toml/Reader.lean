import LexicalGrammar.Toml.Number
import LexicalGrammar.Toml.Text

/-
Reading TOML documents.
-/
namespace LexicalGrammar.Toml

namespace Reader

def word : List Char → List Char → Option (List Char)
  | [], cs => some cs
  | _, [] => none
  | w :: ws, c :: cs => if c = w then word ws cs else none

def maxDepth : Nat := 79

def scalar (chars : List Char) : Option (Value × List Char) :=
  match chars with
  | '"' :: cs => (Text.read '"' cs).map fun (s, cs) => (.text s, cs)
  | '\'' :: cs => (Text.read '\'' cs).map fun (s, cs) => (.text s, cs)
  | 't' :: cs => (word "rue".toList cs).map (.bool true, ·)
  | 'f' :: cs => (word "alse".toList cs).map (.bool false, ·)
  | cs =>
    match Moment.read cs with
    | some (m, cs) => some (.moment m, cs)
    | none => Number.read cs

mutual
def value : Nat → Nat → List Char → Option (Value × List Char)
  | 0, _, _ => none
  | fuel + 1, depth, chars =>
    match chars, depth with
    | '[' :: _, 0 | '\x7b' :: _, 0 => none
    | '[' :: cs, depth + 1 => (items fuel depth cs).map fun (vs, cs) => (.list vs, cs)
    | '\x7b' :: cs, depth + 1 =>
      let entries :=
        match skipBlank cs with
        | '\x7d' :: cs => some ([], cs)
        | cs => pairs fuel depth [] cs
      entries.map fun (es, cs) => (.table (Entries.valuesOf es), cs)
    | cs, _ => scalar cs

def items : Nat → Nat → List Char → Option (List Value × List Char)
  | 0, _, _ => none
  | fuel + 1, depth, chars =>
    match skipGap false chars with
    | ']' :: cs => some ([], cs)
    | cs => do
      let (v, cs) ← value fuel depth cs
      match skipGap false cs with
      | ',' :: cs =>
        let (vs, cs) ← items fuel depth cs
        return (v :: vs, cs)
      | ']' :: cs => return ([v], cs)
      | _ => none

def pairs : Nat → Nat → Entries → List Char → Option (Entries × List Char)
  | 0, _, _, _ => none
  | fuel + 1, depth, before, chars => do
    let (keys, cs) ← Key.read chars
    let cs ← word ['='] cs
    let (v, cs) ← value fuel depth (skipBlank cs)
    let entries ← Entries.assign keys v .written before
    match skipBlank cs with
    | ',' :: cs => pairs fuel depth entries cs
    | '\x7d' :: cs => return (entries, cs)
    | _ => none
end

structure Draft where
  entries : Entries := []
  current : List String := []

namespace Draft

def assign (d : Draft) (keys : List String) (v : Value) : Option Draft := do
  return { d with
    entries := ← Entries.descend false (Entries.assign keys v) d.current .written d.entries }

end Draft

def lines : Nat → Draft → List Char → Option Draft
  | 0, _, _ => none
  | fuel + 1, d, chars =>
    match skipBlank chars with
    | [] => some d
    | '[' :: '[' :: cs => do
      let (keys, cs) ← Key.read cs
      let cs ← lineEnd? (← word [']', ']'] cs)
      lines fuel ⟨← Entries.openElement keys d.entries, keys⟩ cs
    | '[' :: cs => do
      let (keys, cs) ← Key.read cs
      let cs ← lineEnd? (← word [']'] cs)
      lines fuel ⟨← Entries.openTable keys d.entries, keys⟩ cs
    | c :: cs =>
      if c = '#' || c = '\n' || c = '\r' then (lineEnd? (c :: cs)).bind (lines fuel d)
      else do
        let (keys, cs) ← Key.read (c :: cs)
        let cs ← word ['='] cs
        let (v, cs) ← value fuel maxDepth (skipBlank cs)
        lines fuel (← d.assign keys v) (← lineEnd? cs)

end Reader

def read? (source : String) : Option (List (String × Value)) :=
  let chars := match source.toList with
    | '\ufeff' :: cs => cs
    | cs => cs
  (Reader.lines (2 * chars.length + 2) {} chars).map fun d => Entries.valuesOf d.entries

end LexicalGrammar.Toml
