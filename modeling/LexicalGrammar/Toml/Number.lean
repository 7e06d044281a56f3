import LexicalGrammar.Toml.Item
import LexicalGrammar.Word

/-
Numbers in TOML documents. Single underscores may stand between digits.
-/
namespace LexicalGrammar.Toml.Number
open Decimal (digitValue? natural?)

def isDigit (radix : Nat) (c : Char) : Bool :=
  (digitValue? radix c).isSome

def moreDigits (radix : Nat) : List Char → Option (List Char × List Char)
  | [] => some ([], [])
  | ['_'] => none
  | '_' :: c :: cs =>
    if isDigit radix c then (moreDigits radix cs).map fun (ds, cs) => (c :: ds, cs) else none
  | c :: cs =>
    if isDigit radix c then (moreDigits radix cs).map fun (ds, cs) => (c :: ds, cs)
    else some ([], c :: cs)

def digits (radix : Nat) (chars : List Char) : Option (List Char × List Char) :=
  match chars with
  | [] => none
  | c :: _ => if isDigit radix c then moreDigits radix chars else none

/-- The digits of a whole number: a zero in front stands alone. -/
def whole (chars : List Char) : Option (List Char × List Char) :=
  match chars with
  | '0' :: cs => some (['0'], cs)
  | cs => digits 10 cs

/-- Whole numbers fit into 64 bits with a sign. -/
def ofInt (n : Int) : Option Value :=
  if Word.fitsSigned n then some (.int n) else none

def inRadix (radix : Nat) (chars : List Char) : Option (Value × List Char) := do
  let (ds, cs) ← digits radix chars
  return (← ofInt (← natural? radix ds), cs)

def exponent (chars : List Char) : Option (Int × List Char) := do
  let (sign, cs) : Int × List Char := match chars with
    | '-' :: cs => (-1, cs)
    | '+' :: cs => (1, cs)
    | cs => (1, cs)
  let (ds, cs) ← digits 10 cs
  return (sign * (← natural? 10 ds), cs)

/-- A floating point number. Those below all others are infinite; those above are refused. -/
def ofDecimal (negative : Bool) (ds : List Char) (power : Int) : Option Value := do
  let x := Decimal.nearest (← natural? 10 ds) power
  if negative then some (.float (-x)) else if x.isInf then none else some (.float x)

def afterWhole (negative : Bool) (ds : List Char) (chars : List Char) : Option (Value × List Char) :=
  match chars with
  | 'e' :: cs | 'E' :: cs => do
    let (power, cs) ← exponent cs
    return (← ofDecimal negative ds power, cs)
  | '.' :: cs => do
    let (fraction, cs) ← digits 10 cs
    let (power, cs) ← match cs with
      | 'e' :: cs | 'E' :: cs => exponent cs
      | cs => some (0, cs)
    return (← ofDecimal negative (ds ++ fraction) (power - fraction.length), cs)
  | cs => do
    let n ← natural? 10 ds
    return (← ofInt (if negative then -(n : Int) else n), cs)

def signed (negative : Bool) (chars : List Char) : Option (Value × List Char) :=
  let special (x : Float) : Value := .float (if negative then -x else x)
  match chars with
  | 'i' :: 'n' :: 'f' :: cs => some (special Decimal.infinity, cs)
  | 'n' :: 'a' :: 'n' :: cs => some (special (0.0 / 0.0), cs)
  | cs => do
    let (ds, cs) ← whole cs
    afterWhole negative ds cs

def read (chars : List Char) : Option (Value × List Char) :=
  match chars with
  | '0' :: 'x' :: cs => inRadix 16 cs
  | '0' :: 'o' :: cs => inRadix 8 cs
  | '0' :: 'b' :: cs => inRadix 2 cs
  | '+' :: cs => signed false cs
  | '-' :: cs => signed true cs
  | cs => signed false cs

end LexicalGrammar.Toml.Number
