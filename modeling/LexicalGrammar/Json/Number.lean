import LexicalGrammar.Json.Value
import LexicalGrammar.Word

/-
Numbers in JSON texts. Whole numbers of at most 64 bits are exact; all others are floating point
numbers, made from as many digits as fit into 64 bits and a power of ten.
-/
namespace LexicalGrammar.Json
open Document (ReadFault)

namespace Number

def digit (c : Char) : Nat :=
  c.toNat - '0'.toNat

/-- Digits taken one by one as long as the number stays below two to the 64; gives the number, how
many digits were taken, and the rest. -/
def absorb : List Char → Nat → Nat → Nat × Nat × List Char
  | [], n, taken => (n, taken, [])
  | c :: cs, n, taken =>
    if c.isDigit && Word.fits (10 * n + digit c) then absorb cs (10 * n + digit c) (taken + 1)
    else (n, taken, c :: cs)

def maxPower : Nat := 308

/-- The significand times ten to the exponent, in steps that stay within the powers of ten.
None if it is too large. -/
def scaled : Nat → Float → Int → Option Float
  | 0, x, _ => some x
  | fuel + 1, x, exponent =>
    if exponent.natAbs ≤ maxPower then
      let power := Float.ofScientific 1 false exponent.natAbs
      if 0 ≤ exponent then
        let y := x * power
        if y.isInf then none else some y
      else some (x / power)
    else if x == 0.0 then some x
    else if 0 ≤ exponent then none
    else scaled fuel (x / Float.ofScientific 1 false maxPower) (exponent + maxPower)

def floatOf (negative : Bool) (significand : Nat) (exponent : Int) : Except ReadFault Leaf :=
  match scaled 8 (Float.ofNat significand) exponent with
  | some x => .ok (.float (if negative then -x else x))
  | none => .error .malformed

def dropDigits (chars : List Char) : List Char :=
  chars.dropWhile Char.isDigit

/-- Exponents beyond this are too large to be counted with. -/
def maxExponent : Nat := 2147483647

def exponentPart (negative : Bool) (significand : Nat) (start : Int) (chars : List Char) :
    Except ReadFault (Leaf × List Char) :=
  let (down, chars) := match chars with
    | '+' :: cs => (false, cs)
    | '-' :: cs => (true, cs)
    | cs => (false, cs)
  match chars with
  | [] => .error .ended
  | c :: _ =>
    if !c.isDigit then .error .malformed
    else
      let digits := chars.takeWhile Char.isDigit
      let n : Nat := digits.foldl (fun n c => 10 * n + digit c) 0
      let rest := dropDigits chars
      if maxExponent < n then
        if significand ≠ 0 && !down then .error .malformed
        else (floatOf negative 0 0).map (·, rest)
      else
        (floatOf negative significand (if down then start - n else start + n)).map (·, rest)

def afterDigits (negative : Bool) (significand : Nat) (exponent : Int) (chars : List Char) :
    Except ReadFault (Leaf × List Char) :=
  match chars with
  | 'e' :: cs | 'E' :: cs => exponentPart negative significand exponent cs
  | cs => (floatOf negative significand exponent).map (·, cs)

def fractionPart (negative : Bool) (significand : Nat) (exponent : Int) (chars : List Char) :
    Except ReadFault (Leaf × List Char) :=
  match chars with
  | [] => .error .ended
  | c :: _ =>
    if !c.isDigit then .error .malformed
    else
      let (significand, taken, rest) := absorb chars significand 0
      afterDigits negative significand (exponent - taken) (dropDigits rest)

/-- What follows the whole digits; `dropped` of them did not fit. -/
def afterWhole (negative : Bool) (significand dropped : Nat) (chars : List Char) :
    Except ReadFault (Leaf × List Char) :=
  match chars with
  | '.' :: cs => fractionPart negative significand dropped cs
  | 'e' :: cs | 'E' :: cs => exponentPart negative significand dropped cs
  | cs =>
    if dropped ≠ 0 then (floatOf negative significand dropped).map (·, cs)
    else if !negative then .ok (.int significand, cs)
    else if 1 ≤ significand && significand ≤ Word.half then .ok (.int (-significand), cs)
    else .ok (.float (-Float.ofNat significand), cs)

def unsigned (negative : Bool) (chars : List Char) : Except ReadFault (Leaf × List Char) :=
  match chars with
  | [] => .error .ended
  | '0' :: cs =>
    if (cs.head?).any Char.isDigit then .error .malformed else afterWhole negative 0 0 cs
  | c :: _ =>
    if !c.isDigit then .error .malformed
    else
      let (significand, _, rest) := absorb chars 0 0
      afterWhole negative significand (rest.takeWhile Char.isDigit).length (dropDigits rest)

def read (chars : List Char) : Except ReadFault (Leaf × List Char) :=
  match chars with
  | '-' :: cs => unsigned true cs
  | cs => unsigned false cs

end Number
end LexicalGrammar.Json
