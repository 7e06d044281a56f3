/-
Digits and the numbers they stand for.
-/
namespace LexicalGrammar.Decimal

def digitValue? (radix : Nat) (c : Char) : Option Nat :=
  let value :=
    if c.isDigit then c.toNat - '0'.toNat
    else if 'a' ≤ c && c ≤ 'z' then c.toNat - 'a'.toNat + 10
    else if 'A' ≤ c && c ≤ 'Z' then c.toNat - 'A'.toNat + 10
    else radix
  if value < radix then some value else none

def natural? (radix : Nat) (digits : List Char) : Option Nat :=
  if digits.isEmpty then none
  else (digits.mapM (digitValue? radix)).map (·.foldl (fun n d => radix * n + d) 0)

def infinity : Float := 1.0 / 0.0

/-- The floating point number nearest to `digits` times ten to the `exponent`. Numbers beyond all
others become infinity, and those too small for any become zero. -/
def nearest (digits : Nat) (exponent : Int) : Float :=
  let magnitude : Int := (Nat.toDigits 10 digits).length + exponent
  if digits = 0 || magnitude < -400 then 0.0
  else if 400 < magnitude then infinity
  else Float.ofScientific digits (exponent < 0) exponent.natAbs

end LexicalGrammar.Decimal
