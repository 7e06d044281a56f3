import LexicalGrammar.Word

/-
Decimal text of binary floating point numbers: the fewest digits that read back as the number, and
of those the nearest, laid out as a style says.
-/
namespace LexicalGrammar

/-- A decimal: `digits` times ten to the `exponent`. -/
structure Decimal where
  digits : Nat
  exponent : Int
  deriving Repr, DecidableEq

namespace Decimal

/-- The interval of numbers that are rounded to one floating point number, over a common
denominator, and whether its ends belong to it. -/
structure Interval where
  low : Nat
  value : Nat
  high : Nat
  denominator : Nat
  closed : Bool
  deriving Repr

namespace Interval

def hiddenBit : Nat := 4503599627370496

/-- The interval of `m` times two to the power `q`. The gap below a power of two is half as wide,
unless `least` says that there are no narrower ones. -/
def ofBinary (m : Nat) (q : Int) (least : Bool) : Interval :=
  let narrow := m = hiddenBit && !least
  let scale := Nat.pow 2 (q - 2).toNat
  ⟨(4 * m - if narrow then 1 else 2) * scale, 4 * m * scale, (4 * m + 2) * scale,
    Nat.pow 2 (2 - q).toNat, m % 2 == 0⟩

def ofBits (bits : Nat) : Interval :=
  let fraction := bits % hiddenBit
  let power : Nat := bits / hiddenBit % 2048
  if power = 0 then ofBinary fraction (-1074) true
  else ofBinary (hiddenBit + fraction) ((power : Int) - 1075) (power = 1)

def holds (i : Interval) (d : Nat) (exponent : Int) : Bool :=
  let num := d * Nat.pow 10 exponent.toNat * i.denominator
  let scale := Nat.pow 10 (-exponent).toNat
  if i.closed then i.low * scale ≤ num && num ≤ i.high * scale
  else i.low * scale < num && num < i.high * scale

/-- How many places the value has to be moved to the left to reach one. -/
def leadingZeros (i : Interval) : Nat → Nat → Nat
  | 0, n => n
  | fuel + 1, n => if i.denominator ≤ i.value * Nat.pow 10 n then n else leadingZeros i fuel (n + 1)

def magnitude (i : Interval) : Int :=
  if i.denominator ≤ i.value then ((Nat.toDigits 10 (i.value / i.denominator)).length : Int) - 1
  else -(leadingZeros i 400 1 : Int)

/-- The neighbour of the value among the multiples of ten to the `exponent` that reads back, the
nearer one if both do; of two equally near the even one, or the upper one if `up`. -/
def onGrid? (i : Interval) (up : Bool) (exponent : Int) : Option Decimal :=
  let num := i.value * Nat.pow 10 (-exponent).toNat
  let unit := i.denominator * Nat.pow 10 exponent.toNat
  let d := num / unit
  let twice := 2 * (num % unit)
  match i.holds d exponent && d ≠ 0, i.holds (d + 1) exponent with
  | false, false => none
  | true, false => some ⟨d, exponent⟩
  | false, true => some ⟨d + 1, exponent⟩
  | true, true =>
    if twice < unit || (twice = unit && !up && d % 2 = 0) then some ⟨d, exponent⟩
    else some ⟨d + 1, exponent⟩

/-- Seventeen digits are always enough. -/
def shortest (i : Interval) (up : Bool) : Decimal :=
  let top := i.magnitude
  ((List.range 17).findSome? fun (n : Nat) => i.onGrid? up (top - (n : Int))).getD ⟨0, 0⟩

end Interval

structure Style where
  /-- Exponents of the leading digit from here on are written by position. -/
  positionalFrom : Option Int
  /-- Exponents of the leading digit below this one are written by position. -/
  positionalBelow : Option Int
  pointZero : Bool
  /-- Of two equally near decimals the upper one is taken, not the even one. -/
  tieUp : Bool
  deriving Repr

namespace Style

def positionalOnly : Style where
  positionalFrom := none
  positionalBelow := none
  pointZero := true
  tieUp := true

def zeros (n : Nat) : List Char :=
  List.replicate n '0'

/-- The digits with the point behind the one with exponent `0`, where the first has exponent
`magnitude`. -/
def positional (s : Style) (digits : List Char) (magnitude : Int) : List Char :=
  if magnitude < 0 then '0' :: '.' :: zeros (-magnitude - 1).toNat ++ digits
  else
    let whole := magnitude.toNat + 1
    if digits.length ≤ whole then
      digits ++ zeros (whole - digits.length) ++ if s.pointZero then ['.', '0'] else []
    else digits.take whole ++ '.' :: digits.drop whole

def scientific (digits : List Char) (magnitude : Int) : List Char :=
  let front := match digits with
    | d :: [] => [d]
    | d :: rest => d :: '.' :: rest
    | [] => []
  let sign := if magnitude < 0 then '-' else '+'
  front ++ 'e' :: sign :: Nat.toDigits 10 magnitude.natAbs

def unsigned (s : Style) (d : Decimal) : List Char :=
  let digits := Nat.toDigits 10 d.digits
  let magnitude : Int := d.exponent + (digits.length : Int) - 1
  let digits := (digits.reverse.dropWhile (· = '0')).reverse
  if s.positionalFrom.all (· ≤ magnitude) && s.positionalBelow.all (magnitude < ·) then
    s.positional digits magnitude
  else scientific digits magnitude

def render (s : Style) (x : Float) : String :=
  let bits := x.toBits.toNat
  if x.isNaN then "NaN"
  else
    let sign := if bits < Word.half then [] else ['-']
    let rest :=
      if x.isInf then "inf".toList
      else if x == 0.0 then '0' :: if s.pointZero then ['.', '0'] else []
      else s.unsigned ((Interval.ofBits (bits % Word.half)).shortest s.tieUp)
    String.ofList (sign ++ rest)

end Style
end Decimal
end LexicalGrammar
