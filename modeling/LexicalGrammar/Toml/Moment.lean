import LexicalGrammar.Decimal.Digits

/-
Dates and times as they stand in TOML documents, and their written form.
-/
namespace LexicalGrammar.Toml

structure Date where
  year : Nat
  month : Nat
  day : Nat
  deriving Repr, DecidableEq

namespace Date

def isLeapYear (year : Nat) : Bool :=
  year % 4 = 0 && (year % 100 ≠ 0 || year % 400 = 0)

def daysInMonth (year month : Nat) : Nat :=
  if month = 2 then if isLeapYear year then 29 else 28
  else if [4, 6, 9, 11].contains month then 30
  else 31

def isValid (d : Date) : Bool :=
  1 ≤ d.month && d.month ≤ 12 && 1 ≤ d.day && d.day ≤ daysInMonth d.year d.month

end Date

/-- A time of the day; the fraction of the second is counted in billionths. -/
structure Time where
  hour : Nat
  minute : Nat
  second : Nat
  fraction : Nat
  deriving Repr, DecidableEq

/-- Whether there is such a time; a minute may have a leap second. -/
def Time.isValid (t : Time) : Bool :=
  t.hour ≤ 23 && t.minute ≤ 59 && t.second ≤ 60

inductive Offset where
  | universal
  | minutes (ahead : Int)
  deriving Repr, DecidableEq

inductive Moment where
  | day (date : Date)
  | clock (time : Time)
  | point (date : Date) (time : Time) (offset : Option Offset)
  deriving Repr, DecidableEq

def padded (width n : Nat) : List Char :=
  let digits := Nat.toDigits 10 n
  List.replicate (width - digits.length) '0' ++ digits

namespace Moment

def dateText (d : Date) : List Char :=
  padded 4 d.year ++ '-' :: padded 2 d.month ++ '-' :: padded 2 d.day

def fractionText (fraction : Nat) : List Char :=
  if fraction = 0 then []
  else '.' :: ((padded 9 fraction).reverse.dropWhile (· = '0')).reverse

def timeText (t : Time) : List Char :=
  padded 2 t.hour ++ ':' :: padded 2 t.minute ++ ':' :: padded 2 t.second ++ fractionText t.fraction

def offsetText : Offset → List Char
  | .universal => ['Z']
  | .minutes ahead =>
    (if ahead < 0 then '-' else '+') ::
      padded 2 (ahead.natAbs / 60) ++ ':' :: padded 2 (ahead.natAbs % 60)

def text (m : Moment) : String :=
  String.ofList <| match m with
    | .day d => dateText d
    | .clock t => timeText t
    | .point d t offset => dateText d ++ 'T' :: timeText t ++ (offset.map offsetText).getD []

def digits (count : Nat) (chars : List Char) : Option (Nat × List Char) :=
  let front := chars.take count
  if front.length = count && front.all Char.isDigit then
    (Decimal.natural? 10 front).map (·, chars.drop count)
  else none

def mark (c : Char) : List Char → Option (List Char)
  | [] => none
  | d :: cs => if d = c then some cs else none

def readDate (chars : List Char) : Option (Date × List Char) := do
  let (year, cs) ← digits 4 chars
  let (month, cs) ← digits 2 (← mark '-' cs)
  let (monthDay, cs) ← digits 2 (← mark '-' cs)
  let date : Date := ⟨year, month, monthDay⟩
  if date.isValid then some (date, cs) else none

/-- The billionths of a second behind a point; further digits do not count. -/
def readFraction (chars : List Char) : Nat × List Char :=
  match chars with
  | '.' :: cs =>
    let shown := cs.takeWhile Char.isDigit
    let counted := shown.take 9
    match Decimal.natural? 10 counted with
    | some n => (n * Nat.pow 10 (9 - counted.length), cs.drop shown.length)
    | none => (0, chars)
  | cs => (0, cs)

def readTime (chars : List Char) : Option (Time × List Char) := do
  let (hour, cs) ← digits 2 chars
  let (minute, cs) ← digits 2 (← mark ':' cs)
  let (second, cs) ← digits 2 (← mark ':' cs)
  let (fraction, cs) := readFraction cs
  let time : Time := ⟨hour, minute, second, fraction⟩
  if time.isValid then some (time, cs) else none

def readOffset (chars : List Char) : Option (Offset × List Char) :=
  let shifted (sign : Int) (cs : List Char) : Option (Offset × List Char) := do
    let (hour, cs) ← digits 2 cs
    let (minute, cs) ← digits 2 (← mark ':' cs)
    if hour ≤ 23 && minute ≤ 59 then some (.minutes (sign * (60 * hour + minute)), cs) else none
  match chars with
  | 'Z' :: cs | 'z' :: cs => some (.universal, cs)
  | '+' :: cs => shifted 1 cs
  | '-' :: cs => shifted (-1) cs
  | _ => none

def readTimeAfter (date : Date) (chars : List Char) : Option (Moment × List Char) :=
  match chars with
  | [] => none
  | c :: cs =>
    if c = 'T' || c = 't' || c = ' ' then
      (readTime cs).map fun (time, cs) =>
        match readOffset cs with
        | some (offset, cs) => (.point date time (some offset), cs)
        | none => (.point date time none, cs)
    else none

def read (chars : List Char) : Option (Moment × List Char) :=
  match readDate chars with
  | some (date, cs) => some ((readTimeAfter date cs).getD (.day date, cs))
  | none => (readTime chars).map fun (time, cs) => (.clock time, cs)

end Moment
end LexicalGrammar.Toml
