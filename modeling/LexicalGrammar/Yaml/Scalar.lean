import LexicalGrammar.Decimal.Digits
import LexicalGrammar.Decimal.Shortest
import LexicalGrammar.Document.Decode
import LexicalGrammar.Word

/-
Scalars of YAML documents and what they are taken for: their text counts where a text is wanted, and
otherwise their look, unless a tag or quotes say something else.
-/
namespace LexicalGrammar.Yaml
open Decimal (infinity natural? nearest Style)

structure Scalar where
  text : String
  plain : Bool
  tag : Option String := none
  deriving Repr, DecidableEq, Inhabited

/-- What a scalar may be taken for. Integers beyond 64 bits are told apart. -/
inductive Meaning where
  | null
  | bool (value : Bool)
  | int (value : Int) (wide : Bool)
  | float (value : Float)
  | text (value : String)
  deriving Repr, Inhabited

namespace Meaning

def null? (s : String) : Option Meaning :=
  if ["null", "Null", "NULL", "~"].contains s then some .null else none

def bool? (s : String) : Option Meaning :=
  if ["true", "True", "TRUE"].contains s then some (.bool true)
  else if ["false", "False", "FALSE"].contains s then some (.bool false)
  else none

def marked? : List Char → Option (Nat × List Char)
  | '0' :: 'x' :: rest => some (16, rest)
  | '0' :: 'o' :: rest => some (8, rest)
  | '0' :: 'b' :: rest => some (2, rest)
  | _ => none

def hasLeadingZero (chars : List Char) : Bool :=
  match chars with
  | '0' :: d :: rest => (d :: rest).all Char.isDigit
  | _ => false

def integer? (chars : List Char) : Option Int :=
  let (negative, digits) : Bool × List Char := match chars with
    | '-' :: rest => (true, rest)
    | '+' :: rest => (false, rest)
    | rest => (false, rest)
  let inRadix := (marked? digits).bind fun r => natural? r.1 r.2
  let n := inRadix.orElse fun _ => if hasLeadingZero digits then none else natural? 10 digits
  n.map fun n => if negative then -(n : Int) else n

def int? (s : String) : Option Meaning :=
  match integer? s.toList with
  | none => none
  | some n =>
    let wide : Int := Word.half * Word.count
    if -(Word.half : Int) ≤ n && n < Word.count then some (.int n false)
    else if -wide ≤ n && n < 2 * wide then some (.int n true)
    else none

def exponent? (chars : List Char) : Option Int :=
  match chars with
  | [] => some 0
  | e :: rest =>
    if e ≠ 'e' && e ≠ 'E' then none
    else
      let (negative, digits) : Bool × List Char := match rest with
        | '-' :: ds => (true, ds)
        | '+' :: ds => (false, ds)
        | ds => (false, ds)
      if digits.all Char.isDigit then
        (natural? 10 digits).map fun n => if negative then -(n : Int) else n
      else none

/-- A decimal without a sign: digits, a point or none, an exponent or none. It may not be too
large. -/
def decimal? (chars : List Char) : Option Float :=
  let whole := chars.takeWhile Char.isDigit
  let rest := chars.dropWhile Char.isDigit
  let (fraction, rest) := match rest with
    | '.' :: r => (r.takeWhile Char.isDigit, r.dropWhile Char.isDigit)
    | r => ([], r)
  if whole.isEmpty && fraction.isEmpty then none
  else
    (exponent? rest).bind fun e =>
      let x := nearest ((natural? 10 (whole ++ fraction)).getD 0) (e - fraction.length)
      if x.isInf then none else some x

def float? (s : String) : Option Meaning :=
  let chars := s.toList
  let signed : Option Float := match chars with
    | '-' :: rest => (decimal? rest).map fun x => -x
    | '+' :: rest => decimal? rest
    | rest => decimal? rest
  if [".inf", ".Inf", ".INF", "+.inf", "+.Inf", "+.INF"].contains s then some (.float infinity)
  else if ["-.inf", "-.Inf", "-.INF"].contains s then some (.float (-infinity))
  else if [".nan", ".NaN", ".NAN"].contains s then some (.float (0.0 / 0.0))
  else signed.map .float

def isZeroPadded (s : String) : Bool :=
  match s.toList with
  | '-' :: rest | '+' :: rest => hasLeadingZero rest
  | rest => hasLeadingZero rest

def ofLook (s : String) : Meaning :=
  if s.isEmpty then .null
  else
    let number : Option Meaning := (int? s).orElse fun _ => if isZeroPadded s then none else float? s
    (((null? s).orElse fun _ => bool? s).orElse fun _ => number).getD (.text s)

def found : Meaning → String
  | .null => "unit value"
  | .bool value => s!"boolean `{value}`"
  | .int value false => s!"integer `{value}`"
  | .int value true => s!"integer `{value}` as " ++ if value < 0 then "i128" else "u128"
  | .float value => "floating point `" ++ Style.positionalOnly.render value ++ "`"
  | .text value => "string " ++ LexicalGrammar.Text.quoted value

end Meaning

namespace Scalar

def standardTag (name : String) : String :=
  "tag:yaml.org,2002:" ++ name

def tagged : List (String × String × (String → Option Meaning)) := [
  (standardTag "bool", "a boolean", Meaning.bool?),
  (standardTag "int", "an integer", Meaning.int?),
  (standardTag "float", "a float", Meaning.float?),
  (standardTag "null", "null", Meaning.null?)]

/-- What the scalar is taken for; an error says what its tag claims and its text is not. -/
def meaning (s : Scalar) : Except String Meaning :=
  match s.tag with
  | none => .ok (if s.plain then Meaning.ofLook s.text else .text s.text)
  | some tag =>
    match tagged.find? (·.1 = tag) with
    | some (_, wanted, read) =>
      match read s.text with
      | some m => .ok m
      | none => .error wanted
    | none =>
      .ok (if s.plain && tag.toList.head? = some '!' then Meaning.ofLook s.text else .text s.text)

def found (s : Scalar) : String :=
  match s.meaning with
  | .ok m => m.found
  | .error _ => (Meaning.text s.text).found

def isAbsent (s : Scalar) : Except String Bool :=
  if !s.plain then .ok false
  else if s.tag = some (standardTag "null") then
    if (Meaning.null? s.text).isSome then .ok true else .error "null"
  else .ok (s.tag.isNone && (s.text.isEmpty || (Meaning.null? s.text).isSome))

end Scalar

/-- Every scalar stands for its text; one that is empty stands for an empty collection. -/
def convention : Document.Convention Scalar where
  text? s := some s.text
  found := Scalar.found
  claimed? s := match s.meaning with
    | .ok _ => none
    | .error wanted => some wanted
  isAbsent := Scalar.isAbsent
  isBlank s := s.plain && s.text.isEmpty
  positional := false

end LexicalGrammar.Yaml
