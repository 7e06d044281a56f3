import LexicalGrammar.Unicode.CharSet
import LexicalGrammar.Yaml.Cursor

/-
The texts of scalars: plain, in quotes, and as blocks of lines. Each reader gives the text and the
place behind it, or none if the text is not well formed. Its fuel is the length of the whole text:
every step reads at least one character.
-/
namespace LexicalGrammar.Yaml

structure Gap where
  blanks : List Char := []
  first : List Char := []
  more : List Char := []
  hasBreak : Bool := false

namespace Gap

def text (g : Gap) : List Char :=
  if !g.hasBreak then g.blanks
  else if g.first = ['\n'] then (if g.more.isEmpty then [' '] else g.more)
  else g.first ++ g.more

/-- Reads on through blanks and line breaks. In plain scalars tabs must not stand left of column
`bound` of a new line. -/
def scan (bound : Option Nat) : Nat → Cursor → Gap → Option (Gap × Cursor)
  | 0, c, g => some (g, c)
  | fuel + 1, c, g =>
    match c.peek? with
    | none => some (g, c)
    | some char =>
      if isBlank char then
        if g.hasBreak && isTab char && bound.any (c.column < ·) then none
        else scan bound fuel c.skip (if g.hasBreak then g else { g with blanks := g.blanks ++ [char] })
      else if isBreak char then
        scan bound fuel c.skipBreak
          (if g.hasBreak then { g with more := g.more ++ c.breakText }
          else { blanks := [], first := c.breakText, more := [], hasBreak := true })
      else some (g, c)

end Gap

namespace Plain

def endsFlow (char : Char) : Bool :=
  ",[]\x7b\x7d".toList.contains char

/-- The characters up to a blank or an indicator that ends the scalar. A colon in front of a flow
indicator is refused. -/
def word (inFlow : Bool) : Nat → Cursor → Option (List Char × Cursor)
  | 0, c => some ([], c)
  | fuel + 1, c =>
    match c.peek? with
    | none => some ([], c)
    | some char =>
      if isBlank char || isBreak char then some ([], c)
      else if inFlow && char = ':' && c.testAt 1 (fun d => d = '?' || endsFlow d) then none
      else if char = ':' && c.blankOrEndAt 1 then some ([], c)
      else if inFlow && endsFlow char then some ([], c)
      else (word inFlow fuel c.skip).map fun r => (char :: r.1, r.2)

def scanFrom (inFlow : Bool) (bound : Nat) : Nat → Cursor → List Char → Gap →
    Option (List Char × Bool × Cursor)
  | 0, c, text, gap => some (text, gap.hasBreak, c)
  | fuel + 1, c, text, gap =>
    if c.atDocumentMark || c.is '#' then some (text, gap.hasBreak, c)
    else
      match word inFlow (fuel + 1) c with
      | none => none
      | some ([], c) => some (text, gap.hasBreak, c)
      | some (chars, c) =>
        let text := text ++ gap.text ++ chars
        if !c.test fun d => isBlank d || isBreak d then some (text, false, c)
        else
          match Gap.scan (some bound) (fuel + 1) c {} with
          | none => none
          | some (gap, c) =>
            if !inFlow && c.column < bound then some (text, gap.hasBreak, c)
            else scanFrom inFlow bound fuel c text gap

def scan (inFlow : Bool) (bound fuel : Nat) (c : Cursor) : Option (List Char × Bool × Cursor) :=
  scanFrom inFlow bound fuel c [] {}

end Plain

namespace Quoted

def escape? : Char → Option Char
  | '0' => some '\x00'
  | 'a' => some '\x07'
  | 'b' => some '\x08'
  | 't' | '\t' => some '\t'
  | 'n' => some '\n'
  | 'v' => some '\x0b'
  | 'f' => some '\x0c'
  | 'r' => some '\r'
  | 'e' => some '\x1b'
  | ' ' => some ' '
  | '"' => some '"'
  | '/' => some '/'
  | '\\' => some '\\'
  | 'N' => some '\u0085'
  | '_' => some '\u00a0'
  | 'L' => some '\u2028'
  | 'P' => some '\u2029'
  | _ => none

def isHex (c : Char) : Bool :=
  c.isDigit || ('a' ≤ c && c ≤ 'f') || ('A' ≤ c && c ≤ 'F')

def codeLength? : Char → Option Nat
  | 'x' => some 2
  | 'u' => some 4
  | 'U' => some 8
  | _ => none

def escaped (c : Cursor) : Option (Char × Cursor) :=
  match c.rest[1]? with
  | none => none
  | some letter =>
    match escape? letter with
    | some char => some (char, c.skips 2)
    | none =>
      match codeLength? letter with
      | none => none
      | some n =>
        let c := c.skips 2
        let digits := c.rest.take n
        let code := Unicode.CharSet.hexNat (digits.map Char.toLower)
        if digits.length = n && digits.all isHex && code.isValidChar then
          some (Char.ofNat code, c.skips n)
        else none

/-- The characters up to a blank, the closing quote or an escaped line break, which is stepped
over; says whether there was one. -/
def word (single : Bool) : Nat → Cursor → Option (List Char × Bool × Cursor)
  | 0, c => some ([], false, c)
  | fuel + 1, c =>
    match c.peek? with
    | none => some ([], false, c)
    | some char =>
      let more (char : Char) (c : Cursor) :=
        (word single fuel c).map fun r => (char :: r.1, r.2)
      if isBlank char || isBreak char then some ([], false, c)
      else if single then
        if char = '\'' then
          if c.testAt 1 (· = '\'') then more '\'' (c.skips 2) else some ([], false, c)
        else more char c.skip
      else if char = '"' then some ([], false, c)
      else if char = '\\' then
        if c.testAt 1 isBreak then some ([], true, c.skip.skipBreak)
        else
          match escaped c with
          | some (char, c) => more char c
          | none => none
      else more char c.skip

def scanFrom (single : Bool) : Nat → Cursor → List Char → Option (List Char × Cursor)
  | 0, _, _ => none
  | fuel + 1, c, text =>
    if c.atDocumentMark || c.isEnd then none
    else
      match word single (fuel + 1) c with
      | none => none
      | some (chars, joined, c) =>
        let text := text ++ chars
        if c.is (if single then '\'' else '"') then some (text, c.skip)
        else
          match Gap.scan none (fuel + 1) c { hasBreak := joined } with
          | none => none
          | some (gap, c) => scanFrom single fuel c (text ++ gap.text)

def scan (single : Bool) (fuel : Nat) (c : Cursor) : Option (List Char × Cursor) :=
  scanFrom single fuel c.skip []

end Quoted

namespace Block

inductive Chomping where
  | strip
  | clip
  | keep
  deriving Repr, DecidableEq

def chomping? : Char → Option Chomping
  | '+' => some .keep
  | '-' => some .strip
  | _ => none

def chomping (c : Cursor) : Option (Chomping × Cursor) :=
  (c.peek?.bind chomping?).map (·, c.skip)

def increment (c : Cursor) : Option (Option Nat × Cursor) :=
  match c.peek? with
  | some char =>
    if char = '0' then none
    else if char.isDigit then some (some (char.toNat - '0'.toNat), c.skip)
    else some (none, c)
  | none => some (none, c)

def header (c : Cursor) : Option (Chomping × Option Nat × Cursor) :=
  match chomping c with
  | some (chomp, c) => (increment c).map fun r => (chomp, r.1, r.2)
  | none =>
    match increment c with
    | none => none
    | some (none, c) => some (.clip, none, c)
    | some (some n, c) =>
      match chomping c with
      | some (chomp, c) => some (chomp, some n, c)
      | none => some (.clip, some n, c)

/-- Empty lines, with the indentation of the line behind them. While the indentation is not known,
the widest one is looked for. Gives the line breaks and the widest column. -/
def emptyLines (indent : Option Nat) : Nat → Cursor → List Char → Nat →
    Option (List Char × Nat × Cursor)
  | 0, c, breaks, widest => some (breaks, widest, c)
  | fuel + 1, c, breaks, widest =>
    let c := c.skips ((c.rest.takeWhile isSpace).take
      (match indent with | none => fuel + 1 | some n => n - c.column)).length
    let widest := max widest c.column
    if indent.all (c.column < ·) && c.test isTab then none
    else if c.test isBreak then emptyLines indent fuel c.skipBreak (breaks ++ c.breakText) widest
    else some (breaks, widest, c)

def linesFrom (literal : Bool) (indent : Nat) : Nat → Cursor → List Char → List Char → List Char →
    Bool → Option (List Char × List Char × List Char × Cursor)
  | 0, c, text, first, more, _ => some (text, first, more, c)
  | fuel + 1, c, text, first, more, wasBlank =>
    if c.column = indent && !c.isEnd then
      let blank := c.test isBlank
      let joint :=
        if !literal && first = ['\n'] && !wasBlank && !blank then
          (if more.isEmpty then [' '] else []) ++ more
        else first ++ more
      let (line, c) := c.takeWhile (!isBreak ·)
      let text := text ++ joint ++ line
      let first := c.breakText
      match emptyLines (some indent) (fuel + 1) c.skipBreak [] 0 with
      | none => none
      | some (more, _, c) => linesFrom literal indent fuel c text first more blank
    else some (text, first, more, c)

/-- A block scalar, at its letter. `parent` is the indentation of the collection around it. -/
def scan (literal : Bool) (parent : Int) (fuel : Nat) (c : Cursor) : Option (List Char × Cursor) := do
  let (chomp, digit, c) ← header c.skip
  let c := (c.skipWhile isBlank).skipComment
  if !c.breakOrEnd then none
  let c := c.skipBreak
  let given := digit.map fun n => if 0 ≤ parent then parent.toNat + n else n
  let (more, widest, c) ← emptyLines given fuel c [] 0
  let indent := given.getD (max widest (max (parent + 1).toNat 1))
  let (text, first, more, c) ← linesFrom literal indent fuel c [] [] more false
  return (text ++ (if chomp = .strip then [] else first) ++ (if chomp = .keep then more else []), c)

end Block
end LexicalGrammar.Yaml
