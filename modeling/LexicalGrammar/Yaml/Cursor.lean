/-
Places in a YAML text: what stands there, and how lines and columns are counted.
-/
namespace LexicalGrammar.Yaml

def isSpace (c : Char) : Bool := c = ' '

def isTab (c : Char) : Bool := c = '\t'

def isBlank (c : Char) : Bool := isSpace c || isTab c

def isBreak (c : Char) : Bool :=
  c = '\r' || c = '\n' || c = '\u0085' || c = '\u2028' || c = '\u2029'

def isNameChar (c : Char) : Bool :=
  c.isAlphanum || c = '_' || c = '-'

def isAllowed (c : Char) : Bool :=
  c = '\t' || c = '\n' || c = '\r' || c = '\u0085' ||
    (' ' ≤ c && c ≤ '~') || ('\u00a0' ≤ c && c ≤ '\ud7ff') || ('\ue000' ≤ c && c ≤ '\ufffd') ||
    0x10000 ≤ c.toNat

/-- A place in a text, with its index and its line and column, all counted in characters. -/
structure Cursor where
  rest : List Char
  index : Nat := 0
  line : Nat := 0
  column : Nat := 0
  deriving Repr, Inhabited

namespace Cursor

def peek? (c : Cursor) : Option Char :=
  c.rest.head?

def testAt (c : Cursor) (k : Nat) (test : Char → Bool) : Bool :=
  (c.rest[k]?).any test

def test (c : Cursor) (p : Char → Bool) : Bool :=
  c.testAt 0 p

def is (c : Cursor) (char : Char) : Bool :=
  c.test (· = char)

def isEnd (c : Cursor) : Bool :=
  c.rest.isEmpty

def blankOrEndAt (c : Cursor) (k : Nat) : Bool :=
  match c.rest[k]? with
  | none => true
  | some char => isBlank char || isBreak char

def blankOrEnd (c : Cursor) : Bool :=
  c.blankOrEndAt 0

def breakOrEnd (c : Cursor) : Bool :=
  c.isEnd || c.test isBreak

def skip (c : Cursor) : Cursor :=
  match c.rest with
  | [] => c
  | _ :: rest => { c with rest := rest, index := c.index + 1, column := c.column + 1 }

def skips (c : Cursor) : Nat → Cursor
  | 0 => c
  | n + 1 => skips c.skip n

def skipBreak (c : Cursor) : Cursor :=
  match c.rest with
  | '\r' :: '\n' :: rest => ⟨rest, c.index + 2, c.line + 1, 0⟩
  | b :: rest => if isBreak b then ⟨rest, c.index + 1, c.line + 1, 0⟩ else c
  | [] => c

/-- The text of the line break that stands here: all kinds but two are written alike. -/
def breakText (c : Cursor) : List Char :=
  match c.rest with
  | b :: _ => if !isBreak b then [] else if b = '\u2028' || b = '\u2029' then [b] else ['\n']
  | [] => []

def skipWhile (c : Cursor) (p : Char → Bool) : Cursor :=
  c.skips (c.rest.takeWhile p).length

def takeWhile (c : Cursor) (p : Char → Bool) : List Char × Cursor :=
  (c.rest.takeWhile p, c.skipWhile p)

def skipComment (c : Cursor) : Cursor :=
  if c.is '#' then c.skipWhile (!isBreak ·) else c

def atMark (c : Cursor) (char : Char) : Bool :=
  c.column = 0 && c.rest.take 3 = [char, char, char] && c.blankOrEndAt 3

def atDocumentMark (c : Cursor) : Bool :=
  c.atMark '-' || c.atMark '.'

end Cursor
end LexicalGrammar.Yaml
