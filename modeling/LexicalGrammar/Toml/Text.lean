import LexicalGrammar.Decimal.Digits

/-
Blanks, comments, keys and texts of TOML documents.
-/
namespace LexicalGrammar.Toml

def isBlank (c : Char) : Bool := c = ' ' || c = '\t'

def isPrintable (c : Char) : Bool :=
  c = '\t' || (' ' ≤ c && c ≤ '~') || '\u0080' ≤ c

def skipBlank (chars : List Char) : List Char :=
  chars.dropWhile isBlank

def lineBreak? : List Char → Option (List Char)
  | '\n' :: cs | '\r' :: '\n' :: cs => some cs
  | _ => none

def lineEnd? (chars : List Char) : Option (List Char) :=
  let rest := match skipBlank chars with
    | '#' :: cs => cs.dropWhile isPrintable
    | cs => cs
  match rest with
  | [] => some []
  | rest => lineBreak? rest

def skipSpace : List Char → List Char
  | '\r' :: '\n' :: cs => skipSpace cs
  | c :: cs => if isBlank c || c = '\n' then skipSpace cs else c :: cs
  | [] => []

/-- Behind blanks, line breaks and comments; `comment` tells whether one was begun. -/
def skipGap (comment : Bool) : List Char → List Char
  | '\r' :: '\n' :: cs => skipGap false cs
  | '\n' :: cs => skipGap false cs
  | c :: cs =>
    if comment then if isPrintable c then skipGap true cs else c :: cs
    else if c = '#' then skipGap true cs
    else if isBlank c then skipGap false cs
    else c :: cs
  | [] => []

namespace Text

def charOfCode (count : Nat) (chars : List Char) : Option (Char × List Char) := do
  let front := chars.take count
  let code ← Decimal.natural? 16 front
  if front.length = count && code.isValidChar then some (Char.ofNat code, chars.drop count)
  else none

def escaped : List Char → Option (Char × List Char)
  | 'b' :: cs => some ('\x08', cs)
  | 't' :: cs => some ('\t', cs)
  | 'n' :: cs => some ('\n', cs)
  | 'f' :: cs => some ('\x0c', cs)
  | 'r' :: cs => some ('\r', cs)
  | '"' :: cs => some ('"', cs)
  | '\\' :: cs => some ('\\', cs)
  | 'u' :: cs => charOfCode 4 cs
  | 'U' :: cs => charOfCode 8 cs
  | _ => none

def hasEscapes (quote : Char) : Bool := quote = '"'

def lineFrom (quote : Char) : Nat → List Char → List Char → Option (String × List Char)
  | 0, _, _ => none
  | fuel + 1, before, chars =>
    match chars with
    | [] => none
    | c :: cs =>
      if c = quote then some (String.ofList before.reverse, cs)
      else if c = '\\' && hasEscapes quote then
        (escaped cs).bind fun (e, cs) => lineFrom quote fuel (e :: before) cs
      else if isPrintable c then lineFrom quote fuel (c :: before) cs
      else none

/-- The rest of a text that goes over lines, with the characters before it in reverse. Of the quotes
at its end three close it, and up to two more belong to it. A backslash at the end of a line takes
away the space up to the next character. -/
def blockFrom (quote : Char) : Nat → List Char → List Char → Option (String × List Char)
  | 0, _, _ => none
  | fuel + 1, before, chars =>
    match lineBreak? chars, chars with
    | some cs, _ => blockFrom quote fuel ('\n' :: before) cs
    | none, [] => none
    | none, c :: cs =>
      if c = quote then
        let run := (chars.takeWhile (· = quote)).length
        if run < 3 then
          blockFrom quote fuel (List.replicate run quote ++ before) (chars.drop run)
        else
          let inside := min (run - 3) 2
          some (String.ofList (List.replicate inside quote ++ before).reverse,
            chars.drop (inside + 3))
      else if c = '\\' && hasEscapes quote then
        match lineBreak? (skipBlank cs) with
        | some cs => blockFrom quote fuel before (skipSpace cs)
        | none => (escaped cs).bind fun (e, cs) => blockFrom quote fuel (e :: before) cs
      else if isPrintable c then blockFrom quote fuel (c :: before) cs
      else none

def line (quote : Char) (chars : List Char) : Option (String × List Char) :=
  lineFrom quote (chars.length + 1) [] chars

/-- A text over lines, behind its first quotes. A line break right behind them does not count. -/
def block (quote : Char) (chars : List Char) : Option (String × List Char) :=
  let chars := (lineBreak? chars).getD chars
  blockFrom quote (chars.length + 1) [] chars

def read (quote : Char) (chars : List Char) : Option (String × List Char) :=
  if chars.take 2 = [quote, quote] then block quote (chars.drop 2) else line quote chars

end Text

namespace Key

def isBare (c : Char) : Bool :=
  c.isAlphanum || c = '_' || c = '-'

def part (chars : List Char) : Option (String × List Char) :=
  match chars with
  | '"' :: cs => Text.line '"' cs
  | '\'' :: cs => Text.line '\'' cs
  | cs =>
    let name := cs.takeWhile isBare
    if name.isEmpty then none else some (String.ofList name, cs.dropWhile isBare)

def partsFrom : Nat → List Char → Option (List String × List Char)
  | 0, _ => none
  | fuel + 1, chars => do
    let (name, cs) ← part (skipBlank chars)
    match skipBlank cs with
    | '.' :: cs =>
      let (names, cs) ← partsFrom fuel cs
      return (name :: names, cs)
    | cs => return ([name], cs)

def maxParts : Nat := 79

def read (chars : List Char) : Option (List String × List Char) :=
  partsFrom maxParts chars

end Key
end LexicalGrammar.Toml
