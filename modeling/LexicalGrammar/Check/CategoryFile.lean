import LexicalGrammar.Unicode.Property

/-
Files that list categories: one name on a line. White space around a name does not count; blank
lines and lines that begin with `#` hold none.
-/
namespace LexicalGrammar.CategoryFile

def isSpace (c : Char) : Bool :=
  Unicode.spaceChars.contains c

def trim (line : List Char) : List Char :=
  ((line.dropWhile isSpace).reverse.dropWhile isSpace).reverse

def lines : List Char → List (List Char)
  | [] => [[]]
  | c :: cs =>
    if c = '\n' then [] :: lines cs
    else
      match lines cs with
      | [] => [[c]]
      | line :: rest => (c :: line) :: rest

def name? (line : List Char) : Option String :=
  match trim line with
  | [] | '#' :: _ => none
  | name => some (String.ofList name)

def names (text : String) : List String :=
  (lines text.toList).filterMap name?

end LexicalGrammar.CategoryFile
