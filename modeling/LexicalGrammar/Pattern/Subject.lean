import LexicalGrammar.Pattern.Node
import LexicalGrammar.Unicode.Property

/-
The text that is searched: its characters by index, and the byte offset of each.
-/
namespace LexicalGrammar.Pattern
open Unicode (CharSet)

structure Subject where
  chars : Array Char
  offsets : Array Nat
  deriving Inhabited

namespace Subject

def ofString (text : String) : Subject :=
  let chars := text.toList
  let offsets := chars.foldl (fun (acc : Array Nat × Nat) c =>
    let next := acc.2 + c.utf8Size
    (acc.1.push next, next)) (#[0], 0)
  ⟨chars.toArray, offsets.1⟩

def size (s : Subject) : Nat :=
  s.chars.size

/-- The byte offset of the character with this index; the end of the text beyond the last. -/
def offset (s : Subject) (index : Nat) : Nat :=
  s.offsets[index]?.getD (s.offsets.back?.getD 0)

/-- The index of the first character that begins at this byte offset or after it. -/
def indexAt (s : Subject) (place : Nat) : Nat :=
  (s.offsets.toList.takeWhile (· < place)).length

def slice (s : Subject) (start stop : Nat) : String :=
  String.ofList (s.chars.toList.drop start |>.take (stop - start))

def isWordAt (s : Subject) (index : Nat) : Bool :=
  (s.chars[index]?).any Unicode.wordChars.contains

def isWordBefore (s : Subject) (index : Nat) : Bool :=
  index ≠ 0 && s.isWordAt (index - 1)

def holds (s : Subject) (index : Nat) : Anchor → Bool
  | .textStart => index = 0
  | .textEnd => index = s.size
  | .lineStart => index = 0 || s.chars[index - 1]? = some '\n'
  | .lineEnd => index = s.size || s.chars[index]? = some '\n'
  | .wordEdge => s.isWordBefore index != s.isWordAt index
  | .notWordEdge => s.isWordBefore index == s.isWordAt index
  | .wordStart => !s.isWordBefore index && s.isWordAt index
  | .wordEnd => s.isWordBefore index && !s.isWordAt index

end Subject

inductive CharTest where
  | any
  | notNewline
  | char (c : Char)
  | set (chars : CharSet)
  deriving Repr, Inhabited

def CharTest.accepts (t : CharTest) (c : Char) : Bool :=
  match t with
  | .any => true
  | .notNewline => c ≠ '\n'
  | .char d => c = d
  | .set chars => chars.contains c

end LexicalGrammar.Pattern
