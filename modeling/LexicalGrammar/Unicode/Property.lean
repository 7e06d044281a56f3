import LexicalGrammar.Unicode.BinaryProperty
import LexicalGrammar.Unicode.GeneralCategory
import LexicalGrammar.Unicode.Script

/-
Looking up a Unicode property by a loosely written name: case, blanks, `_`, `-` and a leading `is`
do not matter.
-/
namespace LexicalGrammar.Unicode
namespace Property

def startsWithIs : List Char → Bool
  | a :: b :: _ => (a = 'i' || a = 'I') && (b = 's' || b = 'S')
  | _ => false

/-- The normal form of a name. Characters beyond ASCII are dropped. -/
def normalize (name : String) : String :=
  let chars := name.toList
  let kept := (if startsWithIs chars then chars.drop 2 else chars).filter fun c =>
    c ≠ ' ' && c ≠ '_' && c ≠ '-' && c.toNat ≤ 0x7f
  let lower := String.ofList (kept.map Char.toLower)
  if startsWithIs chars && lower = "c" then "isc" else lower

/-- The characters meant by a name that stands alone: a binary property, a general category or a
script, looked for in this order. -/
def find? (name : String) : Option CharSet :=
  let key := normalize name
  let property := if ["cf", "sc", "lc"].contains key then none else BinaryProperty.find? key
  (property.orElse fun _ => GeneralCategory.find? key).orElse fun _ => Script.find? key

def findValue? (property value : String) : Option CharSet :=
  let key := normalize value
  let name := normalize property
  if name = "gc" ∨ name = "generalcategory" then GeneralCategory.find? key
  else if name = "sc" ∨ name = "script" then Script.find? key
  else if name = "scx" ∨ name = "scriptextensions" then Script.findExtension? key
  else none

end Property

def wordChars : CharSet :=
  CharSet.unions (["alphabetic", "m", "nd", "pc", "joincontrol"].filterMap Property.find?)

def alphanumeric : CharSet :=
  CharSet.unions (["alphabetic", "n"].filterMap Property.find?)

def digitChars : CharSet :=
  (GeneralCategory.find? "nd").getD CharSet.empty

def spaceChars : CharSet :=
  (BinaryProperty.find? "whitespace").getD CharSet.empty

end LexicalGrammar.Unicode
