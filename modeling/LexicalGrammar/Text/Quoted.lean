import LexicalGrammar.Unicode.Property

/-
Quoted texts: in double quotes, with a backslash form for what could not be seen.
-/
namespace LexicalGrammar.Text
open Unicode (CharSet)

namespace Quoted

/-- Control, format, unassigned, private and separator characters, and those that extend the one
before them. -/
def hidden : CharSet :=
  (CharSet.unions (["cc", "cf", "cs", "co", "cn", "z", "graphemeextend"].filterMap Unicode.Property.find?)).diff
    (CharSet.ofChars [' '])

def hexDigits (n : Nat) : List Char :=
  Nat.toDigits 16 n

def encodeChar (c : Char) : List Char :=
  match c with
  | '"' => ['\\', '"']
  | '\\' => ['\\', '\\']
  | '\n' => ['\\', 'n']
  | '\r' => ['\\', 'r']
  | '\t' => ['\\', 't']
  | '\x00' => ['\\', '0']
  | c => if hidden.contains c then ['\\', 'u', '\x7b'] ++ hexDigits c.toNat ++ ['\x7d'] else [c]

def encode (chars : List Char) : List Char :=
  chars.flatMap encodeChar

end Quoted

def quoted (text : String) : String :=
  String.ofList ('"' :: Quoted.encode text.toList ++ ['"'])

end LexicalGrammar.Text
