/-
Whole numbers that fit into 64 bits.
-/
namespace LexicalGrammar.Word

def count : Nat := 18446744073709551616

/-- Numbers with a sign go from minus this up to below it: two to the power 63. -/
def half : Nat := 9223372036854775808

def fits (n : Nat) : Bool := n < count

def fitsSigned (n : Int) : Bool := -(half : Int) ≤ n && n < half

end LexicalGrammar.Word
