import LexicalGrammar.NameMap
import LexicalGrammar.Text.Quoted

/-
Token categories. A category is a handle: its name and the number of the registration that made it.
-/
namespace LexicalGrammar

/-- A registered category. Handles of one registration are equal; those of others differ, even
under one name. -/
structure Category where
  name : String
  registration : Nat
  deriving Repr, DecidableEq, Inhabited

/-- Handles are hashed by identity: the name is not looked at. -/
instance : Hashable Category := ⟨fun c => hash c.registration⟩

def Category.describe (c : Category) : String :=
  "Category(" ++ Text.quoted c.name ++ ")"

/-- The number of the next registration. All tables that may meet share one supply. -/
structure Supply where
  next : Nat := 0
  deriving Repr, DecidableEq, Inhabited

structure CategoryTable where
  byName : NameMap Category
  deriving Inhabited

namespace CategoryTable

def empty : CategoryTable := ⟨NameMap.empty⟩

def lookup (t : CategoryTable) (name : String) : Option Category :=
  t.byName.get? name

/-- Registers a category. A name that is taken keeps its handle, and no number is used up. -/
def register (t : CategoryTable) (name : String) (s : Supply) : Category × CategoryTable × Supply :=
  match t.lookup name with
  | some c => (c, t, s)
  | none =>
    let c : Category := ⟨name, s.next⟩
    (c, ⟨t.byName.put name c⟩, ⟨s.next + 1⟩)

def registerAll (t : CategoryTable) : List String → Supply → CategoryTable × Supply
  | [], s => (t, s)
  | name :: rest, s =>
    let (_, t, s) := t.register name s
    registerAll t rest s

def ofNames (names : List String) (s : Supply) : CategoryTable × Supply :=
  empty.registerAll names s

def names (t : CategoryTable) : List String :=
  t.byName.names

def size (t : CategoryTable) : Nat :=
  t.byName.size

end CategoryTable
end LexicalGrammar
