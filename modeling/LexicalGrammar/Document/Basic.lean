/-
Documents as far as they could be read. Reading goes from left to right, so a fault stands at the
right edge of the tree, behind everything that was understood before it.
-/
namespace LexicalGrammar

inductive Document.ReadFault where
  | ended
  | malformed
  deriving Repr, DecidableEq, Inhabited

/-- A document with leaves of a kind. Lists and tables have an `ending` if they were not closed.
An `alias` is a node that stands elsewhere. -/
inductive Document (Leaf : Type) where
  | leaf (value : Leaf)
  | list (items : List (Document Leaf)) (ending : Option Document.ReadFault)
  | table (entries : List (Document Leaf × Document Leaf)) (ending : Option Document.ReadFault)
  | alias (target : Document Leaf)
  | broken (fault : Document.ReadFault)
  deriving Repr, Inhabited

namespace Document
variable {Leaf : Type}

def target : Document Leaf → Document Leaf
  | .alias t => target t
  | t => t

/-- A text with one document: the document, and what is wrong behind it. -/
structure Reading (Leaf : Type) where
  tree : Document Leaf
  trailing : Option ReadFault
  deriving Repr, Inhabited

end Document
end LexicalGrammar
