/-
Sets of characters, held as disjoint ascending ranges of code points.
-/
namespace LexicalGrammar.Unicode

/-- A set of characters: ranges of code points, ends included, ascending and apart. -/
structure CharSet where
  ranges : Array (Nat × Nat)
  deriving Repr, BEq, Inhabited

namespace CharSet

def empty : CharSet := ⟨#[]⟩

def last : Nat := 0x10ffff

def all : CharSet := ⟨#[(0, last)]⟩

def join : List (Nat × Nat) → List (Nat × Nat)
  | a :: b :: rest =>
    if b.1 ≤ a.2 + 1 then join ((a.1, max a.2 b.2) :: rest) else a :: join (b :: rest)
  | short => short
termination_by ranges => ranges.length

def ofRanges (ranges : List (Nat × Nat)) : CharSet :=
  ⟨(join (ranges.mergeSort (fun a b => a.1 ≤ b.1))).toArray⟩

def ofChars (chars : List Char) : CharSet :=
  ofRanges (chars.map fun c => (c.toNat, c.toNat))

def gaps (start : Nat) : List (Nat × Nat) → List (Nat × Nat)
  | [] => if start ≤ last then [(start, last)] else []
  | (lo, hi) :: rest =>
    if start < lo then (start, lo - 1) :: gaps (hi + 1) rest else gaps (hi + 1) rest

def complement (s : CharSet) : CharSet :=
  ⟨(gaps 0 s.ranges.toList).toArray⟩

def union (s t : CharSet) : CharSet :=
  ofRanges (s.ranges.toList ++ t.ranges.toList)

def unions (sets : List CharSet) : CharSet :=
  ofRanges (sets.flatMap (·.ranges.toList))

def inter (s t : CharSet) : CharSet :=
  (s.complement.union t.complement).complement

def diff (s t : CharSet) : CharSet :=
  s.inter t.complement

def symmDiff (s t : CharSet) : CharSet :=
  (s.diff t).union (t.diff s)

/-- Whether `code` lies in one of the ranges with index in `lo ..< hi`. -/
def searchFrom (ranges : Array (Nat × Nat)) (code lo hi : Nat) : Bool :=
  if lo < hi then
    let mid := (lo + hi) / 2
    match ranges[mid]? with
    | none => false
    | some (first, final) =>
      if code < first then searchFrom ranges code lo mid
      else if final < code then searchFrom ranges code (mid + 1) hi
      else true
  else false
termination_by hi - lo

def hasCode (s : CharSet) (code : Nat) : Bool :=
  searchFrom s.ranges code 0 s.ranges.size

def contains (s : CharSet) (c : Char) : Bool :=
  s.hasCode c.toNat

def card (s : CharSet) : Nat :=
  (s.ranges.toList.map fun r => r.2 + 1 - r.1).foldr (· + ·) 0

def toChars (s : CharSet) : List Char :=
  s.ranges.toList.flatMap fun r =>
    ((List.range (r.2 + 1 - r.1)).map (r.1 + ·)).filterMap fun code =>
      if code.isValidChar then some (Char.ofNat code) else none

def hexValue (c : Char) : Nat :=
  if c.isDigit then c.toNat - '0'.toNat else c.toNat - 'a'.toNat + 10

def hexNat (digits : List Char) : Nat :=
  digits.foldl (fun n c => 16 * n + hexValue c) 0

def words (table : String) : List String :=
  (table.splitToList Char.isWhitespace).filter (!·.isEmpty)

/-- One range per word: the distance from the end of the range before, then how much the range
goes on beyond its first code point, in hexadecimal. -/
def ofDeltas (table : String) : CharSet :=
  let step (state : Nat × Array (Nat × Nat)) (word : String) : Nat × Array (Nat × Nat) :=
    let chars := word.toList
    let lo := state.1 + hexNat (chars.takeWhile (· ≠ '+'))
    let hi := lo + hexNat ((chars.dropWhile (· ≠ '+')).drop 1)
    (hi, state.2.push (lo, hi))
  ⟨((words table).foldl step (0, #[])).2⟩

end CharSet
end LexicalGrammar.Unicode
