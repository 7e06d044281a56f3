import LexicalGrammar.Decimal.Digits
import LexicalGrammar.Pattern.Bracket
import LexicalGrammar.Pattern.Fault
import LexicalGrammar.Pattern.Node
import LexicalGrammar.Word

/-
Reading pattern text: from its written form to a pattern tree, or to the first fault and its place.
-/
namespace LexicalGrammar.Pattern
open Unicode (CharSet)

namespace Reader

structure Flags where
  fold : Bool := false
  lines : Bool := false
  dotAll : Bool := false
  swapGreed : Bool := false
  extended : Bool := false
  deriving Repr

structure State where
  rest : List Char
  place : Nat := 0
  flags : Flags := {}
  names : List (String × Nat) := []
  groups : Nat := 0
  numbered : Bool := false
  references : List Nat := []

abbrev Read (α : Type) := ReaderT Nat (StateT State (Except Fault)) α

def width (chars : List Char) : Nat :=
  (chars.map Char.utf8Size).foldr (· + ·) 0

def failAt {α : Type} (place : Nat) (cause : ParseFault) : Read α :=
  throw (.parsing place cause)

def here : Read Nat := return (← get).place

def rest : Read (List Char) := return (← get).rest

def skip (n : Nat) : Read Unit :=
  modify fun s => { s with rest := s.rest.drop n, place := s.place + width (s.rest.take n) }

def moveTo (chars : List Char) (n : Nat) : Read Unit :=
  modify fun s => { s with rest := chars, place := s.place + n }

def accept (word : String) : Read Bool := do
  let chars := word.toList
  if chars.isPrefixOf (← rest) then
    skip chars.length
    return true
  else return false

/-- The end of a comment after its opening: the text behind it and its width, or the place where
the text ended. -/
def commentEnd : List Char → Nat → Except Nat (List Char × Nat)
  | [], n => .error n
  | ')' :: cs, n => .ok (cs, n + 1)
  | ['\\'], n => .error (n + 2)
  | '\\' :: c :: cs, n => commentEnd cs (n + 1 + c.utf8Size)
  | c :: cs, n => commentEnd cs (n + c.utf8Size)

def pastBlank (extended : Bool) : Nat → List Char → Nat → Except Nat (List Char × Nat)
  | 0, chars, n => .ok (chars, n)
  | fuel + 1, chars, n =>
    match chars with
    | '(' :: '?' :: '#' :: cs =>
      match commentEnd cs (n + 3) with
      | .ok (cs, n) => pastBlank extended fuel cs n
      | .error n => .error n
    | '#' :: cs =>
      if extended then
        let line := cs.takeWhile (· ≠ '\n')
        match cs.dropWhile (· ≠ '\n') with
        | [] => .ok ([], n + 1 + width line)
        | _ :: cs => pastBlank extended fuel cs (n + 2 + width line)
      else .ok (chars, n)
    | c :: cs =>
      if extended && (c = ' ' || c = '\r' || c = '\n' || c = '\t') then
        pastBlank extended fuel cs (n + 1)
      else .ok (chars, n)
    | [] => .ok ([], n)

def blankAfter (s : State) : Except Nat (List Char × Nat) :=
  pastBlank s.flags.extended (s.rest.length + 1) s.rest 0

def skipBlank : Read Unit := do
  let s ← get
  match blankAfter s with
  | .ok (chars, n) => moveTo chars n
  | .error n => failAt (s.place + n) .unclosedParen

def number? (chars : List Char) : Option (Nat × List Char) :=
  ((Decimal.natural? 10 (chars.takeWhile Char.isDigit)).filter Word.fits).map
    (·, chars.dropWhile Char.isDigit)

/-- The counts of a quantifier in braces, given what follows the opening one: least and most, the
width up to and with the closing brace, and the rest. -/
def counts? (extended : Bool) (chars : List Char) : Option (Nat × Option Nat × Nat × List Char) := do
  let blank (cs : List Char) : Option (List Char) :=
    ((pastBlank extended (cs.length + 1) cs 0).toOption).map (·.1)
  let cs ← blank chars
  let (least, cs) ← match cs with
    | ',' :: _ => some (0, cs)
    | _ => number? cs
  let cs ← blank cs
  let (most, cs) ← match cs with
    | ',' :: cs =>
      let cs ← blank cs
      match number? cs with
      | some (most, cs) => some (some most, cs)
      | none => some (none, cs)
    | _ => some (some least, cs)
  match ← blank cs with
  | '\x7d' :: cs =>
    let unlimited := most.all (· + 1 = Word.count)
    some (least, if unlimited then none else most, width chars - width cs, cs)
  | _ => none

def isNameChar (c : Char) : Bool :=
  c = '_' || Unicode.alphanumeric.contains c

def name? (opening closing : List Char) (signed : Bool) (chars : List Char) :
    Option (List Char × List Char) :=
  if opening.isPrefixOf chars then
    let chars := chars.drop opening.length
    let (sign, chars) := match signed, chars with
      | true, '-' :: cs => (['-'], cs)
      | _, cs => ([], cs)
    let name := sign ++ chars.takeWhile isNameChar
    let after := chars.dropWhile isNameChar
    if !name.isEmpty && closing.isPrefixOf after then some (name, after.drop closing.length)
    else none
  else none

def signed? (name : List Char) : Option Int :=
  let (negative, digits) := match name with
    | '-' :: ds => (true, ds)
    | ds => (false, ds)
  let n := (Decimal.natural? 10 digits).map fun n => if negative then -(n : Int) else n
  n.filter Word.fitsSigned

def meant? (s : State) (name : List Char) : Option Nat :=
  match s.names.lookup (String.ofList name) with
  | some index => some index
  | none =>
    match signed? name with
    | some n =>
      let index : Int := if n < 0 then s.groups + (n + 1) else n
      if index < 0 then none else some index.toNat
    | none => none

def numberedReference : Read Node := do
  let s ← get
  match number? s.rest with
  | some (index, cs) =>
    if index < (← read) / 2 then
      set { s with
        rest := cs, place := s.place + (s.rest.length - cs.length),
        numbered := true, references := index :: s.references }
      return .groupText index
    else failAt s.place .badReference
  | none => failAt s.place .badReference

def namedReference (opening closing : String) (signed : Bool) : Read Node := do
  let s ← get
  match name? opening.toList closing.toList signed s.rest with
  | none => failAt s.place .badGroupName
  | some (name, cs) =>
    match meant? s name with
    | none => failAt s.place (.unknownGroupName (String.ofList name))
    | some index =>
      set { s with
        rest := cs, place := s.place + (width s.rest - width cs),
        references := index :: s.references }
      return .groupText index

def isHex (c : Char) : Bool :=
  c.isDigit || ('a' ≤ c && c ≤ 'f') || ('A' ≤ c && c ≤ 'F')

def hexValue (digits : List Char) : Nat :=
  Unicode.CharSet.hexNat (digits.map Char.toLower)

/-- A character by its code: so many digits, or one to eight in braces. -/
def codePoint (digits : Nat) : Read Char := do
  let start ← here
  let chars ← rest
  let finish (ds : List Char) (length : Nat) : Read Char := do
    let code := hexValue ds
    if code.isValidChar then
      skip length
      return Char.ofNat code
    else failAt start .badCodePoint
  let ds := chars.take digits
  if ds.length = digits && ds.all isHex then finish ds digits
  else
    match chars with
    | '\x7b' :: cs =>
      let ds := cs.takeWhile isHex
      match cs.dropWhile isHex with
      | '\x7d' :: _ =>
        if 1 ≤ ds.length && ds.length ≤ 8 then finish ds (ds.length + 2)
        else failAt start .badHex
      | _ => failAt start .badHex
    | _ => failAt start .badHex

def hexDigits : CharSet :=
  CharSet.ofRanges [('0'.toNat, '9'.toNat), ('A'.toNat, 'F'.toNat), ('a'.toNat, 'f'.toNat)]

inductive Escaped where
  | char (char : Char) (fold : Bool)
  | set (chars : Option CharSet)
  | nested (chars : CharSet)
  | node (node : Node)

def letterSet? : Char → Option CharSet
  | 'd' => some Unicode.digitChars
  | 'D' => some Unicode.digitChars.complement
  | 's' => some Unicode.spaceChars
  | 'S' => some Unicode.spaceChars.complement
  | 'w' => some Unicode.wordChars
  | 'W' => some Unicode.wordChars.complement
  | _ => none

def letterNode? : Char → Option Node
  | 'A' => some (.anchor .textStart)
  | 'z' => some (.anchor .textEnd)
  | 'b' => some (.anchor .wordEdge)
  | 'B' => some (.anchor .notWordEdge)
  | '<' => some (.anchor .wordStart)
  | '>' => some (.anchor .wordEnd)
  | 'K' => some .keepOut
  | 'G' => some .searchStart
  | _ => none

def letterChar? : Char → Option Char
  | 'a' => some '\x07'
  | 'b' => some '\x08'
  | 'f' => some '\x0c'
  | 'n' => some '\n'
  | 'r' => some '\r'
  | 't' => some '\t'
  | 'v' => some '\x0b'
  | 'e' => some '\x1b'
  | _ => none

def property (start : Nat) (negated : Bool) : Read (Option CharSet) := do
  let fold := (← get).flags.fold
  match ← rest with
  | '\x7b' :: cs =>
    let name := cs.takeWhile (· ≠ '\x7d')
    if name.length = cs.length then failAt start .unclosedPropertyName
    else
      skip (name.length + 2)
      return propertySet? fold negated name
  | c :: _ =>
    skip 1
    return (Unicode.Property.find? c.toString).map fun s =>
      let s := Bracket.closeIf fold s
      if negated then s.complement else s
  | [] => return none

def escape (inClass : Bool) : Read Escaped := do
  let start ← here
  let fold := (← get).flags.fold
  match ← rest with
  | _ :: c :: after =>
    if c.isDigit then
      skip 1
      return .node (← numberedReference)
    else if c = 'k' && !inClass then
      skip 2
      if after.head? = some '\'' then return .node (← namedReference "'" "'" true)
      else return .node (← namedReference "<" ">" true)
    else if (c = 'b' || c = 'B') && !inClass && after.head? = some '\x7b' then
      failAt start (.unknownEscape (String.ofList ['\\', c]))
    else if let some node := if inClass then none else letterNode? c then
      skip 2
      return .node node
    else if let some chars := letterSet? c then
      skip 2
      return .set (some chars)
    else if c = 'h' || c = 'H' then
      skip 2
      return .nested (if c = 'h' then hexDigits else hexDigits.complement)
    else if c = 'x' || c = 'u' || c = 'U' then
      skip 2
      return .char (← codePoint (if c = 'x' then 2 else if c = 'u' then 4 else 8)) fold
    else if (c = 'p' || c = 'P') && !after.isEmpty then
      skip 2
      return .set (← property start (c = 'P'))
    else if let some char := letterChar? c then
      skip 2
      return .char char false
    else if c.isAlpha && !"kAzbBKG".toList.contains c then
      failAt start (.unknownEscape (String.ofList ['\\', c]))
    else
      skip 2
      return .char c false
  | _ => failAt start .trailingBackslash

def classItems : Nat → Nat → List Bracket.Item → Read (List Bracket.Item)
  | 0, _, _ => do failAt (← here) .badClass
  | fuel + 1, depth, items => do
    match ← rest with
    | [] => failAt (← here) .badClass
    | '\\' :: _ =>
      let start ← here
      match ← escape true with
      | .char c _ => classItems fuel depth (Bracket.Item.ofEscaped c :: items)
      | .set chars => classItems fuel depth (.set chars :: items)
      | .nested chars => classItems fuel depth (.nested chars :: items)
      | .node _ => failAt start .badClass
    | ']' :: _ =>
      skip 1
      if depth = 0 then return (.raw ']' :: items).reverse
      else classItems fuel (depth - 1) (.raw ']' :: items)
    | '[' :: _ =>
      skip 1
      classItems fuel (depth + 1) (.raw '[' :: items)
    | c :: _ =>
      skip 1
      classItems fuel depth (.raw c :: items)

/-- A class, at its opening bracket. A closing bracket in first place is an item. -/
def bracketed : Read Node := do
  skip 1
  let mut items : List Bracket.Item := []
  if ← accept "^" then items := .raw '^' :: items
  if ← accept "]" then items := .raw ']' :: items
  let all ← classItems ((← rest).length + 1) 0 items
  return .chars (Bracket.read? (← get).flags.fold all)

def closeParen : Read Unit := do
  skipBlank
  match ← rest with
  | ')' :: _ => skip 1
  | [] => failAt (← here) .unclosedParen
  | _ => failAt (← here) .noCloseParen

def setFlag (c : Char) (value : Bool) (f : Flags) : Option Flags :=
  match c with
  | 'i' => some { f with fold := value }
  | 'm' => some { f with lines := value }
  | 's' => some { f with dotAll := value }
  | 'U' => some { f with swapGreed := value }
  | 'x' => some { f with extended := value }
  | _ => none

/-- The letters of a flag group. Says whether a pattern of its own follows; `source` is the text
from `start` on. -/
def flagLetters (start : Nat) (source : List Char) : Nat → Bool → Read Bool
  | 0, _ => do failAt (← here) .unclosedParen
  | fuel + 1, negated => do
    skipBlank
    let place ← here
    let unknown (after : List Char) : Read Bool :=
      failAt start (.unknownFlag ("(?" ++ String.ofList (source.take (source.length - after.length))))
    match ← rest with
    | [] => failAt place .unclosedParen
    | c :: after =>
      if let some flags := setFlag c (!negated) (← get).flags then
        modify fun s => { s with flags := flags }
        skip 1
        flagLetters start source fuel negated
      else if c = 'u' then
        if negated then failAt place .byteMode
        else
          skip 1
          flagLetters start source fuel negated
      else if c = '-' then
        if negated then unknown after
        else
          skip 1
          flagLetters start source fuel true
      else if c = ')' then
        if place = start || (negated && place = start + 1) then unknown after
        else
          skip 1
          return false
      else if c = ':' then
        if negated && place = start + 1 then unknown after
        else
          skip 1
          return true
      else unknown after

def maxDepth : Nat := 64

/-- A reference used as a condition asks whether its group took part. -/
def asTest : Node → Node
  | .groupText index => .groupTest index
  | n => n

def branchesOf : Node → Node × Node
  | .alt (yes :: [no]) => (yes, no)
  | .alt (yes :: rest) => (yes, .alt rest)
  | n => (n, .empty)

mutual
def alternation : Nat → Nat → Read Node
  | 0, _ => do failAt (← here) .tooDeep
  | fuel + 1, depth => do
    let first ← sequence fuel depth []
    skipBlank
    if (← rest).head? = some '|' then
      return .alt (first :: (← branches fuel depth))
    else
      let s ← get
      if s.numbered && !s.names.isEmpty then throw (.building .numberedWithNamed)
      return first

def branches : Nat → Nat → Read (List Node)
  | 0, _ => return []
  | fuel + 1, depth => do
    if (← rest).head? = some '|' then
      skip 1
      let branch ← sequence fuel depth []
      skipBlank
      return branch :: (← branches fuel depth)
    else return []

def sequence : Nat → Nat → List Node → Read Node
  | 0, _, _ => do failAt (← here) .tooDeep
  | fuel + 1, depth, parts => do
    let start ← here
    let node ← if (← rest).isEmpty then pure .empty else piece fuel depth
    if (← here) = start then
      match parts with
      | [] => return .empty
      | [part] => return part
      | _ => return .concat parts.reverse
    else sequence fuel depth (if node.isEmpty then parts else node :: parts)

def piece : Nat → Nat → Read Node
  | 0, _ => do failAt (← here) .tooDeep
  | fuel + 1, depth => do
    let node ← atom fuel depth
    skipBlank
    let place ← here
    let quantified (mark : Nat) (least : Nat) (most : Option Nat) : Read Node := do
      unless node.repeatable do failAt mark .nothingToRepeat
      skipBlank
      let lazily ← accept "?"
      let greedy := lazily == (← get).flags.swapGreed
      let repeated := Node.times node least most greedy
      if ← accept "+" then return .atomic repeated else return repeated
    match ← rest with
    | '?' :: _ => skip 1; quantified place 0 (some 1)
    | '*' :: _ => skip 1; quantified place 0 none
    | '+' :: _ => skip 1; quantified place 1 none
    | '\x7b' :: cs =>
      match counts? (← get).flags.extended cs with
      | some (least, most, n, cs) =>
        moveTo cs (n + 1)
        quantified (place + n) least most
      | none => return node
    | _ => return node

def atom : Nat → Nat → Read Node
  | 0, _ => do failAt (← here) .tooDeep
  | fuel + 1, depth => do
    skipBlank
    let flags := (← get).flags
    match ← rest with
    | [] => return .empty
    | '.' :: _ => skip 1; return .any flags.dotAll
    | '^' :: _ => skip 1; return .anchor (if flags.lines then .lineStart else .textStart)
    | '$' :: _ => skip 1; return .anchor (if flags.lines then .lineEnd else .textEnd)
    | '(' :: _ => group fuel (depth + 1)
    | '\\' :: _ =>
      match ← escape false with
      | .char c fold => return .literal c fold
      | .set chars => return .chars chars
      | .nested chars => return .chars (some chars)
      | .node node => return node
    | '[' :: _ => bracketed
    | c :: _ =>
      if c = '+' || c = '*' || c = '?' || c = '|' || c = ')' then return .empty
      else
        skip 1
        return .literal c flags.fold

def group : Nat → Nat → Read Node
  | 0, _ => do failAt (← here) .tooDeep
  | fuel + 1, depth => do
    if depth ≥ maxDepth then failAt (← here) .tooDeep
    skip 1
    skipBlank
    let start ← here
    let looking (behind negative : Bool) : Read Node := do
      let body ← alternation fuel depth
      closeParen
      return .look ⟨behind, negative⟩ body
    if ← accept "?=" then looking false false
    else if ← accept "?!" then looking false true
    else if ← accept "?<=" then looking true false
    else if ← accept "?<!" then looking true true
    else if (← accept "?<") || (← accept "?P<") then
      let s ← get
      let index := s.groups + 1
      match name? [] ['>'] false s.rest with
      | none => failAt start .badGroupName
      | some (name, cs) =>
        set { s with
          rest := cs, place := s.place + (width s.rest - width cs), groups := index,
          names := (String.ofList name, index) :: s.names }
        let body ← alternation fuel depth
        closeParen
        return .group index body
    else if ← accept "?P=" then namedReference "" ")" false
    else if ← accept "?>" then
      let body ← alternation fuel depth
      closeParen
      return .atomic body
    else if ← accept "?(" then conditional fuel depth
    else if ← accept "?" then
      let source ← rest
      let outer := (← get).flags
      if ← flagLetters (start + 1) source (source.length + 1) false then
        let body ← alternation fuel depth
        match ← rest with
        | ')' :: _ =>
          skip 1
          modify fun s => { s with flags := outer }
          return body
        | [] => failAt (← here) .unclosedParen
        | _ => failAt (← here) .noCloseParen
      else return .empty
    else
      let index := (← get).groups + 1
      modify fun s => { s with groups := index }
      let body ← alternation fuel depth
      closeParen
      return .group index body

def conditional : Nat → Nat → Read Node
  | 0, _ => do failAt (← here) .tooDeep
  | fuel + 1, depth => do
    let test ← match ← rest with
      | [] => failAt (← here) .unclosedParen
      | '\'' :: _ => namedReference "'" "'" true
      | '<' :: _ => namedReference "<" ">" true
      | c :: _ => if c.isDigit then numberedReference else alternation fuel depth
    closeParen
    let start ← here
    let body ← alternation fuel depth
    if (← here) = start then
      match test with
      | .groupText index =>
        closeParen
        return .groupTest index
      | _ => failAt start .bareCondition
    else
      let (yes, no) := branchesOf body
      closeParen
      if yes.isEmpty && no.isEmpty then return asTest test
      else return .choice (asTest test) yes no
end

/-- What reading a pattern yields: its tree and the groups that are referred to. -/
structure Result where
  node : Node
  references : List Nat

def whole (length : Nat) : Read Node := do
  let node ← alternation (16 * (length + 2)) 0
  unless (← rest).isEmpty do failAt (← here) .trailing
  return node

end Reader

def read (text : String) : Except Fault Reader.Result :=
  match ((Reader.whole text.utf8ByteSize).run text.utf8ByteSize).run { rest := text.toList } with
  | .ok (node, state) => .ok ⟨node, state.references⟩
  | .error fault => .error fault

end LexicalGrammar.Pattern
