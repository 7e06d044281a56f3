import LexicalGrammar.Yaml.Text

/-
Tokens of YAML texts. Indentation becomes tokens for the start and the end of block collections. A
token that turns out to be a key gets its mark put in front of it later, so tokens wait in a queue
until it is certain that they are no keys.
-/
namespace LexicalGrammar.Yaml

inductive Token where
  | streamEnd
  | version (major minor : Nat)
  | tagHandle (handle start : String)
  | documentStart
  | documentEnd
  | blockSequenceStart
  | blockMappingStart
  | blockEnd
  | flowSequenceStart
  | flowSequenceEnd
  | flowMappingStart
  | flowMappingEnd
  | blockEntry
  | flowEntry
  | key
  | value
  | alias (name : String)
  | anchor (name : String)
  | tag (handle suffix : String)
  | scalar (text : String) (plain : Bool)
  deriving Repr, DecidableEq, Inhabited

namespace Lexer

/-- A place that may turn out to hold a key: the number of its token, and where it stands. If it is
required, it has to be one. -/
structure KeyPlace where
  number : Nat
  required : Bool
  index : Nat
  line : Nat
  column : Nat
  deriving Repr

/-- What the lexer knows. `keys` holds the possible key of each open flow collection, innermost
first, and last that of the blocks. -/
structure State where
  cursor : Cursor
  size : Nat
  queue : List Token := []
  delivered : Nat := 0
  keys : List (Option KeyPlace) := [none]
  indent : Int := -1
  indents : List Int := []
  keyAllowed : Bool := true

abbrev Lex (α : Type) := StateT State Option α

def refuse {α : Type} : Lex α := fun _ => none

def cursor : Lex Cursor := return (← get).cursor

def setCursor (c : Cursor) : Lex Unit :=
  modify fun s => { s with cursor := c }

def inFlow : Lex Bool := return 1 < (← get).keys.length

def allowKey (allowed : Bool) : Lex Unit :=
  modify fun s => { s with keyAllowed := allowed }

def emit (t : Token) : Lex Unit :=
  modify fun s => { s with queue := s.queue ++ [t] }

def insert (number : Nat) (t : Token) : Lex Unit :=
  modify fun s =>
    let k := number - s.delivered
    { s with queue := s.queue.take k ++ t :: s.queue.drop k }

def maxKeyLength : Nat := 1024

/-- Forgets a possible key that cannot be one any more. A required one is missed. -/
def dropStale (c : Cursor) : List (Option KeyPlace) → Option (List (Option KeyPlace))
  | [] => some []
  | none :: rest => (dropStale c rest).map (none :: ·)
  | some k :: rest =>
    if k.line < c.line || k.index + maxKeyLength < c.index then
      if k.required then none else (dropStale c rest).map (none :: ·)
    else (dropStale c rest).map (some k :: ·)

def dropStaleKeys : Lex Unit := do
  let s ← get
  match dropStale s.cursor s.keys with
  | some keys => set { s with keys := keys }
  | none => refuse

def removeKey : Lex Unit := do
  let s ← get
  match s.keys with
  | some k :: rest => if k.required then refuse else set { s with keys := none :: rest }
  | _ => return

def saveKey : Lex Unit := do
  let s ← get
  if s.keyAllowed then
    let required := !(1 < s.keys.length) && s.indent = s.cursor.column
    removeKey
    let place : KeyPlace := ⟨s.delivered + s.queue.length, required, s.cursor.index, s.cursor.line,
      s.cursor.column⟩
    modify fun s => { s with keys := some place :: s.keys.drop 1 }

def openBlock (column : Nat) (number : Option Nat) (t : Token) : Lex Unit := do
  let s ← get
  if !(← inFlow) && s.indent < column then
    set { s with indents := s.indent :: s.indents, indent := column }
    match number with
    | none => emit t
    | some n => insert n t

/-- The indentations that stay open at a column, and how many are closed. -/
def closedAt (column : Int) : Int → List Int → Nat × Int × List Int
  | indent, [] => (0, indent, [])
  | indent, outer :: rest =>
    if column < indent then
      let (n, r) := closedAt column outer rest
      (n + 1, r)
    else (0, indent, outer :: rest)

def closeBlocks (column : Int) : Lex Unit := do
  if !(← inFlow) then
    let s ← get
    let (n, indent, indents) := closedAt column s.indent s.indents
    set { s with
      indent := indent, indents := indents, queue := s.queue ++ List.replicate n Token.blockEnd }

def skipToToken : Nat → Lex Unit
  | 0 => return
  | fuel + 1 => do
    let c ← cursor
    let c := if c.index = 0 && c.is '\ufeff' then c.skip else c
    let tabs := (← inFlow) || !(← get).keyAllowed
    let c := (c.skipWhile fun d => isSpace d || (tabs && isTab d)).skipComment
    if c.test isBreak then
      setCursor c.skipBreak
      if !(← inFlow) then allowKey true
      skipToToken fuel
    else setCursor c

def take (n : Nat) (t : Token) : Lex Unit := do
  setCursor ((← cursor).skips n)
  emit t

def lexStreamEnd : Lex Unit := do
  let c ← cursor
  if c.column ≠ 0 then setCursor { c with column := 0, line := c.line + 1 }
  closeBlocks (-1)
  removeKey
  allowKey false
  emit .streamEnd

def number (c : Cursor) : Option (Nat × Cursor) :=
  let (digits, c) := c.takeWhile Char.isDigit
  if digits.isEmpty || 9 < digits.length then none
  else some (digits.foldl (fun n d => 10 * n + (d.toNat - '0'.toNat)) 0, c)

/-- A handle of tags: `!`, or a name between two of them. Elsewhere than in a directive the second
may be missing. -/
def handle (directive : Bool) (c : Cursor) : Option (List Char × Cursor) :=
  if !c.is '!' then none
  else
    let (name, c) := c.skip.takeWhile isNameChar
    if c.is '!' then some ('!' :: name ++ ['!'], c.skip)
    else if directive && !name.isEmpty then none
    else some ('!' :: name, c)

def uriChars : List Char :=
  ";/?:@&=+$.!~*'()".toList

def byteCount? (octet : Nat) : Option Nat :=
  if octet < 0x80 then some 1
  else if octet / 32 = 6 then some 2
  else if octet / 16 = 14 then some 3
  else if octet / 8 = 30 then some 4
  else none

def octet (c : Cursor) : Option (Nat × Cursor) :=
  let digits := (c.rest.drop 1).take 2
  if c.is '%' && digits.length = 2 && digits.all Quoted.isHex then
    some (Unicode.CharSet.hexNat (digits.map Char.toLower), c.skips 3)
  else none

def octets : Nat → Cursor → Option Cursor
  | 0, c => some c
  | n + 1, c =>
    match octet c with
    | some (o, c) => if o / 64 = 2 then octets n c else none
    | none => none

/-- The rest of a tag, and how many characters it has. -/
def uri (verbatim : Bool) : Nat → Cursor → Option (List Char × Cursor)
  | 0, c => some ([], c)
  | fuel + 1, c =>
    match c.peek? with
    | none => some ([], c)
    | some char =>
      if char = '%' then
        match octet c with
        | none => none
        | some (o, next) =>
          match (byteCount? o).bind fun n => octets (n - 1) next with
          | none => none
          | some c => (uri verbatim fuel c).map fun r => ('%' :: r.1, r.2)
      else if isNameChar char || uriChars.contains char || (verbatim && ",[]".toList.contains char) then
        (uri verbatim fuel c.skip).map fun r => (char :: r.1, r.2)
      else some ([], c)

def lineEnd (c : Cursor) : Option Cursor :=
  let c := (c.skipWhile isBlank).skipComment
  if c.breakOrEnd then some c.skipBreak else none

def versionDirective (c : Cursor) : Option (Token × Cursor) := do
  let (major, c) ← number (c.skipWhile isBlank)
  if !c.is '.' then none
  let (minor, c) ← number c.skip
  return (.version major minor, ← lineEnd c)

def tagDirective (fuel : Nat) (c : Cursor) : Option (Token × Cursor) := do
  let (name, c) ← handle true (c.skipWhile isBlank)
  if !c.test isBlank then none
  let (start, c) ← uri true fuel (c.skipWhile isBlank)
  if start.isEmpty || !c.blankOrEnd then none
  return (.tagHandle (String.ofList name) (String.ofList start), ← lineEnd c)

def directive (fuel : Nat) (c : Cursor) : Option (Token × Cursor) :=
  let (name, c) := c.skip.takeWhile isNameChar
  if !c.blankOrEnd then none
  else if name = "YAML".toList then versionDirective c
  else if name = "TAG".toList then tagDirective fuel c
  else none

def lexDirective : Lex Unit := do
  closeBlocks (-1)
  removeKey
  allowKey false
  match directive (← get).size (← cursor) with
  | some (t, c) =>
    setCursor c
    emit t
  | none => refuse

def lexDocumentMark (t : Token) : Lex Unit := do
  closeBlocks (-1)
  removeKey
  allowKey false
  take 3 t

def lexFlowStart (t : Token) : Lex Unit := do
  saveKey
  modify fun s => { s with keys := none :: s.keys }
  allowKey true
  take 1 t

def lexFlowEnd (t : Token) : Lex Unit := do
  removeKey
  modify fun s => { s with keys := if 1 < s.keys.length then s.keys.drop 1 else s.keys }
  allowKey false
  take 1 t

def lexFlowEntry : Lex Unit := do
  removeKey
  allowKey true
  take 1 .flowEntry

def lexBlockEntry : Lex Unit := do
  if !(← inFlow) then
    if !(← get).keyAllowed then refuse
    openBlock (← cursor).column none .blockSequenceStart
  removeKey
  allowKey true
  take 1 .blockEntry

def lexKey : Lex Unit := do
  let flow ← inFlow
  if !flow then
    if !(← get).keyAllowed then refuse
    openBlock (← cursor).column none .blockMappingStart
  removeKey
  allowKey (!flow)
  take 1 .key

def lexValue : Lex Unit := do
  let s ← get
  match s.keys with
  | some k :: rest =>
    insert k.number .key
    openBlock k.column (some k.number) .blockMappingStart
    modify fun s => { s with keys := none :: rest }
    allowKey false
  | _ =>
    let flow ← inFlow
    if !flow then
      if !s.keyAllowed then refuse
      openBlock s.cursor.column none .blockMappingStart
    allowKey (!flow)
  take 1 .value

def endsName (c : Cursor) : Bool :=
  c.blankOrEnd || c.test "?:,]\x7d%@\x60".toList.contains

def lexAnchor (make : String → Token) : Lex Unit := do
  saveKey
  allowKey false
  let (name, c) := (← cursor).skip.takeWhile isNameChar
  if name.isEmpty || !endsName c then refuse
  setCursor c
  emit (make (String.ofList name))

def tag (fuel : Nat) (c : Cursor) : Option (List Char × List Char × Cursor) :=
  if c.testAt 1 (· = '<') then do
    let (suffix, c) ← uri true fuel (c.skips 2)
    if suffix.isEmpty || !c.is '>' then none
    return ([], suffix, c.skip)
  else do
    let (name, c) ← handle false c
    if 1 < name.length && name.getLast? = some '!' then
      let (suffix, c) ← uri false fuel c
      if suffix.isEmpty then none
      return (name, suffix, c)
    else
      let (more, c) ← uri false fuel c
      let suffix := name.drop 1 ++ more
      return if suffix.isEmpty then ([], ['!'], c) else (['!'], suffix, c)

def lexTag : Lex Unit := do
  saveKey
  allowKey false
  match tag (← get).size (← cursor) with
  | none => refuse
  | some (name, suffix, c) =>
    if !c.blankOrEnd && !((← inFlow) && c.is ',') then refuse
    setCursor c
    emit (.tag (String.ofList name) (String.ofList suffix))

def lexBlockScalar (literal : Bool) : Lex Unit := do
  removeKey
  allowKey true
  let s ← get
  match Block.scan literal s.indent s.size s.cursor with
  | none => refuse
  | some (text, c) =>
    setCursor c
    emit (.scalar (String.ofList text) false)

def lexQuoted (single : Bool) : Lex Unit := do
  saveKey
  allowKey false
  let s ← get
  match Quoted.scan single s.size s.cursor with
  | none => refuse
  | some (text, c) =>
    setCursor c
    emit (.scalar (String.ofList text) false)

def lexPlain : Lex Unit := do
  saveKey
  allowKey false
  let s ← get
  match Plain.scan (← inFlow) (s.indent + 1).toNat s.size s.cursor with
  | none => refuse
  | some (text, newLine, c) =>
    setCursor c
    if newLine then allowKey true
    emit (.scalar (String.ofList text) true)

def indicators : List Char :=
  "-?:,[]\x7b\x7d#&*!|>'\"%@\x60".toList

def lexNext : Lex Unit := do
  skipToToken ((← get).size + 1)
  dropStaleKeys
  let c ← cursor
  closeBlocks c.column
  let flow ← inFlow
  match c.peek? with
  | none => lexStreamEnd
  | some char =>
    if c.column = 0 && char = '%' then lexDirective
    else if c.atMark '-' then lexDocumentMark .documentStart
    else if c.atMark '.' then lexDocumentMark .documentEnd
    else if char = '[' then lexFlowStart .flowSequenceStart
    else if char = '\x7b' then lexFlowStart .flowMappingStart
    else if char = ']' then lexFlowEnd .flowSequenceEnd
    else if char = '\x7d' then lexFlowEnd .flowMappingEnd
    else if char = ',' then lexFlowEntry
    else if char = '-' && c.blankOrEndAt 1 then lexBlockEntry
    else if char = '?' && (flow || c.blankOrEndAt 1) then lexKey
    else if char = ':' && (flow || c.blankOrEndAt 1) then lexValue
    else if char = '*' then lexAnchor .alias
    else if char = '&' then lexAnchor .anchor
    else if char = '!' then lexTag
    else if char = '|' && !flow then lexBlockScalar true
    else if char = '>' && !flow then lexBlockScalar false
    else if char = '\'' then lexQuoted true
    else if char = '"' then lexQuoted false
    else if !(isBlank char || indicators.contains char) || char = '-' ||
        (!flow && (char = '?' || char = ':')) then lexPlain
    else refuse

def headMayBeKey (s : State) : Bool :=
  s.keys.any fun k => k.any (·.number = s.delivered)

/-- The tokens up to the end of the text or to the first fault, and whether there was one. -/
def deliver : Nat → State → List Token → List Token × Bool
  | 0, _, done => (done.reverse, false)
  | fuel + 1, s, done =>
    match s.queue with
    | [] =>
      match lexNext.run s with
      | none => (done.reverse, false)
      | some (_, s) => deliver fuel s done
    | t :: rest =>
      match dropStaleKeys.run s with
      | none => (done.reverse, false)
      | some (_, s) =>
        if headMayBeKey s then
          match lexNext.run s with
          | none => (done.reverse, false)
          | some (_, s) => deliver fuel s done
        else if t = .streamEnd then ((t :: done).reverse, true)
        else deliver fuel { s with queue := rest, delivered := s.delivered + 1 } (t :: done)

end Lexer

def Token.ofText (text : List Char) : List Token × Bool :=
  let size := text.length + 1
  if text.all isAllowed then Lexer.deliver (8 * size + 8) { cursor := { rest := text }, size := size } []
  else ([], false)

end LexicalGrammar.Yaml
