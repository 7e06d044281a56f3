import LexicalGrammar.Json.Reader
import LexicalGrammar.Proofs.Entry
import Mathlib.Data.List.Forall2

/-
What is written of a JSON value is read as that value. Texts are escaped when they are written, so
they may hold any characters.
-/
namespace LexicalGrammar.Json
open Reader
open Written (encodeChar shortCode newline)

/-- Leaves that are written exactly. Of the numbers these are the whole ones of 64 bits. -/
def Leaf.Exact : Leaf → Prop
  | .int value => -(Word.half : Int) ≤ value ∧ value < Word.count
  | .float _ => False
  | _ => True

/-- Values that are read as they are written, where so many lists and objects may be opened. -/
inductive Readable : Nat → Json → Prop where
  | leaf {depth : Nat} {value : Leaf} (exact : value.Exact) : Readable depth (.leaf value)
  | list {depth : Nat} {items : List Json} (inner : ∀ j ∈ items, Readable depth j) :
      Readable (depth + 1) (.list items)
  | object {depth : Nat} {fields : List (String × Json)}
      (inner : ∀ f ∈ fields, Readable depth f.2) : Readable (depth + 1) (.object fields)

def Ends (rest : List Char) : Prop :=
  ∀ c, rest.head? = some c → c.isDigit = false ∧ c ≠ '.' ∧ c ≠ 'e' ∧ c ≠ 'E'

namespace Number

theorem takeWhile_of_ends {rest : List Char} (ends : Ends rest) :
    rest.takeWhile Char.isDigit = [] := by
  cases rest with
  | nil => rfl
  | cons c cs => simp [(ends c rfl).1]

theorem dropDigits_of_ends {rest : List Char} (ends : Ends rest) : dropDigits rest = rest := by
  cases rest with
  | nil => rfl
  | cons c cs => simp [dropDigits, (ends c rfl).1]

theorem le_ofDigitChars (digits : List Char) (n : Nat) : n ≤ Nat.ofDigitChars 10 digits n := by
  induction digits generalizing n with
  | nil => exact Nat.le_refl n
  | cons c cs ih =>
    rw [Nat.ofDigitChars_cons]
    have later := ih (10 * n + (c.toNat - '0'.toNat))
    omega

/- The number grows with each digit, so all digits fit if the whole number does. -/
theorem absorb_digits {digits rest : List Char} (decimal : ∀ c ∈ digits, c.isDigit = true)
    (ends : Ends rest) (n taken : Nat)
    (fits : Word.fits (Nat.ofDigitChars 10 digits n) = true) :
    absorb (digits ++ rest) n taken =
      (Nat.ofDigitChars 10 digits n, taken + digits.length, rest) := by
  induction digits generalizing n taken with
  | nil =>
    cases rest with
    | nil => rfl
    | cons c cs => simp [absorb, (ends c rfl).1]
  | cons c cs ih =>
    rw [Nat.ofDigitChars_cons] at fits ⊢
    have first : c.isDigit = true := decimal c List.mem_cons_self
    have partFits : Word.fits (10 * n + digit c) = true :=
      decide_eq_true (Nat.lt_of_le_of_lt (le_ofDigitChars cs _) (of_decide_eq_true fits))
    rw [List.cons_append, absorb, first, partFits]
    refine (ih (fun d member => decimal d (List.mem_cons_of_mem c member)) _ _ fits).trans ?_
    rw [List.length_cons, Nat.add_assoc, Nat.add_comm 1]

theorem toDigits_head {n : Nat} (positive : 0 < n) {c : Char}
    (head : (Nat.toDigits 10 n).head? = some c) : c ≠ '0' := by
  induction n using Nat.strongRecOn with
  | ind n ih =>
    rw [Nat.toDigits_eq_if (by decide)] at head
    split at head
    · next small =>
      obtain rfl := Option.some.inj head
      have digits : ∀ m, m < 10 → 0 < m → m.digitChar ≠ '0' := by decide
      exact digits n small positive
    · next large =>
      have front := List.head?_eq_some_head (Nat.toDigits_ne_nil (n := n / 10) (b := 10))
      rw [List.head?_append, front, Option.some_or, ← front] at head
      exact ih (n / 10) (by omega) (by omega) head

theorem afterWhole_of_ends (negative : Bool) (n : Nat) {rest : List Char} (ends : Ends rest) :
    afterWhole negative n 0 rest =
      if !negative then .ok (.int n, rest)
      else if 1 ≤ n && n ≤ Word.half then .ok (.int (-n), rest)
      else .ok (.float (-Float.ofNat n), rest) := by
  unfold afterWhole
  split
  · exact absurd rfl (ends '.' rfl).2.1
  · exact absurd rfl (ends 'e' rfl).2.2.1
  · exact absurd rfl (ends 'E' rfl).2.2.2
  · rfl

theorem toDigits_start (n : Nat) :
    ∃ c cs, Nat.toDigits 10 n = c :: cs ∧ c.isDigit = true := by
  cases shown : Nat.toDigits 10 n with
  | nil => exact absurd shown Nat.toDigits_ne_nil
  | cons c cs =>
    have member : c ∈ Nat.toDigits 10 n := by
      rw [shown]
      exact List.mem_cons_self
    exact ⟨c, cs, rfl, Nat.isDigit_of_mem_toDigits (by decide) (by decide) member⟩

theorem unsigned_toDigits (negative : Bool) {n : Nat} (fits : Word.fits n = true)
    {rest : List Char} (ends : Ends rest) :
    unsigned negative (Nat.toDigits 10 n ++ rest) = afterWhole negative n 0 rest := by
  have decimal : ∀ c ∈ Nat.toDigits 10 n, c.isDigit = true := fun c member =>
    Nat.isDigit_of_mem_toDigits (by decide) (by decide) member
  have absorbed := absorb_digits decimal ends 0 0 (by rwa [Nat.ofDigitChars_ten_toDigits])
  rw [Nat.ofDigitChars_ten_toDigits] at absorbed
  cases n with
  | zero =>
    have other : (rest.head?).any Char.isDigit = false := by
      cases rest with
      | nil => rfl
      | cons c cs => simp [(ends c rfl).1]
    simp [unsigned, other]
  | succ m =>
    obtain ⟨c, cs, start, digit⟩ := toDigits_start (m + 1)
    have first : c ≠ '0' := toDigits_head (Nat.succ_pos m) (by rw [start]; rfl)
    rw [start, List.cons_append] at absorbed ⊢
    rw [unsigned]
    · simp [digit, absorbed, takeWhile_of_ends ends, dropDigits_of_ends ends]
    · intro zero
      exact absurd zero first

theorem toList_negSucc (n : Nat) :
    (toString (Int.negSucc n)).toList = '-' :: Nat.toDigits 10 (n + 1) := by
  rw [Int.toString_eq_repr, Int.repr, String.toList_append, Nat.toList_repr]
  rfl

/- A whole number is read from the digits that are written of it. -/
theorem read_int {value : Int} (exact : (Leaf.int value).Exact) {rest : List Char}
    (ends : Ends rest) : read ((toString value).toList ++ rest) = .ok (.int value, rest) := by
  obtain ⟨low, high⟩ := exact
  cases value with
  | ofNat n =>
    have fits : Word.fits n = true := decide_eq_true (Int.ofNat_lt.1 high)
    have shown : (toString (Int.ofNat n)).toList = Nat.toDigits 10 n := Nat.toList_repr
    obtain ⟨c, cs, start, digit⟩ := toDigits_start n
    have unread : read (Nat.toDigits 10 n ++ rest) = unsigned false (Nat.toDigits 10 n ++ rest) := by
      rw [start, List.cons_append, read]
      intro _ signed
      obtain ⟨rfl, _⟩ := List.cons.inj signed
      cases digit
    rw [shown, unread, unsigned_toDigits false fits ends, afterWhole_of_ends false n ends]
    rfl
  | negSucc n =>
    have small : n + 1 ≤ Word.half := by omega
    have fits : Word.fits (n + 1) = true :=
      decide_eq_true (Nat.lt_of_le_of_lt small (by decide))
    rw [toList_negSucc, List.cons_append, read, unsigned_toDigits true fits ends,
      afterWhole_of_ends true (n + 1) ends]
    have inside : (decide (1 ≤ n + 1) && decide (n + 1 ≤ Word.half)) = true := by simp [small]
    simp only [Bool.not_true, Bool.false_eq_true, ↓reduceIte, inside]
    rfl

end Number

def hexDigit (n : Nat) : Char :=
  "0123456789abcdef".toList.getD n '0'

theorem utf8Size_hexDigit : ∀ n < 16, (hexDigit n).utf8Size = 1 := by decide

theorem digitValue_hexDigit :
    ∀ n < 16, Decimal.digitValue? 16 (hexDigit n) = some n := by decide

theorem hexCode_digits {a b : Nat} (high : a < 16) (low : b < 16) (rest : List Char) :
    hexCode ('0' :: '0' :: hexDigit a :: hexDigit b :: rest) = .ok (16 * a + b, rest) := by
  have zero : Decimal.digitValue? 16 '0' = some 0 := by decide
  have values : ['0', '0', hexDigit a, hexDigit b].mapM (Decimal.digitValue? 16) =
      some [0, 0, a, b] := by
    simp [zero, digitValue_hexDigit a high, digitValue_hexDigit b low]
  have size : '0'.utf8Size = 1 := rfl
  simp only [hexCode, List.take_succ_cons, List.take_zero, values]
  simp [size, utf8Size_hexDigit a high, utf8Size_hexDigit b low]

/- The code of a control character is written in two digits behind two zeros. -/
theorem escaped_shortCode {c : Char} (control : c.toNat < 0x20) (rest : List Char) :
    escaped ((shortCode c).tail ++ rest) = .ok (c, rest) := by
  let high := c.toNat / 16 % 16
  let low := c.toNat % 16
  have shown : (shortCode c).tail ++ rest =
      'u' :: '0' :: '0' :: hexDigit high :: hexDigit low :: rest := rfl
  have code : 16 * high + low = c.toNat := by omega
  have read : hexCode ('0' :: '0' :: hexDigit high :: hexDigit low :: rest) =
      .ok (c.toNat, rest) := by
    rw [hexCode_digits (by omega) (by omega), code]
  have plain : ¬ 0xd800 ≤ c.toNat := by omega
  have plain' : ¬ 0xdc00 ≤ c.toNat := by omega
  rw [shown, escaped, read]
  simp [plain, plain', Except.bind, bind, Char.ofNat_toNat]

/- Each character is read from the form that is written of it. -/
theorem stringFrom_encodeChar (fuel : Nat) (before : List Char) (c : Char) (rest : List Char) :
    stringFrom (fuel + 1) before (encodeChar c ++ rest) = stringFrom fuel (c :: before) rest := by
  unfold encodeChar
  split
  case h_8 quote slash _ _ _ _ _ =>
    split
    · next control =>
      have read := escaped_shortCode control rest
      have shown : shortCode c ++ rest = '\\' :: ((shortCode c).tail ++ rest) := rfl
      rw [shown, stringFrom, read]
    · next visible =>
      rw [List.singleton_append, stringFrom, if_neg visible]
      · exact quote
      · exact slash
  all_goals rfl

theorem stringFrom_flatMap (chars : List Char) (before rest : List Char) (fuel : Nat)
    (enough : chars.length < fuel) :
    stringFrom fuel before (chars.flatMap encodeChar ++ '"' :: rest) =
      .ok (String.ofList (before.reverse ++ chars), rest) := by
  induction chars generalizing before fuel with
  | nil =>
    obtain ⟨fuel, rfl⟩ := Nat.exists_eq_succ_of_ne_zero (Nat.ne_zero_of_lt enough)
    rw [List.append_nil]
    rfl
  | cons c cs ih =>
    obtain ⟨fuel, rfl⟩ := Nat.exists_eq_succ_of_ne_zero (Nat.ne_zero_of_lt enough)
    rw [List.flatMap_cons, List.append_assoc, Nat.succ_eq_add_one, stringFrom_encodeChar,
      ih (c :: before) fuel (by simpa using enough)]
    simp

theorem length_le_flatMap (chars : List Char) :
    chars.length ≤ (chars.flatMap encodeChar).length := by
  induction chars with
  | nil => exact Nat.le_refl 0
  | cons c cs ih =>
    have written : 1 ≤ (encodeChar c).length := by
      unfold encodeChar
      split
      case h_8 => split <;> simp [shortCode]
      all_goals decide
    rw [List.flatMap_cons, List.length_append, List.length_cons]
    omega

theorem string_start (name : String) (rest : List Char) :
    Written.string name ++ rest = '"' :: ((Written.string name).tail ++ rest) := by
  rfl

theorem string_written (name : String) (rest : List Char) :
    Reader.string ((Written.string name).tail ++ rest) = .ok (name, rest) := by
  have shown : (Written.string name).tail ++ rest =
      name.toList.flatMap encodeChar ++ '"' :: rest := by
    simp [Written.string]
  have enough := length_le_flatMap name.toList
  rw [shown, Reader.string, stringFrom_flatMap]
  · simp
  · rw [List.length_append]
    omega

theorem dark_of_number {c : Char} (number : (c = '-' || c.isDigit) = true) :
    isBlank c = false := by
  cases blank : isBlank c with
  | false => rfl
  | true =>
    simp only [isBlank, Bool.or_eq_true, decide_eq_true_eq] at blank
    rcases blank with ((rfl | rfl) | rfl) | rfl <;> cases number

theorem value_number {c : Char} (number : (c = '-' || c.isDigit) = true) (cs : List Char)
    (fuel depth : Nat) : value (fuel + 1) depth (c :: cs) = leafOf (Number.read (c :: cs)) := by
  have dark := dark_of_number number
  have start : skipBlank (c :: cs) = c :: cs := by simp [skipBlank, dark]
  simp only [value, start]
  split
  case h_8 d ds same =>
    obtain ⟨rfl, rfl⟩ := List.cons.inj same
    rw [if_pos number]
  case h_1 same => cases same
  all_goals
    next same =>
      obtain ⟨rfl, _⟩ := List.cons.inj same
      cases number

theorem int_start (value : Int) : ∃ c cs, (toString value).toList = c :: cs ∧
    (c = '-' || c.isDigit) = true := by
  cases value with
  | ofNat n =>
    obtain ⟨c, cs, start, digit⟩ := Number.toDigits_start n
    exact ⟨c, cs, Nat.toList_repr.trans start, by simp [digit]⟩
  | negSucc n => exact ⟨'-', _, Number.toList_negSucc n, rfl⟩

theorem value_leaf {v : Leaf} (exact : v.Exact) {rest : List Char} (ends : Ends rest)
    (fuel depth : Nat) :
    value (fuel + 1) depth (Written.leaf v ++ rest) = (.leaf v, .ok rest) := by
  cases v with
  | null => rfl
  | bool b => cases b <;> rfl
  | int n =>
    have read := Number.read_int exact ends
    obtain ⟨c, cs, start, number⟩ := int_start n
    rw [start, List.cons_append] at read
    rw [Written.leaf, start, List.cons_append, value_number number, read]
    rfl
  | float x => exact exact.elim
  | text name =>
    have start : skipBlank ('"' :: ((Written.string name).tail ++ rest)) =
        '"' :: ((Written.string name).tail ++ rest) := rfl
    simp only [Written.leaf, string_start, value, start, string_written]
    rfl

def closing (indent : Nat) (bracket : Char) (rest : List Char) : List Char :=
  newline indent ++ bracket :: rest

theorem skipBlank_newline (indent : Nat) {c : Char} (dark : isBlank c = false)
    (rest : List Char) : skipBlank (newline indent ++ c :: rest) = c :: rest := by
  have blanks : ∀ d ∈ newline indent, isBlank d = true := by
    intro d member
    rcases List.mem_cons.1 member with rfl | space
    · rfl
    · rw [List.eq_of_mem_replicate space]
      rfl
  unfold skipBlank
  rw [List.dropWhile_append_of_pos blanks, List.dropWhile_cons_of_neg (by simp [dark])]

section
variable {fuel depth : Nat} {text rest : List Char} {c : Char} {cs : List Char} {t : Document Leaf}

theorem items_first (start : skipBlank text = c :: cs) (other : c ≠ ']')
    (read : value fuel depth (c :: cs) = (t, .ok rest)) :
    items (fuel + 1) depth true text =
      (t :: (items fuel depth false rest).1, (items fuel depth false rest).2) := by
  simp only [items, start, read, ↓reduceIte]

theorem items_next (start : skipBlank text = c :: cs) (other : c ≠ ']')
    (read : value fuel depth (c :: cs) = (t, .ok rest)) :
    items (fuel + 1) depth false (',' :: text) =
      (t :: (items fuel depth false rest).1, (items fuel depth false rest).2) := by
  have comma : skipBlank (',' :: text) = ',' :: text := rfl
  simp [items, comma, start, other, read]

theorem items_closing (first : Bool) (indent : Nat) (rest : List Char) :
    items (fuel + 1) depth first (closing indent ']' rest) = ([], .ok rest) := by
  simp only [items, closing, skipBlank_newline indent (c := ']') rfl]

theorem entries_closing (first : Bool) (indent : Nat) (rest : List Char) :
    entries (fuel + 1) depth first (closing indent '\x7d' rest) = ([], .ok rest) := by
  simp only [entries, closing, skipBlank_newline indent (c := '\x7d') rfl]

theorem value_list {ts : List (Document Leaf)}
    (read : items fuel depth true text = (ts, .ok rest)) :
    value (fuel + 1) (depth + 1) ('[' :: text) = (.list ts none, .ok rest) := by
  have bracket : skipBlank ('[' :: text) = '[' :: text := rfl
  simp only [value, bracket, read]
  rfl

theorem value_object {es : List (Document Leaf × Document Leaf)}
    (read : entries fuel depth true text = (es, .ok rest)) :
    value (fuel + 1) (depth + 1) ('\x7b' :: text) = (.table es none, .ok rest) := by
  have bracket : skipBlank ('\x7b' :: text) = '\x7b' :: text := rfl
  simp only [value, bracket, read]
  rfl

theorem entries_first {name : String} {behind : List Char}
    (start : skipBlank text = Written.string name ++ ':' :: behind)
    (read : value fuel depth behind = (t, .ok rest)) :
    entries (fuel + 1) depth true text =
      ((.leaf (.text name), t) :: (entries fuel depth false rest).1,
        (entries fuel depth false rest).2) := by
  have colon : skipBlank (':' :: behind) = ':' :: behind := rfl
  rw [string_start] at start
  simp [entries, start, string_written, colon, read]

theorem entries_next {name : String} {behind : List Char}
    (start : skipBlank text = Written.string name ++ ':' :: behind)
    (read : value fuel depth behind = (t, .ok rest)) :
    entries (fuel + 1) depth false (',' :: text) =
      ((.leaf (.text name), t) :: (entries fuel depth false rest).1,
        (entries fuel depth false rest).2) := by
  have comma : skipBlank (',' :: text) = ',' :: text := rfl
  have colon : skipBlank (':' :: behind) = ':' :: behind := rfl
  rw [string_start] at start
  simp [entries, comma, start, string_written, colon, read]

end

/-- A document that is read where a value is written, in front of anything that ends a number. -/
structure Reads (depth : Nat) (j : Json) (t : Document Leaf) : Prop where
  tree : ofDocument? t = some j
  start : ∀ indent, ∃ c cs, Written.pretty indent j = c :: cs ∧ isBlank c = false ∧ c ≠ ']'
  value : ∀ fuel indent rest, (Written.pretty indent j).length ≤ fuel → Ends rest →
    value fuel depth (Written.pretty indent j ++ rest) = (t, .ok rest)

def ReadsField (depth : Nat) (field : String × Json) (e : Document Leaf × Document Leaf) : Prop :=
  e.1 = .leaf (.text field.1) ∧ Reads depth field.2 e.2

def writtenField (indent : Nat) (field : String × Json) : List Char :=
  Written.string field.1 ++ ':' :: ' ' :: Written.pretty indent field.2

section
variable {α β : Type}

def behindOthers (write : Nat → β → List Char) (indent : Nat) (parts : List β) : List Char :=
  parts.flatMap fun x => ',' :: (newline indent ++ write indent x)

/-- A reader of parts takes one of them, be it the first or not, and goes on behind it. -/
structure Consumes (reader : Nat → Bool → List Char → Progress (List α))
    (write : Nat → β → List Char) (x : β) (a : α) : Prop where
  first : ∀ fuel indent rest, (write indent x).length ≤ fuel → Ends rest →
    reader (fuel + 1) true (newline indent ++ write indent x ++ rest) =
      (a :: (reader fuel false rest).1, (reader fuel false rest).2)
  next : ∀ fuel indent rest, (write indent x).length ≤ fuel → Ends rest →
    reader (fuel + 1) false (',' :: (newline indent ++ write indent x ++ rest)) =
      (a :: (reader fuel false rest).1, (reader fuel false rest).2)

variable {reader : Nat → Bool → List Char → Progress (List α)} {write : Nat → β → List Char}
  {bracket : Char} {x : β} {a : α} {parts : List β} {read : List α}

theorem ends_closing (indent : Nat) (bracket : Char) (rest : List Char) :
    Ends (closing indent bracket rest) := by
  intro c head
  obtain rfl := Option.some.inj head
  decide

theorem ends_behindOthers (write : Nat → β → List Char) (indent : Nat) (parts : List β)
    {rest : List Char} (ends : Ends rest) : Ends (behindOthers write indent parts ++ rest) := by
  cases parts with
  | nil => exact ends
  | cons _ _ =>
    intro c head
    obtain rfl := Option.some.inj head
    decide

/- The induction is on the parts; one step of fuel is spent on each of them. -/
theorem reader_behindOthers
    (closes : ∀ fuel first indent rest,
      reader (fuel + 1) first (closing indent bracket rest) = ([], .ok rest))
    (consumed : List.Forall₂ (Consumes reader write) parts read) (fuel indent outer : Nat)
    (rest : List Char)
    (enough : (behindOthers write indent parts).length + (newline outer).length < fuel) :
    reader fuel false (behindOthers write indent parts ++ closing outer bracket rest) =
      (read, .ok rest) := by
  induction consumed generalizing fuel with
  | nil =>
    obtain ⟨fuel, rfl⟩ := Nat.exists_eq_succ_of_ne_zero (Nat.ne_zero_of_lt enough)
    exact closes fuel false outer rest
  | @cons x a parts read taken _ ih =>
    obtain ⟨fuel, rfl⟩ := Nat.exists_eq_succ_of_ne_zero (Nat.ne_zero_of_lt enough)
    have split : behindOthers write indent (x :: parts) =
        ',' :: (newline indent ++ write indent x ++ behindOthers write indent parts) := rfl
    rw [split] at enough ⊢
    simp only [List.length_cons, List.length_append] at enough
    have ends := ends_behindOthers write indent parts (ends_closing outer bracket rest)
    rw [List.cons_append, List.append_assoc, taken.next fuel indent _ (by omega) ends,
      ih fuel (by omega)]

theorem reader_parts (taken : Consumes reader write x a)
    (consumed : List.Forall₂ (Consumes reader write) parts read)
    (closes : ∀ fuel first indent rest,
      reader (fuel + 1) first (closing indent bracket rest) = ([], .ok rest))
    (fuel indent outer : Nat) (rest : List Char)
    (enough : (newline indent ++ write indent x ++ behindOthers write indent parts ++
      newline outer).length < fuel) :
    reader fuel true (newline indent ++ write indent x ++ behindOthers write indent parts ++
      closing outer bracket rest) = (a :: read, .ok rest) := by
  have line : (newline indent).length = 2 * indent + 1 := by simp [newline]
  simp only [List.length_append, line] at enough
  obtain ⟨fuel, rfl⟩ := Nat.exists_eq_add_of_le' (show 1 ≤ fuel by omega)
  have ends := ends_behindOthers write indent parts (ends_closing outer bracket rest)
  rw [List.append_assoc, taken.first fuel indent _ (by omega) ends,
    reader_behindOthers closes consumed fuel indent outer rest (by omega)]

end

section
variable {depth : Nat}

theorem item_start {j : Json} {t : Document Leaf} (reads : Reads depth j t) {fuel indent : Nat}
    {rest : List Char} (enough : (Written.pretty indent j).length ≤ fuel) (ends : Ends rest) :
    ∃ c cs, skipBlank (newline indent ++ Written.pretty indent j ++ rest) = c :: cs ∧ c ≠ ']' ∧
      value fuel depth (c :: cs) = (t, .ok rest) := by
  obtain ⟨c, cs, start, dark, other⟩ := reads.start indent
  have read := reads.value fuel indent rest enough ends
  rw [start, List.cons_append] at read
  refine ⟨c, cs ++ rest, ?_, other, read⟩
  rw [start, List.append_assoc]
  exact skipBlank_newline indent dark _

theorem consumes_item {j : Json} {t : Document Leaf} (reads : Reads depth j t) :
    Consumes (items · depth) Written.pretty j t where
  first := by
    intro fuel indent rest enough ends
    obtain ⟨c, cs, start, other, read⟩ := item_start reads enough ends
    exact items_first start other read
  next := by
    intro fuel indent rest enough ends
    obtain ⟨c, cs, start, other, read⟩ := item_start reads enough ends
    exact items_next start other read

theorem value_behind_blank (fuel : Nat) (chars : List Char) :
    value fuel depth (' ' :: chars) = value fuel depth chars := by
  have skipped : skipBlank (' ' :: chars) = skipBlank chars := rfl
  cases fuel with
  | zero => rfl
  | succ fuel => simp only [value, skipped]

theorem skipBlank_field (indent : Nat) (field : String × Json) (rest : List Char) :
    skipBlank (newline indent ++ writtenField indent field ++ rest) =
      Written.string field.1 ++ ':' :: ' ' :: (Written.pretty indent field.2 ++ rest) := by
  rw [writtenField, List.append_assoc, List.append_assoc, string_start,
    skipBlank_newline indent rfl]
  rfl

theorem value_field {field : String × Json} {e : Document Leaf × Document Leaf}
    (reads : ReadsField depth field e) {fuel indent : Nat} {rest : List Char}
    (enough : (writtenField indent field).length ≤ fuel) (ends : Ends rest) :
    value fuel depth (' ' :: (Written.pretty indent field.2 ++ rest)) = (e.2, .ok rest) := by
  simp only [writtenField, List.length_append, List.length_cons] at enough
  rw [value_behind_blank]
  exact reads.2.value fuel indent rest (by omega) ends

theorem consumes_field {field : String × Json} {e : Document Leaf × Document Leaf}
    (reads : ReadsField depth field e) : Consumes (entries · depth) writtenField field e where
  first := by
    intro fuel indent rest enough ends
    have read := value_field reads enough ends
    rw [entries_first (skipBlank_field indent field rest) read, ← reads.1]
  next := by
    intro fuel indent rest enough ends
    have read := value_field reads enough ends
    rw [entries_next (skipBlank_field indent field rest) read, ← reads.1]

theorem prettyItems_cons (indent : Nat) (j : Json) (items : List Json) :
    Written.prettyItems indent (j :: items) = newline indent ++ Written.pretty indent j ++
      behindOthers Written.pretty indent items := by
  induction items generalizing j with
  | nil => simp [Written.prettyItems, behindOthers]
  | cons k others ih =>
    rw [Written.prettyItems, ih k]
    · simp [behindOthers]
    · simp

theorem prettyFields_cons (indent : Nat) (field : String × Json)
    (fields : List (String × Json)) :
    Written.prettyFields indent (field :: fields) = newline indent ++ writtenField indent field ++
      behindOthers writtenField indent fields := by
  induction fields generalizing field with
  | nil => simp [Written.prettyFields, behindOthers, writtenField]
  | cons next others ih =>
    obtain ⟨name, j⟩ := field
    rw [Written.prettyFields, ih next]
    · simp [behindOthers, writtenField]
    · simp

theorem ofDocuments_of_reads {items : List Json} {ts : List (Document Leaf)}
    (reads : List.Forall₂ (Reads depth) items ts) : ofDocuments? ts = some items := by
  induction reads with
  | nil => rfl
  | cons first _ ih => simp [ofDocuments?, first.tree, ih]

theorem ofEntries_of_reads {fields : List (String × Json)}
    {es : List (Document Leaf × Document Leaf)}
    (reads : List.Forall₂ (ReadsField depth) fields es) : ofEntries? es = some fields := by
  induction reads with
  | nil => rfl
  | @cons field e _ _ first _ ih =>
    obtain ⟨key, t⟩ := e
    obtain ⟨rfl, read⟩ := first
    simp [ofEntries?, read.tree, ih]

theorem leaf_start {v : Leaf} (exact : v.Exact) :
    ∃ c cs, Written.leaf v = c :: cs ∧ isBlank c = false ∧ c ≠ ']' := by
  cases v with
  | null => exact ⟨'n', _, rfl, rfl, by decide⟩
  | bool b =>
    cases b with
    | false => exact ⟨'f', _, rfl, rfl, by decide⟩
    | true => exact ⟨'t', _, rfl, rfl, by decide⟩
  | int n =>
    obtain ⟨c, cs, start, number⟩ := int_start n
    refine ⟨c, cs, start, dark_of_number number, ?_⟩
    rintro rfl
    cases number
  | float x => exact exact.elim
  | text name => exact ⟨'"', _, rfl, rfl, by decide⟩

theorem reads_leaf {v : Leaf} (exact : v.Exact) : Reads depth (.leaf v) (.leaf v) where
  tree := rfl
  start := fun indent => leaf_start exact
  value := by
    intro fuel indent rest enough ends
    obtain ⟨c, cs, start, _, _⟩ := leaf_start exact
    rw [Written.pretty, start] at enough
    obtain ⟨fuel, rfl⟩ := Nat.exists_eq_succ_of_ne_zero (Nat.ne_zero_of_lt enough)
    exact value_leaf exact ends fuel depth

theorem reads_list {items : List Json} {ts : List (Document Leaf)}
    (reads : List.Forall₂ (Reads depth) items ts) :
    Reads (depth + 1) (.list items) (.list ts none) where
  tree := by simp [ofDocument?, ofDocuments_of_reads reads]
  start := by
    intro indent
    cases items with
    | nil => exact ⟨'[', _, rfl, rfl, by decide⟩
    | cons _ _ => exact ⟨'[', _, rfl, rfl, by decide⟩
  value := by
    intro fuel indent rest enough ends
    cases reads with
    | nil =>
      obtain ⟨fuel, rfl⟩ : ∃ n, fuel = n + 2 := Nat.exists_eq_add_of_le' enough
      rfl
    | @cons j t items ts first others =>
      have shown : Written.pretty indent (.list (j :: items)) =
          '[' :: (newline (indent + 1) ++ Written.pretty (indent + 1) j ++
            behindOthers Written.pretty (indent + 1) items ++ newline indent ++ [']']) := by
        rw [← prettyItems_cons]
        rfl
      rw [shown] at enough ⊢
      rw [List.length_cons, List.length_append] at enough
      obtain ⟨fuel, rfl⟩ := Nat.exists_eq_add_of_le' (Nat.one_le_of_lt enough)
      have read := reader_parts (consumes_item first) (others.imp fun _ _ => consumes_item)
        (fun _ => items_closing) fuel (indent + 1) indent rest
        (Nat.le_of_succ_le_succ enough)
      simpa [closing] using value_list read

theorem reads_object {fields : List (String × Json)} {es : List (Document Leaf × Document Leaf)}
    (reads : List.Forall₂ (ReadsField depth) fields es) :
    Reads (depth + 1) (.object fields) (.table es none) where
  tree := by simp [ofDocument?, ofEntries_of_reads reads]
  start := by
    intro indent
    cases fields with
    | nil => exact ⟨'\x7b', _, rfl, rfl, by decide⟩
    | cons _ _ => exact ⟨'\x7b', _, rfl, rfl, by decide⟩
  value := by
    intro fuel indent rest enough ends
    cases reads with
    | nil =>
      obtain ⟨fuel, rfl⟩ : ∃ n, fuel = n + 2 := Nat.exists_eq_add_of_le' enough
      rfl
    | @cons field e fields es first others =>
      have shown : Written.pretty indent (.object (field :: fields)) =
          '\x7b' :: (newline (indent + 1) ++ writtenField (indent + 1) field ++
            behindOthers writtenField (indent + 1) fields ++ newline indent ++ ['\x7d']) := by
        rw [← prettyFields_cons]
        rfl
      rw [shown] at enough ⊢
      rw [List.length_cons, List.length_append] at enough
      obtain ⟨fuel, rfl⟩ := Nat.exists_eq_add_of_le' (Nat.one_le_of_lt enough)
      have read := reader_parts (consumes_field first) (others.imp fun _ _ => consumes_field)
        (fun _ => entries_closing) fuel (indent + 1) indent rest
        (Nat.le_of_succ_le_succ enough)
      simpa [closing] using value_object read

end

theorem forall₂_of_inner {α β : Type} {R : α → β → Prop} {parts : List α}
    (inner : ∀ x ∈ parts, ∃ a, R x a) : ∃ read, List.Forall₂ R parts read := by
  induction parts with
  | nil => exact ⟨[], .nil⟩
  | cons x others ih =>
    obtain ⟨a, first⟩ := inner x List.mem_cons_self
    obtain ⟨read, rest⟩ := ih fun y member => inner y (List.mem_cons_of_mem x member)
    exact ⟨a :: read, .cons first rest⟩

theorem reads_of_readable {depth : Nat} {j : Json} (readable : Readable depth j) :
    ∃ t, Reads depth j t := by
  induction readable with
  | leaf exact => exact ⟨_, reads_leaf exact⟩
  | list _ ih =>
    obtain ⟨ts, reads⟩ := forall₂_of_inner ih
    exact ⟨_, reads_list reads⟩
  | object _ ih =>
    have fields := forall₂_of_inner (R := ReadsField _) fun field member => by
      obtain ⟨t, reads⟩ := ih field member
      exact ⟨(.leaf (.text field.1), t), rfl, reads⟩
    obtain ⟨es, reads⟩ := fields
    exact ⟨_, reads_object reads⟩

/- The line break at the end of a file does not show. -/
theorem parse_pretty {j : Json} (readable : Readable maxDepth j) :
    parse? (j.pretty ++ "\n") = some j := by
  obtain ⟨t, reads⟩ := reads_of_readable readable
  have chars : (j.pretty ++ "\n").toList = Written.pretty 0 j ++ ['\n'] := by simp [Json.pretty]
  have ends : Ends ['\n'] := by
    intro c head
    obtain rfl := Option.some.inj head
    decide
  have read := reads.value (2 * (Written.pretty 0 j ++ ['\n']).length + 2) 0 ['\n']
    (by rw [List.length_append]; omega) ends
  have trailing : trailing ['\n'] = none := rfl
  simp only [parse?, readDocument, chars, read, trailing, reads.tree]
  rfl

end LexicalGrammar.Json
