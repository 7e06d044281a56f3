import LexicalGrammar.Transition

/-
What an entry of a written transition says by itself: it pops states, or it pushes one, or neither.
A count is given by decimal digits, of which the leading ones may be zero.
-/
namespace LexicalGrammar

namespace Decimal

theorem isDigit_iff (c : Char) : c.isDigit = true ↔ 48 ≤ c.toNat ∧ c.toNat ≤ 57 := by
  simp [Char.isDigit, UInt32.le_iff_toNat_le]

/-- In base ten no letter is a digit, since letters stand for ten and more. -/
theorem digitValue_ten (c : Char) :
    digitValue? 10 c = if c.isDigit = true then some (c.toNat - '0'.toNat) else none := by
  unfold digitValue?
  by_cases digit : c.isDigit = true
  · have bounds := (isDigit_iff c).1 digit
    have small : c.toNat - '0'.toNat < 10 := by
      simp only [Char.reduceToNat]
      omega
    simp only [digit, ↓reduceIte, small]
  · have large : ¬ (if (decide ('a' ≤ c) && decide (c ≤ 'z')) = true then c.toNat - 'a'.toNat + 10
        else if (decide ('A' ≤ c) && decide (c ≤ 'Z')) = true then c.toNat - 'A'.toNat + 10
        else 10) < 10 := by
      split
      · omega
      · split <;> omega
    simp only [digit, Bool.false_eq_true, ↓reduceIte, large]

theorem digits_of_decimal {digits : List Char} (decimal : ∀ c ∈ digits, c.isDigit = true) :
    digits.mapM (digitValue? 10) = some (digits.map fun c => c.toNat - '0'.toNat) := by
  induction digits with
  | nil => rfl
  | cons c rest ih =>
    have first := decimal c (by simp)
    have others := ih fun d member => decimal d (List.mem_cons_of_mem c member)
    rw [List.mapM_cons, digitValue_ten, if_pos first, others]
    rfl

theorem decimal_of_digits {digits : List Char} {values : List Nat}
    (read : digits.mapM (digitValue? 10) = some values) : ∀ c ∈ digits, c.isDigit = true := by
  induction digits generalizing values with
  | nil => simp
  | cons c rest ih =>
    rw [List.mapM_cons, digitValue_ten] at read
    split at read
    · next first =>
      cases others : rest.mapM (digitValue? 10) with
      | none => simp [others] at read
      | some tail => simpa [first] using ih others
    · cases read

theorem natural_ten_iff (digits : List Char) (n : Nat) :
    natural? 10 digits = some n ↔
      digits ≠ [] ∧ (∀ c ∈ digits, c.isDigit = true) ∧ n = Nat.ofDigitChars 10 digits 0 := by
  have value : (digits.map fun c => c.toNat - '0'.toNat).foldl (fun n d => 10 * n + d) 0 =
      Nat.ofDigitChars 10 digits 0 := List.foldl_map
  unfold natural?
  constructor
  · intro read
    split at read
    · cases read
    · next nonempty =>
      obtain ⟨values, found, same⟩ := Option.map_eq_some_iff.1 read
      have decimal := decimal_of_digits found
      rw [digits_of_decimal decimal, Option.some.injEq] at found
      refine ⟨by simpa using nonempty, decimal, ?_⟩
      rw [← same, ← found, value]
  · rintro ⟨nonempty, decimal, rfl⟩
    rw [if_neg (by simpa using nonempty), digits_of_decimal decimal, Option.map_some, value]

end Decimal

namespace Transition

inductive Pops : String → Nat → Prop where
  | one : Pops "#pop" 1
  | counted {digits : List Char} (nonempty : digits ≠ [])
      (decimal : ∀ c ∈ digits, c.isDigit = true) :
      Pops ("#pop:" ++ String.ofList digits) (Nat.ofDigitChars 10 digits 0)

inductive Pushes : String → StateRef → Prop where
  | current : Pushes "#push" .current
  | named {name : String} (nonempty : name ≠ "") (plain : name.toList.head? ≠ some '#') :
      Pushes name (.named name)

theorem popCount_iff (entry : String) (count : Nat) :
    popCount? entry = some count ↔ Pops entry count := by
  constructor
  · intro found
    unfold popCount? at found
    split at found
    · next rest spelled =>
      split at found
      · obtain rfl : entry = "#pop" := String.toList_injective spelled
        obtain rfl : 1 = count := Option.some.inj found
        exact .one
      · next digits =>
        obtain rfl : entry = "#pop:" ++ String.ofList digits := by
          apply String.toList_injective
          simpa using spelled
        obtain ⟨nonempty, decimal, rfl⟩ := (Decimal.natural_ten_iff digits count).1 found
        exact .counted nonempty decimal
      · cases found
    · cases found
  · intro pops
    cases pops with
    | one => rfl
    | @counted digits nonempty decimal =>
      have spelled : ("#pop:" ++ String.ofList digits).toList =
          '#' :: 'p' :: 'o' :: 'p' :: ':' :: digits := by simp
      simp only [popCount?, spelled]
      exact (Decimal.natural_ten_iff digits _).2 ⟨nonempty, decimal, rfl⟩

theorem pushed_iff (entry : String) (target : StateRef) :
    pushed? entry = some target ↔ Pushes entry target := by
  unfold pushed?
  constructor
  · intro found
    split at found
    · next word =>
      subst word
      obtain rfl := Option.some.inj found
      exact .current
    · split at found
      · cases found
      · next plain =>
        obtain rfl := Option.some.inj found
        simp at plain
        exact .named plain.1 plain.2
  · intro pushes
    cases pushes with
    | current => rfl
    | named nonempty plain =>
      have other : entry ≠ pushWord := by
        rintro rfl
        exact plain rfl
      simp [other, nonempty, plain]

theorem pops_unique {entry : String} {count count' : Nat} (pops : Pops entry count)
    (pops' : Pops entry count') : count = count' := by
  have found := (popCount_iff entry count).2 pops
  have found' := (popCount_iff entry count').2 pops'
  exact Option.some.inj (found.symm.trans found')

theorem not_pushes_of_pops {entry : String} {count : Nat} (pops : Pops entry count)
    (target : StateRef) : ¬ Pushes entry target := by
  have hash : entry.toList.head? = some '#' := by
    cases pops with
    | one => rfl
    | counted _ _ => simp
  intro pushes
  cases pushes with
  | current =>
    have read := (popCount_iff "#push" count).2 pops
    cases read
  | named _ plain => exact plain hash

end Transition
end LexicalGrammar
