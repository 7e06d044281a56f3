import LexicalGrammar.Unicode.CharSet
import Mathlib.Tactic.ByContra

/-
Looking up a code point in a set of characters. Ranges that are ascending and apart are searched by
halves; what is looked up is found exactly if one of the ranges holds it.
-/
namespace LexicalGrammar.Unicode.CharSet

def Holds (r : Nat × Nat) (code : Nat) : Prop :=
  r.1 ≤ code ∧ code ≤ r.2

/-- No range is empty, and each one ends before the next begins. -/
structure Apart (ranges : List (Nat × Nat)) : Prop where
  filled : ∀ r ∈ ranges, r.1 ≤ r.2
  ascending : ranges.Pairwise fun a b => a.2 < b.1

section
variable {ranges : Array (Nat × Nat)} {i j : Nat} {a b : Nat × Nat}

theorem filled_of_get? (apart : Apart ranges.toList) (here : ranges[i]? = some a) :
    a.1 ≤ a.2 := by
  apply apart.filled
  rw [← Array.getElem?_toList] at here
  exact List.mem_of_getElem? here

theorem ascending_of_get? (apart : Apart ranges.toList) (before : i < j)
    (here : ranges[i]? = some a) (there : ranges[j]? = some b) : a.2 < b.1 := by
  rw [← Array.getElem?_toList] at here there
  obtain ⟨inside, rfl⟩ := List.getElem?_eq_some_iff.1 here
  obtain ⟨inside', rfl⟩ := List.getElem?_eq_some_iff.1 there
  exact List.pairwise_iff_getElem.1 apart.ascending i j inside inside' before

theorem above_of_get? (apart : Apart ranges.toList) (before : i ≤ j) (here : ranges[i]? = some a)
    (there : ranges[j]? = some b) {code : Nat} (holds : Holds b code) : a.1 ≤ code := by
  unfold Holds at holds
  rcases Nat.eq_or_lt_of_le before with rfl | less
  · obtain rfl := Option.some.inj (here.symm.trans there)
    exact holds.1
  · have filled := filled_of_get? apart here
    have later := ascending_of_get? apart less here there
    omega

theorem below_of_get? (apart : Apart ranges.toList) (before : i ≤ j) (here : ranges[i]? = some a)
    (there : ranges[j]? = some b) {code : Nat} (holds : Holds a code) : code ≤ b.2 := by
  unfold Holds at holds
  rcases Nat.eq_or_lt_of_le before with rfl | less
  · obtain rfl := Option.some.inj (here.symm.trans there)
    exact holds.2
  · have filled := filled_of_get? apart there
    have later := ascending_of_get? apart less here there
    omega

end

/- Induction on the halves. A range that is left out lies on the other side of the middle one, which
   itself does not hold the code point. -/
theorem searchFrom_iff {ranges : Array (Nat × Nat)} (apart : Apart ranges.toList)
    (code lo hi : Nat) (within : hi ≤ ranges.size) : searchFrom ranges code lo hi = true ↔
      ∃ i r, lo ≤ i ∧ i < hi ∧ ranges[i]? = some r ∧ Holds r code := by
  induction lo, hi using searchFrom.induct ranges code with
  | case1 lo hi span mid outside =>
    have inside : mid < ranges.size := by omega
    simp [Array.getElem?_eq_getElem inside] at outside
  | case2 lo hi span mid first final middle below ih =>
    rw [searchFrom, if_pos span]
    simp only [mid] at middle
    simp only [middle, below, ↓reduceIte]
    rw [ih (by omega)]
    constructor
    · rintro ⟨i, r, low, high, here, holds⟩
      exact ⟨i, r, low, by omega, here, holds⟩
    · rintro ⟨i, r, low, high, here, holds⟩
      refine ⟨i, r, low, ?_, here, holds⟩
      by_contra behind
      have reached := above_of_get? apart (Nat.le_of_not_lt behind) middle here holds
      exact absurd below (Nat.not_lt_of_le reached)
  | case3 lo hi span mid first final middle notBelow above ih =>
    rw [searchFrom, if_pos span]
    simp only [mid] at middle
    simp only [middle, notBelow, above, ↓reduceIte]
    rw [ih within]
    constructor
    · rintro ⟨i, r, low, high, here, holds⟩
      exact ⟨i, r, by omega, high, here, holds⟩
    · rintro ⟨i, r, low, high, here, holds⟩
      refine ⟨i, r, ?_, high, here, holds⟩
      by_contra before
      have passed := below_of_get? apart (Nat.le_of_lt_succ (Nat.lt_of_not_le before)) here middle
        holds
      exact absurd above (Nat.not_lt_of_le passed)
  | case4 lo hi span mid first final middle notBelow notAbove =>
    rw [searchFrom, if_pos span]
    simp only [mid] at middle
    simp only [middle, notBelow, notAbove, ↓reduceIte, true_iff]
    refine ⟨mid, (first, final), by omega, by omega, middle, ?_⟩
    unfold Holds
    omega
  | case5 lo hi closed =>
    rw [searchFrom, if_neg closed]
    simp only [Bool.false_eq_true, false_iff]
    rintro ⟨i, r, low, high, _⟩
    omega

theorem contains_iff_holds {s : CharSet} (apart : Apart s.ranges.toList) (c : Char) :
    s.contains c = true ↔ ∃ r ∈ s.ranges.toList, Holds r c.toNat := by
  unfold contains hasCode
  rw [searchFrom_iff apart _ _ _ (Nat.le_refl _)]
  constructor
  · rintro ⟨i, r, _, _, here, holds⟩
    rw [← Array.getElem?_toList] at here
    exact ⟨r, List.mem_of_getElem? here, holds⟩
  · rintro ⟨r, member, holds⟩
    obtain ⟨i, here⟩ := List.getElem?_of_mem member
    have inside := (List.getElem?_eq_some_iff.1 here).1
    rw [Array.getElem?_toList] at here
    exact ⟨i, r, Nat.zero_le i, by simpa using inside, here, holds⟩

end LexicalGrammar.Unicode.CharSet
