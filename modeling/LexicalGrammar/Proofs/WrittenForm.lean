import LexicalGrammar.Descriptor
import LexicalGrammar.Proofs.Entries

/-
The entries that a transition is written as. They are read back as the same transition whenever any
entries are, so each transition that can be read has one form in which all its spellings end.
-/
namespace LexicalGrammar.Transition

def Fits : Transition → Prop
  | .pop count => count < 2 ^ 64
  | .push _ => True

def Proper : Transition → Prop
  | .pop count => 1 ≤ count
  | .push targets => targets ≠ [] ∧
      ∀ name, .named name ∈ targets → name ≠ "" ∧ name.toList.head? ≠ some '#'

theorem pops_written (count : Nat) : Pops ("#pop:" ++ toString count) count := by
  have decimal : ∀ c ∈ Nat.toDigits 10 count, c.isDigit = true := fun c member =>
    Nat.isDigit_of_mem_toDigits (by omega) (by omega) member
  have pops := Pops.counted Nat.toDigits_ne_nil decimal
  rwa [Nat.ofDigitChars_ten_toDigits, ← Nat.toString_eq_ofList_toDigits] at pops

theorem entry_of_pushes {entry : String} {target : StateRef} (pushes : Pushes entry target) :
    entry = targetEntry target := by
  cases pushes <;> rfl

theorem pushes_named_iff (name : String) :
    Pushes name (.named name) ↔ name ≠ "" ∧ name.toList.head? ≠ some '#' := by
  constructor
  · intro pushes
    cases pushes with
    | named nonempty plain => exact ⟨nonempty, plain⟩
  · rintro ⟨nonempty, plain⟩
    exact .named nonempty plain

theorem pushes_written_iff (targets : List StateRef) :
    List.Forall₂ Pushes (targets.map targetEntry) targets ↔
      ∀ name, .named name ∈ targets → name ≠ "" ∧ name.toList.head? ≠ some '#' := by
  rw [List.forall₂_map_left_iff, List.forall₂_same]
  constructor
  · intro pushes name member
    exact (pushes_named_iff name).1 (pushes (.named name) member)
  · intro plain target member
    cases target with
    | current => exact .current
    | named name => exact (pushes_named_iff name).2 (plain name member)

theorem entries_of_pushes {entries : List String} {targets : List StateRef}
    (each : List.Forall₂ Pushes entries targets) : entries = Transition.entries (.push targets) := by
  induction each with
  | nil => rfl
  | cons pushes each ih => exact congrArg₂ List.cons (entry_of_pushes pushes) ih

theorem parse_entries_iff (t : Transition) : parse t.entries = .ok t ↔ t.Fits ∧ t.Proper := by
  cases t with
  | pop count =>
    rw [parse_pop_iff]
    constructor
    · rintro ⟨_, fits, counts, each, positive, _⟩
      obtain ⟨first, others, pops, _, rfl⟩ := List.forall₂_cons_left_iff.1 each
      obtain rfl := pops_unique pops (pops_written count)
      exact ⟨fits, positive first (by simp)⟩
    · rintro ⟨fits, positive⟩
      refine ⟨by simp [entries], fits, [count], .cons (pops_written count) .nil, ?_, by simp⟩
      intro c member
      rwa [List.mem_singleton.1 member]
  | push targets =>
    rw [parse_push_iff, entries, pushes_written_iff]
    simp [Fits, Proper]

theorem proper_of_parse {entries : List String} {t : Transition} (made : parse entries = .ok t) :
    t.Fits ∧ t.Proper := by
  cases t with
  | pop count =>
    obtain ⟨nonempty, fits, counts, each, positive, rfl⟩ := (parse_pop_iff entries count).1 made
    obtain ⟨entry, rest, rfl⟩ := List.exists_cons_of_ne_nil nonempty
    obtain ⟨first, others, _, _, rfl⟩ := List.forall₂_cons_left_iff.1 each
    have here := positive first (by simp)
    refine ⟨fits, ?_⟩
    simp only [Proper, List.sum_cons]
    omega
  | push targets =>
    obtain ⟨_, each⟩ := (parse_push_iff entries targets).1 made
    rw [entries_of_pushes each] at made
    exact (parse_entries_iff (.push targets)).1 made

/- The entries of a transition are read as this transition just if some entries are: it has to pop at
   least one state, and no more than 64 bits can count, or to push some under names that are read as
   names. So what was read once is written and read as the same again, all ways to write a count of
   pops come to one, and there is only one way to write what is pushed. -/
theorem entries_are_canonical :
    (∀ t, (parse t.entries = .ok t ↔ t.Fits ∧ t.Proper) ∧
      ((∃ written, parse written = .ok t) ↔ t.Fits ∧ t.Proper)) ∧
    (∀ written t, parse written = .ok t → parse t.entries = .ok t) ∧
    (∀ written counts, written ≠ [] → List.Forall₂ Pops written counts →
      (∀ c ∈ counts, 1 ≤ c) → counts.sum < 2 ^ 64 →
      ∃ t, parse written = .ok t ∧ t.entries = ["#pop:" ++ toString counts.sum]) ∧
    (∀ written written' targets, parse written = .ok (.push targets) →
      parse written' = .ok (.push targets) → written = written') ∧
    (∀ rule count, (Descriptor.transition rule (.pop count)).describe =
      rule.describe ++ " => " ++ "#pop:" ++ toString count) ∧
    ∀ rule targets, (Descriptor.transition rule (.push targets)).describe =
      rule.describe ++ " => " ++ "[" ++ String.intercalate ", " (entries (.push targets)) ++ "]" := by
  refine ⟨?image, ?again, ?pops, ?pushes, ?shownPop, ?shownPush⟩
  case image =>
    intro t
    refine ⟨parse_entries_iff t, ?_, ?_⟩
    · rintro ⟨written, made⟩
      exact proper_of_parse made
    · intro proper
      exact ⟨t.entries, (parse_entries_iff t).2 proper⟩
  case again =>
    intro written t made
    exact (parse_entries_iff t).2 (proper_of_parse made)
  case pops =>
    intro written counts nonempty each positive fits
    have made := (parse_pop_iff written counts.sum).2
      ⟨nonempty, fits, counts, each, positive, rfl⟩
    exact ⟨.pop counts.sum, made, rfl⟩
  case pushes =>
    intro written written' targets made made'
    obtain ⟨_, each⟩ := (parse_push_iff written targets).1 made
    obtain ⟨_, each'⟩ := (parse_push_iff written' targets).1 made'
    rw [entries_of_pushes each, entries_of_pushes each']
  case shownPop =>
    intro rule count
    simp only [Descriptor.describe, describe, entries, String.join, List.foldl_cons,
      List.foldl_nil, String.empty_append, String.append_assoc]
  case shownPush =>
    intro rule targets
    simp only [Descriptor.describe, describe, String.append_assoc]

/-- A state that is called like the sign for the own state is not read back as such. -/
example : parse (entries (.push [.named "#push"])) = .ok (.push [.current]) := by
  decide

end LexicalGrammar.Transition
