import LexicalGrammar.Proofs.Entry
import Mathlib.Algebra.Ring.Nat
import Mathlib.Data.List.Forall2

/-
Which lists of entries are transitions. All entries have to pop, or all have to push; the counts are
added up exactly, and a list is refused for its first faulty entry before it is refused as a mixture.
-/
namespace LexicalGrammar.Transition

inductive Counts (entry : String) : Nat → Prop where
  | pops {count : Nat} (pops : Pops entry count) : Counts entry count
  | other (noPop : ∀ count, ¬ Pops entry count) : Counts entry 0

def Popped (entries : List String) (total : Nat) : Prop :=
  ∃ counts, List.Forall₂ Counts entries counts ∧ counts.sum = total

/-- What is wrong with an entry, where so many states are popped by those before it. -/
inductive Faulty (popped : Nat) (entry : String) : TransitionFault → Prop where
  | badCount {count : Nat} (pops : Pops entry count) (large : 2 ^ 64 ≤ count) :
      Faulty popped entry (.badCount entry)
  | popsNothing (pops : Pops entry 0) : Faulty popped entry (.popsNothing entry)
  | countOverflow {count : Nat} (pops : Pops entry count) (positive : 0 < count)
      (small : count < 2 ^ 64) (large : 2 ^ 64 ≤ popped + count) :
      Faulty popped entry (.countOverflow entry)
  | unknownDirective (noPop : ∀ count, ¬ Pops entry count)
      (noPush : ∀ target, ¬ Pushes entry target) : Faulty popped entry (.unknownDirective entry)

def Clean (entries : List String) : Prop :=
  ∀ before entry after, entries = before ++ entry :: after →
    ∀ popped fault, Popped before popped → ¬ Faulty popped entry fault

inductive Refusal : List String → TransitionFault → Prop where
  | noEntries : Refusal [] .noEntries
  | atEntry {before after : List String} {entry : String} {popped : Nat} {fault : TransitionFault}
      (clean : Clean before) (count : Popped before popped) (faulty : Faulty popped entry fault) :
      Refusal (before ++ entry :: after) fault
  | mixed {entries : List String} {first second : String} {count : Nat} {target : StateRef}
      (clean : Clean entries) (popping : first ∈ entries) (pops : Pops first count)
      (pushing : second ∈ entries) (pushes : Pushes second target) : Refusal entries .mixed

/-- The entries are all right by themselves; in all they pop and push so much. -/
inductive Reads : List String → Nat → List StateRef → Prop where
  | nil : Reads [] 0 []
  | pop {entry : String} {rest : List String} {count popped : Nat} {targets : List StateRef}
      (pops : Pops entry count) (positive : 0 < count) (others : Reads rest popped targets) :
      Reads (entry :: rest) (count + popped) targets
  | push {entry : String} {rest : List String} {target : StateRef} {popped : Nat}
      {targets : List StateRef} (pushes : Pushes entry target)
      (others : Reads rest popped targets) : Reads (entry :: rest) popped (target :: targets)

inductive Stops (popped : Nat) : List String → TransitionFault → Prop where
  | behind {before : List String} {more : Nat} {targets : List StateRef} {entry : String}
      {fault : TransitionFault} (reads : Reads before more targets)
      (fits : popped + more < 2 ^ 64) (faulty : Faulty (popped + more) entry fault)
      (after : List String) : Stops popped (before ++ entry :: after) fault

theorem countBound_eq : countBound = 2 ^ 64 := rfl

section
variable {entry : String} {rest entries : List String} {count popped : Nat}
  {target : StateRef} {targets : List StateRef} {fault : TransitionFault}

theorem parseFrom_pop (pops : Pops entry count) (positive : 0 < count)
    (fits : popped + count < 2 ^ 64) :
    parseFrom popped targets (entry :: rest) = parseFrom (popped + count) targets rest := by
  have found := (popCount_iff entry count).2 pops
  have parses : ¬ countBound ≤ count := by
    rw [countBound_eq]
    omega
  have adds : ¬ countBound ≤ popped + count := by
    rw [countBound_eq]
    omega
  simp only [parseFrom, found, if_neg parses, if_neg (Nat.ne_of_gt positive), if_neg adds]

theorem popCount_none (noPop : ∀ count, ¬ Pops entry count) : popCount? entry = none := by
  cases found : popCount? entry with
  | none => rfl
  | some count => exact absurd ((popCount_iff entry count).1 found) (noPop count)

theorem pushed_none (noPush : ∀ target, ¬ Pushes entry target) : pushed? entry = none := by
  cases found : pushed? entry with
  | none => rfl
  | some target => exact absurd ((pushed_iff entry target).1 found) (noPush target)

theorem parseFrom_push (pushes : Pushes entry target) :
    parseFrom popped targets (entry :: rest) = parseFrom popped (targets ++ [target]) rest := by
  have noPop := popCount_none fun _ pops => not_pushes_of_pops pops target pushes
  have found := (pushed_iff entry target).2 pushes
  simp only [parseFrom, noPop, found]

theorem parseFrom_faulty (faulty : Faulty popped entry fault) :
    parseFrom popped targets (entry :: rest) = .error fault := by
  cases faulty with
  | @badCount count pops large =>
    have found := (popCount_iff entry count).2 pops
    rw [← countBound_eq] at large
    simp only [parseFrom, found, if_pos large]
  | popsNothing pops =>
    have found := (popCount_iff entry 0).2 pops
    simp [parseFrom, found, countBound_eq]
  | @countOverflow count pops positive small large =>
    have found := (popCount_iff entry count).2 pops
    rw [← countBound_eq] at small large
    simp only [parseFrom, found, if_neg (Nat.not_le.2 small), if_neg (Nat.ne_of_gt positive),
      if_pos large]
  | unknownDirective noPop noPush =>
    simp only [parseFrom, popCount_none noPop, pushed_none noPush]

/- What an entry does to the reading of a list is drawn from these three cases. -/
theorem entry_cases (popped : Nat) (entry : String) :
    (∃ count, Pops entry count ∧ 0 < count ∧ popped + count < 2 ^ 64) ∨
    (∃ target, Pushes entry target) ∨ ∃ fault, Faulty popped entry fault := by
  cases found : popCount? entry with
  | some count =>
    have pops := (popCount_iff entry count).1 found
    by_cases large : 2 ^ 64 ≤ count
    · exact Or.inr (Or.inr ⟨_, .badCount pops large⟩)
    · by_cases zero : count = 0
      · subst zero
        exact Or.inr (Or.inr ⟨_, .popsNothing pops⟩)
      · by_cases fits : popped + count < 2 ^ 64
        · exact Or.inl ⟨count, pops, by omega, fits⟩
        · exact Or.inr (Or.inr ⟨_, .countOverflow pops (by omega) (by omega) (by omega)⟩)
  | none =>
    cases pushed : pushed? entry with
    | some target => exact Or.inr (Or.inl ⟨target, (pushed_iff entry target).1 pushed⟩)
    | none =>
      refine Or.inr (Or.inr ⟨_, .unknownDirective ?_ ?_⟩)
      · intro count pops
        simp [(popCount_iff entry count).2 pops] at found
      · intro target pushes
        simp [(pushed_iff entry target).2 pushes] at pushed

theorem parseFrom_reads (popped : Nat) (targets : List StateRef) {more : Nat}
    {pushed : List StateRef} (reads : Reads entries more pushed) (fits : popped + more < 2 ^ 64)
    (rest : List String) : parseFrom popped targets (entries ++ rest) =
      parseFrom (popped + more) (targets ++ pushed) rest := by
  induction reads generalizing popped targets with
  | nil => simp
  | @pop entry tail count more pushed pops positive others ih =>
    have here : popped + count < 2 ^ 64 := by omega
    have later : popped + count + more < 2 ^ 64 := by omega
    rw [List.cons_append, parseFrom_pop pops positive here, ih _ _ later, Nat.add_assoc]
  | push pushes others ih =>
    rw [List.cons_append, parseFrom_push pushes, ih _ _ fits, List.append_assoc]
    rfl

theorem parseFrom_start (reads : Reads entries popped targets) (fits : popped < 2 ^ 64)
    (rest : List String) : parseFrom 0 [] (entries ++ rest) = parseFrom popped targets rest := by
  have small : 0 + popped < 2 ^ 64 := by omega
  have run := parseFrom_reads 0 [] reads small rest
  rwa [Nat.zero_add, List.nil_append] at run

/-- Entries are all right to the end, or up to a first one that is faulty. -/
theorem reads_or_stops (entries : List String) {popped : Nat} (small : popped < 2 ^ 64) :
    (∃ more targets, Reads entries more targets ∧ popped + more < 2 ^ 64) ∨
    ∃ fault, Stops popped entries fault := by
  induction entries generalizing popped with
  | nil => exact Or.inl ⟨0, [], .nil, small⟩
  | cons entry rest ih =>
    rcases entry_cases popped entry with ⟨count, pops, positive, fits⟩ | ⟨target, pushes⟩ |
        ⟨fault, faulty⟩
    · rcases ih fits with ⟨more, targets, reads, below⟩ | ⟨fault, stops⟩
      · rw [Nat.add_assoc] at below
        exact Or.inl ⟨count + more, targets, .pop pops positive reads, below⟩
      · cases stops with
        | behind reads below faulty after =>
          rw [Nat.add_assoc] at below faulty
          exact Or.inr ⟨fault, .behind (.pop pops positive reads) below faulty after⟩
    · rcases ih small with ⟨more, targets, reads, below⟩ | ⟨fault, stops⟩
      · exact Or.inl ⟨more, target :: targets, .push pushes reads, below⟩
      · cases stops with
        | behind reads below faulty after =>
          exact Or.inr ⟨fault, .behind (.push pushes reads) below faulty after⟩
    · exact Or.inr ⟨fault, .behind .nil small faulty rest⟩

theorem whole_or_stops (entries : List String) :
    (∃ popped targets, Reads entries popped targets ∧ popped < 2 ^ 64) ∨
    ∃ fault, Stops 0 entries fault := by
  have ends := reads_or_stops entries (Nat.two_pow_pos 64)
  simpa only [Nat.zero_add] using ends

theorem parseFrom_stops (stops : Stops 0 entries fault) :
    parseFrom 0 [] entries = .error fault := by
  cases stops with
  | behind reads fits faulty after =>
    rw [Nat.zero_add] at fits faulty
    rw [parseFrom_start reads fits, parseFrom_faulty faulty]

theorem counts_unique : Relator.RightUnique Counts := by
  intro entry count count' counts counts'
  cases counts with
  | pops pops =>
    cases counts' with
    | pops pops' => exact pops_unique pops pops'
    | other noPop => exact absurd pops (noPop _)
  | other noPop =>
    cases counts' with
    | pops pops' => exact absurd pops' (noPop _)
    | other _ => rfl

theorem popped_unique {popped' : Nat} (total : Popped entries popped)
    (total' : Popped entries popped') : popped = popped' := by
  obtain ⟨counts, each, rfl⟩ := total
  obtain ⟨counts', each', rfl⟩ := total'
  rw [counts_unique.forall₂ each each']

theorem popped_of_reads (reads : Reads entries popped targets) : Popped entries popped := by
  induction reads with
  | nil => exact ⟨[], .nil, rfl⟩
  | @pop entry rest count popped targets pops positive others ih =>
    obtain ⟨counts, each, rfl⟩ := ih
    exact ⟨count :: counts, .cons (.pops pops) each, List.sum_cons⟩
  | push pushes others ih =>
    obtain ⟨counts, each, rfl⟩ := ih
    have noPop : ∀ count, ¬ Pops _ count := fun _ pops => not_pushes_of_pops pops _ pushes
    exact ⟨0 :: counts, .cons (.other noPop) each, by simp⟩

theorem reads_before {before after : List String} (reads : Reads (before ++ after) popped targets) :
    ∃ popped' targets', Reads before popped' targets' ∧ popped' ≤ popped := by
  induction before generalizing popped targets with
  | nil => exact ⟨0, [], .nil, Nat.zero_le popped⟩
  | cons entry before ih =>
    cases reads with
    | pop pops positive others =>
      obtain ⟨popped', targets', reads, less⟩ := ih others
      exact ⟨_, targets', .pop pops positive reads, by omega⟩
    | push pushes others =>
      obtain ⟨popped', targets', reads, less⟩ := ih others
      exact ⟨popped', _, .push pushes reads, less⟩

theorem clean_iff (entries : List String) :
    Clean entries ↔ ∃ popped targets, Reads entries popped targets ∧ popped < 2 ^ 64 := by
  constructor
  · intro clean
    rcases whole_or_stops entries with whole | ⟨fault, stops⟩
    · exact whole
    · cases stops with
      | behind reads _ faulty after =>
        rw [Nat.zero_add] at faulty
        exact absurd faulty (clean _ _ after rfl _ _ (popped_of_reads reads))
  · rintro ⟨popped, targets, reads, fits⟩ before entry after split popped' fault count faulty
    obtain ⟨_, _, first, less⟩ := reads_before (split ▸ reads)
    obtain rfl := popped_unique count (popped_of_reads first)
    have stopped := parseFrom_start first (by omega) (entry :: after)
    have complete := parseFrom_start reads fits []
    rw [parseFrom_faulty faulty, ← split] at stopped
    rw [List.append_nil, stopped] at complete
    cases complete

theorem reads_pops_iff (entries : List String) (popped : Nat) :
    Reads entries popped [] ↔ ∃ counts, List.Forall₂ Pops entries counts ∧
      (∀ count ∈ counts, 1 ≤ count) ∧ counts.sum = popped := by
  constructor
  · intro reads
    generalize empty : ([] : List StateRef) = targets at reads
    induction reads with
    | nil => exact ⟨[], .nil, by simp, rfl⟩
    | @pop entry rest count popped targets pops positive others ih =>
      obtain ⟨counts, each, allPositive, rfl⟩ := ih empty
      refine ⟨count :: counts, .cons pops each, ?_, List.sum_cons⟩
      intro other member
      rcases List.mem_cons.1 member with rfl | later
      · exact positive
      · exact allPositive other later
    | push pushes others ih => cases empty
  · rintro ⟨counts, each, allPositive, rfl⟩
    induction each with
    | nil => exact .nil
    | @cons entry count rest counts pops each ih =>
      have others := ih fun other member => allPositive other (List.mem_cons_of_mem count member)
      rw [List.sum_cons]
      exact .pop pops (allPositive count (by simp)) others

theorem reads_pushes_iff (entries : List String) (targets : List StateRef) :
    Reads entries 0 targets ↔ List.Forall₂ Pushes entries targets := by
  constructor
  · intro reads
    generalize zero : 0 = popped at reads
    induction reads with
    | nil => exact .nil
    | pop pops positive others ih => omega
    | push pushes others ih => exact .cons pushes (ih zero)
  · intro each
    induction each with
    | nil => exact .nil
    | cons pushes each ih => exact .push pushes ih

theorem popped_ne_zero_iff (reads : Reads entries popped targets) :
    popped ≠ 0 ↔ ∃ entry ∈ entries, ∃ count, Pops entry count := by
  induction reads with
  | nil => simp
  | @pop entry rest count popped targets pops positive others ih =>
    have here : count + popped ≠ 0 := by omega
    exact iff_of_true here ⟨entry, by simp, count, pops⟩
  | @push entry rest target popped targets pushes others ih =>
    have noPop : ¬ ∃ count, Pops entry count := fun ⟨_, pops⟩ =>
      not_pushes_of_pops pops target pushes
    simp [ih, noPop]

theorem targets_ne_nil_iff (reads : Reads entries popped targets) :
    targets ≠ [] ↔ ∃ entry ∈ entries, ∃ target, Pushes entry target := by
  induction reads with
  | nil => simp
  | pop pops positive others ih =>
    have noPush := fun target => not_pushes_of_pops pops target
    simp [ih, noPush]
  | @push entry rest target popped targets pushes others ih =>
    exact iff_of_true (List.cons_ne_nil _ _) ⟨entry, by simp, target, pushes⟩

theorem parse_of_reads (nonempty : entries ≠ []) (reads : Reads entries popped targets)
    (fits : popped < 2 ^ 64) :
    parse entries = if popped = 0 then .ok (.push targets)
      else if targets = [] then .ok (.pop popped) else .error .mixed := by
  have run := parseFrom_start reads fits []
  rw [List.append_nil] at run
  have full : ¬ entries.isEmpty = true := by simpa using nonempty
  rw [parse, if_neg full, run]
  cases popped with
  | zero => rfl
  | succ n =>
    cases targets with
    | nil => rfl
    | cons target targets => rfl

theorem parse_of_stops (stops : Stops 0 entries fault) : parse entries = .error fault := by
  have full : ¬ entries.isEmpty = true := by
    cases stops
    simp
  rw [parse, if_neg full, parseFrom_stops stops]

/- What is made of a list, or told of it, is drawn from these four ways in which reading it ends. -/
theorem parse_cases (nonempty : entries ≠ []) :
    (∃ targets, Reads entries 0 targets ∧ parse entries = .ok (.push targets)) ∨
    (∃ count, Reads entries count [] ∧ count < 2 ^ 64 ∧ parse entries = .ok (.pop count)) ∨
    (∃ popped targets, Reads entries popped targets ∧ popped < 2 ^ 64 ∧ popped ≠ 0 ∧
      targets ≠ [] ∧ parse entries = .error .mixed) ∨
    ∃ fault, Stops 0 entries fault ∧ parse entries = .error fault := by
  rcases whole_or_stops entries with ⟨popped, targets, reads, fits⟩ | ⟨fault, stops⟩
  · have result := parse_of_reads nonempty reads fits
    by_cases zero : popped = 0
    · rw [if_pos zero] at result
      exact Or.inl ⟨targets, zero ▸ reads, result⟩
    · by_cases alone : targets = []
      · rw [if_neg zero, if_pos alone] at result
        exact Or.inr (Or.inl ⟨popped, alone ▸ reads, fits, result⟩)
      · rw [if_neg zero, if_neg alone] at result
        exact Or.inr (Or.inr (Or.inl ⟨popped, targets, reads, fits, zero, alone, result⟩))
  · exact Or.inr (Or.inr (Or.inr ⟨fault, stops, parse_of_stops stops⟩))

theorem ne_nil_of_parse {t : Transition} (made : parse entries = .ok t) : entries ≠ [] := by
  rintro rfl
  cases made

theorem parse_pop_iff (entries : List String) (count : Nat) :
    parse entries = .ok (.pop count) ↔ entries ≠ [] ∧ count < 2 ^ 64 ∧
      ∃ counts, List.Forall₂ Pops entries counts ∧ (∀ c ∈ counts, 1 ≤ c) ∧
        counts.sum = count := by
  constructor
  · intro made
    have nonempty := ne_nil_of_parse made
    rcases parse_cases nonempty with ⟨_, _, result⟩ | ⟨popped, reads, fits, result⟩ |
        ⟨_, _, _, _, _, _, result⟩ | ⟨_, _, result⟩
    · cases made.symm.trans result
    · cases made.symm.trans result
      exact ⟨nonempty, fits, (reads_pops_iff entries count).1 reads⟩
    · cases made.symm.trans result
    · cases made.symm.trans result
  · rintro ⟨nonempty, fits, counted⟩
    have reads := (reads_pops_iff entries count).2 counted
    obtain ⟨counts, each, _, _⟩ := counted
    obtain ⟨entry, rest, rfl⟩ := List.exists_cons_of_ne_nil nonempty
    obtain ⟨first, others, pops, _, _⟩ := List.forall₂_cons_left_iff.1 each
    have popping : count ≠ 0 := (popped_ne_zero_iff reads).2 ⟨entry, by simp, first, pops⟩
    rw [parse_of_reads nonempty reads fits, if_neg popping, if_pos rfl]

theorem parse_push_iff (entries : List String) (targets : List StateRef) :
    parse entries = .ok (.push targets) ↔
      entries ≠ [] ∧ List.Forall₂ Pushes entries targets := by
  constructor
  · intro made
    have nonempty := ne_nil_of_parse made
    rcases parse_cases nonempty with ⟨pushed, reads, result⟩ | ⟨_, _, _, result⟩ |
        ⟨_, _, _, _, _, _, result⟩ | ⟨_, _, result⟩
    · cases made.symm.trans result
      exact ⟨nonempty, (reads_pushes_iff entries targets).1 reads⟩
    · cases made.symm.trans result
    · cases made.symm.trans result
    · cases made.symm.trans result
  · rintro ⟨nonempty, each⟩
    have reads := (reads_pushes_iff entries targets).2 each
    rw [parse_of_reads nonempty reads (Nat.two_pow_pos 64), if_pos rfl]

theorem refusal_of_stops (stops : Stops 0 entries fault) : Refusal entries fault := by
  cases stops with
  | behind reads fits faulty after =>
    rw [Nat.zero_add] at fits faulty
    exact .atEntry ((clean_iff _).2 ⟨_, _, reads, fits⟩) (popped_of_reads reads) faulty

theorem refusal_of_parse (refused : parse entries = .error fault) : Refusal entries fault := by
  by_cases empty : entries = []
  · subst empty
    obtain rfl := Except.error.inj refused
    exact .noEntries
  · rcases parse_cases empty with ⟨_, _, result⟩ | ⟨_, _, _, result⟩ |
        ⟨popped, targets, reads, fits, some_popped, some_pushed, result⟩ | ⟨_, stops, result⟩
    · cases refused.symm.trans result
    · cases refused.symm.trans result
    · cases refused.symm.trans result
      have clean := (clean_iff entries).2 ⟨popped, targets, reads, fits⟩
      obtain ⟨first, popping, count, pops⟩ := (popped_ne_zero_iff reads).1 some_popped
      obtain ⟨second, pushing, target, pushes⟩ := (targets_ne_nil_iff reads).1 some_pushed
      exact .mixed clean popping pops pushing pushes
    · cases refused.symm.trans result
      exact refusal_of_stops stops

theorem parse_error_iff (entries : List String) (fault : TransitionFault) :
    parse entries = .error fault ↔ Refusal entries fault := by
  refine ⟨refusal_of_parse, ?_⟩
  intro refusal
  cases refusal with
  | noEntries => rfl
  | atEntry clean count faulty =>
    obtain ⟨popped, targets, reads, fits⟩ := (clean_iff _).1 clean
    rw [popped_unique count (popped_of_reads reads)] at faulty
    rw [← Nat.zero_add popped] at fits faulty
    exact parse_of_stops (.behind reads fits faulty _)
  | mixed clean popping pops pushing pushes =>
    obtain ⟨popped, targets, reads, fits⟩ := (clean_iff entries).1 clean
    have popped_some := (popped_ne_zero_iff reads).2 ⟨_, popping, _, pops⟩
    have pushed_some := (targets_ne_nil_iff reads).2 ⟨_, pushing, _, pushes⟩
    have nonempty := List.ne_nil_of_mem popping
    rw [parse_of_reads nonempty reads fits, if_neg popped_some, if_neg pushed_some]

end

/- A list of entries pops so many states if all its entries pop, none of them nothing, and the exact
   sum of their counts fits into 64 bits. It pushes states if all its entries push. Any other list is
   refused: for its first entry that is faulty by itself or by the sum of the counts up to it, and as
   a mixture only where there is no such entry. -/
theorem parse_language (entries : List String) :
    (∀ count, parse entries = .ok (.pop count) ↔ entries ≠ [] ∧ count < 2 ^ 64 ∧
      ∃ counts, List.Forall₂ Pops entries counts ∧ (∀ c ∈ counts, 1 ≤ c) ∧
        counts.sum = count) ∧
    (∀ targets, parse entries = .ok (.push targets) ↔
      entries ≠ [] ∧ List.Forall₂ Pushes entries targets) ∧
    ∀ fault, parse entries = .error fault ↔ Refusal entries fault :=
  ⟨parse_pop_iff entries, parse_push_iff entries, parse_error_iff entries⟩

/-- Zeros in front and the order of counts do not matter, and the end of a line is no digit. -/
example : parse ["#pop:007", "#pop"] = .ok (.pop 8) ∧
    parse ["root", "#pop:0", "#jump"] = .error (.popsNothing "#pop:0") ∧
    parse ["#pop:1\n"] = .error (.unknownDirective "#pop:1\n") := by
  decide

end LexicalGrammar.Transition
