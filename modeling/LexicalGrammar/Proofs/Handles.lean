import LexicalGrammar.Proofs.Registry
import Mathlib.Data.Finset.Card
import Std.Data.HashSet.Lemmas

/-
Courses of uses of tables that share a supply. Each handle that is given in a course goes back to
one registration that found its name absent; two are equal exactly where they go back to the same.
-/
namespace LexicalGrammar

/-- Uses of tables one after the other. There are no tables at the start. -/
structure Course where
  supply : Supply
  uses : List Use

namespace Course

def after (run : Course) (n : Nat) : Registry :=
  (run.uses.take n).foldl Registry.step ⟨[], run.supply⟩

/-- After `n` uses the name in table `k` goes back to use `i`, which found it absent. -/
inductive Stems (run : Course) : Nat → Nat → String → Nat → Prop where
  | inserted {n k : Nat} {name : String} {u : Use} : run.uses[n]? = some u →
      (run.after n).Inserts u k name → Stems run (n + 1) k name n
  | kept {n k i : Nat} {name : String} : Stems run n k name i → Stems run (n + 1) k name i
  | cloned {n k i : Nat} {name : String} : run.uses[n]? = some (.clone k) →
      Stems run n k name i → Stems run (n + 1) (run.after n).tables.length name i

def Gives (run : Course) (n k : Nat) (name : String) (c : Category) : Prop :=
  ∃ u, run.uses[n]? = some u ∧ u.asks? = some (k, name) ∧ (run.after n).given? u = some c

def Obtained (run : Course) (c : Category) (i : Nat) (name : String) : Prop :=
  ∃ n k, run.Gives n k name c ∧ run.Stems (n + 1) k name i

variable {run : Course}

theorem after_of_use {n : Nat} {u : Use} (used : run.uses[n]? = some u) :
    run.after (n + 1) = (run.after n).step u := by
  simp [after, List.take_add_one, used]

theorem after_of_end {n : Nat} (ended : run.uses[n]? = none) : run.after (n + 1) = run.after n := by
  simp [after, List.take_add_one, ended]

theorem grows_after (run : Course) {n m : Nat} (earlier : n ≤ m) :
    (run.after n).Grows (run.after m) := by
  induction m, earlier using Nat.le_induction with
  | base => exact Registry.grows_refl _
  | succ m _ ih =>
    cases used : run.uses[m]? with
    | none => rwa [after_of_end used]
    | some u =>
      rw [after_of_use used]
      exact Registry.grows_trans ih (Registry.grows_step _ u)

theorem stems_of_get? {n k : Nat} {name : String} {c : Category}
    (found : (run.after n).get? k name = some c) : ∃ i, run.Stems n k name i := by
  -- a use that enters a handle inserts its name or clones the table that has it
  induction n generalizing k with
  | zero => cases found
  | succ n ih =>
    cases used : run.uses[n]? with
    | none =>
      rw [after_of_end used] at found
      obtain ⟨i, stems⟩ := ih found
      exact ⟨i, .kept stems⟩
    | some u =>
      rw [after_of_use used] at found
      rcases (Registry.steps_step _ u).found k name c found with
        before | ⟨k₀, rfl, rfl, before⟩ | inserts
      · obtain ⟨i, stems⟩ := ih before
        exact ⟨i, .kept stems⟩
      · obtain ⟨i, stems⟩ := ih before
        exact ⟨i, .cloned used stems⟩
      · exact ⟨n, .inserted used inserts⟩

def Minted (run : Course) (i : Nat) (name : String) (c : Category) : Prop :=
  ∃ u k, run.uses[i]? = some u ∧ (run.after i).Inserts u k name ∧
    (run.after (i + 1)).get? k name = some c

theorem minted_of_stems {n k i : Nat} {name : String} (stems : run.Stems n k name i) :
    ∃ c, (run.after n).get? k name = some c ∧ run.Minted i name c := by
  induction stems with
  | @inserted n k name u used inserts =>
    obtain ⟨_, _, minted⟩ := (Registry.steps_step _ u).minted
    obtain ⟨m, _, made⟩ := minted k name inserts
    rw [← after_of_use used] at made
    exact ⟨_, made, u, k, used, inserts, made⟩
  | kept _ ih =>
    obtain ⟨c, found, minted⟩ := ih
    exact ⟨c, (run.grows_after (Nat.le_succ _)).kept _ _ c found, minted⟩
  | @cloned n k i name used _ ih =>
    obtain ⟨c, found, minted⟩ := ih
    have copied := (Registry.steps_step _ _).copied k name rfl (Registry.lt_of_get? found)
    refine ⟨c, ?_, minted⟩
    rw [after_of_use used, copied, found]

theorem minted_unique {i : Nat} {name : String} {c c' : Category} (minted : run.Minted i name c)
    (minted' : run.Minted i name c') : c = c' := by
  obtain ⟨u, k, used, inserts, made⟩ := minted
  obtain ⟨u', k', used', inserts', made'⟩ := minted'
  obtain rfl : u = u' := Option.some.inj (used.symm.trans used')
  obtain rfl := Registry.table_of_inserts inserts inserts'
  exact Option.some.inj (made.symm.trans made')

/-- The handles that a use makes have the numbers that it takes from the supply, one for each name. -/
theorem minted_numbers (run : Course) (i : Nat) : ∃ new : List String,
    (run.after (i + 1)).supply.next = (run.after i).supply.next + new.length ∧
    ∀ name c, run.Minted i name c → ∃ m : Nat, new[m]? = some name ∧
      c = ⟨name, (run.after i).supply.next + m⟩ := by
  cases used : run.uses[i]? with
  | none =>
    refine ⟨[], by rw [after_of_end used]; rfl, ?_⟩
    intro name c minted
    obtain ⟨u, k, used', _⟩ := minted
    cases used.symm.trans used'
  | some u =>
    obtain ⟨new, next, numbers⟩ := (Registry.steps_step (run.after i) u).minted
    refine ⟨new, by rw [after_of_use used, next], ?_⟩
    intro name c minted
    obtain ⟨u', k, used', inserts, made⟩ := minted
    obtain rfl : u = u' := Option.some.inj (used.symm.trans used')
    obtain ⟨m, named, made'⟩ := numbers k name inserts
    rw [after_of_use used] at made
    exact ⟨m, named, Option.some.inj (made.symm.trans made')⟩

theorem name_of_minted {i : Nat} {name : String} {c : Category} (minted : run.Minted i name c) :
    c.name = name := by
  obtain ⟨_, _, numbers⟩ := run.minted_numbers i
  obtain ⟨_, _, rfl⟩ := numbers name c minted
  rfl

theorem registration_lt {i i' : Nat} {name name' : String} {c c' : Category}
    (minted : run.Minted i name c) (minted' : run.Minted i' name' c') (earlier : i < i') :
    c.registration < c'.registration := by
  obtain ⟨new, next, numbers⟩ := run.minted_numbers i
  obtain ⟨m, named, rfl⟩ := numbers name c minted
  obtain ⟨_, _, numbers'⟩ := run.minted_numbers i'
  obtain ⟨m', _, rfl⟩ := numbers' name' c' minted'
  have inside : m < new.length := (List.getElem?_eq_some_iff.1 named).1
  have later : (run.after (i + 1)).supply.next ≤ (run.after i').supply.next :=
    (run.grows_after earlier).next
  dsimp only
  omega

theorem registration_inj {i i' : Nat} {name name' : String} {c c' : Category}
    (minted : run.Minted i name c) (minted' : run.Minted i' name' c')
    (same : c.registration = c'.registration) : i = i' ∧ name = name' := by
  rcases Nat.lt_trichotomy i i' with earlier | rfl | later
  · exact absurd same (Nat.ne_of_lt (registration_lt minted minted' earlier))
  · obtain ⟨new, _, numbers⟩ := run.minted_numbers i
    obtain ⟨m, named, rfl⟩ := numbers name c minted
    obtain ⟨m', named', rfl⟩ := numbers name' c' minted'
    obtain rfl : m = m' := Nat.add_left_cancel same
    exact ⟨rfl, Option.some.inj (named.symm.trans named')⟩
  · exact absurd same (Nat.ne_of_gt (registration_lt minted' minted later))

theorem eq_iff_of_minted {i i' : Nat} {name name' : String} {c c' : Category}
    (minted : run.Minted i name c) (minted' : run.Minted i' name' c') :
    (c = c' ↔ i = i' ∧ name = name') ∧ (c.registration = c'.registration ↔ c = c') := by
  have together : c.registration = c'.registration → i = i' ∧ name = name' :=
    registration_inj minted minted'
  have unique : i = i' ∧ name = name' → c = c' := by
    rintro ⟨rfl, rfl⟩
    exact minted_unique minted minted'
  exact ⟨⟨fun same => together (congrArg _ same), unique⟩, unique ∘ together, congrArg _⟩

theorem minted_of_found {n k i : Nat} {name : String} {c : Category}
    (found : (run.after n).get? k name = some c) (stems : run.Stems n k name i) :
    run.Minted i name c := by
  obtain ⟨c', found', minted⟩ := minted_of_stems stems
  rwa [Option.some.inj (found.symm.trans found')]

theorem found_of_gives {n k : Nat} {name : String} {c : Category} (gives : run.Gives n k name c) :
    (run.after (n + 1)).get? k name = some c := by
  obtain ⟨u, used, asks, given⟩ := gives
  rw [after_of_use used, Registry.get?_of_given asks given]

theorem minted_of_obtained {c : Category} {i : Nat} {name : String}
    (obtained : run.Obtained c i name) : run.Minted i name c := by
  obtain ⟨n, k, gives, stems⟩ := obtained
  exact minted_of_found (found_of_gives gives) stems

theorem registered_since {n m k i : Nat} {name : String} (inside : k < (run.after n).tables.length)
    (absent : (run.after n).get? k name = none) (stems : run.Stems m k name i) :
    n ≤ i ∧ i < m ∧ run.uses[i]? = some (.register k name) := by
  -- up to `n` the table has no such name, so nothing stems there
  have since : ∀ {m k i : Nat} {name : String}, (run.after n).get? k name = none →
      run.Stems m k name i → n < m := by
    intro m k i name absent stems
    by_contra before
    obtain ⟨c, found, _⟩ := minted_of_stems stems
    cases absent.symm.trans ((run.grows_after (Nat.le_of_not_lt before)).kept k name c found)
  induction stems with
  | @inserted m k name u used inserts =>
    have later := Nat.le_of_lt_succ (since absent (.inserted used inserts))
    cases inserts with
    | ofNames _ => exact absurd (run.grows_after later).tables (Nat.not_le_of_lt inside)
    | register _ _ => exact ⟨later, Nat.lt_succ_self m, used⟩
  | kept _ ih =>
    obtain ⟨later, earlier, used⟩ := ih inside absent
    exact ⟨later, Nat.lt_succ_of_lt earlier, used⟩
  | @cloned m k i name used stems _ =>
    have later := Nat.le_of_lt_succ (since absent (.cloned used stems))
    exact absurd (run.grows_after later).tables (Nat.not_le_of_lt inside)

theorem absent_after {n m k : Nat} {name : String} (inside : k < (run.after n).tables.length)
    (absent : (run.after n).get? k name = none)
    (unregistered : ∀ i, n ≤ i → i < m → run.uses[i]? ≠ some (.register k name)) :
    (run.after m).get? k name = none := by
  cases found : (run.after m).get? k name with
  | none => rfl
  | some c =>
    obtain ⟨i, stems⟩ := stems_of_get? found
    obtain ⟨later, earlier, used⟩ := registered_since inside absent stems
    exact absurd used (unregistered i later earlier)

structure Cloned (run : Course) (n k copy : Nat) : Prop where
  /-- At first both have what the table had. -/
  agrees : ∀ name, (run.after (n + 1)).get? k name = (run.after n).get? k name ∧
    (run.after (n + 1)).get? copy name = (run.after n).get? k name
  shared : ∀ name c m, (run.after n).get? k name = some c → n < m →
    (run.after m).get? k name = some c ∧ (run.after m).get? copy name = some c
  /-- A name that neither had comes into each of the two only by a registration in that one. -/
  apart : ∀ name m own, (run.after n).get? k name = none → n < m → own = k ∨ own = copy →
    (∀ i, n < i → i < m → run.uses[i]? ≠ some (.register own name)) →
    (run.after m).get? own name = none
  different : ∀ name m m' c c', (run.after n).get? k name = none →
    n < m → (run.after m).get? k name = some c →
    n < m' → (run.after m').get? copy name = some c' → c ≠ c'

theorem cloned_of_use {n k : Nat} (used : run.uses[n]? = some (.clone k))
    (inside : k < (run.after n).tables.length) :
    run.Cloned n k (run.after n).tables.length := by
  have copied : ∀ name, (run.after (n + 1)).get? (run.after n).tables.length name =
      (run.after n).get? k name := by
    intro name
    rw [after_of_use used]
    exact (Registry.steps_step _ _).copied k name rfl inside
  have copyInside : (run.after n).tables.length < (run.after (n + 1)).tables.length := by
    rw [after_of_use used]
    simp [Registry.step, inside]
  have unregistered : ∀ name i, n ≤ i → ¬ n < i → run.uses[i]? ≠ some (.register k name) := by
    intro name i from_ upto registered
    obtain rfl : n = i := Nat.le_antisymm from_ (Nat.le_of_not_lt upto)
    cases used.symm.trans registered
  constructor
  case agrees =>
    intro name
    refine ⟨?_, copied name⟩
    cases before : (run.after n).get? k name with
    | some c => exact (run.grows_after (Nat.le_succ n)).kept k name c before
    | none =>
      refine absent_after inside before fun i from_ upto => ?_
      exact unregistered name i from_ (Nat.not_lt_of_le (Nat.le_of_lt_succ upto))
  case shared =>
    intro name c m found later
    exact ⟨(run.grows_after (Nat.le_of_lt later)).kept k name c found,
      (run.grows_after later).kept _ name c ((copied name).trans found)⟩
  case apart =>
    intro name m own absent later which registered
    rcases which with rfl | rfl
    · refine absent_after inside absent fun i from_ upto => ?_
      by_cases behind : n < i
      · exact registered i behind upto
      · exact unregistered name i from_ behind
    · exact absent_after copyInside ((copied name).trans absent) registered
  case different =>
    intro name m m' c c' absent _ found _ found' same
    obtain ⟨i, stems⟩ := stems_of_get? found
    obtain ⟨i', stems'⟩ := stems_of_get? found'
    have minted := minted_of_found found stems
    obtain ⟨rfl, _⟩ := (eq_iff_of_minted minted (minted_of_found found' stems')).1.1 same
    -- the one registration would have to be in both tables
    have registered := (registered_since inside absent stems).2.2
    have registered' := (registered_since copyInside ((copied name).trans absent) stems').2.2
    cases registered.symm.trans registered'
    exact Nat.lt_irrefl _ inside

end Course

theorem size_handles (l : List Category) : (Std.HashSet.ofList l).size = l.toFinset.card := by
  have nodup : (Std.HashSet.ofList l).toList.Nodup := by
    refine Std.HashSet.distinct_toList.imp ?_
    intro c c' different
    exact ne_of_beq_false different
  have members : (Std.HashSet.ofList l).toList.toFinset = l.toFinset := by
    ext c
    simp [Std.HashSet.mem_ofList]
  rw [← Std.HashSet.length_toList, ← List.toFinset_card_of_nodup nodup, members]

/-- Where equal things have equal origins, and only they, there are as many things as origins. -/
theorem card_things_eq_origins {α β : Type} [DecidableEq α] [DecidableEq β] {l : List (α × β)}
    (paired : ∀ e ∈ l, ∀ e' ∈ l, e.1 = e'.1 ↔ e.2 = e'.2) :
    (l.map (·.1)).toFinset.card = (l.map (·.2)).toFinset.card := by
  induction l with
  | nil => rfl
  | cons e rest ih =>
    have again : e.1 ∈ rest.map (·.1) ↔ e.2 ∈ rest.map (·.2) := by
      simp only [List.mem_map]
      refine exists_congr fun e' => and_congr_right fun member => ?_
      exact paired e' (List.mem_cons_of_mem e member) e List.mem_cons_self
    have rest_same := ih fun e' member e'' member' =>
      paired e' (List.mem_cons_of_mem e member) e'' (List.mem_cons_of_mem e member')
    simp only [List.map_cons, List.toFinset_cons, Finset.card_insert_eq_ite, List.mem_toFinset,
      again, rest_same]

structure Course.Identities (run : Course) : Prop where
  /-- A handle has the name that it was asked for, and goes back to a registration of that name. -/
  origin : ∀ n k name c, run.Gives n k name c → c.name = name ∧ ∃ i u k₀,
    run.Obtained c i name ∧ run.uses[i]? = some u ∧ (run.after i).Inserts u k₀ name
  equal : ∀ c c' i i' name name', run.Obtained c i name → run.Obtained c' i' name' →
    (c = c' ↔ i = i' ∧ name = name') ∧ (c.registration = c'.registration ↔ c = c')
  hashed : ∀ l : List (Category × Nat × String), (∀ e ∈ l, run.Obtained e.1 e.2.1 e.2.2) →
    (Std.HashSet.ofList (l.map (·.1))).size = (l.map (·.2)).toFinset.card
  named : ∀ n k name name' c c', (run.after n).get? k name = some c →
    (run.after n).get? k name' = some c' → c.name = name ∧ (c = c' ↔ name = name')
  stable : ∀ n m k name c, (run.after n).get? k name = some c → n ≤ m →
    (run.after m).given? (.lookup k name) = some c
  taken : ∀ n k name c, (run.after n).get? k name = some c →
    (run.after n).given? (.register k name) = some c ∧
      (run.after n).step (.register k name) = run.after n
  absent : ∀ n k name, k < (run.after n).tables.length → ∃ c,
    (run.after n).given? (.register k name) = some c ∧
      ((run.after n).step (.register k name)).get? k name = some c
  cloned : ∀ n k, run.uses[n]? = some (.clone k) → k < (run.after n).tables.length →
    run.Cloned n k (run.after n).tables.length

/- Tables are made, filled and cloned in any order. Two handles that are given anywhere are equal
   exactly where one registration has made both; a table keeps the handles that it has; a clone has
   those that were there before it, and then the two go their own ways. -/
theorem handles_are_registrations (run : Course) : run.Identities where
  origin := by
    intro n k name c gives
    have found := Course.found_of_gives gives
    obtain ⟨i, stems⟩ := Course.stems_of_get? found
    have minted := Course.minted_of_found found stems
    refine ⟨Course.name_of_minted minted, i, ?_⟩
    obtain ⟨u, k₀, used, inserts, _⟩ := minted
    exact ⟨u, k₀, ⟨n, k, gives, stems⟩, used, inserts⟩
  equal := by
    intro c c' i i' name name' obtained obtained'
    exact Course.eq_iff_of_minted (Course.minted_of_obtained obtained)
      (Course.minted_of_obtained obtained')
  hashed := by
    intro l obtained
    rw [size_handles]
    refine card_things_eq_origins fun e member e' member' => ?_
    have minted := Course.minted_of_obtained (obtained e member)
    have minted' := Course.minted_of_obtained (obtained e' member')
    rw [(Course.eq_iff_of_minted minted minted').1, Prod.ext_iff]
  named := by
    intro n k name name' c c' found found'
    obtain ⟨i, stems⟩ := Course.stems_of_get? found
    obtain ⟨i', stems'⟩ := Course.stems_of_get? found'
    have here := Course.name_of_minted (Course.minted_of_found found stems)
    have there := Course.name_of_minted (Course.minted_of_found found' stems')
    refine ⟨here, fun same => ?_, fun same => ?_⟩
    · rw [← here, ← there, same]
    · subst same
      exact Option.some.inj (found.symm.trans found')
  stable := fun n m k name c found earlier => (run.grows_after earlier).kept k name c found
  taken := fun n k name c found => Registry.register_taken found
  absent := by
    intro n k name inside
    obtain ⟨c, given⟩ := Registry.given_of_lt inside name
    exact ⟨c, given, Registry.get?_of_given rfl given⟩
  cloned := fun n k used inside => Course.cloned_of_use used inside

example :
    let run : Course := ⟨{}, [.ofNames ["a"], .clone 0, .register 0 "b", .register 1 "b",
      .lookup 1 "a"]⟩
    (run.after 2).given? (.register 0 "b") = some ⟨"b", 1⟩ ∧
      (run.after 3).given? (.register 1 "b") = some ⟨"b", 2⟩ ∧
      (run.after 4).given? (.lookup 1 "a") = some ⟨"a", 0⟩ := by
  decide +kernel

end LexicalGrammar
