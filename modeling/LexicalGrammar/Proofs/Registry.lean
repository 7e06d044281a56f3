import LexicalGrammar.Proofs.Monotone

/-
Handles as identities of registrations. Tables are made, filled and cloned in any order; they share
one supply of numbers. The handles that they give are equal exactly where they go back to one
registration that found its name absent.
-/
namespace LexicalGrammar

namespace CategoryTable

/-- One table has become the other by entering new names, with the next numbers in their order. -/
structure Entered (t : CategoryTable) (s : Supply) (new : List String) (t' : CategoryTable)
    (s' : Supply) : Prop where
  next : s'.next = s.next + new.length
  kept : ∀ name c, t.lookup name = some c → t'.lookup name = some c
  made : ∀ name c, t.lookup name = none → t'.lookup name = some c →
    ∃ m : Nat, new[m]? = some name ∧ c = ⟨name, s.next + m⟩

theorem entered_nothing (t : CategoryTable) (s : Supply) : Entered t s [] t s where
  next := rfl
  kept := fun _ _ found => found
  made := by
    intro name c absent found
    cases absent.symm.trans found

theorem entered_append {t t' t'' : CategoryTable} {s s' s'' : Supply} {new new' : List String}
    (first : Entered t s new t' s') (second : Entered t' s' new' t'' s'') :
    Entered t s (new ++ new') t'' s'' where
  next := by
    rw [second.next, first.next, List.length_append, Nat.add_assoc]
  kept := fun name c found => second.kept name c (first.kept name c found)
  made := by
    intro name c absent found
    cases between : t'.lookup name with
    | some c' =>
      obtain rfl : c' = c := Option.some.inj ((second.kept name c' between).symm.trans found)
      obtain ⟨m, named, made⟩ := first.made name c' absent between
      refine ⟨m, ?_, made⟩
      rw [List.getElem?_append_left (List.getElem?_eq_some_iff.1 named).1, named]
    | none =>
      obtain ⟨m, named, made⟩ := second.made name c between found
      refine ⟨new.length + m, ?_, ?_⟩
      · rw [List.getElem?_append_right (Nat.le_add_right _ _), Nat.add_sub_cancel_left, named]
      · rw [made, first.next, Nat.add_assoc]

theorem register_taken {t : CategoryTable} {name : String} {c : Category}
    (taken : t.lookup name = some c) (s : Supply) : t.register name s = (c, t, s) := by
  simp [register, taken]

theorem register_absent {t : CategoryTable} {name : String} (absent : t.lookup name = none)
    (s : Supply) : t.register name s =
      (⟨name, s.next⟩, ⟨t.byName.put name ⟨name, s.next⟩⟩, ⟨s.next + 1⟩) := by
  simp [register, absent]

theorem lookup_register_self (t : CategoryTable) (name : String) (s : Supply) :
    (t.register name s).2.1.lookup name = some (t.register name s).1 := by
  cases before : t.lookup name with
  | some c => simp [register_taken before, before]
  | none =>
    have free : t.byName.get? name = none := before
    simp [register_absent before, lookup, NameMap.get?_put_self, free]

theorem entered_register (t : CategoryTable) (name : String) (s : Supply) :
    ∃ new, new ⊆ [name] ∧
      Entered t s new (t.register name s).2.1 (t.register name s).2.2 := by
  cases before : t.lookup name with
  | some c =>
    rw [register_taken before]
    exact ⟨[], List.nil_subset _, entered_nothing t s⟩
  | none =>
    refine ⟨[name], List.Subset.refl _, ?_, fun _ _ found => lookup_register found name s, ?_⟩
    · rw [register_absent before]
      rfl
    · intro other c absent found
      by_cases same : other = name
      · subst same
        rw [lookup_register_self, register_absent before] at found
        exact ⟨0, rfl, (Option.some.inj found).symm⟩
      · rw [register_absent before] at found
        have unchanged := NameMap.get?_put_other t.byName same (⟨name, s.next⟩ : Category)
        cases absent.symm.trans (unchanged.symm.trans found)

theorem entered_registerAll (t : CategoryTable) (names : List String) (s : Supply) :
    ∃ new, new ⊆ names ∧
      Entered t s new (t.registerAll names s).1 (t.registerAll names s).2 := by
  induction names generalizing t s with
  | nil => exact ⟨[], List.nil_subset _, entered_nothing t s⟩
  | cons name rest ih =>
    obtain ⟨first, here, entered⟩ := entered_register t name s
    obtain ⟨others, behind, entered'⟩ := ih (t.register name s).2.1 (t.register name s).2.2
    refine ⟨first ++ others, ?_, entered_append entered entered'⟩
    intro other member
    rcases List.mem_append.1 member with one | later
    · exact List.mem_cons.2 (Or.inl (List.mem_singleton.1 (here one)))
    · exact List.mem_cons_of_mem name (behind later)

theorem lookup_registerAll_of_mem {names : List String} {name : String} (member : name ∈ names)
    (t : CategoryTable) (s : Supply) : ∃ c, (t.registerAll names s).1.lookup name = some c := by
  induction names generalizing t s with
  | nil => cases member
  | cons first rest ih =>
    rcases List.mem_cons.1 member with rfl | behind
    · exact ⟨_, lookup_registerAll (lookup_register_self t name s) rest _⟩
    · exact ih behind _ _

end CategoryTable

structure Registry where
  tables : List CategoryTable
  supply : Supply

/-- What is done with the tables. They are told by their place; a new one comes last. -/
inductive Use where
  | new
  | ofNames (names : List String)
  | register (table : Nat) (name : String)
  | clone (table : Nat)
  | lookup (table : Nat) (name : String)
  deriving Repr, DecidableEq

def Use.asks? : Use → Option (Nat × String)
  | .register k name | .lookup k name => some (k, name)
  | _ => none

namespace Registry

def get? (s : Registry) (k : Nat) (name : String) : Option Category :=
  s.tables[k]?.bind (·.lookup name)

def step (s : Registry) : Use → Registry
  | .new => { s with tables := s.tables ++ [.empty] }
  | .ofNames names =>
    let (t, supply) := CategoryTable.ofNames names s.supply
    ⟨s.tables ++ [t], supply⟩
  | .register k name =>
    match s.tables[k]? with
    | none => s
    | some t =>
      let (_, t, supply) := t.register name s.supply
      ⟨s.tables.set k t, supply⟩
  | .clone k =>
    match s.tables[k]? with
    | none => s
    | some t => { s with tables := s.tables ++ [t] }
  | .lookup _ _ => s

def given? (s : Registry) : Use → Option Category
  | .register k name => s.tables[k]?.map fun t => (t.register name s.supply).1
  | .lookup k name => s.get? k name
  | _ => none

inductive Inserts (s : Registry) : Use → Nat → String → Prop where
  | ofNames {names : List String} {name : String} : name ∈ names →
      Inserts s (.ofNames names) s.tables.length name
  | register {k : Nat} {name : String} : k < s.tables.length → s.get? k name = none →
      Inserts s (.register k name) k name

variable {s : Registry}

theorem table_of_inserts {u : Use} {k k' : Nat} {name : String} (inserts : s.Inserts u k name)
    (inserts' : s.Inserts u k' name) : k = k' := by
  cases inserts <;> cases inserts' <;> rfl

theorem get?_append (s : Registry) (t : CategoryTable) (supply : Supply) (k : Nat)
    (name : String) : (⟨s.tables ++ [t], supply⟩ : Registry).get? k name =
      if k = s.tables.length then t.lookup name else s.get? k name := by
  rcases Nat.lt_trichotomy k s.tables.length with inside | last | beyond
  · simp [get?, List.getElem?_append_left inside, Nat.ne_of_lt inside]
  · simp [get?, last]
  · have absent : s.tables[k]? = none := List.getElem?_eq_none (Nat.le_of_lt beyond)
    have absent' : (s.tables ++ [t])[k]? = none := by
      refine List.getElem?_eq_none ?_
      rw [List.length_append, List.length_singleton]
      exact beyond
    simp [get?, absent, absent', Nat.ne_of_gt beyond]

theorem get?_set {k : Nat} (inside : k < s.tables.length) (t : CategoryTable) (supply : Supply)
    (j : Nat) (name : String) : (⟨s.tables.set k t, supply⟩ : Registry).get? j name =
      if j = k then t.lookup name else s.get? j name := by
  by_cases same : j = k
  · simp [get?, same, inside]
  · simp [get?, same, Ne.symm same]

theorem lt_of_get? {k : Nat} {name : String} {c : Category} (found : s.get? k name = some c) :
    k < s.tables.length := by
  obtain ⟨t, place, _⟩ := Option.bind_eq_some_iff.1 found
  exact (List.getElem?_eq_some_iff.1 place).1

theorem kept_append {k : Nat} {name : String} {c : Category} (found : s.get? k name = some c)
    (t : CategoryTable) (supply : Supply) :
    (⟨s.tables ++ [t], supply⟩ : Registry).get? k name = some c := by
  rw [get?_append, if_neg (Nat.ne_of_lt (lt_of_get? found)), found]

/- Inversion of a step: what follows about a course of uses is drawn from this. -/
structure Steps (s : Registry) (u : Use) (s' : Registry) : Prop where
  tables : s.tables.length ≤ s'.tables.length
  kept : ∀ k name c, s.get? k name = some c → s'.get? k name = some c
  copied : ∀ k name, u = .clone k → k < s.tables.length →
    s'.get? s.tables.length name = s.get? k name
  found : ∀ k name c, s'.get? k name = some c → s.get? k name = some c ∨
    (∃ k₀, u = .clone k₀ ∧ k = s.tables.length ∧ s.get? k₀ name = some c) ∨ s.Inserts u k name
  minted : ∃ new : List String, s'.supply.next = s.supply.next + new.length ∧
    ∀ k name, s.Inserts u k name → ∃ m : Nat, new[m]? = some name ∧
      s'.get? k name = some ⟨name, s.supply.next + m⟩

theorem steps_of_same {u : Use} (nothing : ∀ k name, ¬ s.Inserts u k name)
    (other : ∀ k, u = .clone k → s.tables.length ≤ k) : Steps s u s where
  tables := Nat.le_refl _
  kept := fun _ _ _ found => found
  copied := fun k _ clone inside => absurd (other k clone) (Nat.not_le_of_lt inside)
  found := fun _ _ _ found => Or.inl found
  minted := ⟨[], rfl, fun k name inserts => absurd inserts (nothing k name)⟩

theorem steps_new (s : Registry) : Steps s .new (s.step .new) where
  tables := by simp [step]
  kept := fun _ _ _ found => kept_append found _ _
  copied := by
    intro k name clone
    cases clone
  found := by
    intro k name c found
    rw [step, get?_append] at found
    split at found
    · cases found
    · exact Or.inl found
  minted := ⟨[], rfl, fun k name inserts => by cases inserts⟩

theorem steps_ofNames (s : Registry) (names : List String) :
    Steps s (.ofNames names) (s.step (.ofNames names)) where
  tables := by simp [step]
  kept := fun _ _ _ found => kept_append found _ _
  copied := by
    intro k name clone
    cases clone
  found := by
    intro k name c found
    simp only [step, get?_append] at found
    split at found
    · next last =>
      obtain ⟨new, among, entered⟩ :=
        CategoryTable.entered_registerAll .empty names s.supply
      obtain ⟨m, named, _⟩ := entered.made name c rfl found
      subst last
      exact Or.inr (Or.inr (.ofNames (among (List.mem_of_getElem? named))))
    · exact Or.inl found
  minted := by
    obtain ⟨new, _, entered⟩ := CategoryTable.entered_registerAll .empty names s.supply
    refine ⟨new, entered.next, ?_⟩
    intro k name inserts
    cases inserts with
    | ofNames member =>
      obtain ⟨c, found⟩ := CategoryTable.lookup_registerAll_of_mem member .empty s.supply
      obtain ⟨m, named, rfl⟩ := entered.made name c rfl found
      refine ⟨m, named, ?_⟩
      simp only [step, get?_append, ↓reduceIte]
      exact found

theorem steps_register (s : Registry) (k : Nat) (name : String) :
    Steps s (.register k name) (s.step (.register k name)) := by
  cases place : s.tables[k]? with
  | none =>
    have beyond : s.tables.length ≤ k := List.getElem?_eq_none_iff.1 place
    have same : s.step (.register k name) = s := by simp [step, place]
    rw [same]
    refine steps_of_same ?_ (fun j clone => by cases clone)
    intro j other inserts
    cases inserts with
    | register inside _ => exact absurd beyond (Nat.not_le_of_lt inside)
  | some t =>
    have inside : k < s.tables.length := (List.getElem?_eq_some_iff.1 place).1
    have after : s.step (.register k name) =
        ⟨s.tables.set k (t.register name s.supply).2.1, (t.register name s.supply).2.2⟩ := by
      simp [step, place]
    have here : ∀ other, s.get? k other = t.lookup other := by simp [get?, place]
    obtain ⟨new, among, entered⟩ := CategoryTable.entered_register t name s.supply
    rw [after]
    constructor
    case tables => simp
    case kept =>
      intro j other c found
      rw [get?_set inside]
      split
      · next same =>
        subst same
        exact entered.kept other c ((here other).symm.trans found)
      · exact found
    case copied =>
      intro j other clone
      cases clone
    case found =>
      intro j other c found
      rw [get?_set inside] at found
      split at found
      · next same =>
        subst same
        cases before : t.lookup other with
        | some c' =>
          have kept := (entered.kept other c' before).symm.trans found
          exact Or.inl ((here other).trans (before.trans kept))
        | none =>
          obtain ⟨m, named, _⟩ := entered.made other c before found
          obtain rfl := List.mem_singleton.1 (among (List.mem_of_getElem? named))
          exact Or.inr (Or.inr (.register inside ((here other).trans before)))
      · exact Or.inl found
    case minted =>
      refine ⟨new, entered.next, ?_⟩
      intro j other inserts
      cases inserts with
      | register _ absent =>
        have found := CategoryTable.lookup_register_self t name s.supply
        obtain ⟨m, named, made⟩ := entered.made name _ ((here name).symm.trans absent) found
        exact ⟨m, named, by rw [get?_set inside, if_pos rfl, found, made]⟩

theorem steps_clone (s : Registry) (k : Nat) : Steps s (.clone k) (s.step (.clone k)) := by
  cases place : s.tables[k]? with
  | none =>
    have beyond : s.tables.length ≤ k := List.getElem?_eq_none_iff.1 place
    have same : s.step (.clone k) = s := by simp [step, place]
    rw [same]
    refine steps_of_same (fun j other inserts => by cases inserts) ?_
    intro j clone
    cases clone
    exact beyond
  | some t =>
    have after : s.step (.clone k) = ⟨s.tables ++ [t], s.supply⟩ := by simp [step, place]
    have here : ∀ other, s.get? k other = t.lookup other := by simp [get?, place]
    rw [after]
    constructor
    case tables => simp
    case kept => exact fun _ _ _ found => kept_append found _ _
    case copied =>
      intro j other clone _
      cases clone
      simp [get?_append, here]
    case found =>
      intro j other c found
      rw [get?_append] at found
      split at found
      · next last => exact Or.inr (Or.inl ⟨k, rfl, last, (here other).trans found⟩)
      · exact Or.inl found
    case minted => exact ⟨[], rfl, fun j other inserts => by cases inserts⟩

theorem steps_step (s : Registry) (u : Use) : Steps s u (s.step u) := by
  cases u with
  | new => exact steps_new s
  | ofNames names => exact steps_ofNames s names
  | register k name => exact steps_register s k name
  | clone k => exact steps_clone s k
  | lookup k name =>
    exact steps_of_same (fun j other inserts => by cases inserts) (fun j clone => by cases clone)

structure Grows (s s' : Registry) : Prop where
  tables : s.tables.length ≤ s'.tables.length
  next : s.supply.next ≤ s'.supply.next
  kept : ∀ k name c, s.get? k name = some c → s'.get? k name = some c

theorem grows_refl (s : Registry) : Grows s s :=
  ⟨Nat.le_refl _, Nat.le_refl _, fun _ _ _ found => found⟩

theorem grows_trans {s s' s'' : Registry} (first : Grows s s') (second : Grows s' s'') :
    Grows s s'' where
  tables := Nat.le_trans first.tables second.tables
  next := Nat.le_trans first.next second.next
  kept := fun k name c found => second.kept k name c (first.kept k name c found)

theorem grows_step (s : Registry) (u : Use) : Grows s (s.step u) where
  tables := (steps_step s u).tables
  next := by
    obtain ⟨new, next, _⟩ := (steps_step s u).minted
    omega
  kept := (steps_step s u).kept

theorem get?_of_given {u : Use} {k : Nat} {name : String} {c : Category}
    (asks : u.asks? = some (k, name)) (given : s.given? u = some c) :
    (s.step u).get? k name = some c := by
  cases u with
  | register j other =>
    cases asks
    obtain ⟨t, place, rfl⟩ := Option.map_eq_some_iff.1 given
    have inside : k < s.tables.length := (List.getElem?_eq_some_iff.1 place).1
    simp [step, place, get?_set inside, CategoryTable.lookup_register_self]
  | lookup j other =>
    cases asks
    exact given
  | new => cases asks
  | ofNames names => cases asks
  | clone j => cases asks

theorem given_of_lt {k : Nat} (inside : k < s.tables.length) (name : String) :
    ∃ c, s.given? (.register k name) = some c := by
  refine ⟨(s.tables[k].register name s.supply).1, ?_⟩
  simp [given?, inside]

theorem register_taken {k : Nat} {name : String} {c : Category} (taken : s.get? k name = some c) :
    s.given? (.register k name) = some c ∧ s.step (.register k name) = s := by
  obtain ⟨t, place, found⟩ := Option.bind_eq_some_iff.1 taken
  have same : s.tables.set k t = s.tables := by
    obtain ⟨inside, rfl⟩ := List.getElem?_eq_some_iff.1 place
    exact List.set_getElem_self inside
  constructor
  · simp [given?, place, CategoryTable.register_taken found]
  · simp [step, place, CategoryTable.register_taken found, same]

end Registry
end LexicalGrammar
