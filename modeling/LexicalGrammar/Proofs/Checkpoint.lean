import LexicalGrammar.Proofs.Monotone
import Mathlib.Control.Monad.Basic

/-
The checks that a descriptor has to pass, in their order. A descriptor fails at the first check that
it does not pass. Where more states are declared and more categories are known it passes each check
that it passed before, so it fails later or not at all.
-/
namespace LexicalGrammar

inductive Checkpoint where
  | state
  | pattern
  | category (place : Nat)
  | target (place : Nat)
  deriving Repr, DecidableEq

namespace Checkpoint

def group : Checkpoint → Nat
  | .state => 0
  | .pattern => 1
  | .category _ => 2
  | .target _ => 3

def place : Checkpoint → Nat
  | .category i | .target i => i
  | _ => 0

/-- Checks are made group by group, and within a group by place. -/
def Before (c c' : Checkpoint) : Prop :=
  c.group < c'.group ∨ (c.group = c'.group ∧ c.place < c'.place)

theorem eq_or_before (c c' : Checkpoint) : c = c' ∨ c.Before c' ∨ c'.Before c := by
  cases c <;> cases c' <;> simp [Before, group, place]
  all_goals omega

theorem not_before_state (c : Checkpoint) : ¬ c.Before .state := by
  simp [Before, group, place]

theorem before_pattern {c : Checkpoint} (before : c.Before .pattern) : c = .state := by
  cases c <;> simp [Before, group, place] at before ⊢

theorem before_category {c : Checkpoint} {i : Nat} (before : c.Before (.category i)) :
    c = .state ∨ c = .pattern ∨ ∃ j, j < i ∧ c = .category j := by
  cases c <;> simp [Before, group, place] at before ⊢
  exact before

theorem before_target_target {i j : Nat} (before : (target j).Before (.target i)) : j < i := by
  simpa [Before, group, place] using before

end Checkpoint

theorem first_unknown {r : Resolver} {names : List String} {fault : ResolveFault}
    (refused : r.categories names = .error fault) :
    ∃ (i : Nat) (name : String), names[i]? = some name ∧ r.lookup name = none ∧
      fault = .unknownCategory name ∧
      ∀ (j : Nat) (name' : String), j < i → names[j]? = some name' → r.lookup name' ≠ none := by
  induction names with
  | nil => cases refused
  | cons first rest ih =>
    unfold Resolver.categories at refused
    cases found : r.lookup first with
    | none =>
      rw [found] at refused
      refine ⟨0, first, rfl, found, (Except.error.inj refused).symm, ?_⟩
      intro j name' before
      omega
    | some c =>
      cases others : r.categories rest with
      | ok cs => simp [found, others] at refused
      | error fault' =>
        simp only [found, others, Except.error.injEq] at refused
        subst refused
        obtain ⟨i, name, named, unknown, told, known⟩ := ih others
        refine ⟨i + 1, name, named, unknown, told, ?_⟩
        intro j name' before here
        cases j with
        | zero =>
          obtain rfl : first = name' := Option.some.inj here
          simp [found]
        | succ j => exact known j name' (by omega) here

section
variable [Pattern.Dialect]

/-- A check that a descriptor does not pass, and what is told if it is the first one. -/
inductive Refused (r : Resolver) (d : Descriptor) (g : Grammar) :
    Checkpoint → ResolveFault → Prop where
  | state : g.hasState d.rule.state = false → Refused r d g .state (.stateNotFound d.rule.state)
  | pattern {cause : Pattern.Fault} : Pattern.compile d.rule.pattern r.options = .error cause →
      Refused r d g .pattern (.patternSyntax d.rule.pattern cause)
  | category {i : Nat} {name : String} : d.rule.categories[i]? = some name →
      r.lookup name = none → Refused r d g (.category i) (.unknownCategory name)
  | target {targets : List StateRef} {i : Nat} {name : String} :
      d.transition? = some (.push targets) → targets[i]? = some (.named name) →
      g.hasState name = false → Refused r d g (.target i) (.stateNotFound name)

structure FailsAt (r : Resolver) (d : Descriptor) (g : Grammar) (c : Checkpoint)
    (fault : ResolveFault) : Prop where
  refused : Refused r d g c fault
  first : ∀ c' fault', c'.Before c → ¬ Refused r d g c' fault'

section
variable {r : Resolver} {d : Descriptor} {g : Grammar}

theorem refused_unique {c : Checkpoint} {fault fault' : ResolveFault}
    (refused : Refused r d g c fault) (refused' : Refused r d g c fault') : fault = fault' := by
  cases refused with
  | state _ =>
    cases refused'
    rfl
  | pattern faulty =>
    cases refused' with
    | pattern faulty' => rw [Except.error.inj (faulty.symm.trans faulty')]
  | category named _ =>
    cases refused' with
    | category named' _ => rw [Option.some.inj (named.symm.trans named')]
  | target pushes named _ =>
    cases refused' with
    | target pushes' named' _ =>
      obtain rfl := Transition.push.inj (Option.some.inj (pushes.symm.trans pushes'))
      rw [StateRef.named.inj (Option.some.inj (named.symm.trans named'))]

theorem failsAt_unique {c c' : Checkpoint} {fault fault' : ResolveFault}
    (fails : FailsAt r d g c fault) (fails' : FailsAt r d g c' fault') :
    c = c' ∧ fault = fault' := by
  rcases c.eq_or_before c' with same | before | behind
  · subst same
    exact ⟨rfl, refused_unique fails.refused fails'.refused⟩
  · exact absurd fails.refused (fails'.first c fault before)
  · exact absurd fails'.refused (fails.first c' fault' behind)

theorem first_missing {targets : List StateRef} {name : String}
    (missing : Descriptor.missingTarget? g (.push targets) = some name) :
    ∃ i : Nat, targets[i]? = some (.named name) ∧ g.hasState name = false ∧
      ∀ (j : Nat) (name' : String), j < i → targets[j]? = some (.named name') →
        g.hasState name' = true := by
  obtain ⟨before, target, after, split, told, passed⟩ := List.findSome?_eq_some_iff.1 missing
  subst split
  cases target with
  | current => cases told
  | named name' =>
    obtain ⟨undeclared, rfl⟩ : g.hasState name' = false ∧ name' = name := by simpa using told
    refine ⟨before.length, by simp, undeclared, ?_⟩
    intro j other inside here
    rw [List.getElem?_append_left inside] at here
    simpa using passed _ (List.mem_of_getElem? here)

theorem categories_ne_of_ready {p : Pattern.Compiled} {cs : List Category}
    (ready : r.Ready d.declaration g p cs) : cs ≠ [] := by
  rintro rfl
  exact d.rule.categories_ne (List.map_eq_nil_iff.1 ready.found)

/-- Where all that a rule is made of was found, only a target can be refused. -/
theorem target_of_refused {p : Pattern.Compiled} {cs : List Category}
    (ready : r.Ready d.declaration g p cs) {c : Checkpoint} {fault : ResolveFault}
    (refused : Refused r d g c fault) : ∃ (targets : List StateRef) (i : Nat) (name : String),
      c = .target i ∧ d.transition? = some (.push targets) ∧
        targets[i]? = some (.named name) ∧ g.hasState name = false := by
  cases refused with
  | state missing =>
    have declared : g.hasState d.rule.state = true := ready.declared
    simp [missing] at declared
  | pattern faulty =>
    have compiled : Pattern.compile d.rule.pattern r.options = .ok p := ready.compiled
    simp [faulty] at compiled
  | @category i name named unknown =>
    have member : r.lookup name ∈ cs.map some :=
      ready.found ▸ List.mem_map_of_mem (List.mem_of_getElem? named)
    simp [unknown] at member
  | target pushes named missing => exact ⟨_, _, _, rfl, pushes, named, missing⟩

theorem not_refused_of_ok {rule : Rule} (made : r.verdict d.declaration g = .ok rule)
    (c : Checkpoint) (fault : ResolveFault) : ¬ Refused r d g c fault := by
  obtain ⟨p, cs, ready, created⟩ := (Resolver.verdict_ok_iff r d.declaration g rule).1 made
  intro refused
  obtain ⟨targets, i, name, _, pushes, named, missing⟩ := target_of_refused ready refused
  simp only [Descriptor.declaration, pushes] at created
  have declared := (Descriptor.missingTarget_none_iff g targets).1
    (Descriptor.targets_of_create created) name (List.mem_of_getElem? named)
  simp [missing] at declared

theorem target_of_create_error {p : Pattern.Compiled} {cs : List Category} {fault : ResolveFault}
    (ready : r.Ready d.declaration g p cs) (refused : d.declaration.create p cs g = .error fault) :
    ∃ targets name, d.transition? = some (.push targets) ∧
      Descriptor.missingTarget? g (.push targets) = some name ∧ fault = .stateNotFound name := by
  obtain ⟨rule, made⟩ : ∃ rule, Rule.make p cs = .ok rule :=
    ⟨_, dif_neg (categories_ne_of_ready ready)⟩
  simp only [Descriptor.declaration] at refused
  cases moves : d.transition? with
  | none => simp [moves, Descriptor.create, made] at refused
  | some t =>
    simp only [moves, Descriptor.create] at refused
    cases missing : Descriptor.missingTarget? g t with
    | none => simp [missing, made, Except.map] at refused
    | some name =>
      cases t with
      | pop count => cases missing
      | push targets => exact ⟨targets, name, rfl, missing, by simpa [missing] using refused.symm⟩

theorem failsAt_state (missing : g.hasState d.rule.state = false) :
    FailsAt r d g .state (.stateNotFound d.rule.state) where
  refused := .state missing
  first := fun _ _ before => absurd before (Checkpoint.not_before_state _)

theorem failsAt_pattern (declared : g.hasState d.rule.state = true) {cause : Pattern.Fault}
    (faulty : Pattern.compile d.rule.pattern r.options = .error cause) :
    FailsAt r d g .pattern (.patternSyntax d.rule.pattern cause) where
  refused := .pattern faulty
  first := by
    intro c' fault' before refused
    obtain rfl := Checkpoint.before_pattern before
    cases refused with
    | state missing => simp [declared] at missing

theorem failsAt_category (declared : g.hasState d.rule.state = true) {p : Pattern.Compiled}
    (compiled : Pattern.compile d.rule.pattern r.options = .ok p) {fault : ResolveFault}
    (refused : r.categories d.rule.categories = .error fault) :
    ∃ i, FailsAt r d g (.category i) fault := by
  obtain ⟨i, name, named, unknown, rfl, known⟩ := first_unknown refused
  refine ⟨i, .category named unknown, ?_⟩
  intro c' fault' before refused'
  rcases Checkpoint.before_category before with rfl | rfl | ⟨j, earlier, rfl⟩
  · cases refused' with
    | state missing => simp [declared] at missing
  · cases refused' with
    | pattern faulty => simp [compiled] at faulty
  · cases refused' with
    | category named' unknown' => exact known j _ earlier named' unknown'

theorem failsAt_target {p : Pattern.Compiled} {cs : List Category}
    (ready : r.Ready d.declaration g p cs) {fault : ResolveFault}
    (refused : d.declaration.create p cs g = .error fault) :
    ∃ i, FailsAt r d g (.target i) fault := by
  obtain ⟨targets, name, pushes, missing, rfl⟩ := target_of_create_error ready refused
  obtain ⟨i, named, undeclared, declared⟩ := first_missing missing
  refine ⟨i, .target pushes named undeclared, ?_⟩
  intro c' fault' before refused'
  obtain ⟨targets', j, name', rfl, pushes', named', missing'⟩ := target_of_refused ready refused'
  obtain rfl := Transition.push.inj (Option.some.inj (pushes.symm.trans pushes'))
  have found := declared j name' (Checkpoint.before_target_target before) named'
  simp [missing'] at found

/-- What a verdict tells is told by the first check that is not passed. -/
theorem verdict_error_iff {fault : ResolveFault} :
    r.verdict d.declaration g = .error fault ↔ ∃ c, FailsAt r d g c fault := by
  have told : ∀ fault, r.verdict d.declaration g = .error fault →
      ∃ c, FailsAt r d g c fault := by
    intro fault refused
    cases declared : g.hasState d.rule.state with
    | false =>
      have here : fault = .stateNotFound d.rule.state := by
        simpa [Resolver.verdict, Descriptor.declaration, declared] using refused.symm
      exact ⟨.state, here ▸ failsAt_state declared⟩
    | true =>
      cases compiled : Pattern.compile d.rule.pattern r.options with
      | error cause =>
        have here : fault = .patternSyntax d.rule.pattern cause := by
          simpa [Resolver.verdict, Descriptor.declaration, declared, compiled] using refused.symm
        exact ⟨.pattern, here ▸ failsAt_pattern declared compiled⟩
      | ok p =>
        cases found : r.categories d.rule.categories with
        | error other =>
          have here : other = fault := by
            simpa [Resolver.verdict, Descriptor.declaration, declared, compiled, found]
              using refused
          obtain ⟨i, fails⟩ := failsAt_category declared compiled found
          exact ⟨.category i, here ▸ fails⟩
        | ok cs =>
          have ready : r.Ready d.declaration g p cs :=
            ⟨declared, compiled, (Resolver.categories_ok_iff r _ cs).1 found⟩
          rw [Resolver.verdict_of_ready ready] at refused
          obtain ⟨i, fails⟩ := failsAt_target ready refused
          exact ⟨.target i, fails⟩
  refine ⟨told fault, ?_⟩
  rintro ⟨c, fails⟩
  cases judged : r.verdict d.declaration g with
  | ok rule => exact absurd fails.refused (not_refused_of_ok judged c fault)
  | error other =>
    obtain ⟨c', fails'⟩ := told other judged
    rw [(failsAt_unique fails fails').2]

end

section
variable {r r' : Resolver} {d : Descriptor} {g g' : Grammar}

theorem refused_mono (categories : r.Within r') (states : g.Within g') {c : Checkpoint}
    {fault : ResolveFault} (refused : Refused r' d g' c fault) : Refused r d g c fault := by
  have missing_before : ∀ name, g'.hasState name = false → g.hasState name = false := by
    intro name missing
    cases before : g.hasState name with
    | false => rfl
    | true => simp [states name before] at missing
  cases refused with
  | state missing => exact .state (missing_before _ missing)
  | pattern faulty => exact .pattern (categories.options ▸ faulty)
  | @category i name named unknown =>
    refine .category named ?_
    cases before : r.lookup name with
    | none => rfl
    | some c => simp [categories.lookup name c before] at unknown
  | target pushes named missing => exact .target pushes named (missing_before _ missing)

theorem failsAt_mono (categories : r.Within r') (states : g.Within g') {c c' : Checkpoint}
    {fault fault' : ResolveFault} (fails : FailsAt r d g c fault)
    (fails' : FailsAt r' d g' c' fault') : c = c' ∨ c.Before c' := by
  rcases c.eq_or_before c' with same | before | behind
  · exact Or.inl same
  · exact Or.inr before
  · exact absurd (refused_mono categories states fails'.refused) (fails.first c' fault' behind)

end

/-- What a descriptor gets in the second grammar, from the second resolver, told by what it gets in
the first from the first: the same rule, or a failure at a check that comes no later. -/
structure Carries (r r' : Resolver) (g g' : Grammar) (d : Descriptor) : Prop where
  resolves : (r.resolve d.declaration g).outcome = .ok () → ∃ rule,
    g.Gains d.rule.state rule (r.resolve d.declaration g).grammar ∧
    (r'.resolve d.declaration g').outcome = .ok () ∧
    g'.Gains d.rule.state rule (r'.resolve d.declaration g').grammar
  fails : ∀ fault', (r'.resolve d.declaration g').outcome = .error fault' → ∃ fault c c',
    (r.resolve d.declaration g).outcome = .error fault ∧
    FailsAt r d g c fault ∧ FailsAt r' d g' c' fault' ∧ (c = c' ∨ c.Before c')

theorem carries_of_within {r r' : Resolver} {g g' : Grammar} (categories : r.Within r')
    (states : g.Within g') (d : Descriptor) : Carries r r' g g' d where
  resolves := by
    intro succeeds
    cases judged : r.verdict d.declaration g with
    | error fault => simp [(Resolver.resolve_of_error judged).1] at succeeds
    | ok rule =>
      have judged' := Resolver.verdict_mono categories states judged
      obtain ⟨outcome', grammar'⟩ := Resolver.resolve_of_ok judged'
      refine ⟨rule, ?_, outcome', ?_⟩
      · rw [(Resolver.resolve_of_ok judged).2]
        exact Grammar.gains_attach (Resolver.declared_of_verdict judged) rule
      · rw [grammar']
        exact Grammar.gains_attach (Resolver.declared_of_verdict judged') rule
  fails := by
    intro fault' failed'
    cases judged' : r'.verdict d.declaration g' with
    | ok rule => simp [(Resolver.resolve_of_ok judged').1] at failed'
    | error other =>
      obtain rfl : other = fault' :=
        Except.error.inj ((Resolver.resolve_of_error judged').1.symm.trans failed')
      obtain ⟨c', fails'⟩ := verdict_error_iff.1 judged'
      cases judged : r.verdict d.declaration g with
      | ok rule => simp [Resolver.verdict_mono categories states judged] at judged'
      | error fault =>
        obtain ⟨c, fails⟩ := verdict_error_iff.1 judged
        exact ⟨fault, c, c', (Resolver.resolve_of_error judged).1, fails, fails',
          failsAt_mono categories states fails fails'⟩

/- A descriptor that resolves goes on resolving, to the same rule, where more states are declared and
   more categories known, whatever rules there are. One that fails there has failed before, at the
   same check or at an earlier one. So it is after any further declarations and registrations. -/
theorem resolution_monotone {g g' : Grammar} {t t' : CategoryTable}
    (states : ∀ name, g.hasState name = true → g'.hasState name = true)
    (categories : ∀ name c, t.lookup name = some c → t'.lookup name = some c)
    (options : Pattern.Options) (d : Descriptor) :
    Carries (.ofTable t options) (.ofTable t' options) g g' d ∧
      ∀ declared registered supply, Carries (.ofTable t options)
        (.ofTable (t'.registerAll registered supply).1 options) g (g'.declareAll declared) d := by
  constructor
  · exact carries_of_within (Resolver.within_ofTable categories options) states d
  · intro declared registered supply
    have states' : g.Within (g'.declareAll declared) :=
      Grammar.within_trans states (g'.within_declareAll declared)
    have categories' : ∀ name c, t.lookup name = some c →
        (t'.registerAll registered supply).1.lookup name = some c := fun name c found =>
      CategoryTable.lookup_registerAll (categories name c found) registered supply
    exact carries_of_within (Resolver.within_ofTable categories' options) states' d

end

/- A second category is registered and a second state declared, but not the state that is pushed. -/
theorem resolution_monotone_target :
    let g := Grammar.withStates "g" ["s"]
    let g' := Grammar.withStates "g" ["s", "t"]
    let t := (CategoryTable.ofNames ["a"] {}).1
    let t' := (t.register "b" ⟨1⟩).2.1
    let d : Descriptor := .transition ⟨"s", "x", ["a", "b"], by decide, by decide, by decide⟩
      (.push [.current, .named "u"])
    let r := Resolver.ofTable t {}
    let r' := Resolver.ofTable t' {}
    (∀ name, g.hasState name = true → g'.hasState name = true) ∧
      (∀ name c, t.lookup name = some c → t'.lookup name = some c) ∧
      (r.resolve d.declaration g).outcome = .error (.unknownCategory "b") ∧
      (r'.resolve d.declaration g').outcome = .error (.stateNotFound "u") ∧
      ∃ c c', FailsAt r d g c (.unknownCategory "b") ∧
        FailsAt r' d g' c' (.stateNotFound "u") ∧ c.Before c' := by
  intro g g' t t' d r r'
  have states : ∀ name, g.hasState name = true → g'.hasState name = true := by
    intro name declared
    simp only [g, g', Grammar.hasState_withStates] at declared ⊢
    simp_all
  have categories : ∀ name c, t.lookup name = some c → t'.lookup name = some c :=
    fun name c found => CategoryTable.lookup_register found "b" ⟨1⟩
  have first : (r.resolve d.declaration g).outcome = .error (.unknownCategory "b") := by
    decide +kernel
  have second : (r'.resolve d.declaration g').outcome = .error (.stateNotFound "u") := by
    decide +kernel
  obtain ⟨fault, c, c', failed, fails, fails', order⟩ :=
    (resolution_monotone states categories {} d).1.fails _ second
  obtain rfl : .unknownCategory "b" = fault := Except.error.inj (first.symm.trans failed)
  refine ⟨states, categories, first, second, c, c', fails, fails', order.resolve_left ?_⟩
  rintro rfl
  cases fails.refused
  cases fails'.refused

end LexicalGrammar
