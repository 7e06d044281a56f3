import LexicalGrammar.Resolver
import LexicalGrammar.Proofs.Grammar

/-
Resolving one declaration. Whatever a declaration does to make its rule, the grammar is either left
alone or gains that rule and nothing else, and the rule is asked for only when all names were found.
-/
namespace LexicalGrammar

theorem Resolver.categories_ok_iff (r : Resolver) (names : List String) (cs : List Category) :
    r.categories names = .ok cs ↔ names.map r.lookup = cs.map some := by
  induction names generalizing cs with
  | nil => cases cs <;> simp [categories]
  | cons name rest ih =>
    unfold categories
    cases first : r.lookup name with
    | none => cases cs <;> simp [first]
    | some c =>
      cases others : r.categories rest with
      | error fault =>
        have none : ∀ tail, rest.map r.lookup ≠ List.map some tail := by
          intro tail same
          rw [(ih tail).2 same] at others
          cases others
        cases cs <;> simp [none]
      | ok tail =>
        have same := (ih tail).1 others
        cases cs with
        | nil => simp
        | cons c' tail' =>
          have injective : Function.Injective (some : Category → Option Category) :=
            fun _ _ => Option.some.inj
          simp [first, same, List.map_inj_right injective]

variable [Pattern.Dialect]

/-- The second grammar has one rule more than the first, at the end of one state. -/
structure Grammar.Gains (g : Grammar) (state : String) (rule : Rule) (g' : Grammar) : Prop where
  name : g'.name = g.name
  stateNames : g'.stateNames = g.stateNames
  target : ∃ s, g.state state = .ok s ∧ g'.state state = .ok ⟨s.name, s.rules ++ [rule]⟩
  others : ∀ other, other ≠ state → g'.state other = g.state other

theorem Grammar.gains_attach {g : Grammar} {state : String} (declared : g.hasState state = true)
    (rule : Rule) : g.Gains state rule (g.attach state rule) where
  name := g.name_attach state rule
  stateNames := g.stateNames_attach state rule
  target := by
    obtain ⟨s, found, looked⟩ := Grammar.state_of_hasState declared
    refine ⟨s, looked, (Grammar.state_ok_iff _ _ _).2 ?_⟩
    simp [Grammar.attach, NameMap.get?_change_self, found, State.append]
  others := fun _ different =>
    Grammar.state_eq_of_get? (NameMap.get?_change_other g.states different _)

namespace Resolver

structure Ready (r : Resolver) (d : Declaration) (g : Grammar) (p : Pattern.Compiled)
    (categories : List Category) : Prop where
  declared : g.hasState d.state = true
  compiled : Pattern.compile d.pattern r.options = .ok p
  found : d.categories.map r.lookup = categories.map some

/-- The rule that a declaration would get in a grammar, or why it gets none. -/
def verdict (r : Resolver) (d : Declaration) (g : Grammar) : Except ResolveFault Rule :=
  if g.hasState d.state then
    match Pattern.compile d.pattern r.options with
    | .error cause => .error (.patternSyntax d.pattern cause)
    | .ok p =>
      match r.categories d.categories with
      | .error fault => .error fault
      | .ok categories => d.create p categories g
  else .error (.stateNotFound d.state)

theorem verdict_of_ready {r : Resolver} {d : Declaration} {g : Grammar} {p : Pattern.Compiled}
    {cs : List Category} (ready : r.Ready d g p cs) : r.verdict d g = d.create p cs g := by
  have found := (categories_ok_iff r d.categories cs).2 ready.found
  simp [verdict, ready.declared, ready.compiled, found]

/-- A declaration that is not ready is refused with a fault that its way to make rules has no
part in. -/
theorem ready_or_refused (r : Resolver) (d : Declaration) (g : Grammar) :
    (∃ p cs, r.Ready d g p cs) ∨
      ∃ fault, ∀ create, r.verdict { d with create } g = .error fault := by
  cases declared : g.hasState d.state with
  | false => exact Or.inr ⟨.stateNotFound d.state, fun create => by simp [verdict, declared]⟩
  | true =>
    cases compiled : Pattern.compile d.pattern r.options with
    | error cause =>
      exact Or.inr ⟨.patternSyntax d.pattern cause,
        fun create => by simp [verdict, declared, compiled]⟩
    | ok p =>
      cases found : r.categories d.categories with
      | error fault =>
        exact Or.inr ⟨fault, fun create => by simp [verdict, declared, compiled, found]⟩
      | ok cs =>
        exact Or.inl ⟨p, cs, declared, compiled, (categories_ok_iff r d.categories cs).1 found⟩

theorem verdict_ok_iff (r : Resolver) (d : Declaration) (g : Grammar) (rule : Rule) :
    r.verdict d g = .ok rule ↔ ∃ p cs, r.Ready d g p cs ∧ d.create p cs g = .ok rule := by
  constructor
  · intro made
    rcases ready_or_refused r d g with ⟨p, cs, ready⟩ | ⟨fault, refused⟩
    · exact ⟨p, cs, ready, (verdict_of_ready ready).symm.trans made⟩
    · have error : r.verdict d g = .error fault := refused d.create
      rw [error] at made
      cases made
  · rintro ⟨p, cs, ready, made⟩
    exact (verdict_of_ready ready).trans made

theorem declared_of_verdict {r : Resolver} {d : Declaration} {g : Grammar} {rule : Rule}
    (made : r.verdict d g = .ok rule) : g.hasState d.state = true := by
  obtain ⟨p, cs, ready, _⟩ := (verdict_ok_iff r d g rule).1 made
  exact ready.declared

theorem resolve_of_error {r : Resolver} {d : Declaration} {g : Grammar} {fault : ResolveFault}
    (refused : r.verdict d g = .error fault) :
    (r.resolve d g).outcome = .error fault ∧ (r.resolve d g).grammar = g := by
  unfold verdict at refused
  split at refused
  · next declared =>
    obtain ⟨s, _, looked⟩ := Grammar.state_of_hasState declared
    simp only [resolve, looked]
    cases compiled : Pattern.compile d.pattern r.options with
    | error cause => simpa [compiled] using refused
    | ok p =>
      cases found : r.categories d.categories with
      | error fault => simpa [compiled, found] using refused
      | ok cs =>
        have failed : d.create p cs g = .error fault := by simpa [compiled, found] using refused
        simp [attach, failed]
  · next missing =>
    have looked := Grammar.state_of_missing (Bool.eq_false_iff.2 missing)
    simpa [resolve, looked] using refused

theorem resolve_of_ok {r : Resolver} {d : Declaration} {g : Grammar} {rule : Rule}
    (made : r.verdict d g = .ok rule) :
    (r.resolve d g).outcome = .ok () ∧ (r.resolve d g).grammar = g.attach d.state rule := by
  obtain ⟨p, cs, ready, created⟩ := (verdict_ok_iff r d g rule).1 made
  obtain ⟨s, _, looked⟩ := Grammar.state_of_hasState ready.declared
  have found := (categories_ok_iff r d.categories cs).2 ready.found
  simp [resolve, looked, ready.compiled, found, attach, created, Grammar.append_eq, ready.declared]

theorem resolve_outcome (r : Resolver) (d : Declaration) (g : Grammar) :
    (r.resolve d g).outcome = (r.verdict d g).map fun _ => () := by
  cases judged : r.verdict d g with
  | error fault => exact (resolve_of_error judged).1
  | ok rule => exact (resolve_of_ok judged).1

theorem resolve_create_congr {r : Resolver} {d : Declaration} {g : Grammar}
    {create : Pattern.Compiled → List Category → Grammar → Except ResolveFault Rule}
    (same : ∀ p cs, r.Ready d g p cs → create p cs g = d.create p cs g) :
    r.resolve { d with create } g = r.resolve d g := by
  simp only [resolve]
  cases looked : g.state d.state with
  | error fault => rfl
  | ok s =>
    cases compiled : Pattern.compile d.pattern r.options with
    | error cause => rfl
    | ok p =>
      cases found : r.categories d.categories with
      | error fault => rfl
      | ok cs =>
        have ready : r.Ready d g p cs := ⟨Grammar.hasState_of_state looked, compiled,
          (categories_ok_iff r d.categories cs).1 found⟩
        simp only [attach, same p cs ready]
        rfl

/- A declaration may make its rule by any function. A failure at any step leaves the grammar as it
   was; a success adds the rule that was made, at the end of its state, and nothing else. The rule
   is asked for only when all names were found and with the grammar unchanged, and once it was made
   it is attached. -/
theorem resolve_all_or_nothing (r : Resolver) (d : Declaration) (g : Grammar) :
    (∀ fault, (r.resolve d g).outcome = .error fault → (r.resolve d g).grammar = g) ∧
    ((r.resolve d g).outcome = .ok () →
      ∃ p cs rule, r.Ready d g p cs ∧ d.create p cs g = .ok rule ∧
        g.Gains d.state rule (r.resolve d g).grammar) ∧
    (∀ p cs, r.Ready d g p cs →
      (r.resolve d g).outcome = (d.create p cs g).map fun _ => ()) ∧
    (∀ create, (∀ p cs, r.Ready d g p cs → create p cs g = d.create p cs g) →
      r.resolve { d with create } g = r.resolve d g) := by
  refine ⟨?_, ?_, ?_, ?_⟩
  · intro fault failed
    cases judged : r.verdict d g with
    | error other => exact (resolve_of_error judged).2
    | ok rule => simp [(resolve_of_ok judged).1] at failed
  · intro succeeded
    cases judged : r.verdict d g with
    | error fault => simp [(resolve_of_error judged).1] at succeeded
    | ok rule =>
      obtain ⟨p, cs, ready, made⟩ := (verdict_ok_iff r d g rule).1 judged
      refine ⟨p, cs, rule, ready, made, ?_⟩
      rw [(resolve_of_ok judged).2]
      exact Grammar.gains_attach ready.declared rule
  · intro p cs ready
    rw [resolve_outcome, verdict_of_ready ready]
  · intro create same
    exact resolve_create_congr same

end Resolver

def Grammar.Alike (g g' : Grammar) : Prop :=
  ∀ name, g'.hasState name = g.hasState name

theorem Grammar.alike_attachAll (g : Grammar) (added : List (String × Rule)) :
    g.Alike (g.attachAll added) :=
  fun name => g.hasState_attachAll added name

theorem Descriptor.create_congr {g g' : Grammar} (alike : g.Alike g') (t : Option Transition)
    (p : Pattern.Compiled) (cs : List Category) : create t p cs g' = create t p cs g := by
  have same : ∀ name, g'.hasState name = g.hasState name := alike
  cases t with
  | none => rfl
  | some t =>
    have targets : missingTarget? g' t = missingTarget? g t := by
      cases t with
      | pop count => rfl
      | push targets => simp only [missingTarget?, same]
    simp only [create, targets]

/-- The rules of a grammar have no say in the verdict on a descriptor. -/
theorem Resolver.verdict_congr {g g' : Grammar} (alike : g.Alike g') (r : Resolver)
    (d : Descriptor) : r.verdict d.declaration g' = r.verdict d.declaration g := by
  have declared := alike d.declaration.state
  have created : ∀ p cs, d.declaration.create p cs g' = d.declaration.create p cs g :=
    Descriptor.create_congr alike d.transition?
  simp only [verdict, declared, created]

structure Resolver.Makes (r : Resolver) (d : Descriptor) (rule : Rule) : Prop where
  pattern : Pattern.compile d.rule.pattern r.options = .ok rule.pattern
  categories : d.rule.categories.map r.lookup = rule.categories.map some
  transition : rule.transition = d.transition?

theorem Rule.of_make {p : Pattern.Compiled} {cs : List Category} {rule : Rule}
    (made : Rule.make p cs = .ok rule) :
    rule.pattern = p ∧ rule.categories = cs ∧ rule.transition = none := by
  unfold Rule.make at made
  split at made
  · cases made
  · cases made
    exact ⟨rfl, rfl, rfl⟩

theorem Descriptor.of_create {t : Option Transition} {p : Pattern.Compiled} {cs : List Category}
    {g : Grammar} {rule : Rule} (made : create t p cs g = .ok rule) :
    rule.pattern = p ∧ rule.categories = cs ∧ rule.transition = t := by
  cases t with
  | none => exact Rule.of_make made
  | some t =>
    simp only [create] at made
    split at made
    · cases made
    · cases plain : Rule.make p cs with
      | error fault => simp [plain, Except.map] at made
      | ok bare =>
        obtain ⟨pattern, categories, _⟩ := Rule.of_make plain
        simp only [plain, Except.map, Except.ok.injEq] at made
        subst made
        exact ⟨pattern, categories, rfl⟩

theorem Resolver.makes_of_verdict {r : Resolver} {d : Descriptor} {g : Grammar} {rule : Rule}
    (made : r.verdict d.declaration g = .ok rule) : r.Makes d rule := by
  obtain ⟨p, cs, ready, created⟩ := (verdict_ok_iff r d.declaration g rule).1 made
  obtain ⟨pattern, categories, transition⟩ := Descriptor.of_create created
  exact ⟨pattern ▸ ready.compiled, categories ▸ ready.found, transition⟩

end LexicalGrammar
