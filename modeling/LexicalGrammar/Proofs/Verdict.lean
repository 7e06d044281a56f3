import LexicalGrammar.Proofs.Resolution

/-
The order of the checks in a resolution. Declarations whose rule is made in one of the usual ways are
refused for their state, their pattern, their first unknown category, their first undeclared target
or their want of categories, whichever comes first, however many of these are wrong.
-/
namespace LexicalGrammar

def Transition.names : Transition → List String
  | .pop _ => []
  | .push targets => targets.filterMap fun
    | .current => none
    | .named name => some name

def Resolver.firstUnknown? (r : Resolver) (names : List String) : Option String :=
  names.find? fun name => (r.lookup name).isNone

namespace Resolver

theorem categories_of_unknown {r : Resolver} {names : List String} {name : String}
    (unknown : r.firstUnknown? names = some name) :
    r.categories names = .error (.unknownCategory name) := by
  induction names with
  | nil => cases unknown
  | cons first rest ih =>
    unfold firstUnknown? at unknown
    rw [List.find?_cons] at unknown
    unfold categories
    cases found : r.lookup first with
    | none =>
      simp only [found, Option.isNone_none] at unknown
      rw [Option.some.inj unknown]
    | some c =>
      simp only [found, Option.isNone_some] at unknown
      rw [ih unknown]

theorem categories_of_known {r : Resolver} {names : List String}
    (known : r.firstUnknown? names = none) : ∃ cs, r.categories names = .ok cs := by
  induction names with
  | nil => exact ⟨[], rfl⟩
  | cons first rest ih =>
    unfold firstUnknown? at known
    rw [List.find?_cons] at known
    unfold categories
    cases found : r.lookup first with
    | none => simp [found] at known
    | some c =>
      simp only [found, Option.isNone_some] at known
      obtain ⟨cs, others⟩ := ih known
      exact ⟨c :: cs, by rw [others]⟩

end Resolver

variable [Pattern.Dialect]

def Grammar.firstUndeclared? (g : Grammar) (t : Option Transition) : Option String :=
  ((t.map Transition.names).getD []).find? fun name => !g.hasState name

theorem Descriptor.missingTarget_eq (g : Grammar) (t : Transition) :
    missingTarget? g t = g.firstUndeclared? (some t) := by
  cases t with
  | pop count => rfl
  | push targets =>
    induction targets with
    | nil => rfl
    | cons target rest ih =>
      simp only [missingTarget?, Grammar.firstUndeclared?, Transition.names, Option.map_some,
        Option.getD_some] at ih ⊢
      rw [List.findSome?_cons]
      cases target with
      | current => simpa using ih
      | named name =>
        cases declared : g.hasState name with
        | true => simpa [declared] using ih
        | false => simp [declared]

theorem Pattern.of_compile {source : String} {options : Options} {p : Compiled}
    (compiled : compile source options = .ok p) : p.source = source ∧ p.options = options := by
  unfold compile at compiled
  split at compiled
  · cases compiled
    exact ⟨rfl, rfl⟩
  · cases compiled

/-- What comes of a declaration, by the first of its checks that fails. -/
inductive Judged (r : Resolver) (g : Grammar) (d : Declaration) (t : Option Transition) :
    Except ResolveFault Rule → Prop where
  | undeclared (missing : g.hasState d.state = false) :
      Judged r g d t (.error (.stateNotFound d.state))
  | malformed {cause : Pattern.Fault} (declared : g.hasState d.state = true)
      (faulty : Pattern.compile d.pattern r.options = .error cause) :
      Judged r g d t (.error (.patternSyntax d.pattern cause))
  | unknown {p : Pattern.Compiled} {name : String} (declared : g.hasState d.state = true)
      (compiled : Pattern.compile d.pattern r.options = .ok p)
      (first : r.firstUnknown? d.categories = some name) :
      Judged r g d t (.error (.unknownCategory name))
  | astray {p : Pattern.Compiled} {name : String} (declared : g.hasState d.state = true)
      (compiled : Pattern.compile d.pattern r.options = .ok p)
      (known : r.firstUnknown? d.categories = none)
      (first : g.firstUndeclared? t = some name) : Judged r g d t (.error (.stateNotFound name))
  | bare {p : Pattern.Compiled} (declared : g.hasState d.state = true)
      (compiled : Pattern.compile d.pattern r.options = .ok p)
      (known : r.firstUnknown? d.categories = none) (reached : g.firstUndeclared? t = none)
      (empty : d.categories = []) : Judged r g d t (.error (.noCategories d.pattern))
  | made {rule : Rule} (declared : g.hasState d.state = true)
      (compiled : Pattern.compile d.pattern r.options = .ok rule.pattern)
      (known : r.firstUnknown? d.categories = none) (reached : g.firstUndeclared? t = none)
      (handles : d.categories.map r.lookup = rule.categories.map some)
      (transition : rule.transition = t) : Judged r g d t (.ok rule)

section
variable {r : Resolver} {g : Grammar} {d : Declaration} {t : Option Transition}

theorem create_missing {p : Pattern.Compiled} {cs : List Category} {name : String}
    (first : g.firstUndeclared? t = some name) :
    Descriptor.create t p cs g = .error (.stateNotFound name) := by
  cases t with
  | none => cases first
  | some t =>
    have missing := (Descriptor.missingTarget_eq g t).trans first
    simp only [Descriptor.create, missing]

theorem create_reached {p : Pattern.Compiled} {cs : List Category}
    (reached : g.firstUndeclared? t = none) : Descriptor.create t p cs g =
      if nonempty : cs = [] then .error (.noCategories p.source) else .ok ⟨p, cs, t, nonempty⟩ := by
  cases t with
  | none => rfl
  | some t =>
    have missing := (Descriptor.missingTarget_eq g t).trans reached
    simp only [Descriptor.create, missing, Rule.make]
    split <;> rfl

theorem judged_create (usual : d.create = Descriptor.create t) {p : Pattern.Compiled}
    {cs : List Category} (known : r.firstUnknown? d.categories = none)
    (ready : r.Ready d g p cs) : Judged r g d t (d.create p cs g) := by
  rw [usual]
  cases reached : g.firstUndeclared? t with
  | some name =>
    rw [create_missing reached]
    exact .astray ready.declared ready.compiled known reached
  | none =>
    rw [create_reached reached]
    by_cases bare : cs = []
    · have empty : d.categories = [] := by
        have found := ready.found
        rw [bare] at found
        exact List.map_eq_nil_iff.1 found
      rw [dif_pos bare, (Pattern.of_compile ready.compiled).1]
      exact .bare ready.declared ready.compiled known reached empty
    · rw [dif_neg bare]
      exact .made ready.declared ready.compiled known reached ready.found rfl

theorem judged_verdict (usual : d.create = Descriptor.create t) :
    Judged r g d t (r.verdict d g) := by
  cases declared : g.hasState d.state with
  | false =>
    have refused : r.verdict d g = .error (.stateNotFound d.state) := by
      simp [Resolver.verdict, declared]
    rw [refused]
    exact .undeclared declared
  | true =>
    cases compiled : Pattern.compile d.pattern r.options with
    | error cause =>
      have refused : r.verdict d g = .error (.patternSyntax d.pattern cause) := by
        simp [Resolver.verdict, declared, compiled]
      rw [refused]
      exact .malformed declared compiled
    | ok p =>
      cases known : r.firstUnknown? d.categories with
      | some name =>
        have refused : r.verdict d g = .error (.unknownCategory name) := by
          simp [Resolver.verdict, declared, compiled, Resolver.categories_of_unknown known]
        rw [refused]
        exact .unknown declared compiled known
      | none =>
        obtain ⟨cs, found⟩ := Resolver.categories_of_known known
        have ready : r.Ready d g p cs :=
          ⟨declared, compiled, (Resolver.categories_ok_iff r d.categories cs).1 found⟩
        rw [Resolver.verdict_of_ready ready]
        exact judged_create usual known ready

end

structure ChecksInOrder (r : Resolver) (g : Grammar) (d : Declaration) (t : Option Transition) :
    Prop where
  state : (r.resolve d g).outcome = .error (.stateNotFound d.state) ↔ g.hasState d.state = false
  pattern : g.hasState d.state = true → ∀ cause,
    ((r.resolve d g).outcome = .error (.patternSyntax d.pattern cause) ↔
      Pattern.compile d.pattern r.options = .error cause)
  category : g.hasState d.state = true → ∀ p, Pattern.compile d.pattern r.options = .ok p →
    ∀ name, ((r.resolve d g).outcome = .error (.unknownCategory name) ↔
      r.firstUnknown? d.categories = some name)
  target : g.hasState d.state = true → ∀ p, Pattern.compile d.pattern r.options = .ok p →
    r.firstUnknown? d.categories = none →
    ∀ name, ((r.resolve d g).outcome = .error (.stateNotFound name) ↔
      g.firstUndeclared? t = some name)
  number : g.hasState d.state = true → ∀ p, Pattern.compile d.pattern r.options = .ok p →
    r.firstUnknown? d.categories = none → g.firstUndeclared? t = none →
    ((r.resolve d g).outcome = .error (.noCategories d.pattern) ↔ d.categories = [])
  rule : g.hasState d.state = true → ∀ p, Pattern.compile d.pattern r.options = .ok p →
    r.firstUnknown? d.categories = none → g.firstUndeclared? t = none → d.categories ≠ [] →
    (r.resolve d g).outcome = .ok () ∧ ∃ rule, g.Gains d.state rule (r.resolve d g).grammar ∧
      rule.pattern.source = d.pattern ∧ rule.pattern.options = r.options ∧
      rule.categories.map some = d.categories.map r.lookup ∧ rule.transition = t

section
variable {r : Resolver} {g : Grammar} {d : Declaration} {t : Option Transition}

theorem undeclared_of_first {name : String} (first : g.firstUndeclared? t = some name) :
    g.hasState name = false := by
  simpa using List.find?_some first

theorem outcome_judged (usual : d.create = Descriptor.create t) :
    ∃ v, Judged r g d t v ∧ (r.resolve d g).outcome = (v.map fun _ => ()) ∧
      ∀ rule, v = .ok rule → (r.resolve d g).grammar = g.attach d.state rule :=
  ⟨r.verdict d g, judged_verdict usual, Resolver.resolve_outcome r d g,
    fun _ made => (Resolver.resolve_of_ok made).2⟩

theorem categories_ne_of_handles {rule : Rule} {names : List String}
    (handles : names.map r.lookup = rule.categories.map some) : names ≠ [] := by
  rintro rfl
  exact rule.nonempty (List.map_eq_nil_iff.1 handles.symm)

/- When the checks before it were passed, each check is answered by the one way of being judged that
   is its own. -/
theorem checksInOrder_of_usual (usual : d.create = Descriptor.create t) : ChecksInOrder r g d t := by
  obtain ⟨v, judged, outcome, attached⟩ := @outcome_judged _ r g d t usual
  clear usual
  constructor
  case state =>
    rw [outcome]
    cases judged with
    | undeclared missing => simp [Except.map, missing]
    | @astray p name declared compiled known first =>
      have missing := undeclared_of_first first
      have other : name ≠ d.state := by
        rintro rfl
        simp [declared] at missing
      simp [Except.map, declared, other]
    | malformed declared | unknown declared | bare declared | made declared =>
      simp [Except.map, declared]
  case pattern =>
    intro declared cause
    rw [outcome]
    cases judged <;> simp_all [Except.map]
  case category =>
    intro declared p compiled name
    rw [outcome]
    cases judged <;> simp_all [Except.map]
  case target =>
    intro declared p compiled known name
    rw [outcome]
    cases judged <;> simp_all [Except.map]
  case number =>
    intro declared p compiled known reached
    rw [outcome]
    cases judged with
    | bare _ _ _ _ empty => simp [Except.map, empty]
    | made _ _ _ _ handles => simp [Except.map, categories_ne_of_handles handles]
    | _ => simp_all
  case rule =>
    intro declared p compiled known reached nonempty
    cases judged with
    | @made rule _ compiled' _ _ handles transition =>
      obtain ⟨source, options⟩ := Pattern.of_compile compiled'
      rw [attached rule rfl]
      exact ⟨outcome, rule, Grammar.gains_attach declared rule, source, options, handles.symm,
        transition⟩
    | _ => simp_all

end

/- Whatever else is wrong with a declaration, what is told is the first of these that applies: its
   state is not declared, its pattern does not compile, a category is not known, a state that it
   pushes is not declared, it has no categories. -/
theorem verdict_in_order (r : Resolver) (g : Grammar) :
    (∀ d : Descriptor, ChecksInOrder r g d.declaration d.transition?) ∧
    ∀ state pattern categories, ChecksInOrder r g (.plain state pattern categories) none :=
  ⟨fun _ => checksInOrder_of_usual rfl, fun _ _ _ => checksInOrder_of_usual rfl⟩

end LexicalGrammar
