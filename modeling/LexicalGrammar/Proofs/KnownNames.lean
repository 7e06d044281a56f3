import LexicalGrammar.Proofs.Queue
import LexicalGrammar.Proofs.Verdict

/-
What a pass shows of a resolver: its pattern options and which names of categories it knows. The
handles that it gives for them reach the rules, but neither the outcome nor what is told, and of
the grammar not more than the rules that hold them.
-/
namespace LexicalGrammar

/-- Patterns are compiled alike, and each name that the first knows is known to the second, be it
under another handle. -/
structure Resolver.KnownTo (r r' : Resolver) : Prop where
  options : r'.options = r.options
  known : ∀ name, (r.lookup name).isSome = true → (r'.lookup name).isSome = true

namespace Resolver
variable {r r' : Resolver}

theorem firstUnknown_mono (more : r.KnownTo r') {names : List String}
    (known : r.firstUnknown? names = none) : r'.firstUnknown? names = none := by
  unfold firstUnknown? at known ⊢
  rw [List.find?_eq_none] at known ⊢
  intro name member absent
  have found : (r.lookup name).isSome = true := by
    simpa [Option.isSome_iff_ne_none] using known name member
  have found' := more.known name found
  rw [Option.isNone_iff_eq_none.1 absent] at found'
  cases found'

theorem firstUnknown_congr (more : r.KnownTo r') (back : r'.KnownTo r) (names : List String) :
    r'.firstUnknown? names = r.firstUnknown? names := by
  unfold firstUnknown?
  have same : ∀ name, (r'.lookup name).isNone = (r.lookup name).isNone := by
    intro name
    have known : (r.lookup name).isSome = (r'.lookup name).isSome :=
      Bool.eq_iff_iff.2 ⟨more.known name, back.known name⟩
    rw [← Option.not_isSome, ← Option.not_isSome, known]
  simp only [same]

end Resolver

variable [Pattern.Dialect]

structure Grammar.SameSizes (g g' : Grammar) : Prop where
  name : g'.name = g.name
  sizes : (g'.states.entries.map fun e => (e.1, e.2.size)) =
    g.states.entries.map fun e => (e.1, e.2.size)

namespace Grammar
variable {g g' : Grammar}

theorem alike_of_sameSizes (same : g.SameSizes g') : g.Alike g' := by
  have names : g'.stateNames = g.stateNames := by
    simpa [stateNames, NameMap.names, Function.comp_def] using
      congrArg (List.map Prod.fst) same.sizes
  intro name
  rw [Bool.eq_iff_iff, hasState_iff, hasState_iff, names]

theorem sizes_attach (g : Grammar) (state : String) (rule : Rule) :
    ((g.attach state rule).states.entries.map fun e => (e.1, e.2.size)) =
      (g.states.entries.map fun e => (e.1, e.2.size)).map fun e =>
        if e.1 = state then (e.1, e.2 + 1) else e := by
  simp only [attach, NameMap.change, List.map_map]
  refine List.map_congr_left fun e _ => ?_
  by_cases here : e.1 = state
  · simp [NameMap.changeEntry, here, State.size, State.append]
  · simp [NameMap.changeEntry, here]

theorem sameSizes_attach (same : g.SameSizes g') (state : String) (rule rule' : Rule) :
    (g.attach state rule).SameSizes (g'.attach state rule') where
  name := same.name
  sizes := by rw [sizes_attach, sizes_attach, same.sizes]

end Grammar

def Descriptor.judge (d : Descriptor) (options : Pattern.Options) (unknown : Option String)
    (g : Grammar) : Except ResolveFault Unit :=
  if g.hasState d.rule.state then
    match Pattern.compile d.rule.pattern options, unknown, g.firstUndeclared? d.transition? with
    | .error cause, _, _ => .error (.patternSyntax d.rule.pattern cause)
    | .ok _, some name, _ => .error (.unknownCategory name)
    | .ok _, none, some name => .error (.stateNotFound name)
    | .ok _, none, none => .ok ()
  else .error (.stateNotFound d.rule.state)

namespace Descriptor
variable (d : Descriptor)

theorem judge_congr {g g' : Grammar} (alike : g.Alike g') (options : Pattern.Options)
    (unknown : Option String) : d.judge options unknown g' = d.judge options unknown g := by
  have same : ∀ name, g'.hasState name = g.hasState name := alike
  simp only [judge, Grammar.firstUndeclared?, same]

theorem judge_ok_mono {options : Pattern.Options} {unknown unknown' : Option String} {g : Grammar}
    (fewer : unknown = none → unknown' = none) (passes : d.judge options unknown g = .ok ()) :
    d.judge options unknown' g = .ok () := by
  unfold judge at passes ⊢
  split at passes
  · next declared =>
    rw [if_pos declared]
    split at passes
    · cases passes
    · cases passes
    · cases passes
    · next compiled reached =>
      rw [compiled, fewer rfl, reached]
  · cases passes

theorem judge_error_mono {options : Pattern.Options} {unknown unknown' : Option String}
    {g : Grammar} (fewer : unknown = none → unknown' = none) {fault : ResolveFault}
    (refused : d.judge options unknown g = .error fault)
    (other : ∀ name, fault ≠ .unknownCategory name) :
    d.judge options unknown' g = .error fault := by
  unfold judge at refused ⊢
  split at refused
  · next declared =>
    rw [if_pos declared]
    split at refused
    · next faulty =>
      rw [faulty]
      exact refused
    · exact absurd (Except.error.inj refused).symm (other _)
    · next compiled reached =>
      rw [compiled, fewer rfl, reached]
      exact refused
    · cases refused
  · next missing =>
    rw [if_neg missing]
    exact refused

end Descriptor

namespace Resolver

theorem verdict_judge (r : Resolver) (d : Descriptor) (g : Grammar) :
    ((r.verdict d.declaration g).map fun _ => ()) =
      d.judge r.options (r.firstUnknown? d.rule.categories) g := by
  have judged : Judged r g d.declaration d.transition? (r.verdict d.declaration g) :=
    judged_verdict rfl
  generalize r.verdict d.declaration g = v at judged
  unfold Descriptor.judge
  simp only [Descriptor.declaration] at judged
  cases judged with
  | undeclared missing => simp [missing, Except.map]
  | malformed declared faulty => simp [declared, faulty, Except.map]
  | unknown declared compiled first => simp [declared, compiled, first, Except.map]
  | astray declared compiled known first => simp [declared, compiled, known, first, Except.map]
  | bare declared compiled known reached empty => exact absurd empty d.rule.categories_ne
  | made declared compiled known reached _ _ =>
    simp [declared, compiled, known, reached, Except.map]

section
variable {r r' : Resolver}

/- The verdict but for the rule: which fault, or that there is none. -/
theorem outcome_congr (more : r.KnownTo r') (back : r'.KnownTo r) {g g' : Grammar}
    (alike : g.Alike g') (d : Descriptor) :
    (r'.resolve d.declaration g').outcome = (r.resolve d.declaration g).outcome := by
  rw [resolve_outcome, resolve_outcome, verdict_judge, verdict_judge, more.options,
    firstUnknown_congr more back, Descriptor.judge_congr d alike]

theorem outcome_ok_mono (more : r.KnownTo r') {d : Descriptor} {g : Grammar}
    (passes : (r.resolve d.declaration g).outcome = .ok ()) :
    (r'.resolve d.declaration g).outcome = .ok () := by
  rw [resolve_outcome, verdict_judge] at passes ⊢
  rw [more.options]
  exact d.judge_ok_mono (firstUnknown_mono more) passes

theorem outcome_error_mono (more : r.KnownTo r') {d : Descriptor} {g : Grammar}
    {fault : ResolveFault} (refused : (r.resolve d.declaration g).outcome = .error fault)
    (other : ∀ name, fault ≠ .unknownCategory name) :
    (r'.resolve d.declaration g).outcome = .error fault := by
  rw [resolve_outcome, verdict_judge] at refused ⊢
  rw [more.options]
  exact d.judge_error_mono (firstUnknown_mono more) refused other

theorem sameSizes_resolve (more : r.KnownTo r') (back : r'.KnownTo r) {g g' : Grammar}
    (same : g.SameSizes g') (d : Descriptor) :
    (r.resolve d.declaration g).grammar.SameSizes (r'.resolve d.declaration g').grammar := by
  have outcome := outcome_congr more back (Grammar.alike_of_sameSizes same) d
  rw [resolve_outcome, resolve_outcome] at outcome
  cases judged : r.verdict d.declaration g with
  | error fault =>
    cases judged' : r'.verdict d.declaration g' with
    | error fault' =>
      rw [(resolve_of_error judged).2, (resolve_of_error judged').2]
      exact same
    | ok rule' => simp [judged, judged', Except.map] at outcome
  | ok rule =>
    cases judged' : r'.verdict d.declaration g' with
    | error fault' => simp [judged, judged', Except.map] at outcome
    | ok rule' =>
      rw [(resolve_of_ok judged).2, (resolve_of_ok judged').2]
      exact Grammar.sameSizes_attach same d.declaration.state rule rule'

theorem mismatch_congr (d : Declaration) (p : Pattern.Compiled) {cs cs' : List Category}
    (same : cs'.length = cs.length) : mismatch d p cs' = mismatch d p cs := by
  unfold mismatch
  rw [same]

theorem attach_events {d : Declaration} {g : Grammar} (declared : g.hasState d.state = true)
    (p : Pattern.Compiled) (cs : List Category) :
    (attach d g p cs).events = mismatch d p cs ++
      match (attach d g p cs).outcome with
      | .ok () => [.attached g.name d.state d.pattern]
      | .error _ => [] := by
  unfold attach
  cases made : d.create p cs g with
  | error fault => simp
  | ok rule => simp [Grammar.append_eq, declared, Grammar.name_attach]

/- Up to the categories the steps are the same. These are as many as their names. -/
theorem events_congr (more : r.KnownTo r') (back : r'.KnownTo r) {g g' : Grammar}
    (same : g.SameSizes g') (d : Descriptor) :
    (r'.resolve d.declaration g').events = (r.resolve d.declaration g).events := by
  have alike := Grammar.alike_of_sameSizes same
  have outcome := outcome_congr more back alike d
  cases declared : g.hasState d.declaration.state with
  | false =>
    have missing := Grammar.state_of_missing declared
    have missing' := Grammar.state_of_missing ((alike d.declaration.state).trans declared)
    simp only [resolve, missing, missing']
  | true =>
    have declared' := (alike d.declaration.state).trans declared
    obtain ⟨s, _, looked⟩ := Grammar.state_of_hasState declared
    obtain ⟨s', _, looked'⟩ := Grammar.state_of_hasState declared'
    simp only [resolve, looked, looked', more.options] at outcome ⊢
    cases compiled : Pattern.compile d.declaration.pattern r.options with
    | error cause => rfl
    | ok p =>
      have unknown := firstUnknown_congr more back d.declaration.categories
      cases known : r.firstUnknown? d.declaration.categories with
      | some name =>
        have unknown' := unknown.trans known
        simp only [categories_of_unknown known, categories_of_unknown unknown']
      | none =>
        obtain ⟨cs, found⟩ := categories_of_known known
        obtain ⟨cs', found'⟩ := categories_of_known (unknown.trans known)
        simp only [compiled, found, found'] at outcome ⊢
        have number : cs'.length = cs.length := by
          have handles := congrArg List.length ((categories_ok_iff r _ cs).1 found)
          have handles' := congrArg List.length ((categories_ok_iff r' _ cs').1 found')
          simp only [List.length_map] at handles handles'
          omega
        rw [attach_events declared, attach_events declared', outcome, same.name,
          mismatch_congr d.declaration p number]

end

end Resolver

namespace Builder

/- One step for each entry. The reports are the same all the way, the grammars have the same sizes. -/
theorem resolveFrom_congr {r r' : Resolver} (more : r.KnownTo r') (back : r'.KnownTo r)
    (policy : FailurePolicy) (index : Nat) (report : Report) {g g' : Grammar}
    (same : g.SameSizes g') (entries : List Pending) :
    let run := resolveFrom r policy index report g entries
    let run' := resolveFrom r' policy index report g' entries
    run'.1 = run.1 ∧ run.2.1.SameSizes run'.2.1 ∧ run'.2.2.2 = run.2.2.2 := by
  induction entries generalizing index report g g' with
  | nil => exact ⟨rfl, same, by simp only [resolveFrom, same.name]⟩
  | cons p rest ih =>
    have outcome := Resolver.outcome_congr more back (Grammar.alike_of_sameSizes same) p.descriptor
    have events := Resolver.events_congr more back same p.descriptor
    have after := Resolver.sameSizes_resolve more back same p.descriptor
    simp only [resolveFrom, outcome, events]
    by_cases settled : p.status = .resolved
    · simp only [settled, ↓reduceIte]
      exact ih _ _ same
    · simp only [settled, ↓reduceIte]
      cases made : (r.resolve p.descriptor.declaration g).outcome with
      | ok _ =>
        obtain ⟨outcome', same', told⟩ := ih (index + 1) _ after
        exact ⟨outcome', same', congrArg ((r.resolve p.descriptor.declaration g).events ++ ·) told⟩
      | error fault =>
        cases policy with
        | abort => exact ⟨rfl, after, rfl⟩
        | collect =>
          obtain ⟨outcome', same', told⟩ := ih (index + 1) _ after
          exact ⟨outcome', same', congrArg (fun told =>
            (r.resolve p.descriptor.declaration g).events ++
              .ruleFailed index p.descriptor.describe fault :: told) told⟩

end Builder
end LexicalGrammar
