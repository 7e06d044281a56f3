import LexicalGrammar.Proofs.Monotone
import LexicalGrammar.Proofs.Queue

/-
Grammars that are assembled bit by bit: states are declared, categories registered, descriptors
queued and passes made in any order. After a last pass that collects, only the order of the rules
within a state can tell what the order was.
-/
namespace LexicalGrammar
variable [Pattern.Dialect]

structure Assembly where
  builder : Builder
  table : CategoryTable

namespace Assembly

/-- What can be done to an assembly. The number of a new category is drawn from the supply that
there is at the time; other tables may have drawn from it too. -/
inductive Step where
  | declare (state : String)
  | push (d : Descriptor)
  | register (name : String) (supply : Supply)
  | pass (policy : FailurePolicy)

def Step.declared? : Step → Option String
  | .declare state => some state
  | _ => none

def Step.queued? : Step → Option Descriptor
  | .push d => some d
  | _ => none

def resolver (a : Assembly) (options : Pattern.Options) : Resolver :=
  .ofTable a.table options

def step (options : Pattern.Options) (a : Assembly) : Step → Assembly
  | .declare state => { a with builder := a.builder.declare state }
  | .push d => { a with builder := a.builder.push d }
  | .register name supply => { a with table := (a.table.register name supply).2.1 }
  | .pass policy =>
    { a with builder := (a.builder.resolvePending (a.resolver options) policy).builder }

def run (options : Pattern.Options) (a : Assembly) (steps : List Step) : Assembly :=
  steps.foldl (step options) a

end Assembly

/-- The rule of an entry that is resolved, with its state, as the descriptor gives it now. -/
def Pending.held? (r : Resolver) (g : Grammar) (p : Pending) : Option (String × Rule) :=
  if p.status = .resolved then
    (r.verdict p.descriptor.declaration g).toOption.map (p.descriptor.rule.state, ·)
  else none

theorem Pending.held_of_verdict {r : Resolver} {g : Grammar} {p : Pending} {rule : Rule}
    (settled : p.status = .resolved) (made : r.verdict p.descriptor.declaration g = .ok rule) :
    p.held? r g = some (p.descriptor.rule.state, rule) := by
  simp [held?, settled, made, Except.toOption]

theorem Pending.held_of_waiting {p : Pending} (waiting : p.status = .unresolved) (r : Resolver)
    (g : Grammar) : p.held? r g = none := by
  simp [held?, waiting]

def held (r : Resolver) (g : Grammar) (entries : List Pending) : List (String × Rule) :=
  entries.filterMap (·.held? r g)

def StillGood (r : Resolver) (g : Grammar) (entries : List Pending) : Prop :=
  ∀ p ∈ entries, p.status = .resolved → ∃ rule, r.verdict p.descriptor.declaration g = .ok rule

section
variable {r r' : Resolver} {g g' : Grammar}

theorem held_cons (r : Resolver) (g : Grammar) (p : Pending) (rest : List Pending) :
    held r g (p :: rest) = (p.held? r g).toList ++ held r g rest := by
  unfold held
  cases given : p.held? r g <;> simp [given]

theorem held_append (r : Resolver) (g : Grammar) (first second : List Pending) :
    held r g (first ++ second) = held r g first ++ held r g second :=
  List.filterMap_append

theorem held_congr (alike : g.Alike g') (r : Resolver) (entries : List Pending) :
    held r g' entries = held r g entries := by
  simp only [held, Pending.held?, Resolver.verdict_congr alike]

theorem stillGood_mono (categories : r.Within r') (states : g.Within g') {entries : List Pending}
    (good : StillGood r g entries) : StillGood r' g' entries := by
  intro p member settled
  obtain ⟨rule, made⟩ := good p member settled
  exact ⟨rule, Resolver.verdict_mono categories states made⟩

theorem held_mono (categories : r.Within r') (states : g.Within g') {entries : List Pending}
    (good : StillGood r g entries) : held r' g' entries = held r g entries := by
  induction entries with
  | nil => rfl
  | cons p rest ih =>
    have later : StillGood r g rest := fun q member => good q (List.mem_cons_of_mem _ member)
    rw [held_cons, held_cons, ih later]
    cases settled : p.status with
    | unresolved => rw [Pending.held_of_waiting settled, Pending.held_of_waiting settled]
    | resolved =>
      obtain ⟨rule, made⟩ := good p (by simp) settled
      have made' := Resolver.verdict_mono categories states made
      rw [Pending.held_of_verdict settled made, Pending.held_of_verdict settled made']

theorem stillGood_settle {entries : List Pending} (good : StillGood r g entries) :
    StillGood r g (entries.map (·.settle r g)) := by
  intro q member settled
  obtain ⟨p, entry, rfl⟩ := List.mem_map.1 member
  rw [Pending.settle_descriptor]
  rcases (p.settle_resolved_iff r g).1 settled with before | ⟨rule, judged⟩
  · exact good p entry before
  · exact ⟨rule, ((p.fate_attached_iff r g rule).1 judged).2⟩

theorem held_settle (r : Resolver) (g : Grammar) (entries : List Pending) :
    (held r g (entries.map (·.settle r g))).Perm (held r g entries ++ added r g entries) := by
  induction entries with
  | nil => exact List.Perm.refl _
  | cons p rest ih =>
    rw [List.map_cons, held_cons, held_cons, added_cons]
    cases gets : (p.fate r g).rule? with
    | none =>
      rw [Pending.settle_of_no_rule gets, Option.map_none, Option.toList_none, List.nil_append,
        List.append_assoc]
      exact ih.append_left _
    | some rule =>
      have judged := Fate.attached_of_rule gets
      obtain ⟨waiting, made⟩ := (p.fate_attached_iff r g rule).1 judged
      have holds : Pending.held? r g ⟨p.descriptor, .resolved⟩ = some _ :=
        Pending.held_of_verdict rfl made
      rw [Pending.settle_of_attached judged, holds, Pending.held_of_waiting waiting]
      exact (ih.cons _).trans List.perm_middle.symm

theorem held_pass (r : Resolver) (g : Grammar) (done rest : List Pending) :
    (held r g (done ++ rest) ++ added r g done).Perm
      (held r g (done.map (·.settle r g) ++ rest)) := by
  rw [held_append, held_append, List.append_assoc]
  calc
    List.Perm (held r g done ++ (held r g rest ++ added r g done))
        (held r g done ++ (added r g done ++ held r g rest)) :=
      List.perm_append_comm.append_left _
    List.Perm _ (held r g (done.map (·.settle r g)) ++ held r g rest) := by
      rw [← List.append_assoc]
      exact (held_settle r g done).symm.append_right _

theorem held_tried (r : Resolver) (g : Grammar) (ds : List Descriptor) :
    held r g (ds.map (Pending.tried r g)) = added r g (ds.map Pending.fresh) := by
  induction ds with
  | nil => rfl
  | cons d rest ih =>
    rw [List.map_cons, List.map_cons, held_cons, added_cons, ih]
    cases judged : r.verdict d.declaration g with
    | ok rule =>
      have gains := (Pending.fate_fresh_attached_iff r g d rule).2 judged
      rw [Pending.tried_of_ok judged, Pending.held_of_verdict rfl judged, gains]
      rfl
    | error fault =>
      have fails := (Pending.fate_fresh_failed_iff r g d fault).2 judged
      rw [Pending.tried_of_error judged, Pending.held_of_waiting rfl, fails]
      rfl

theorem settle_eq_tried {entries : List Pending} (good : StillGood r g entries) :
    entries.map (·.settle r g) = (entries.map (·.descriptor)).map (Pending.tried r g) := by
  rw [List.map_map]
  refine List.map_congr_left fun p member => ?_
  cases settled : p.status with
  | unresolved =>
    have fresh : p = Pending.fresh p.descriptor := by rw [Pending.fresh, ← settled]
    exact congrArg (·.settle r g) fresh
  | resolved =>
    -- It was resolved earlier, perhaps in a smaller grammar; tried now it would be resolved too.
    obtain ⟨rule, made⟩ := good p member settled
    have skipped := (p.fate_skipped_iff r g).2 settled
    have same : p.settle r g = p := by rw [Pending.settle, skipped]
    rw [same, Function.comp_apply, Pending.tried_of_ok made, ← settled]

end
namespace Builder

/-- The entries that are resolved would resolve now, and the states have gained the rules that
these get now, in some order. -/
structure Holds (g : Grammar) (r : Resolver) (b : Builder) : Prop where
  name : b.grammar.name = g.name
  good : StillGood r b.grammar b.queue
  rules : ∀ state, (b.grammar.rulesOf state).Perm
    (g.rulesOf state ++ ((held r b.grammar b.queue).filter (·.1 = state)).map (·.2))

theorem holds_ofGrammar (g : Grammar) (r : Resolver) : (ofGrammar g).Holds g r where
  name := rfl
  good := by simp [StillGood, ofGrammar]
  rules := by simp [held, ofGrammar]

section
variable {g : Grammar} {r : Resolver} {b : Builder}

theorem holds_mono {r' : Resolver} {g' : Grammar} (holds : b.Holds g r) (categories : r.Within r')
    (states : b.grammar.Within g') (name : g'.name = b.grammar.name)
    (rules : ∀ state, g'.rulesOf state = b.grammar.rulesOf state) :
    Holds g r' ⟨g', b.queue⟩ where
  name := name.trans holds.name
  good := stillGood_mono categories states holds.good
  rules := by
    intro state
    simp only [rules, held_mono categories states holds.good]
    exact holds.rules state

theorem holds_push (holds : b.Holds g r) (d : Descriptor) : (b.push d).Holds g r where
  name := holds.name
  good := by
    intro p member settled
    rcases List.mem_append.1 member with old | new
    · exact holds.good p old settled
    · rw [List.mem_singleton.1 new] at settled
      cases settled
  rules := by
    intro state
    have same : held r b.grammar (b.push d).queue = held r b.grammar b.queue := by
      rw [push, held_append, held_cons, Pending.held_of_waiting rfl]
      simp [held]
    simp only [push] at same ⊢
    rw [same]
    exact holds.rules state

theorem holds_pass (holds : b.Holds g r) (policy : FailurePolicy) :
    (b.resolvePending r policy).builder.Holds g r := by
  obtain ⟨done, rest, queue, builder⟩ := pass_split b r policy
  have alike := b.grammar.alike_attachAll (added r b.grammar done)
  have good := holds.good
  rw [queue] at good
  have tried : StillGood r b.grammar (done.map (·.settle r b.grammar) ++ rest) := by
    intro p member settled
    rcases List.mem_append.1 member with first | behind
    · exact stillGood_settle (fun q entry => good q (List.mem_append_left _ entry)) p first settled
    · exact good p (List.mem_append_right _ behind) settled
  rw [builder]
  constructor
  case name => exact (b.grammar.name_attachAll _).trans holds.name
  case good => exact stillGood_mono r.within_refl (Grammar.within_of_alike alike) tried
  case rules =>
    intro state
    have kept := held_pass r b.grammar done rest
    rw [← queue] at kept
    have chosen := (kept.filter (·.1 = state)).map (·.2)
    rw [List.filter_append, List.map_append] at chosen
    rw [held_congr alike, Grammar.rulesOf_attachAll added_declared]
    refine ((holds.rules state).append_right _).trans ?_
    rw [List.append_assoc]
    exact chosen.append_left _

/-- Collecting leaves what it leaves when all descriptors are fresh, the order of the rules within a
state apart. -/
theorem collect_holding (holds : b.Holds g r) (state : String) :
    ((b.resolvePending r .collect).builder.grammar.rulesOf state).Perm
      (g.rulesOf state ++ ((added r b.grammar
        ((b.queue.map (·.descriptor)).map Pending.fresh)).filter (·.1 = state)).map (·.2)) := by
  have after := holds_pass holds .collect
  have rules := after.rules state
  have builder := (collect_complete b r).2
  have alike := b.grammar.alike_attachAll (added r b.grammar b.queue)
  have queue : (b.resolvePending r .collect).builder.queue =
      (b.queue.map (·.descriptor)).map (Pending.tried r b.grammar) := by
    rw [builder]
    exact settle_eq_tried holds.good
  have grammar := congrArg Builder.grammar builder
  rwa [queue, grammar, held_congr alike, held_tried, ← grammar] at rules

theorem failures_holding (holds : b.Holds g r) :
    failuresFrom r b.grammar 0 b.queue =
      failuresFrom r b.grammar 0 ((b.queue.map (·.descriptor)).map Pending.fresh) := by
  rw [← failuresFrom_settled, settle_eq_tried holds.good, failuresFrom_tried]

end

end Builder

namespace Assembly

structure Grown (g : Grammar) (options : Pattern.Options) (states : List String)
    (ds : List Descriptor) (a : Assembly) : Prop where
  alike : (g.declareAll states).Alike a.builder.grammar
  descriptors : a.builder.queue.map (·.descriptor) = ds
  holds : a.builder.Holds g (a.resolver options)

section
variable {g : Grammar} {options : Pattern.Options} {states : List String} {ds : List Descriptor}
  {a : Assembly}

theorem grown_ofGrammar (g : Grammar) (options : Pattern.Options) (t : CategoryTable) :
    Grown g options [] [] ⟨.ofGrammar g, t⟩ where
  alike := fun _ => rfl
  descriptors := rfl
  holds := Builder.holds_ofGrammar g _

theorem grown_step (grown : Grown g options states ds a) (s : Step) :
    Grown g options (states ++ s.declared?.toList) (ds ++ s.queued?.toList) (a.step options s) := by
  cases s with
  | declare state =>
    constructor
    case alike =>
      intro name
      simp only [step, Builder.declare, Grammar.hasState_declare, grown.alike name,
        Grammar.hasState_declareAll, Step.declared?, Option.toList_some, List.mem_append,
        List.mem_singleton, Bool.decide_or, Bool.or_assoc]
    case descriptors => simpa [step, Builder.declare, Step.queued?] using grown.descriptors
    case holds =>
      exact Builder.holds_mono grown.holds (Resolver.within_refl _)
        (Grammar.within_declare a.builder.grammar state) rfl
        fun other => Grammar.rulesOf_declare a.builder.grammar state other
  | push d =>
    constructor
    case alike => simpa [step, Builder.push, Step.declared?] using grown.alike
    case descriptors => simp [step, Builder.push, Step.queued?, ← grown.descriptors]
    case holds => exact Builder.holds_push grown.holds d
  | register name supply =>
    constructor
    case alike => simpa [step, Step.declared?] using grown.alike
    case descriptors => simpa [step, Step.queued?] using grown.descriptors
    case holds =>
      exact Builder.holds_mono grown.holds
        (CategoryTable.within_register a.table options name supply)
        (Grammar.within_refl _) rfl fun _ => rfl
  | pass policy =>
    constructor
    case alike =>
      intro name
      simp only [step, Step.declared?, Option.toList_none, List.append_nil]
      exact (Builder.alike_pass a.builder _ policy name).trans (grown.alike name)
    case descriptors =>
      simp only [step, Step.queued?, Option.toList_none, List.append_nil]
      exact (Builder.descriptors_pass a.builder _ policy).trans grown.descriptors
    case holds => exact Builder.holds_pass grown.holds policy

theorem grown_run (grown : Grown g options states ds a) (steps : List Step) :
    Grown g options (states ++ steps.filterMap Step.declared?)
      (ds ++ steps.filterMap Step.queued?) (a.run options steps) := by
  induction steps generalizing a states ds with
  | nil => simpa [run] using grown
  | cons s later ih =>
    have reached := ih (grown_step grown s)
    have states' : s.declared?.toList ++ later.filterMap Step.declared? =
        (s :: later).filterMap Step.declared? := by
      cases told : s.declared? <;> simp [told]
    have ds' : s.queued?.toList ++ later.filterMap Step.queued? =
        (s :: later).filterMap Step.queued? := by
      cases told : s.queued? <;> simp [told]
    rwa [List.append_assoc, List.append_assoc, states', ds'] at reached

end

/- The other run makes the same declarations first, then queues the same descriptors in the same
   order, and then makes one pass with the categories that there are at the end. -/
theorem assembly_confluent (g : Grammar) (t : CategoryTable) (options : Pattern.Options)
    (steps : List Step) :
    let a := run options ⟨.ofGrammar g, t⟩ steps
    let states := steps.filterMap Step.declared?
    let ds := steps.filterMap Step.queued?
    let whole := (Builder.ofGrammar g).run (states.map .declare ++ ds.map .push)
    let last := a.builder.resolvePending (a.resolver options) .collect
    let once := whole.resolvePending (a.resolver options) .collect
    last.builder.grammar.name = once.builder.grammar.name ∧
      last.builder.grammar.stateNames = once.builder.grammar.stateNames ∧
      last.builder.queue = once.builder.queue ∧
      (∃ report report', last.outcome = .ok report ∧ once.outcome = .ok report' ∧
        report.failures = report'.failures) ∧
      ∀ state, (last.builder.grammar.rulesOf state).Perm (once.builder.grammar.rulesOf state) := by
  intro a states ds whole last once
  have grown : Grown g options states ds a := grown_run (grown_ofGrammar g options t) steps
  have whole_eq : whole = ⟨g.declareAll states, ds.map Pending.fresh⟩ := by
    simp [whole, Builder.run_append, Builder.run_declares, Builder.run_pushes, Builder.ofGrammar]
  have alike : whole.grammar.Alike a.builder.grammar := by
    rw [whole_eq]
    exact grown.alike
  have fresh : whole.queue = ds.map Pending.fresh := by rw [whole_eq]
  obtain ⟨outcome, builder⟩ := Builder.collect_complete a.builder (a.resolver options)
  have outcome' := (Builder.collect_complete whole (a.resolver options)).1
  have builder' := Builder.collect_fresh fresh (a.resolver options)
  refine ⟨?_, ?_, ?_, ⟨_, _, outcome, outcome', ?_⟩, ?_⟩
  · have name := (Builder.holds_pass grown.holds .collect).name
    rw [name, builder', Grammar.name_attachAll, whole_eq, Grammar.name_declareAll]
  · have names := Grammar.stateNames_of_alike
      (Builder.alike_pass a.builder (a.resolver options) .collect)
    have names' := Grammar.stateNames_of_alike
      (Builder.alike_pass whole (a.resolver options) .collect)
    exact names.trans ((Grammar.stateNames_of_alike alike).trans names'.symm)
  · have queue : last.builder.queue =
        a.builder.queue.map (·.settle (a.resolver options) a.builder.grammar) :=
      congrArg Builder.queue builder
    rw [queue, settle_eq_tried grown.holds.good, grown.descriptors, builder']
    exact List.map_congr_left fun d _ => Pending.tried_congr alike (a.resolver options) d
  · simp only [Report.after, List.nil_append]
    rw [Builder.failures_holding grown.holds, grown.descriptors, fresh, failuresFrom_congr alike]
  · intro state
    have rules := Builder.collect_holding grown.holds state
    rw [grown.descriptors, added_congr alike] at rules
    rw [builder', Grammar.rulesOf_attachAll added_declared, whole_eq, Grammar.rulesOf_declareAll]
    rwa [whole_eq] at rules

end Assembly
end LexicalGrammar
