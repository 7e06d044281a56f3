import LexicalGrammar.Proofs.Queue

/-
Passes with one resolver over a queue that grows between them, while the states stay the same. How
the queue is cut into passes does not show: the entries that are resolved are at any time the first
ones of those that resolve at all.
-/
namespace LexicalGrammar
variable [Pattern.Dialect]

/-- What can be done while the states and the resolver stay the same. -/
inductive Turn where
  | push (d : Descriptor)
  | pass (policy : FailurePolicy)

namespace Turn

def operation (r : Resolver) : Turn → Operation
  | .push d => .push d
  | .pass policy => .pass r policy

def queued? : Turn → Option Descriptor
  | .push d => some d
  | .pass _ => none

end Turn

structure Gain where
  index : Nat
  state : String
  rule : Rule

structure GoodEntries (r : Resolver) (g : Grammar) (queue : List Pending) (good : List Gain) :
    Prop where
  ascending : good.Pairwise (·.index < ·.index)
  complete : ∀ (i : Nat) (p : Pending), queue[i]? = some p →
    (r.resolve p.descriptor.declaration g).outcome = .ok () → ∃ x ∈ good, x.index = i
  sound : ∀ x ∈ good, ∃ p, queue[x.index]? = some p ∧ x.state = p.descriptor.rule.state ∧
    (r.resolve p.descriptor.declaration g).outcome = .ok () ∧
    g.Gains x.state x.rule (r.resolve p.descriptor.declaration g).grammar

def gainsFrom (r : Resolver) (g : Grammar) (index : Nat) (ds : List Descriptor) : List Gain :=
  gather (fun i p => (p.fate r g).rule?.map (⟨i, p.descriptor.rule.state, ·⟩)) index
    (ds.map Pending.fresh)

section
variable (r : Resolver) (g : Grammar)

theorem gainsFrom_append (index : Nat) (first second : List Descriptor) :
    gainsFrom r g index (first ++ second) =
      gainsFrom r g index first ++ gainsFrom r g (index + first.length) second := by
  simp [gainsFrom, gather_append]

theorem gainsFrom_ascending (index : Nat) (ds : List Descriptor) :
    (gainsFrom r g index ds).Pairwise (·.index < ·.index) := by
  refine gather_ascending _ Gain.index (fun {i p x} given => ?_) index (ds.map Pending.fresh)
  obtain ⟨rule, _, made⟩ := Option.map_eq_some_iff.1 given
  subst made
  rfl

theorem mem_gainsFrom (ds : List Descriptor) (x : Gain) : x ∈ gainsFrom r g 0 ds ↔
    ∃ d, ds[x.index]? = some d ∧ x.state = d.rule.state ∧
      r.verdict d.declaration g = .ok x.rule := by
  unfold gainsFrom
  rw [mem_gather]
  constructor
  · rintro ⟨i, p, entry, given⟩
    obtain ⟨rule, gets, made⟩ := Option.map_eq_some_iff.1 given
    rw [List.getElem?_map] at entry
    obtain ⟨d, place, rfl⟩ := Option.map_eq_some_iff.1 entry
    subst made
    refine ⟨d, place, rfl, (Pending.fate_fresh_attached_iff r g d rule).1 ?_⟩
    cases judged : (Pending.fresh d).fate r g <;> simp_all [Fate.rule?]
  · rintro ⟨d, place, state, made⟩
    have judged := (Pending.fate_fresh_attached_iff r g d x.rule).2 made
    refine ⟨x.index, .fresh d, by simp [place], ?_⟩
    have here : (Pending.fresh d).descriptor.rule.state = x.state := state.symm
    rw [judged, here]
    rfl

theorem added_eq_gains (index : Nat) (ds : List Descriptor) :
    added r g (ds.map Pending.fresh) =
      (gainsFrom r g index ds).map fun x => (x.state, x.rule) := by
  unfold gainsFrom
  induction ds generalizing index with
  | nil => rfl
  | cons d rest ih =>
    rw [List.map_cons, added_cons, gather_cons, List.map_append, ← ih (index + 1)]
    cases ((Pending.fresh d).fate r g).rule? <;> rfl

theorem goodEntries_gains (queue : List Pending) :
    GoodEntries r g queue (gainsFrom r g 0 (queue.map (·.descriptor))) where
  ascending := gainsFrom_ascending r g 0 _
  complete := by
    intro i p entry succeeds
    cases judged : r.verdict p.descriptor.declaration g with
    | error fault => simp [(Resolver.resolve_of_error judged).1] at succeeds
    | ok rule =>
      refine ⟨⟨i, p.descriptor.rule.state, rule⟩, ?_, rfl⟩
      exact (mem_gainsFrom r g _ _).2 ⟨p.descriptor, by simp [entry], rfl, judged⟩
  sound := by
    intro x member
    obtain ⟨d, place, state, made⟩ := (mem_gainsFrom r g _ x).1 member
    rw [List.getElem?_map] at place
    obtain ⟨p, entry, rfl⟩ := Option.map_eq_some_iff.1 place
    obtain ⟨outcome, grammar⟩ := Resolver.resolve_of_ok made
    refine ⟨p, entry, state, outcome, ?_⟩
    rw [grammar, state]
    exact Grammar.gains_attach (Resolver.declared_of_verdict made) x.rule

end

namespace Builder

/-- The first descriptors were tried in the grammar that there was at first, the others are as they
were queued. -/
structure Tried (r : Resolver) (g : Grammar) (done rest : List Descriptor) (b : Builder) :
    Prop where
  queue : b.queue = done.map (Pending.tried r g) ++ rest.map Pending.fresh
  grammar : b.grammar = g.attachAll (added r g (done.map Pending.fresh))

section
variable {r : Resolver} {g : Grammar} {done rest : List Descriptor} {b : Builder}

theorem tried_descriptors (tried : b.Tried r g done rest) :
    b.queue.map (·.descriptor) = done ++ rest := by
  simp [tried.queue, Pending.tried_descriptor, Pending.fresh, Function.comp_def]

theorem tried_alike (tried : b.Tried r g done rest) : g.Alike b.grammar := by
  rw [tried.grammar]
  exact g.alike_attachAll _

theorem tried_unique {b' : Builder} (tried : b.Tried r g done rest)
    (tried' : b'.Tried r g done rest) : b = b' := by
  obtain ⟨grammar, queue⟩ := b
  obtain ⟨grammar', queue'⟩ := b'
  have sameQueue : queue = queue' := tried.queue.trans tried'.queue.symm
  have sameGrammar : grammar = grammar' := tried.grammar.trans tried'.grammar.symm
  rw [sameQueue, sameGrammar]

theorem tried_push (tried : b.Tried r g done rest) (d : Descriptor) :
    (b.push d).Tried r g done (rest ++ [d]) where
  queue := by simp [push, tried.queue, Pending.fresh]
  grammar := tried.grammar

theorem tried_more {more : List Descriptor} {after : Builder}
    (tried : b.Tried r g done (more ++ rest))
    (grammar : after.grammar = b.grammar.attachAll
      (added r b.grammar (done.map (Pending.tried r g) ++ more.map Pending.fresh)))
    (queue : after.queue = (done.map (Pending.tried r g) ++ more.map Pending.fresh).map
      (·.settle r b.grammar) ++ rest.map Pending.fresh) :
    after.Tried r g (done ++ more) rest where
  queue := by
    simp only [queue, Pending.settle_congr (tried_alike tried), List.map_append]
    rw [settle_tried, settle_fresh]
  grammar := by
    rw [grammar, added_congr (tried_alike tried), added_append, added_tried, tried.grammar,
      List.nil_append, ← Grammar.attachAll_append, ← added_append, List.map_append]

theorem tried_again {again others : List Descriptor} {after : Builder}
    (tried : b.Tried r g (again ++ others) rest)
    (grammar : after.grammar = b.grammar.attachAll
      (added r b.grammar (again.map (Pending.tried r g))))
    (queue : after.queue = (again.map (Pending.tried r g)).map (·.settle r b.grammar) ++
      (others.map (Pending.tried r g) ++ rest.map Pending.fresh)) :
    after.Tried r g (again ++ others) rest where
  queue := by
    simp only [queue, Pending.settle_congr (tried_alike tried)]
    rw [settle_tried, List.map_append, List.append_assoc]
  grammar := by
    rw [grammar, added_congr (tried_alike tried), added_tried, tried.grammar]
    rfl

/- A pass that aborts may end before the place that an earlier one has reached, at an entry that
   had failed there already. -/
theorem tried_pass (tried : b.Tried r g done rest) (policy : FailurePolicy) :
    ∃ done' rest', done' ++ rest' = done ++ rest ∧
      (b.resolvePending r policy).builder.Tried r g done' rest' := by
  obtain ⟨first, behind, queue, builder⟩ := pass_split b r policy
  have grammar := congrArg Builder.grammar builder
  have left := congrArg Builder.queue builder
  rw [tried.queue] at queue
  rcases List.append_eq_append_iff.1 queue with ⟨tail, split, tail_eq⟩ | ⟨tail, split, tail_eq⟩
  · -- It ends behind the descriptors that were tried.
    obtain ⟨more, rest', rfl, rfl, rfl⟩ := List.map_eq_append_iff.1 tail_eq
    subst split
    exact ⟨done ++ more, rest', by simp, tried_more tried grammar left⟩
  · -- It ends among them, so it finds no rule.
    obtain ⟨again, others, rfl, rfl, rfl⟩ := List.map_eq_append_iff.1 split
    subst tail_eq
    exact ⟨again ++ others, rest, rfl, tried_again tried grammar left⟩

theorem tried_collect (tried : b.Tried r g done rest) :
    (b.resolvePending r .collect).builder.Tried r g (done ++ rest) [] := by
  have builder := (collect_complete b r).2
  have all : b.Tried r g done (rest ++ []) := by simpa using tried
  refine tried_more all ?_ ?_
  · rw [builder, tried.queue]
  · rw [builder, tried.queue]
    simp

theorem tried_turn (tried : b.Tried r g done rest) (turn : Turn) : ∃ done' rest',
    done' ++ rest' = done ++ rest ++ turn.queued?.toList ∧
      (b.step (turn.operation r)).Tried r g done' rest' := by
  cases turn with
  | push d => exact ⟨done, rest ++ [d], by simp [Turn.queued?], tried_push tried d⟩
  | pass policy =>
    obtain ⟨done', rest', same, after⟩ := tried_pass tried policy
    exact ⟨done', rest', by simpa [Turn.queued?] using same, after⟩

/- Induction on the turns still to come, from any place that was reached. -/
theorem tried_turns (tried : b.Tried r g done rest) (turns : List Turn) : ∃ done' rest',
    done' ++ rest' = done ++ rest ++ turns.filterMap Turn.queued? ∧
      (b.run (turns.map (·.operation r))).Tried r g done' rest' := by
  induction turns generalizing b done rest with
  | nil => exact ⟨done, rest, by simp, tried⟩
  | cons turn later ih =>
    obtain ⟨done₁, rest₁, queued, reached⟩ := tried_turn tried turn
    obtain ⟨done₂, rest₂, queued', reached'⟩ := ih reached
    refine ⟨done₂, rest₂, ?_, reached'⟩
    rw [queued', queued, List.append_assoc]
    cases told : turn.queued? <;> simp [told]

end

theorem tried_pushes (r : Resolver) (g : Grammar) (ds : List Descriptor) :
    ((ofGrammar g).run (ds.map .push)).Tried r g [] ds := by
  rw [run_pushes]
  exact ⟨rfl, rfl⟩

theorem goodEntries_of_tried {r : Resolver} {g : Grammar} {done rest : List Descriptor}
    {b : Builder} (tried : b.Tried r g done rest) :
    GoodEntries r g b.queue (gainsFrom r g 0 (done ++ rest)) := by
  rw [← tried_descriptors tried]
  exact goodEntries_gains r g b.queue

/-- The first entries of those that resolve are resolved and no others, and each state has gained
their rules, in their order. -/
structure FirstResolved (g : Grammar) (good : List Gain) (count : Nat) (b : Builder) : Prop where
  within : count ≤ good.length
  resolved : ∀ i, b.status? i = some .resolved ↔ ∃ x ∈ good.take count, x.index = i
  name : b.grammar.name = g.name
  stateNames : b.grammar.stateNames = g.stateNames
  rules : ∀ state, b.grammar.rulesOf state =
    g.rulesOf state ++ ((good.take count).filter (·.state = state)).map (·.rule)

theorem resolved_of_tried {r : Resolver} {g : Grammar} {done rest : List Descriptor} {b : Builder}
    (tried : b.Tried r g done rest) (i : Nat) :
    b.status? i = some .resolved ↔ ∃ x ∈ gainsFrom r g 0 done, x.index = i := by
  simp only [status?, tried.queue]
  by_cases before : i < done.length
  · have inside : i < (done.map (Pending.tried r g)).length := by simpa using before
    have entry : done[i]? = some done[i] := List.getElem?_eq_getElem before
    rw [List.getElem?_append_left inside, List.getElem?_map, entry]
    simp only [Option.map_some, Option.some.injEq]
    rw [Pending.tried_resolved_iff]
    constructor
    · rintro ⟨rule, made⟩
      exact ⟨⟨i, done[i].rule.state, rule⟩, (mem_gainsFrom r g done _).2 ⟨_, entry, rfl, made⟩, rfl⟩
    · rintro ⟨x, member, rfl⟩
      obtain ⟨d, place, _, made⟩ := (mem_gainsFrom r g done x).1 member
      obtain rfl : done[x.index] = d := Option.some.inj (entry.symm.trans place)
      exact ⟨x.rule, made⟩
  · have behind : (done.map (Pending.tried r g)).length ≤ i := by simpa using before
    rw [List.getElem?_append_right behind, List.getElem?_map]
    constructor
    · intro settled
      obtain ⟨p, entry, status⟩ := Option.map_eq_some_iff.1 settled
      obtain ⟨d, _, rfl⟩ := Option.map_eq_some_iff.1 entry
      cases status
    · rintro ⟨x, member, rfl⟩
      obtain ⟨d, place, _⟩ := (mem_gainsFrom r g done x).1 member
      exact absurd (List.getElem?_eq_some_iff.1 place).1 before

theorem firstResolved_of_tried {r : Resolver} {g : Grammar} {done rest : List Descriptor}
    {b : Builder} (tried : b.Tried r g done rest) :
    b.FirstResolved g (gainsFrom r g 0 (done ++ rest)) (gainsFrom r g 0 done).length := by
  have first : (gainsFrom r g 0 (done ++ rest)).take (gainsFrom r g 0 done).length =
      gainsFrom r g 0 done := by
    rw [gainsFrom_append, List.take_left]
  constructor
  case within =>
    rw [gainsFrom_append, List.length_append]
    omega
  case resolved => simpa only [first] using resolved_of_tried tried
  case name => rw [tried.grammar, Grammar.name_attachAll]
  case stateNames => rw [tried.grammar, Grammar.stateNames_attachAll]
  case rules =>
    intro state
    rw [first, tried.grammar, Grammar.rulesOf_attachAll added_declared, added_eq_gains r g 0]
    simp [List.filter_map, Function.comp_def]

/-- Collecting twice in a row does what collecting once does, and tells of the same failures. -/
theorem collect_twice (b : Builder) (r : Resolver) :
    let collected := b.resolvePending r .collect
    let again := collected.builder.resolvePending r .collect
    again.builder = collected.builder ∧
      ∃ report report', collected.outcome = .ok report ∧ again.outcome = .ok report' ∧
        report'.attached = 0 ∧ report'.failures = report.failures := by
  intro collected again
  obtain ⟨outcome, builder⟩ := collect_complete b r
  obtain ⟨outcome', builder'⟩ := collect_complete collected.builder r
  have alike : b.grammar.Alike collected.builder.grammar := alike_pass b r .collect
  have settled : collected.builder.queue = b.queue.map (·.settle r b.grammar) :=
    congrArg Builder.queue builder
  have nothing : added r collected.builder.grammar collected.builder.queue = [] := by
    rw [added_congr alike, settled, added_settled]
  refine ⟨builder'.trans ?_, _, _, outcome, outcome', ?_, ?_⟩
  · simp only [nothing, Pending.settle_congr alike]
    rw [settled, settle_settled, ← settled]
    rfl
  · simp [Report.after, nothing]
  · simp only [Report.after]
    rw [failuresFrom_congr alike, settled, failuresFrom_settled]

/- At every point of a run the resolved entries are the first ones of those that resolve in the
   grammar that there was at first, and each state has its first rules and then theirs, in the order
   of the queue. When a pass collects, these are all entries that resolve, so the builder is the one
   that one such pass makes of all descriptors together. Collecting again finds nothing to do and
   tells of the same failures. -/
theorem slices_leave_no_trace (g : Grammar) (r : Resolver) (turns : List Turn) :
    let b := (ofGrammar g).run (turns.map (·.operation r))
    let whole := (ofGrammar g).run ((turns.filterMap Turn.queued?).map .push)
    let collected := b.resolvePending r .collect
    let again := collected.builder.resolvePending r .collect
    b.queue.map (·.descriptor) = turns.filterMap Turn.queued? ∧
    ∃ good, GoodEntries r g b.queue good ∧ GoodEntries r g collected.builder.queue good ∧
      (∃ count, b.FirstResolved g good count) ∧
      collected.builder.FirstResolved g good good.length ∧
      collected.builder = (whole.resolvePending r .collect).builder ∧
      again.builder = collected.builder ∧
      ∃ report report', collected.outcome = .ok report ∧ again.outcome = .ok report' ∧
        report'.attached = 0 ∧ report'.failures = report.failures := by
  intro b whole collected again
  have start : (ofGrammar g).Tried r g [] [] := ⟨rfl, rfl⟩
  obtain ⟨done, rest, queued, tried⟩ := tried_turns start turns
  have all : collected.builder.Tried r g (done ++ rest) [] := tried_collect tried
  have once : (whole.resolvePending r .collect).builder.Tried r g (done ++ rest) [] := by
    simpa [queued] using tried_collect (tried_pushes r g (turns.filterMap Turn.queued?))
  obtain ⟨same, reports⟩ := collect_twice b r
  refine ⟨(tried_descriptors tried).trans queued, ?_⟩
  refine ⟨gainsFrom r g 0 (done ++ rest), goodEntries_of_tried tried, ?_,
    ⟨_, firstResolved_of_tried tried⟩, ?_, ?_, same, reports⟩
  · simpa using goodEntries_of_tried all
  · simpa using firstResolved_of_tried all
  · exact tried_unique all once

end Builder
end LexicalGrammar
