import LexicalGrammar.Proofs.Pass

/-
A pass that collects gives every entry the verdict that it would get alone, in a grammar that has
the same states and no rules. What the entries before it attach makes no difference.
-/
namespace LexicalGrammar
variable [Pattern.Dialect]

/-- Resolves a descriptor alone, in a new grammar that has states but no rules. -/
def Resolver.alone (r : Resolver) (name : String) (states : List String) (d : Descriptor) :
    Resolver.Attempt :=
  r.resolve d.declaration (Grammar.withStates name states)

theorem Grammar.alike_withStates (g : Grammar) (name : String) :
    g.Alike (Grammar.withStates name g.stateNames) :=
  fun other => Grammar.hasState_withStates_names name g other

namespace Resolver
variable {r : Resolver} {g : Grammar} {d : Descriptor}

theorem alone_outcome (r : Resolver) (g : Grammar) (name : String) (d : Descriptor) :
    (r.alone name g.stateNames d).outcome = (r.verdict d.declaration g).map fun _ => () := by
  unfold alone
  rw [resolve_outcome, verdict_congr (g.alike_withStates name)]

theorem alone_ok_iff (name : String) : (r.alone name g.stateNames d).outcome = .ok () ↔
    ∃ rule, r.verdict d.declaration g = .ok rule := by
  rw [alone_outcome]
  cases r.verdict d.declaration g <;> simp [Except.map]

theorem alone_error_iff (name : String) (fault : ResolveFault) :
    (r.alone name g.stateNames d).outcome = .error fault ↔
      r.verdict d.declaration g = .error fault := by
  rw [alone_outcome]
  cases r.verdict d.declaration g <;> simp [Except.map]

theorem alone_rules_of_ok {rule : Rule} (made : r.verdict d.declaration g = .ok rule)
    (name state : String) : (r.alone name g.stateNames d).grammar.rulesOf state =
      if d.rule.state = state then [rule] else [] := by
  have alone := (verdict_congr (g.alike_withStates name) r d).trans made
  have declared := declared_of_verdict alone
  unfold Resolver.alone
  rw [(resolve_of_ok alone).2, Grammar.rulesOf_attach declared, Grammar.rulesOf_withStates]
  rfl

theorem alone_rules_of_error {fault : ResolveFault}
    (refused : r.verdict d.declaration g = .error fault) (name state : String) :
    (r.alone name g.stateNames d).grammar.rulesOf state = [] := by
  have alone := (verdict_congr (g.alike_withStates name) r d).trans refused
  unfold Resolver.alone
  rw [(resolve_of_error alone).2, Grammar.rulesOf_withStates]

end Resolver

theorem added_eq_alone (r : Resolver) (g : Grammar) (name state : String)
    (entries : List Pending) :
    ((added r g entries).filter (·.1 = state)).map (·.2) =
      (entries.filter (·.status = .unresolved)).flatMap fun p =>
        (r.alone name g.stateNames p.descriptor).grammar.rulesOf state := by
  induction entries with
  | nil => rfl
  | cons p rest ih =>
    rw [added_cons, List.filter_append, List.map_append, ih]
    cases judged : p.fate r g with
    | skipped =>
      have settled := (Pending.fate_skipped_iff p r g).1 judged
      simp [Fate.rule?, settled]
    | attached rule =>
      obtain ⟨waiting, made⟩ := (Pending.fate_attached_iff p r g rule).1 judged
      have alone := Resolver.alone_rules_of_ok made name state
      by_cases same : p.descriptor.rule.state = state
      · simp [Fate.rule?, waiting, alone, same]
      · simp [Fate.rule?, waiting, alone, same]
    | failed fault =>
      obtain ⟨waiting, refused⟩ := (Pending.fate_failed_iff p r g fault).1 judged
      simp [Fate.rule?, waiting, Resolver.alone_rules_of_error refused]

theorem rulesOf_added (r : Resolver) (g : Grammar) (name state : String)
    (entries : List Pending) : (g.attachAll (added r g entries)).rulesOf state =
      g.rulesOf state ++ (entries.filter (·.status = .unresolved)).flatMap fun p =>
        (r.alone name g.stateNames p.descriptor).grammar.rulesOf state := by
  rw [Grammar.rulesOf_attachAll added_declared, added_eq_alone r g name]

theorem settle_resolved_iff_alone (p : Pending) (r : Resolver) (g : Grammar) (name : String) :
    (p.settle r g).status = .resolved ↔ p.status = .resolved ∨
      (r.alone name g.stateNames p.descriptor).outcome = .ok () := by
  rw [Pending.settle_resolved_iff, Resolver.alone_ok_iff]
  cases settled : p.status with
  | resolved => simp
  | unresolved => simp [Pending.fate_attached_iff, settled]

theorem mem_failures_iff_alone (r : Resolver) (g : Grammar) (name : String)
    (entries : List Pending) (f : Failure) : f ∈ failuresFrom r g 0 entries ↔
      ∃ p, entries[f.index]? = some p ∧ p.status = .unresolved ∧
        (r.alone name g.stateNames p.descriptor).outcome = .error f.fault ∧
        f.descriptor = p.descriptor.describe := by
  simp only [mem_failuresFrom, Pending.fate_failed_iff, Resolver.alone_error_iff, and_assoc]

namespace Builder

theorem collect_complete (b : Builder) (r : Resolver) :
    (b.resolvePending r .collect).outcome = .ok (Report.after {} r b.grammar 0 b.queue) ∧
    (b.resolvePending r .collect).builder =
      ⟨b.grammar.attachAll (added r b.grammar b.queue), b.queue.map (·.settle r b.grammar)⟩ :=
  pass_complete fun aborts => by cases aborts

/-- What a pass has done, entry by entry and state by state, told by what each entry does alone. -/
structure Collected (b : Builder) (alone : Pending → Resolver.Attempt) (report : Report)
    (after : Builder) : Prop where
  size : after.size = b.size
  entries : ∀ (i : Nat) (p : Pending), b.queue[i]? = some p →
    ∃ q, after.queue[i]? = some q ∧ q.descriptor = p.descriptor ∧
      (q.status = .resolved ↔ p.status = .resolved ∨ (alone p).outcome = .ok ())
  name : after.grammar.name = b.grammar.name
  stateNames : after.grammar.stateNames = b.grammar.stateNames
  rules : ∀ state, after.grammar.rulesOf state = b.grammar.rulesOf state ++
    (b.queue.filter (·.status = .unresolved)).flatMap fun p => (alone p).grammar.rulesOf state
  oneRule : ∀ p ∈ b.queue, (alone p).outcome = .ok () → ∃ rule, ∀ state,
    (alone p).grammar.rulesOf state = if p.descriptor.rule.state = state then [rule] else []
  noRule : ∀ p ∈ b.queue, ∀ fault, (alone p).outcome = .error fault → ∀ state,
    (alone p).grammar.rulesOf state = []
  ascending : report.failures.Pairwise (·.index < ·.index)
  failures : ∀ f, f ∈ report.failures ↔ ∃ p, b.queue[f.index]? = some p ∧
    p.status = .unresolved ∧ (alone p).outcome = .error f.fault ∧
    f.descriptor = p.descriptor.describe
  total : report.attached + report.skipped + report.failures.length = b.size
  skipped : report.skipped = b.queue.countP (·.status = .resolved)
  resolved : after.queue.countP (·.status = .resolved) = report.skipped + report.attached
  ruleCount : after.grammar.ruleCount = b.grammar.ruleCount + report.attached

/- Collecting always succeeds. Each entry keeps its place and its descriptor; it is resolved
   afterwards if it was before or if it resolves alone. Each state gets, in the order of the queue,
   the rules that the unresolved entries get there alone, which is one rule for each that resolves,
   in the state that it names. The report lists the entries that fail, by place, each with the
   fault that it meets alone, and it counts every entry once. -/
theorem collect_equals_separate_attempts (b : Builder) (r : Resolver) (name : String) :
    ∃ report, (b.resolvePending r .collect).outcome = .ok report ∧
      b.Collected (fun p => r.alone name b.grammar.stateNames p.descriptor) report
        (b.resolvePending r .collect).builder := by
  obtain ⟨outcome, builder⟩ := collect_complete b r
  refine ⟨_, outcome, ?_⟩
  rw [builder]
  constructor
  case size => simp [Builder.size]
  case entries =>
    intro i p place
    refine ⟨p.settle r b.grammar, by simp [place], p.settle_descriptor r b.grammar, ?_⟩
    exact settle_resolved_iff_alone p r b.grammar name
  case name => exact b.grammar.name_attachAll _
  case stateNames => exact b.grammar.stateNames_attachAll _
  case rules => exact fun state => rulesOf_added r b.grammar name state b.queue
  case oneRule =>
    intro p _ succeeds
    obtain ⟨rule, made⟩ := (Resolver.alone_ok_iff name).1 succeeds
    exact ⟨rule, Resolver.alone_rules_of_ok made name⟩
  case noRule =>
    intro p _ fault fails
    exact Resolver.alone_rules_of_error ((Resolver.alone_error_iff name fault).1 fails) name
  case ascending => simpa [Report.after] using failuresFrom_ascending r b.grammar 0 b.queue
  case failures =>
    intro f
    simpa [Report.after] using mem_failures_iff_alone r b.grammar name b.queue f
  case total => simpa [Report.after, Builder.size] using length_eq_fates r b.grammar 0 b.queue
  case skipped => simp [Report.after]
  case resolved =>
    have counted := countP_settle r b.grammar b.queue
    simpa [Report.after] using counted
  case ruleCount =>
    rw [Grammar.ruleCount_attachAll added_declared]
    simp [Report.after]

end Builder
end LexicalGrammar
