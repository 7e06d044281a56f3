import LexicalGrammar.Proofs.KnownNames

/-
What a pass tells. For each entry that is tried there is the warning about its groups, if they do
not fit, and then how it ended; a pass that is not stopped closes with its report. So the log of a
pass can be read back: it says which rules were attached and which entries failed.
-/
namespace LexicalGrammar
variable [Pattern.Dialect]

structure Event.Says (e : Event) (level : Level) (message : String)
    (fields : List (String × Event.Value)) : Prop where
  level : e.level = level
  message : e.message = message
  fields : e.fields = fields

def FailurePolicy.failureLevel : FailurePolicy → Level
  | .abort => .debug
  | .collect => .warn

def FailurePolicy.failureMessage : FailurePolicy → String
  | .abort => "aborting grammar build"
  | .collect => "rule failed to resolve"

def Failure.fields (f : Failure) : List (String × Event.Value) :=
  [("index", .number f.index), ("descriptor", .shown f.descriptor),
    ("error", .shown f.fault.message)]

/-- State, pattern and categories of a descriptor were found. There are several categories, but not
as many as the pattern has groups. Where the rule leads to is not asked. -/
structure Misfit (r : Resolver) (g : Grammar) (d : Descriptor) (p : Pattern.Compiled) : Prop where
  declared : g.hasState d.rule.state = true
  compiled : Pattern.compile d.rule.pattern r.options = .ok p
  known : ∀ name ∈ d.rule.categories, (r.lookup name).isSome = true
  several : 1 < d.rule.categories.length
  different : d.rule.categories.length ≠ p.groups

inductive Warning (r : Resolver) (g : Grammar) (d : Descriptor) : List Event → Prop where
  | told {p : Pattern.Compiled} {e : Event} : Misfit r g d p →
      e.Says .warn "category count does not match capture group count"
        [("state", .text d.rule.state), ("pattern", .text d.rule.pattern),
          ("categories", .number d.rule.categories.length), ("groups", .number p.groups)] →
      Warning r g d [e]
  | silent : (∀ p, ¬ Misfit r g d p) → Warning r g d []

/-- What is told of the entry at a place, with the entry before and after the pass. -/
inductive EntryLog (r : Resolver) (policy : FailurePolicy) (g : Grammar) (index : Nat) :
    Pending → Pending → List Event → Prop where
  | skipped {d : Descriptor} : EntryLog r policy g index ⟨d, .resolved⟩ ⟨d, .resolved⟩ []
  | attached {d : Descriptor} {warning : List Event} {e : Event} : Warning r g d warning →
      (r.resolve d.declaration g).outcome = .ok () →
      e.Says .debug "attached rule" [("grammar", .text g.name), ("state", .text d.rule.state),
        ("pattern", .text d.rule.pattern)] →
      EntryLog r policy g index ⟨d, .unresolved⟩ ⟨d, .resolved⟩ (warning ++ [e])
  | failed {d : Descriptor} {warning : List Event} {e : Event} {fault : ResolveFault} :
      Warning r g d warning → (r.resolve d.declaration g).outcome = .error fault →
      e.Says policy.failureLevel policy.failureMessage (Failure.fields ⟨index, d.describe, fault⟩) →
      EntryLog r policy g index ⟨d, .unresolved⟩ ⟨d, .unresolved⟩ (warning ++ [e])

/-- What is told at the end: the report, unless there is none. -/
inductive Closing (g : Grammar) : Except Failure Report → List Event → Prop where
  | finished {report : Report} {e : Event} :
      e.Says .debug "resolution pass finished" [("grammar", .text g.name),
        ("attached", .number report.attached), ("skipped", .number report.skipped),
        ("failed", .number report.failures.length)] → Closing g (.ok report) [e]
  | stopped {failure : Failure} : Closing g (.error failure) []

theorem misfit_congr {g g' : Grammar} (alike : g.Alike g') (r : Resolver) (d : Descriptor)
    (p : Pattern.Compiled) : Misfit r g' d p ↔ Misfit r g d p := by
  have same := alike d.rule.state
  constructor
  · intro misfit
    exact { misfit with declared := same.symm.trans misfit.declared }
  · intro misfit
    exact { misfit with declared := same.trans misfit.declared }

theorem warning_congr {g g' : Grammar} (alike : g.Alike g') {r : Resolver} {d : Descriptor}
    {told : List Event} (warning : Warning r g' d told) : Warning r g d told := by
  cases warning with
  | told misfit worded => exact .told ((misfit_congr alike r d _).1 misfit) worded
  | silent fits => exact .silent fun p misfit => fits p ((misfit_congr alike r d p).2 misfit)

namespace Resolver
variable {r : Resolver} {d : Descriptor} {g : Grammar}

/- Where everything was found, the categories that are counted are as many as their names. -/
theorem warning_mismatch {p : Pattern.Compiled} {cs : List Category}
    (ready : r.Ready d.declaration g p cs) : Warning r g d (mismatch d.declaration p cs) := by
  have number : d.rule.categories.length = cs.length := by
    simpa [Descriptor.declaration] using congrArg List.length ready.found
  have source : p.source = d.rule.pattern := (Pattern.of_compile ready.compiled).1
  unfold mismatch
  split
  · next uneven =>
    rw [source, ← number]
    rw [← number] at uneven
    refine .told ⟨ready.declared, ready.compiled, ?_, uneven.1, uneven.2⟩ ⟨rfl, rfl, rfl⟩
    intro name member
    have found : r.lookup name ∈ cs.map some := by
      rw [← ready.found]
      exact List.mem_map_of_mem member
    obtain ⟨c, _, same⟩ := List.mem_map.1 found
    rw [← same]
    rfl
  · next even =>
    refine .silent fun q misfit => even ?_
    obtain rfl : p = q := Except.ok.inj (ready.compiled.symm.trans misfit.compiled)
    rw [← number]
    exact ⟨misfit.several, misfit.different⟩

/- Up to the categories nothing is told, and what is missing there keeps the descriptor from being a
   misfit. -/
theorem refused_or_attach (r : Resolver) (d : Descriptor) (g : Grammar) :
    (∃ fault, r.resolve d.declaration g = ⟨.error fault, g, []⟩ ∧ ∀ p, ¬ Misfit r g d p) ∨
      ∃ p cs, r.Ready d.declaration g p cs ∧
        r.resolve d.declaration g = attach d.declaration g p cs := by
  cases declared : g.hasState d.declaration.state with
  | false =>
    have missing := Grammar.state_of_missing declared
    refine Or.inl ⟨.stateNotFound d.rule.state, ?_, fun p misfit => ?_⟩
    · simp only [resolve, missing]
      rfl
    · exact Bool.false_ne_true (declared.symm.trans misfit.declared)
  | true =>
    obtain ⟨s, _, looked⟩ := Grammar.state_of_hasState declared
    cases compiled : Pattern.compile d.declaration.pattern r.options with
    | error cause =>
      refine Or.inl ⟨.patternSyntax d.rule.pattern cause, ?_, fun p misfit => ?_⟩
      · simp only [resolve, looked, compiled]
        rfl
      · cases compiled.symm.trans misfit.compiled
    | ok p =>
      cases unknown : r.firstUnknown? d.declaration.categories with
      | some name =>
        have found := categories_of_unknown unknown
        refine Or.inl ⟨.unknownCategory name, ?_, fun q misfit => ?_⟩
        · simp only [resolve, looked, compiled, found]
        · have known := misfit.known name (List.mem_of_find?_eq_some unknown)
          have absent := List.find?_some unknown
          simp [Option.isNone_iff_eq_none.1 absent] at known
      | none =>
        obtain ⟨cs, found⟩ := categories_of_known unknown
        refine Or.inr ⟨p, cs, ⟨declared, compiled, (categories_ok_iff r _ cs).1 found⟩, ?_⟩
        simp only [resolve, looked, compiled, found]

theorem resolve_events (r : Resolver) (d : Descriptor) (g : Grammar) :
    ∃ warning, Warning r g d warning ∧ (r.resolve d.declaration g).events = warning ++
      match (r.resolve d.declaration g).outcome with
      | .ok () => [.attached g.name d.rule.state d.rule.pattern]
      | .error _ => [] := by
  rcases refused_or_attach r d g with ⟨fault, refused, fits⟩ | ⟨p, cs, ready, reached⟩
  · rw [refused]
    exact ⟨[], .silent fits, rfl⟩
  · rw [reached]
    exact ⟨_, warning_mismatch ready, attach_events ready.declared p cs⟩

end Resolver

theorem entryLog_congr {r : Resolver} {policy : FailurePolicy} {g g' : Grammar}
    (alike : g.Alike g') (name : g'.name = g.name) {index : Nat} {p q : Pending}
    {told : List Event} (log : EntryLog r policy g' index p q told) :
    EntryLog r policy g index p q told := by
  have outcome : ∀ d : Descriptor, (r.resolve d.declaration g').outcome =
      (r.resolve d.declaration g).outcome := by
    intro d
    rw [Resolver.resolve_outcome, Resolver.resolve_outcome, Resolver.verdict_congr alike]
  cases log with
  | skipped => exact .skipped
  | attached warns made worded =>
    rw [name] at worded
    exact .attached (warning_congr alike warns) ((outcome _).symm.trans made) worded
  | failed warns refused worded =>
    exact .failed (warning_congr alike warns) ((outcome _).symm.trans refused) worded

section
variable {r : Resolver} {g : Grammar}

theorem Pending.log_of_told {policy : FailurePolicy} {p : Pending}
    (goesOn : policy = .abort → (p.fate r g).fault? = none) (index : Nat) :
    EntryLog r policy g index p (p.settle r g) (p.told r g index) := by
  obtain ⟨d, status⟩ := p
  obtain ⟨warning, warns, events⟩ := r.resolve_events d g
  cases judged : (Pending.mk d status).fate r g with
  | skipped =>
    obtain rfl : status = .resolved := ((Pending.mk d status).fate_skipped_iff r g).1 judged
    simp only [Pending.settle, Pending.told, judged]
    exact .skipped
  | attached rule =>
    obtain ⟨waiting, made⟩ := ((Pending.mk d status).fate_attached_iff r g rule).1 judged
    obtain rfl : status = .unresolved := waiting
    have outcome := (Resolver.resolve_of_ok made).1
    simp only [outcome] at events
    simp only [Pending.settle, Pending.told, judged, events]
    exact .attached warns outcome ⟨rfl, rfl, rfl⟩
  | failed fault =>
    obtain ⟨waiting, refused⟩ := ((Pending.mk d status).fate_failed_iff r g fault).1 judged
    obtain rfl : status = .unresolved := waiting
    have outcome := (Resolver.resolve_of_error refused).1
    simp only [outcome, List.append_nil] at events
    simp only [Pending.settle, Pending.told, judged, events]
    cases policy with
    | abort => simp [judged, Fate.fault?] at goesOn
    | collect => exact .failed warns outcome ⟨rfl, rfl, rfl⟩

theorem Pending.log_of_stop {p : Pending} {fault : ResolveFault}
    (judged : p.fate r g = .failed fault) (index : Nat) :
    EntryLog r .abort g index p p ((r.resolve p.descriptor.declaration g).events ++
      [.aborted index p.descriptor.describe fault]) := by
  obtain ⟨d, status⟩ := p
  obtain ⟨warning, warns, events⟩ := r.resolve_events d g
  obtain ⟨waiting, refused⟩ := ((Pending.mk d status).fate_failed_iff r g fault).1 judged
  obtain rfl : status = .unresolved := waiting
  have outcome := (Resolver.resolve_of_error refused).1
  simp only [outcome, List.append_nil] at events
  rw [events]
  exact .failed warns outcome ⟨rfl, rfl, rfl⟩

theorem goes_on_or_stops (r : Resolver) (policy : FailurePolicy) (g : Grammar) (p : Pending) :
    (policy = .abort → (p.fate r g).fault? = none) ∨
      policy = .abort ∧ ∃ fault, p.fate r g = .failed fault := by
  cases judged : p.fate r g with
  | skipped => exact Or.inl fun _ => rfl
  | attached rule => exact Or.inl fun _ => rfl
  | failed fault =>
    cases policy with
    | abort => exact Or.inr ⟨rfl, fault, rfl⟩
    | collect => exact Or.inl fun aborts => by cases aborts

theorem message_of_warning {d : Descriptor} {told : List Event} (warning : Warning r g d told) :
    ∀ e ∈ told, e.message = "category count does not match capture group count" := by
  intro e member
  cases warning with
  | told _ worded =>
    obtain rfl := List.mem_singleton.1 member
    exact worded.message
  | silent => cases member

theorem message_of_entry {policy : FailurePolicy} {index : Nat} {p q : Pending} {told : List Event}
    (log : EntryLog r policy g index p q told) :
    ∀ e ∈ told, e.message ≠ "resolution pass finished" := by
  have others : ∀ {d : Descriptor} {warning : List Event} {last e : Event}, Warning r g d warning →
      last.message ≠ "resolution pass finished" → e ∈ warning ++ [last] →
      e.message ≠ "resolution pass finished" := by
    intro d warning last e warns ends member
    rcases List.mem_append.1 member with first | second
    · simp [message_of_warning warns e first]
    · obtain rfl := List.mem_singleton.1 second
      exact ends
  intro e member
  cases log with
  | skipped => cases member
  | attached warns _ worded => exact others warns (by simp [worded.message]) member
  | failed warns _ worded =>
    have ends : policy.failureMessage ≠ "resolution pass finished" := by
      cases policy <;> simp [FailurePolicy.failureMessage]
    exact others warns (by rwa [worded.message]) member

theorem count_attached {policy : FailurePolicy} {index : Nat} {p q : Pending} {told : List Event}
    (log : EntryLog r policy g index p q told) :
    told.countP (·.message = "attached rule") + [p].countP (·.status = .resolved) =
      [q].countP (·.status = .resolved) := by
  have others : ∀ {d : Descriptor} {warning : List Event}, Warning r g d warning →
      warning.countP (·.message = "attached rule") = 0 := by
    intro d warning warns
    refine List.countP_eq_zero.2 fun e member => ?_
    simp [message_of_warning warns e member]
  cases log with
  | skipped => rfl
  | attached warns _ worded => simp [others warns, worded.message]
  | failed warns _ worded =>
    cases policy <;> simp [others warns, worded.message, FailurePolicy.failureMessage]

theorem filter_resolve (d : Descriptor) (policy : FailurePolicy) :
    ((r.resolve d.declaration g).events.filter (·.message = policy.failureMessage)) = [] := by
  obtain ⟨warning, warns, events⟩ := r.resolve_events d g
  have others : warning.filter (·.message = policy.failureMessage) = [] := by
    refine List.filter_eq_nil_iff.2 fun e member => ?_
    cases policy <;> simp [message_of_warning warns e member, FailurePolicy.failureMessage]
  rw [events, List.filter_append, others]
  cases (r.resolve d.declaration g).outcome with
  | ok _ => cases policy <;> rfl
  | error fault => rfl

theorem failures_told {policy : FailurePolicy} {p : Pending}
    (goesOn : policy = .abort → (p.fate r g).fault? = none) (index : Nat) :
    ((p.told r g index).filter (·.message = policy.failureMessage)).map Event.fields =
      (failuresFrom r g index [p]).map Failure.fields := by
  rw [failuresFrom_cons]
  cases judged : p.fate r g with
  | skipped => simp [Pending.told, judged, Fate.fault?, failuresFrom, gather_nil]
  | attached rule =>
    simp [Pending.told, judged, Fate.fault?, failuresFrom, gather_nil, filter_resolve]
  | failed fault =>
    cases policy with
    | abort => simp [judged, Fate.fault?] at goesOn
    | collect =>
      simp only [Pending.told, judged, List.filter_append, filter_resolve, List.nil_append]
      rfl

end

namespace Builder
variable {r : Resolver} {policy : FailurePolicy}

/-- What was told of each entry that was tried. All are tried, or all up to the one that failed. -/
structure Told (r : Resolver) (policy : FailurePolicy) (g : Grammar) (index : Nat)
    (before after : List Pending) (outcome : Except Failure Report) (logs : List (List Event)) :
    Prop where
  entries : ∀ i told, logs[i]? = some told → ∃ p q, before[i]? = some p ∧ after[i]? = some q ∧
    EntryLog r policy g (index + i) p q told
  complete : ∀ report, outcome = .ok report → logs.length = before.length
  stopped : ∀ failure, outcome = .error failure → index + logs.length = failure.index + 1

theorem told_nothing {g : Grammar} {index : Nat} {before after : List Pending}
    {outcome : Except Failure Report} (complete : ∀ report, outcome = .ok report → before = [])
    (stopped : ∀ failure, outcome = .error failure → index = failure.index + 1) :
    Told r policy g index before after outcome [] where
  entries := by
    intro i told place
    cases place
  complete := by
    intro report done
    rw [complete report done]
    rfl
  stopped := stopped

theorem told_cons {g : Grammar} {index : Nat} {p q : Pending} {told : List Event}
    {before after : List Pending} {outcome : Except Failure Report} {logs : List (List Event)}
    (first : EntryLog r policy g index p q told)
    (others : Told r policy g (index + 1) before after outcome logs) :
    Told r policy g index (p :: before) (q :: after) outcome (told :: logs) where
  entries := by
    intro i told' place
    cases i with
    | zero =>
      obtain rfl : told = told' := Option.some.inj place
      exact ⟨p, q, rfl, rfl, first⟩
    | succ i =>
      obtain ⟨p', q', entry, entry', log⟩ := others.entries i told' place
      refine ⟨p', q', entry, entry', ?_⟩
      rwa [Nat.add_assoc, Nat.add_comm 1 i] at log
  complete := by
    intro report done
    simp [others.complete report done]
  stopped := by
    intro failure failed
    have here := others.stopped failure failed
    simp only [List.length_cons]
    omega

/- Induction on the entries that are left. The grammar has changed since the start of the pass, but
   it has the same name and the same states. -/
theorem resolveFrom_log {start g : Grammar} (alike : start.Alike g) (name : g.name = start.name)
    (index : Nat) (report : Report) (entries : List Pending) :
    let run := resolveFrom r policy index report g entries
    ∃ logs closing, run.2.2.2 = logs.flatten ++ closing ∧ Closing start run.1 closing ∧
      Told r policy start index entries run.2.2.1 run.1 logs := by
  induction entries generalizing index report g with
  | nil =>
    refine ⟨[], _, rfl, .finished ⟨rfl, rfl, by simp [Event.fields, name]⟩, ?_⟩
    exact told_nothing (fun _ _ => rfl) (fun _ failed => by cases failed)
  | cons p rest ih =>
    rcases goes_on_or_stops r policy g p with goesOn | ⟨rfl, fault, judged⟩
    · have next : start.Alike (g.attachAll (added r g [p])) := fun other =>
        (g.hasState_attachAll _ other).trans (alike other)
      have name' := (g.name_attachAll (added r g [p])).trans name
      have first := entryLog_congr alike name (p.log_of_told goesOn index)
      obtain ⟨logs, closing, events, closes, told⟩ :=
        ih next name' (index + 1) (report.after r g index [p])
      rw [resolveFrom_cons goesOn]
      refine ⟨p.told r g index :: logs, closing, ?_, closes, told_cons first told⟩
      simp only [events, List.flatten_cons, List.append_assoc]
    · have first := entryLog_congr alike name (p.log_of_stop judged index)
      rw [resolveFrom_aborted judged]
      refine ⟨[_], [], ?_, .stopped, told_cons first (told_nothing ?_ ?_)⟩
      · simp
      · exact fun _ done => by cases done
      · exact fun _ failed => by cases failed; rfl

/- One rule more for each event that tells of one, and so it is counted in the report. -/
theorem resolveFrom_attached (index : Nat) (report : Report) (g : Grammar)
    (entries : List Pending) :
    let run := resolveFrom r policy index report g entries
    let attached := run.2.2.2.countP (·.message = "attached rule")
    run.2.1.ruleCount = g.ruleCount + attached ∧
      ∀ after, run.1 = .ok after → after.attached = report.attached + attached := by
  induction entries generalizing index report g with
  | nil => simp [resolveFrom, Event.message]
  | cons p rest ih =>
    rcases goes_on_or_stops r policy g p with goesOn | ⟨rfl, fault, judged⟩
    · have gained := Grammar.ruleCount_attachAll (@added_declared _ r g [p])
      have here := count_attached (p.log_of_told goesOn index)
      have resolved := countP_settle r g [p]
      have noted : (report.after r g index [p]).attached =
          report.attached + (added r g [p]).length := rfl
      rw [List.map_singleton] at resolved
      obtain ⟨rules, counted⟩ :=
        ih (index + 1) (report.after r g index [p]) (g.attachAll (added r g [p]))
      rw [resolveFrom_cons goesOn]
      simp only [List.countP_append]
      refine ⟨by omega, fun after done => ?_⟩
      have count := counted after done
      omega
    · have here := count_attached (p.log_of_stop judged index)
      rw [resolveFrom_aborted judged]
      refine ⟨?_, fun after done => by cases done⟩
      simp only
      omega

def reported : Except Failure Report → List Failure
  | .ok report => report.failures
  | .error failure => [failure]

theorem resolveFrom_failures (index : Nat) {report : Report} (g : Grammar)
    (fresh : policy = .abort → report.failures = []) (entries : List Pending) :
    let run := resolveFrom r policy index report g entries
    (reported run.1).map Failure.fields = report.failures.map Failure.fields ++
      (run.2.2.2.filter (·.message = policy.failureMessage)).map Event.fields := by
  induction entries generalizing index report g with
  | nil =>
    cases policy <;> simp [resolveFrom, reported, Event.message, FailurePolicy.failureMessage]
  | cons p rest ih =>
    rcases goes_on_or_stops r policy g p with goesOn | ⟨rfl, fault, judged⟩
    · have fresh' : policy = .abort → (report.after r g index [p]).failures = [] := by
        intro aborts
        have clean : Clean r g [p] := fun q member => List.mem_singleton.1 member ▸ goesOn aborts
        simp only [Report.after, fresh aborts, failuresFrom_clean clean, List.append_nil]
      have more : (report.after r g index [p]).failures =
          report.failures ++ failuresFrom r g index [p] := rfl
      rw [resolveFrom_cons goesOn]
      simp only [ih (index + 1) (g.attachAll (added r g [p])) fresh', more, List.filter_append,
        List.map_append, failures_told goesOn, List.append_assoc]
    · rw [resolveFrom_aborted judged]
      simp only [fresh, List.filter_append, filter_resolve, reported]
      rfl

structure ReadBack (policy : FailurePolicy) (b : Builder) (pass : Pass) : Prop where
  attached : pass.builder.grammar.ruleCount =
    b.grammar.ruleCount + pass.events.countP (·.message = "attached rule")
  counted : ∀ report, pass.outcome = .ok report →
    report.attached = pass.events.countP (·.message = "attached rule")
  failed : (pass.events.filter (·.message = policy.failureMessage)).map Event.fields =
    (reported pass.outcome).map Failure.fields
  finished : (∃ e ∈ pass.events, e.message = "resolution pass finished") ↔
    ∃ report, pass.outcome = .ok report
  collected : policy = .collect → ∃ report, pass.outcome = .ok report

theorem finished_iff {g : Grammar} {index : Nat} {before after : List Pending}
    {outcome : Except Failure Report} {logs : List (List Event)} {closing : List Event}
    (told : Told r policy g index before after outcome logs) (closes : Closing g outcome closing) :
    (∃ e ∈ logs.flatten ++ closing, e.message = "resolution pass finished") ↔
      ∃ report, outcome = .ok report := by
  have others : ∀ e ∈ logs.flatten, e.message ≠ "resolution pass finished" := by
    intro e member
    obtain ⟨log, entry, inside⟩ := List.mem_flatten.1 member
    obtain ⟨i, place⟩ := List.getElem?_of_mem entry
    obtain ⟨p, q, _, _, about⟩ := told.entries i log place
    exact message_of_entry about e inside
  cases closes with
  | @finished report last worded =>
    refine ⟨fun _ => ⟨report, rfl⟩, fun _ => ⟨last, by simp, worded.message⟩⟩
  | stopped =>
    constructor
    · rintro ⟨e, member, message⟩
      rw [List.append_nil] at member
      exact absurd message (others e member)
    · rintro ⟨report, done⟩
      cases done

/- The log of a pass is what it tells of the entries that it tries, one after the other, and then
   its report, if it has one. There are as many rules more as events that tell of one, also if the
   pass was stopped, and the events that tell of failures are those that it reports, in order. -/
theorem log_of_pass (b : Builder) (r : Resolver) (policy : FailurePolicy) :
    let pass := b.resolvePending r policy
    (∃ logs closing, pass.events = logs.flatten ++ closing ∧
      Closing b.grammar pass.outcome closing ∧
      Told r policy b.grammar 0 b.queue pass.builder.queue pass.outcome logs) ∧
    ReadBack policy b pass := by
  intro pass
  have alike : b.grammar.Alike b.grammar := fun _ => rfl
  obtain ⟨logs, closing, events, closes, told⟩ := resolveFrom_log alike rfl 0 {} b.queue
  obtain ⟨rules, counted⟩ := @resolveFrom_attached _ r policy 0 {} b.grammar b.queue
  have failures := @resolveFrom_failures _ r policy 0 {} b.grammar (fun _ => rfl) b.queue
  have finished := finished_iff told closes
  rw [← events] at finished
  refine ⟨⟨logs, closing, events, closes, told⟩, rules, ?_, failures.symm, finished, ?_⟩
  · intro report done
    exact (counted report done).trans (Nat.zero_add _)
  · rintro rfl
    exact ⟨_, (pass_complete fun aborts => by cases aborts).1⟩

end Builder
end LexicalGrammar
