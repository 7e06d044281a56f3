import LexicalGrammar.Proofs.Collect

/-
A pass that aborts is a pass that collects, cut off at its first failure. Collecting afterwards
makes up for what was cut off.
-/
namespace LexicalGrammar

def AllResolved (entries : List Pending) : Prop :=
  ∀ p ∈ entries, p.status = .resolved

theorem countP_of_allResolved {entries : List Pending} (done : AllResolved entries) :
    entries.countP (·.status = .resolved) = entries.length := by
  refine List.countP_eq_length.2 fun p member => ?_
  simpa using done p member

section
variable [Pattern.Dialect]

theorem allResolved_settle {r : Resolver} {g : Grammar} {entries : List Pending}
    (clean : Clean r g entries) : AllResolved (entries.map (·.settle r g)) := by
  intro q member
  obtain ⟨p, entry, settled⟩ := List.mem_map.1 member
  subst settled
  have passes := clean p entry
  refine (p.settle_resolved_iff r g).2 ?_
  cases judged : p.fate r g with
  | skipped => exact Or.inl ((p.fate_skipped_iff r g).1 judged)
  | attached rule => exact Or.inr ⟨rule, rfl⟩
  | failed fault => simp [judged, Fate.fault?] at passes

section
variable {entries : List Pending} (r : Resolver) (g : Grammar)

theorem clean_of_allResolved (done : AllResolved entries) : Clean r g entries := by
  intro p member
  rw [(p.fate_skipped_iff r g).2 (done p member)]
  rfl

theorem added_of_allResolved (done : AllResolved entries) : added r g entries = [] := by
  refine List.filterMap_eq_nil_iff.2 fun p member => ?_
  rw [(p.fate_skipped_iff r g).2 (done p member)]
  rfl

theorem settle_of_allResolved (done : AllResolved entries) :
    entries.map (·.settle r g) = entries := by
  have same : ∀ p ∈ entries, p.settle r g = id p := by
    intro p member
    simp [Pending.settle, (p.fate_skipped_iff r g).2 (done p member)]
  rw [List.map_congr_left same, List.map_id]

end

theorem length_of_clean {r : Resolver} {g : Grammar} {entries : List Pending}
    (clean : Clean r g entries) : entries.length =
      (added r g entries).length + entries.countP (·.status = .resolved) := by
  have counted := length_eq_fates r g 0 entries
  simpa [failuresFrom_clean clean] using counted.symm

namespace Builder

/-- The queue is done up to a place and as it was from there on, and each state has got the rules
that the entries before that place get there alone. -/
structure DoneUpTo (b : Builder) (alone : Pending → Resolver.Attempt) (place : Nat)
    (after : Builder) : Prop where
  descriptors : after.queue.map (·.descriptor) = b.queue.map (·.descriptor)
  done : ∀ i < place, after.status? i = some .resolved
  behind : ∀ i, place ≤ i → after.queue[i]? = b.queue[i]?
  name : after.grammar.name = b.grammar.name
  stateNames : after.grammar.stateNames = b.grammar.stateNames
  rules : ∀ state, after.grammar.rulesOf state = b.grammar.rulesOf state ++
    ((b.queue.take place).filter (·.status = .unresolved)).flatMap fun p =>
      (alone p).grammar.rulesOf state

section
variable {b : Builder} {r : Resolver} {done rest : List Pending}

def cut (b : Builder) (r : Resolver) (done rest : List Pending) : Builder :=
  ⟨b.grammar.attachAll (added r b.grammar done), done.map (·.settle r b.grammar) ++ rest⟩

theorem cut_doneUpTo (queue : b.queue = done ++ rest) (clean : Clean r b.grammar done)
    (name : String) : b.DoneUpTo (fun p => r.alone name b.grammar.stateNames p.descriptor)
      done.length (b.cut r done rest) := by
  constructor
  case descriptors => simp [cut, queue, Pending.settle_descriptor]
  case done =>
    intro i before
    have inside : i < (done.map (·.settle r b.grammar)).length := by simpa using before
    have resolved := allResolved_settle clean _ (List.getElem_mem inside)
    simp only [List.getElem_map] at resolved
    simp [status?, cut, List.getElem?_append, before, resolved]
  case behind =>
    intro i after
    simp [cut, queue, List.getElem?_append, Nat.not_lt.2 after]
  case name => exact b.grammar.name_attachAll _
  case stateNames => exact b.grammar.stateNames_attachAll _
  case rules =>
    intro state
    rw [queue, List.take_left]
    exact rulesOf_added r b.grammar name state done

theorem cut_rules_prefix (queue : b.queue = done ++ rest) (state : String) :
    (b.cut r done rest).grammar.rulesOf state <+:
      (b.resolvePending r .collect).builder.grammar.rulesOf state := by
  rw [(collect_complete b r).2, queue]
  simp only [cut, Grammar.rulesOf_attachAll added_declared]
  rw [added_append, List.filter_append, List.map_append, ← List.append_assoc]
  exact List.prefix_append _ _

theorem cut_ruleCount (b : Builder) (r : Resolver) (done rest : List Pending) :
    (b.cut r done rest).grammar.ruleCount =
      b.grammar.ruleCount + (added r b.grammar done).length :=
  Grammar.ruleCount_attachAll added_declared

/-- Collecting goes on where the queue was cut and ends where it would have ended uncut. -/
theorem collect_cut (queue : b.queue = done ++ rest) (clean : Clean r b.grammar done) :
    ((b.cut r done rest).resolvePending r .collect).builder =
      (b.resolvePending r .collect).builder := by
  have alike := b.grammar.alike_attachAll (added r b.grammar done)
  have settled := allResolved_settle clean
  rw [(collect_complete (b.cut r done rest) r).2, (collect_complete b r).2, queue]
  simp only [cut, added_congr alike, Pending.settle_congr alike, added_append, List.map_append,
    added_of_allResolved r b.grammar settled, settle_of_allResolved r b.grammar settled,
    List.nil_append, Grammar.attachAll_append]

theorem collect_cut_report (queue : b.queue = done ++ rest) (clean : Clean r b.grammar done) :
    ∃ report again, (b.resolvePending r .collect).outcome = .ok report ∧
      ((b.cut r done rest).resolvePending r .collect).outcome = .ok again ∧
      again.failures = report.failures ∧
      again.skipped = report.skipped + (added r b.grammar done).length ∧
      again.attached + (added r b.grammar done).length = report.attached := by
  have alike := b.grammar.alike_attachAll (added r b.grammar done)
  have settled := allResolved_settle clean
  refine ⟨_, _, (collect_complete b r).1, (collect_complete (b.cut r done rest) r).1, ?_, ?_, ?_⟩
  · simp [Report.after, cut, queue, failuresFrom_congr alike, failuresFrom_append,
      failuresFrom_clean clean,
      failuresFrom_clean (clean_of_allResolved r b.grammar settled)]
  · have counted := length_of_clean clean
    simp only [Report.after, cut, queue, List.countP_append, countP_of_allResolved settled,
      List.length_map]
    omega
  · simp [Report.after, cut, queue, added_congr alike, added_append,
      added_of_allResolved r b.grammar settled]
    omega

end

/- If collecting reports no failure, aborting does the same. Otherwise aborting stops at the first
   failure that collecting reports: everything before it is done as collecting does it, everything
   from there on is as it was. Collecting afterwards ends where it would have ended without the
   aborted pass, except that the rules which that pass attached count as skipped. -/
theorem abort_cuts_collect (b : Builder) (r : Resolver) (name : String) :
    let collected := b.resolvePending r .collect
    let aborted := b.resolvePending r .abort
    let repaired := aborted.builder.resolvePending r .collect
    ∃ report, collected.outcome = .ok report ∧
      (report.failures = [] →
        aborted.outcome = .ok report ∧ aborted.builder = collected.builder) ∧
      (∀ first others, report.failures = first :: others →
        aborted.outcome = .error first ∧
        b.DoneUpTo (fun p => r.alone name b.grammar.stateNames p.descriptor) first.index
          aborted.builder ∧
        (∀ state, aborted.builder.grammar.rulesOf state <+:
          collected.builder.grammar.rulesOf state) ∧
        repaired.builder = collected.builder ∧
        ∃ again gained, repaired.outcome = .ok again ∧
          again.failures = report.failures ∧
          aborted.builder.grammar.ruleCount = b.grammar.ruleCount + gained ∧
          again.skipped = report.skipped + gained ∧
          again.attached + gained = report.attached) := by
  intro collected aborted repaired
  obtain ⟨outcome, builder⟩ := collect_complete b r
  refine ⟨_, outcome, ?_⟩
  rcases clean_or_first_failure r b.grammar b.queue with
    clean | ⟨done, p, rest, fault, queue, clean, judged⟩
  · have goesOn : FailurePolicy.abort = .abort → Clean r b.grammar b.queue := fun _ => clean
    have passes := pass_complete goesOn
    refine ⟨fun _ => ⟨passes.1, passes.2.trans builder.symm⟩, fun first others fails => ?_⟩
    simp [Report.after, failuresFrom_clean clean] at fails
  · obtain ⟨stopped, left⟩ := pass_stopped queue clean judged
    have first : ∃ others, (Report.after {} r b.grammar 0 b.queue).failures =
        ⟨done.length, p.descriptor.describe, fault⟩ :: others := by
      simp [Report.after, queue, failuresFrom_append, failuresFrom_clean clean,
        failuresFrom_cons, judged, Fate.fault?]
    obtain ⟨others, reported⟩ := first
    constructor
    · intro none
      rw [reported] at none
      cases none
    · intro f rest' fails
      rw [reported] at fails
      obtain ⟨rfl, rfl⟩ := List.cons.inj fails
      have cutOff : aborted.builder = b.cut r done (p :: rest) := left
      obtain ⟨report, again, told, toldAgain, failures, skipped, attached⟩ :=
        collect_cut_report queue clean
      obtain rfl : _ = report := Except.ok.inj (outcome.symm.trans told)
      refine ⟨stopped, ?_, ?_, ?_, again, (added r b.grammar done).length, ?_, failures, ?_,
        skipped, attached⟩
      · rw [cutOff]
        exact cut_doneUpTo queue clean name
      · intro state
        rw [cutOff]
        exact cut_rules_prefix queue state
      · exact (congrArg (fun a => (a.resolvePending r .collect).builder) cutOff).trans
          (collect_cut queue clean)
      · exact (congrArg (fun a => (a.resolvePending r .collect).outcome) cutOff).trans toldAgain
      · rw [cutOff]
        exact cut_ruleCount b r done (p :: rest)

end Builder
end

/- The second of three entries names a state that is not declared. -/
example :
    let token (state : String) (named : state ≠ "") : Descriptor :=
      .token ⟨state, "x", ["a"], named, by decide, by decide⟩
    let r : Resolver := ⟨fun name => if name = "a" then some ⟨"a", 0⟩ else none, {}⟩
    let b := (((Builder.ofGrammar (.withStates "g" ["s"])).push (token "s" (by decide))).push
      (token "t" (by decide))).push (token "s" (by decide))
    let aborted := (b.resolvePending r .abort).builder
    let collected := (b.resolvePending r .collect).builder
    aborted.queue.map (·.status) = [.resolved, .unresolved, .unresolved] ∧
      aborted.grammar.ruleCount = 1 ∧
      collected.queue.map (·.status) = [.resolved, .unresolved, .resolved] ∧
      collected.grammar.ruleCount = 2 := by
  decide +kernel

end LexicalGrammar
