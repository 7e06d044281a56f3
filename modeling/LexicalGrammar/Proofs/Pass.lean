import LexicalGrammar.Builder
import LexicalGrammar.Proofs.Resolution

/-
One pass over a queue. What happens to an entry depends on the declared states only, which no pass
changes, so the fates of all entries are settled before the pass begins.
-/
namespace LexicalGrammar

/-- What the entries of a list that begins at a place of the queue give, each with its place. -/
def gather {β : Type} (give : Nat → Pending → Option β) (index : Nat) (entries : List Pending) :
    List β :=
  (entries.zipIdx index).filterMap fun e => give e.2 e.1

section
variable {β : Type} (give : Nat → Pending → Option β)

theorem gather_nil (index : Nat) : gather give index [] = [] := rfl

theorem gather_cons (index : Nat) (p : Pending) (rest : List Pending) :
    gather give index (p :: rest) = (give index p).toList ++ gather give (index + 1) rest := by
  unfold gather
  cases given : give index p <;> simp [given]

theorem gather_append (index : Nat) (first second : List Pending) :
    gather give index (first ++ second) =
      gather give index first ++ gather give (index + first.length) second := by
  simp [gather, List.zipIdx_append]

theorem mem_gather (entries : List Pending) (x : β) : x ∈ gather give 0 entries ↔
    ∃ i p, entries[i]? = some p ∧ give i p = some x := by
  constructor
  · intro member
    obtain ⟨⟨p, i⟩, entry, given⟩ := List.mem_filterMap.1 member
    exact ⟨i, p, List.mem_zipIdx_iff_getElem?.1 entry, given⟩
  · rintro ⟨i, p, entry, given⟩
    exact List.mem_filterMap.2 ⟨(p, i), List.mem_zipIdx_iff_getElem?.2 entry, given⟩

theorem gather_ascending (place : β → Nat)
    (placed : ∀ {i p x}, give i p = some x → place x = i) (index : Nat)
    (entries : List Pending) : (gather give index entries).Pairwise (place · < place ·) := by
  induction entries generalizing index with
  | nil => exact List.Pairwise.nil
  | cons p rest ih =>
    have behind : ∀ x ∈ gather give (index + 1) rest, index < place x := by
      intro x member
      obtain ⟨⟨q, i⟩, entry, given⟩ := List.mem_filterMap.1 member
      have bound := List.le_snd_of_mem_zipIdx entry
      have here := placed given
      omega
    rw [gather_cons]
    cases given : give index p with
    | none => exact ih (index + 1)
    | some x =>
      refine List.pairwise_cons.2 ⟨fun y member => ?_, ih (index + 1)⟩
      rw [placed given]
      exact behind y member

end

variable [Pattern.Dialect]

inductive Fate where
  | skipped
  | attached (rule : Rule)
  | failed (fault : ResolveFault)

def Fate.rule? : Fate → Option Rule
  | .attached rule => some rule
  | _ => none

def Fate.fault? : Fate → Option ResolveFault
  | .failed fault => some fault
  | _ => none

theorem Fate.attached_of_rule {fate : Fate} {rule : Rule} (gets : fate.rule? = some rule) :
    fate = .attached rule := by
  cases fate <;> simp_all [Fate.rule?]

namespace Pending

def fate (p : Pending) (r : Resolver) (g : Grammar) : Fate :=
  if p.status = .resolved then .skipped
  else
    match r.verdict p.descriptor.declaration g with
    | .ok rule => .attached rule
    | .error fault => .failed fault

def settle (p : Pending) (r : Resolver) (g : Grammar) : Pending :=
  match p.fate r g with
  | .attached _ => ⟨p.descriptor, .resolved⟩
  | _ => p

theorem fate_congr {g g' : Grammar} (alike : g.Alike g') (r : Resolver) (p : Pending) :
    p.fate r g' = p.fate r g := by
  simp only [fate, Resolver.verdict_congr alike]

theorem settle_congr {g g' : Grammar} (alike : g.Alike g') (r : Resolver) (p : Pending) :
    p.settle r g' = p.settle r g := by
  simp only [settle, fate_congr alike]

theorem fate_skipped_iff (p : Pending) (r : Resolver) (g : Grammar) :
    p.fate r g = .skipped ↔ p.status = .resolved := by
  unfold fate
  split
  · simp [*]
  · split <;> simp [*]

theorem fate_attached_iff (p : Pending) (r : Resolver) (g : Grammar) (rule : Rule) :
    p.fate r g = .attached rule ↔
      p.status = .unresolved ∧ r.verdict p.descriptor.declaration g = .ok rule := by
  unfold fate
  cases p.status with
  | resolved => simp
  | unresolved => cases r.verdict p.descriptor.declaration g <;> simp

theorem fate_failed_iff (p : Pending) (r : Resolver) (g : Grammar) (fault : ResolveFault) :
    p.fate r g = .failed fault ↔
      p.status = .unresolved ∧ r.verdict p.descriptor.declaration g = .error fault := by
  unfold fate
  cases p.status with
  | resolved => simp
  | unresolved => cases r.verdict p.descriptor.declaration g <;> simp

theorem settle_descriptor (p : Pending) (r : Resolver) (g : Grammar) :
    (p.settle r g).descriptor = p.descriptor := by
  unfold settle
  split <;> rfl

theorem settle_resolved_iff (p : Pending) (r : Resolver) (g : Grammar) :
    (p.settle r g).status = .resolved ↔
      p.status = .resolved ∨ ∃ rule, p.fate r g = .attached rule := by
  unfold settle
  cases judged : p.fate r g with
  | skipped => simp
  | attached rule => simp
  | failed fault => simp

end Pending

/-- The rules that a list of entries is about to get, with the states that they go to. -/
def added (r : Resolver) (g : Grammar) (entries : List Pending) : List (String × Rule) :=
  entries.filterMap fun p => (p.fate r g).rule?.map (p.descriptor.rule.state, ·)

def Pending.failure? (r : Resolver) (g : Grammar) (index : Nat) (p : Pending) : Option Failure :=
  (p.fate r g).fault?.map (⟨index, p.descriptor.describe, ·⟩)

def failuresFrom (r : Resolver) (g : Grammar) : Nat → List Pending → List Failure :=
  gather (Pending.failure? r g)

/-- The report when a list of entries that begins at a place of the queue was tried. -/
def Report.after (report : Report) (r : Resolver) (g : Grammar) (index : Nat)
    (entries : List Pending) : Report where
  attached := report.attached + (added r g entries).length
  skipped := report.skipped + entries.countP (·.status = .resolved)
  failures := report.failures ++ failuresFrom r g index entries

def Clean (r : Resolver) (g : Grammar) (entries : List Pending) : Prop :=
  ∀ p ∈ entries, (p.fate r g).fault? = none

theorem mem_added {r : Resolver} {g : Grammar} {entries : List Pending} {e : String × Rule}
    (member : e ∈ added r g entries) : ∃ p ∈ entries, p.status = .unresolved ∧
      e.1 = p.descriptor.rule.state ∧ r.verdict p.descriptor.declaration g = .ok e.2 := by
  obtain ⟨p, entry, gets⟩ := List.mem_filterMap.1 member
  obtain ⟨rule, given, same⟩ := Option.map_eq_some_iff.1 gets
  obtain ⟨waiting, made⟩ := (p.fate_attached_iff r g rule).1 (Fate.attached_of_rule given)
  subst same
  exact ⟨p, entry, waiting, rfl, made⟩

theorem added_declared {r : Resolver} {g : Grammar} {entries : List Pending} :
    ∀ e ∈ added r g entries, g.hasState e.1 = true := by
  intro e member
  obtain ⟨p, _, _, state, made⟩ := mem_added member
  rw [state]
  exact Resolver.declared_of_verdict made

theorem added_congr {g g' : Grammar} (alike : g.Alike g') (r : Resolver) (entries : List Pending) :
    added r g' entries = added r g entries := by
  simp only [added, Pending.fate_congr alike]

theorem added_append (r : Resolver) (g : Grammar) (first second : List Pending) :
    added r g (first ++ second) = added r g first ++ added r g second :=
  List.filterMap_append

theorem added_cons (r : Resolver) (g : Grammar) (p : Pending) (rest : List Pending) :
    added r g (p :: rest) =
      ((p.fate r g).rule?.map (p.descriptor.rule.state, ·)).toList ++ added r g rest := by
  unfold added
  cases judged : (p.fate r g).rule? <;> simp [judged]

theorem failuresFrom_congr {g g' : Grammar} (alike : g.Alike g') (r : Resolver) (index : Nat)
    (entries : List Pending) :
    failuresFrom r g' index entries = failuresFrom r g index entries := by
  simp only [failuresFrom, gather, Pending.failure?, Pending.fate_congr alike]

theorem failuresFrom_append (r : Resolver) (g : Grammar) (index : Nat)
    (first second : List Pending) : failuresFrom r g index (first ++ second) =
      failuresFrom r g index first ++ failuresFrom r g (index + first.length) second :=
  gather_append _ index first second

theorem failuresFrom_cons (r : Resolver) (g : Grammar) (index : Nat) (p : Pending)
    (rest : List Pending) : failuresFrom r g index (p :: rest) =
      ((p.fate r g).fault?.map (⟨index, p.descriptor.describe, ·⟩)).toList ++
        failuresFrom r g (index + 1) rest :=
  gather_cons _ index p rest

theorem mem_failuresFrom (r : Resolver) (g : Grammar) (entries : List Pending) (f : Failure) :
    f ∈ failuresFrom r g 0 entries ↔ ∃ p, entries[f.index]? = some p ∧
      p.fate r g = .failed f.fault ∧ f.descriptor = p.descriptor.describe := by
  unfold failuresFrom
  rw [mem_gather]
  constructor
  · rintro ⟨i, p, entry, told⟩
    cases judged : p.fate r g with
    | skipped => simp [Pending.failure?, judged, Fate.fault?] at told
    | attached rule => simp [Pending.failure?, judged, Fate.fault?] at told
    | failed fault =>
      simp only [Pending.failure?, judged, Fate.fault?, Option.map_some, Option.some.injEq] at told
      subst told
      exact ⟨p, entry, judged, rfl⟩
  · rintro ⟨p, entry, judged, shown⟩
    exact ⟨f.index, p, entry, by simp [Pending.failure?, judged, Fate.fault?, ← shown]⟩

theorem failuresFrom_ascending (r : Resolver) (g : Grammar) (index : Nat)
    (entries : List Pending) :
    (failuresFrom r g index entries).Pairwise (·.index < ·.index) := by
  refine gather_ascending _ Failure.index (fun {i p f} told => ?_) index entries
  obtain ⟨fault, _, made⟩ := Option.map_eq_some_iff.1 told
  subst made
  rfl

theorem failuresFrom_clean {r : Resolver} {g : Grammar} {entries : List Pending}
    (clean : Clean r g entries) (index : Nat) : failuresFrom r g index entries = [] := by
  refine List.filterMap_eq_nil_iff.2 fun e member => ?_
  simp [Pending.failure?, clean e.1 (List.fst_mem_of_mem_zipIdx member)]

theorem length_eq_fates (r : Resolver) (g : Grammar) (index : Nat) (entries : List Pending) :
    (added r g entries).length + entries.countP (·.status = .resolved) +
      (failuresFrom r g index entries).length = entries.length := by
  induction entries generalizing index with
  | nil => rfl
  | cons p rest ih =>
    have counted := ih (index + 1)
    rw [added_cons, failuresFrom_cons, List.countP_cons]
    cases judged : p.fate r g with
    | skipped =>
      have settled := (Pending.fate_skipped_iff p r g).1 judged
      simp [Fate.rule?, Fate.fault?, settled]
      omega
    | attached rule =>
      have waiting := ((Pending.fate_attached_iff p r g rule).1 judged).1
      simp [Fate.rule?, Fate.fault?, waiting]
      omega
    | failed fault =>
      have waiting := ((Pending.fate_failed_iff p r g fault).1 judged).1
      simp [Fate.rule?, Fate.fault?, waiting]
      omega

theorem countP_settle (r : Resolver) (g : Grammar) (entries : List Pending) :
    (entries.map (·.settle r g)).countP (·.status = .resolved) =
      entries.countP (·.status = .resolved) + (added r g entries).length := by
  induction entries with
  | nil => rfl
  | cons p rest ih =>
    rw [List.map_cons, List.countP_cons, List.countP_cons, added_cons, ih]
    cases judged : p.fate r g with
    | skipped =>
      have settled := (Pending.fate_skipped_iff p r g).1 judged
      simp [Pending.settle, judged, Fate.rule?, settled]
      omega
    | attached rule =>
      have waiting := ((Pending.fate_attached_iff p r g rule).1 judged).1
      simp [Pending.settle, judged, Fate.rule?, waiting]
      omega
    | failed fault =>
      have waiting := ((Pending.fate_failed_iff p r g fault).1 judged).1
      simp [Pending.settle, judged, Fate.rule?, waiting]

theorem Report.after_nil (report : Report) (r : Resolver) (g : Grammar) (index : Nat) :
    report.after r g index [] = report := by
  simp [after, added, failuresFrom, gather_nil]

theorem Report.after_append (report : Report) (r : Resolver) (g : Grammar) (index : Nat)
    (first second : List Pending) : report.after r g index (first ++ second) =
      (report.after r g index first).after r g (index + first.length) second := by
  simp [after, added_append, failuresFrom_append, Nat.add_assoc]

theorem Report.after_congr {g g' : Grammar} (alike : g.Alike g') (report : Report) (r : Resolver)
    (index : Nat) (entries : List Pending) :
    report.after r g' index entries = report.after r g index entries := by
  simp only [after, added_congr alike, failuresFrom_congr alike]

/-- The events of an entry that does not stop the pass. -/
def Pending.told (p : Pending) (r : Resolver) (g : Grammar) (index : Nat) : List Event :=
  match p.fate r g with
  | .skipped => []
  | .attached _ => (r.resolve p.descriptor.declaration g).events
  | .failed fault => (r.resolve p.descriptor.declaration g).events ++
    [.ruleFailed index p.descriptor.describe fault]

namespace Builder

theorem resolveFrom_cons {r : Resolver} {policy : FailurePolicy} {g : Grammar} {p : Pending}
    (goesOn : policy = .abort → (p.fate r g).fault? = none) (index : Nat) (report : Report)
    (rest : List Pending) : resolveFrom r policy index report g (p :: rest) =
      let tail := resolveFrom r policy (index + 1) (report.after r g index [p])
        (g.attachAll (added r g [p])) rest
      (tail.1, tail.2.1, p.settle r g :: tail.2.2.1, p.told r g index ++ tail.2.2.2) := by
  cases judged : p.fate r g with
  | skipped =>
    have settled := (p.fate_skipped_iff r g).1 judged
    have noted : report.after r g index [p] = { report with skipped := report.skipped + 1 } := by
      simp [Report.after, added, failuresFrom, gather, Pending.failure?, judged, Fate.rule?,
        Fate.fault?, settled]
    have gained : g.attachAll (added r g [p]) = g := by
      simp [added, judged, Fate.rule?, Grammar.attachAll]
    rw [noted, gained]
    simp [resolveFrom, settled, Pending.settle, Pending.told, judged]
  | attached rule =>
    obtain ⟨waiting, made⟩ := (p.fate_attached_iff r g rule).1 judged
    obtain ⟨outcome, grammar⟩ := Resolver.resolve_of_ok made
    have noted : report.after r g index [p] = { report with attached := report.attached + 1 } := by
      simp [Report.after, added, failuresFrom, gather, Pending.failure?, judged, Fate.rule?,
        Fate.fault?, waiting]
    have gained : g.attachAll (added r g [p]) = g.attach p.descriptor.declaration.state rule := by
      simp [added, judged, Fate.rule?, Grammar.attachAll, Descriptor.declaration]
    rw [noted, gained]
    simp [resolveFrom, waiting, outcome, grammar, Pending.settle, Pending.told, judged]
  | failed fault =>
    obtain ⟨waiting, refused⟩ := (p.fate_failed_iff r g fault).1 judged
    obtain ⟨outcome, grammar⟩ := Resolver.resolve_of_error refused
    have noted : report.after r g index [p] = { report with
        failures := report.failures ++ [⟨index, p.descriptor.describe, fault⟩] } := by
      simp [Report.after, added, failuresFrom, gather, Pending.failure?, judged, Fate.rule?,
        Fate.fault?, waiting]
    have gained : g.attachAll (added r g [p]) = g := by
      simp [added, judged, Fate.rule?, Grammar.attachAll]
    rw [noted, gained]
    cases policy with
    | abort => simp [judged, Fate.fault?] at goesOn
    | collect =>
      simp [resolveFrom, waiting, outcome, grammar, Pending.settle, Pending.told, judged]

theorem resolveFrom_aborted {r : Resolver} {g : Grammar} {p : Pending} {fault : ResolveFault}
    (judged : p.fate r g = .failed fault) (index : Nat) (report : Report) (rest : List Pending) :
    resolveFrom r .abort index report g (p :: rest) =
      (.error ⟨index, p.descriptor.describe, fault⟩, g, p :: rest,
        (r.resolve p.descriptor.declaration g).events ++
          [.aborted index p.descriptor.describe fault]) := by
  obtain ⟨waiting, refused⟩ := (p.fate_failed_iff r g fault).1 judged
  obtain ⟨outcome, grammar⟩ := Resolver.resolve_of_error refused
  simp only [resolveFrom, waiting, outcome, grammar, reduceCtorEq, ↓reduceIte]

/- Induction on the entries that are done. The grammar changes under way, but stays alike to the
   one against which all fates are taken. -/
theorem resolveFrom_append {r : Resolver} {policy : FailurePolicy} {start g : Grammar}
    {done : List Pending} (alike : start.Alike g) (goesOn : policy = .abort → Clean r start done)
    (index : Nat) (report : Report) (rest : List Pending) :
    ∃ told, resolveFrom r policy index report g (done ++ rest) =
      let tail := resolveFrom r policy (index + done.length) (report.after r start index done)
        (g.attachAll (added r start done)) rest
      (tail.1, tail.2.1, done.map (·.settle r start) ++ tail.2.2.1, told ++ tail.2.2.2) := by
  induction done generalizing g index report with
  | nil => exact ⟨[], by simp [Report.after_nil, added, Grammar.attachAll]⟩
  | cons p done ih =>
    have here : policy = .abort → (p.fate r g).fault? = none := by
      intro aborts
      rw [Pending.fate_congr alike]
      exact goesOn aborts p (by simp)
    have later : policy = .abort → Clean r start done := fun aborts q member =>
      goesOn aborts q (List.mem_cons_of_mem _ member)
    have next : start.Alike (g.attachAll (added r start [p])) := fun name =>
      (g.hasState_attachAll _ name).trans (alike name)
    obtain ⟨told, run⟩ := ih next later (index + 1) (report.after r start index [p])
    have report' := report.after_append r start index [p] done
    have rules := added_append r start [p] done
    have places : index + 1 + done.length = index + (p :: done).length := by
      simp only [List.length_cons]
      omega
    refine ⟨p.told r g index ++ told, ?_⟩
    rw [List.cons_append, resolveFrom_cons here, Report.after_congr alike, added_congr alike,
      Pending.settle_congr alike, run, places, ← Grammar.attachAll_append, ← rules]
    simp only [List.singleton_append, List.length_singleton] at report' ⊢
    rw [← report']
    simp

theorem pass_complete {b : Builder} {r : Resolver} {policy : FailurePolicy}
    (goesOn : policy = .abort → Clean r b.grammar b.queue) :
    (b.resolvePending r policy).outcome = .ok (Report.after {} r b.grammar 0 b.queue) ∧
    (b.resolvePending r policy).builder =
      ⟨b.grammar.attachAll (added r b.grammar b.queue), b.queue.map (·.settle r b.grammar)⟩ := by
  have alike : b.grammar.Alike b.grammar := fun _ => rfl
  obtain ⟨told, run⟩ := resolveFrom_append alike goesOn 0 {} []
  rw [List.append_nil] at run
  simp [resolvePending, run, resolveFrom]

/-- A pass that stops at its first failure. What was done before stays done; the entry that failed
and those behind it stay as they were. -/
theorem pass_stopped {b : Builder} {r : Resolver} {done rest : List Pending} {p : Pending}
    {fault : ResolveFault} (queue : b.queue = done ++ p :: rest) (clean : Clean r b.grammar done)
    (judged : p.fate r b.grammar = .failed fault) :
    (b.resolvePending r .abort).outcome =
      .error ⟨done.length, p.descriptor.describe, fault⟩ ∧
    (b.resolvePending r .abort).builder =
      ⟨b.grammar.attachAll (added r b.grammar done),
        done.map (·.settle r b.grammar) ++ p :: rest⟩ := by
  have alike : b.grammar.Alike b.grammar := fun _ => rfl
  obtain ⟨told, run⟩ := resolveFrom_append alike (fun _ => clean) 0 {} (p :: rest)
  have here : p.fate r (b.grammar.attachAll (added r b.grammar done)) = .failed fault :=
    (Pending.fate_congr (b.grammar.alike_attachAll _) r p).trans judged
  rw [resolveFrom_aborted here] at run
  simp [resolvePending, queue, run]

theorem clean_or_first_failure (r : Resolver) (g : Grammar) (queue : List Pending) :
    Clean r g queue ∨ ∃ done p rest fault, queue = done ++ p :: rest ∧ Clean r g done ∧
      p.fate r g = .failed fault := by
  induction queue with
  | nil => exact Or.inl (by simp [Clean])
  | cons p queue ih =>
    cases judged : (p.fate r g).fault? with
    | some fault =>
      have failed : p.fate r g = .failed fault := by
        cases fate : p.fate r g <;> simp_all [Fate.fault?]
      exact Or.inr ⟨[], p, queue, fault, rfl, by simp [Clean], failed⟩
    | none =>
      rcases ih with clean | ⟨done, q, rest, fault, split, clean, failed⟩
      · refine Or.inl fun q member => ?_
        rcases List.mem_cons.1 member with rfl | member
        · exact judged
        · exact clean q member
      · refine Or.inr ⟨p :: done, q, rest, fault, by simp [split], ?_, failed⟩
        intro e member
        rcases List.mem_cons.1 member with rfl | member
        · exact judged
        · exact clean e member

/- Under either policy a pass tries the entries up to some place and leaves the others alone. -/
theorem pass_split (b : Builder) (r : Resolver) (policy : FailurePolicy) :
    ∃ done rest, b.queue = done ++ rest ∧ (b.resolvePending r policy).builder =
      ⟨b.grammar.attachAll (added r b.grammar done), done.map (·.settle r b.grammar) ++ rest⟩ := by
  cases policy with
  | collect =>
    refine ⟨b.queue, [], by simp, ?_⟩
    have goesOn : FailurePolicy.collect = .abort → Clean r b.grammar b.queue := by
      intro aborts
      cases aborts
    simpa using (pass_complete goesOn).2
  | abort =>
    rcases clean_or_first_failure r b.grammar b.queue with
      clean | ⟨done, p, rest, fault, queue, clean, judged⟩
    · refine ⟨b.queue, [], by simp, ?_⟩
      simpa using (pass_complete fun _ => clean).2
    · exact ⟨done, p :: rest, queue, (pass_stopped queue clean judged).2⟩

end Builder
end LexicalGrammar
