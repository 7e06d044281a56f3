import LexicalGrammar.Proofs.Abort
import LexicalGrammar.Proofs.History

/-
Runs whose passes all abort at their first failure. However often they are made again, and whatever
is declared or queued between them, entries are resolved in the order of the queue, so the rules of
each state stand in that order too.
-/
namespace LexicalGrammar

def AbortsOnly (ops : List Operation) : Prop :=
  ∀ r policy, .pass r policy ∈ ops → policy = .abort

theorem abortsOnly_take {ops : List Operation} (aborts : AbortsOnly ops) (m : Nat) :
    AbortsOnly (ops.take m) :=
  fun r policy member => aborts r policy (List.mem_of_mem_take member)

def InOrder (entries : List Pending) : Prop :=
  entries.Pairwise fun p q => q.status = .resolved → p.status = .resolved

theorem inOrder_of_allResolved {entries : List Pending} (done : AllResolved entries) :
    InOrder entries :=
  List.pairwise_of_forall_mem_list fun p member _ _ _ => done p member

theorem unresolved_behind {p : Pending} {rest : List Pending} (ordered : InOrder (p :: rest))
    (waiting : p.status = .unresolved) : ∀ q ∈ p :: rest, q.status = .unresolved := by
  intro q member
  rcases List.mem_cons.1 member with rfl | behind
  · exact waiting
  · have before := (List.pairwise_cons.1 ordered).1 q behind
    cases settled : q.status with
    | unresolved => rfl
    | resolved => simp [before settled] at waiting

theorem countP_of_unresolved {entries : List Pending}
    (waiting : ∀ q ∈ entries, q.status = .unresolved) :
    entries.countP (·.status = .resolved) = 0 := by
  rw [List.countP_eq_zero]
  intro q member
  simp [waiting q member]

theorem resolved_iff_lt_count {entries : List Pending} (ordered : InOrder entries) (i : Nat) :
    entries[i]?.map (·.status) = some .resolved ↔
      i < entries.countP (·.status = .resolved) := by
  induction entries generalizing i with
  | nil => simp
  | cons p rest ih =>
    cases settled : p.status with
    | resolved =>
      have later := ih (List.pairwise_cons.1 ordered).2
      rw [List.countP_cons_of_pos (by simpa using settled)]
      cases i with
      | zero => simp [settled]
      | succ i => simpa using later i
    | unresolved =>
      have waiting := unresolved_behind ordered settled
      rw [countP_of_unresolved waiting]
      constructor
      · intro resolved
        obtain ⟨q, entry, status⟩ := Option.map_eq_some_iff.1 resolved
        simp [waiting q (List.mem_of_getElem? entry)] at status
      · intro below
        omega

section
variable [Pattern.Dialect]

namespace Builder

theorem inOrder_push {b : Builder} (ordered : InOrder b.queue) (d : Descriptor) :
    InOrder (b.push d).queue := by
  refine List.pairwise_append.2 ⟨ordered, List.pairwise_singleton _ _, ?_⟩
  intro p _ q last settled
  rw [List.mem_singleton.1 last] at settled
  cases settled

/- Either nothing fails and everything is resolved, or the first failure is at the place up to which
   everything is resolved. -/
theorem aborted_pass {b : Builder} (ordered : InOrder b.queue) (r : Resolver) :
    let pass := b.resolvePending r .abort
    InOrder pass.builder.queue ∧
      ((∃ report, pass.outcome = .ok report ∧ report.failures = [] ∧
        AllResolved pass.builder.queue) ∨
      ∃ f, pass.outcome = .error f ∧
        f.index = pass.builder.queue.countP (·.status = .resolved)) := by
  intro pass
  rcases clean_or_first_failure r b.grammar b.queue with
    clean | ⟨done, p, rest, fault, queue, clean, judged⟩
  · have goesOn : FailurePolicy.abort = .abort → Clean r b.grammar b.queue := fun _ => clean
    obtain ⟨outcome, builder⟩ := pass_complete goesOn
    have resolved : AllResolved pass.builder.queue := by
      rw [congrArg Builder.queue builder]
      exact allResolved_settle clean
    refine ⟨inOrder_of_allResolved resolved, Or.inl ⟨_, outcome, ?_, resolved⟩⟩
    simp [Report.after, failuresFrom_clean clean]
  · obtain ⟨outcome, builder⟩ := pass_stopped queue clean judged
    have resolved := allResolved_settle clean
    have waiting := ((p.fate_failed_iff r b.grammar fault).1 judged).1
    rw [queue] at ordered
    have behind : InOrder (p :: rest) := (List.pairwise_append.1 ordered).2.1
    have left : pass.builder.queue = done.map (·.settle r b.grammar) ++ p :: rest :=
      congrArg Builder.queue builder
    rw [left]
    refine ⟨?_, Or.inr ⟨_, outcome, ?_⟩⟩
    · refine List.pairwise_append.2 ⟨inOrder_of_allResolved resolved, behind, ?_⟩
      exact fun q member _ _ _ => resolved q member
    · rw [List.countP_append, countP_of_allResolved resolved,
        countP_of_unresolved (unresolved_behind behind waiting)]
      simp

theorem inOrder_step {b : Builder} (ordered : InOrder b.queue) {op : Operation}
    (aborts : ∀ r policy, op = .pass r policy → policy = .abort) :
    InOrder (b.step op).queue := by
  cases op with
  | declare state => exact ordered
  | push d => exact inOrder_push ordered d
  | pass r policy =>
    obtain rfl := aborts r policy rfl
    exact (aborted_pass ordered r).1

theorem inOrder_run {b : Builder} (ordered : InOrder b.queue) {ops : List Operation}
    (aborts : AbortsOnly ops) : InOrder (b.run ops).queue := by
  induction ops generalizing b with
  | nil => exact ordered
  | cons op later ih =>
    have here : ∀ r policy, op = .pass r policy → policy = .abort := by
      rintro r policy rfl
      exact aborts r policy (by simp)
    have next := inOrder_step ordered here
    exact ih next fun r policy member => aborts r policy (List.mem_cons_of_mem _ member)

theorem inOrder_run_ofGrammar (g : Grammar) {ops : List Operation} (aborts : AbortsOnly ops) :
    InOrder ((ofGrammar g).run ops).queue := by
  have start : InOrder (ofGrammar g).queue := List.Pairwise.nil
  exact inOrder_run start aborts

end Builder

theorem Attachment.made_take {a : Attachment} {b : Builder} {ops : List Operation}
    (made : a.Made b ops) {m : Nat} (past : a.pass < m) : a.Made b (ops.take m) := by
  obtain ⟨r, policy, operation, found, left, rule⟩ := made
  refine ⟨r, policy, ?_, ?_, ?_, rule⟩
  · rw [List.getElem?_take_of_lt past, operation]
  · rw [List.take_take, Nat.min_eq_left (Nat.le_of_lt past), found]
  · rw [List.take_take, Nat.min_eq_left past, left]

section
variable {g : Grammar} {ops : List Operation} {log : List Attachment}

/- Of two passes the later one has found the entries resolved that the earlier one attached rules
   for, so what it has attached itself stands behind them. -/
theorem index_ascending (aborts : AbortsOnly ops)
    (accounts : Accounts (Builder.ofGrammar g) ops log) :
    log.Pairwise (·.index < ·.index) := by
  refine accounts.ordered.imp_of_mem fun {a a'} member member' before => ?_
  rcases before with earlier | ⟨_, lower⟩
  · have resolved := Attachment.entry_of_made
      (Attachment.made_take (accounts.made a member) earlier)
    obtain ⟨_, _, _, waiting, _⟩ := accounts.made a' member'
    have ordered := Builder.inOrder_run_ofGrammar g (abortsOnly_take aborts a'.pass)
    have below := (resolved_iff_lt_count ordered a.index).1 (by simp [resolved])
    have notBelow := mt (resolved_iff_lt_count ordered a'.index).2 (by simp [waiting])
    omega
  · exact lower

theorem indexes_of_accounts (aborts : AbortsOnly ops)
    (accounts : Accounts (Builder.ofGrammar g) ops log) : log.map (·.index) =
      List.range (((Builder.ofGrammar g).run ops).queue.countP (·.status = .resolved)) := by
  have ordered := Builder.inOrder_run_ofGrammar g aborts
  have ascending : (log.map (·.index)).Pairwise (· < ·) :=
    List.pairwise_map.2 (index_ascending aborts accounts)
  have same : ∀ i, i ∈ log.map (·.index) ↔ i ∈ List.range
      (((Builder.ofGrammar g).run ops).queue.countP (·.status = .resolved)) := by
    intro i
    rw [List.mem_range, ← resolved_iff_lt_count ordered i, List.mem_map]
    exact (accounts.resolved i).symm
  have permuted := (List.perm_ext_iff_of_nodup accounts.once List.nodup_range).2 same
  refine permuted.eq_of_pairwise ?_ ascending List.pairwise_lt_range
  intro i j _ _ less more
  omega

end

/- A point of such a run is the end of such a run. There the resolved entries are the first ones of
   the queue, and each state has its first rules and then those of its resolved entries, in the
   order of the queue. A pass that fails there tells of the place up to which the queue is resolved
   afterwards; one that does not fail leaves nothing unresolved. -/
theorem aborts_keep_queue_order (g : Grammar) {ops : List Operation} (aborts : AbortsOnly ops) :
    let b := (Builder.ofGrammar g).run ops
    let count := b.queue.countP (·.status = .resolved)
    (∀ i, b.status? i = some .resolved ↔ i < count) ∧
    (∃ log, Accounts (Builder.ofGrammar g) ops log ∧ log.map (·.index) = List.range count) ∧
    ∀ r, let pass := b.resolvePending r .abort
      (∀ f, pass.outcome = .error f →
        f.index = pass.builder.queue.countP (·.status = .resolved)) ∧
      ∀ report, pass.outcome = .ok report →
        report.failures = [] ∧ pass.builder.unresolved = 0 := by
  intro b count
  have ordered := Builder.inOrder_run_ofGrammar g aborts
  obtain ⟨log, accounts⟩ := accounts_run g ops
  refine ⟨resolved_iff_lt_count ordered, ⟨log, accounts, indexes_of_accounts aborts accounts⟩, ?_⟩
  intro r pass
  obtain ⟨_, ⟨report, succeeded, none, resolved⟩ | ⟨f, failed, place⟩⟩ :=
    Builder.aborted_pass ordered r
  · refine ⟨fun f outcome => ?_, fun report' outcome => ?_⟩
    · cases succeeded.symm.trans outcome
    · obtain rfl := Except.ok.inj (succeeded.symm.trans outcome)
      refine ⟨none, List.countP_eq_zero.2 fun p member => ?_⟩
      simp [resolved p member]
  · refine ⟨fun f' outcome => ?_, fun report outcome => ?_⟩
    · obtain rfl := Except.error.inj (failed.symm.trans outcome)
      exact place
    · cases failed.symm.trans outcome

end

/- The second of three entries waits for its state to be declared; a fourth waits for another. -/
theorem aborts_keep_order_retried :
    let token (state : String) (named : state ≠ "") : Descriptor :=
      .token ⟨state, "x", ["a"], named, by decide, by decide⟩
    let r : Resolver := ⟨fun name => if name = "a" then some ⟨"a", 0⟩ else none, {}⟩
    let g := Grammar.withStates "g" ["s"]
    let ops : List Operation := [.push (token "s" (by decide)), .push (token "t" (by decide)),
      .push (token "s" (by decide)), .pass r .abort, .declare "t", .pass r .abort,
      .push (token "u" (by decide))]
    AbortsOnly ops ∧
      (∃ log, Accounts (Builder.ofGrammar g) ops log ∧ log.map (·.index) = [0, 1, 2]) ∧
      ∃ f, (((Builder.ofGrammar g).run ops).resolvePending r .abort).outcome = .error f ∧
        f.index = 3 := by
  intro token r g ops
  have aborts : AbortsOnly ops := by
    intro r' policy member
    have same : r' = r ∧ policy = .abort := by simpa [ops] using member
    exact same.2
  obtain ⟨_, ⟨log, accounts, places⟩, passes⟩ := aborts_keep_queue_order g aborts
  have three : ((Builder.ofGrammar g).run ops).queue.countP (·.status = .resolved) = 3 := by
    decide +kernel
  rw [three] at places
  refine ⟨aborts, ⟨log, accounts, places⟩, ?_⟩
  obtain ⟨fails, succeeds⟩ := passes r
  cases outcome : (((Builder.ofGrammar g).run ops).resolvePending r .abort).outcome with
  | error f =>
    have place : (((Builder.ofGrammar g).run ops).resolvePending r .abort).builder.queue.countP
        (·.status = .resolved) = 3 := by
      decide +kernel
    exact ⟨f, rfl, (fails f outcome).trans place⟩
  | ok report =>
    have left : (((Builder.ofGrammar g).run ops).resolvePending r .abort).builder.unresolved = 1 := by
      decide +kernel
    have none := (succeeds report outcome).2
    rw [left] at none
    cases none

end LexicalGrammar
