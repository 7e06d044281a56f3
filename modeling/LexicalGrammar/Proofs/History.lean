import LexicalGrammar.Proofs.Run

/-
The history of a run: which pass has attached which rule for which entry. It accounts for every
rule that a state has gained and for every entry that is resolved, each once.
-/
namespace LexicalGrammar
variable [Pattern.Dialect]

structure Attachment where
  pass : Nat
  index : Nat
  descriptor : Descriptor
  rule : Rule

namespace Attachment

def Before (a a' : Attachment) : Prop :=
  a.pass < a'.pass ∨ (a.pass = a'.pass ∧ a.index < a'.index)

/-- The operation is a pass that has found the entry unresolved and left it resolved, and the rule
is what the resolver of that pass makes of the descriptor. -/
def Made (a : Attachment) (b : Builder) (ops : List Operation) : Prop :=
  ∃ r policy, ops[a.pass]? = some (.pass r policy) ∧
    (b.run (ops.take a.pass)).queue[a.index]? = some ⟨a.descriptor, .unresolved⟩ ∧
    (b.run (ops.take (a.pass + 1))).queue[a.index]? = some ⟨a.descriptor, .resolved⟩ ∧
    r.Makes a.descriptor a.rule

theorem made_in_run {a : Attachment} {b : Builder} {ops : List Operation} (made : a.Made b ops) :
    a.pass < ops.length := by
  obtain ⟨r, policy, operation, _⟩ := made
  exact (List.getElem?_eq_some_iff.1 operation).1

theorem made_append {a : Attachment} {b : Builder} {ops : List Operation} (made : a.Made b ops)
    (later : List Operation) : a.Made b (ops ++ later) := by
  have inside := made_in_run made
  obtain ⟨r, policy, operation, found, left, rule⟩ := made
  refine ⟨r, policy, ?_, ?_, ?_, rule⟩
  · rw [List.getElem?_append_left inside, operation]
  · rw [List.take_append_of_le_length (Nat.le_of_lt inside), found]
  · rw [List.take_append_of_le_length inside, left]

theorem entry_of_made {a : Attachment} {b : Builder} {ops : List Operation} (made : a.Made b ops) :
    (b.run ops).queue[a.index]? = some ⟨a.descriptor, .resolved⟩ := by
  obtain ⟨r, policy, _, _, left, _⟩ := made
  have kept := Builder.keeps_run (b.run (ops.take (a.pass + 1))) (ops.drop (a.pass + 1))
  rw [← Builder.run_append, List.take_append_drop] at kept
  obtain ⟨⟨d, status⟩, entry, same, stays⟩ := kept a.index _ left
  have descriptor : d = a.descriptor := same
  have settled : status = .resolved := stays rfl
  rw [entry, descriptor, settled]

end Attachment

def attachmentsFrom (pass : Nat) (r : Resolver) (g : Grammar) :
    Nat → List Pending → List Attachment :=
  gather fun i p => (p.fate r g).rule?.map (⟨pass, i, p.descriptor, ·⟩)

theorem mem_attachmentsFrom (pass : Nat) (r : Resolver) (g : Grammar) (entries : List Pending)
    (a : Attachment) : a ∈ attachmentsFrom pass r g 0 entries ↔ a.pass = pass ∧
      entries[a.index]? = some ⟨a.descriptor, .unresolved⟩ ∧
      r.verdict a.descriptor.declaration g = .ok a.rule := by
  unfold attachmentsFrom
  rw [mem_gather]
  constructor
  · rintro ⟨i, ⟨d, status⟩, entry, told⟩
    obtain ⟨rule, gets, built⟩ := Option.map_eq_some_iff.1 told
    subst built
    cases judged : Pending.fate ⟨d, status⟩ r g with
    | skipped => simp [judged, Fate.rule?] at gets
    | failed fault => simp [judged, Fate.rule?] at gets
    | attached other =>
      obtain ⟨waiting, made⟩ := (Pending.fate_attached_iff _ r g other).1 judged
      simp only [judged, Fate.rule?, Option.some.injEq] at gets
      have unresolved : status = .unresolved := waiting
      subst gets unresolved
      exact ⟨rfl, entry, made⟩
  · rintro ⟨rfl, entry, made⟩
    have judged := (Pending.fate_attached_iff ⟨a.descriptor, .unresolved⟩ r g a.rule).2 ⟨rfl, made⟩
    exact ⟨a.index, _, entry, by simp [judged, Fate.rule?]⟩

theorem attachmentsFrom_ordered (pass : Nat) (r : Resolver) (g : Grammar)
    (entries : List Pending) :
    (attachmentsFrom pass r g 0 entries).Pairwise (·.index < ·.index) := by
  refine gather_ascending _ Attachment.index (fun {i p a} told => ?_) 0 entries
  obtain ⟨rule, _, built⟩ := Option.map_eq_some_iff.1 told
  subst built
  rfl

theorem added_eq_attachments (pass : Nat) (r : Resolver) (g : Grammar) (index : Nat)
    (entries : List Pending) : added r g entries =
      (attachmentsFrom pass r g index entries).map fun a => (a.descriptor.rule.state, a.rule) := by
  unfold attachmentsFrom
  induction entries generalizing index with
  | nil => rfl
  | cons p rest ih =>
    rw [added_cons, gather_cons, List.map_append, ← ih (index + 1)]
    cases (p.fate r g).rule? <;> rfl

/-- A list of attachments accounts for a run: it is ordered by pass and by place in the queue, it
names each resolved entry once and no others, and it holds what each state has gained. -/
structure Accounts (b : Builder) (ops : List Operation) (log : List Attachment) : Prop where
  ordered : log.Pairwise Attachment.Before
  once : (log.map (·.index)).Nodup
  made : ∀ a ∈ log, a.Made b ops
  entries : ∀ a ∈ log, (b.run ops).queue[a.index]? = some ⟨a.descriptor, .resolved⟩
  resolved : ∀ i, (b.run ops).status? i = some .resolved ↔ ∃ a ∈ log, a.index = i
  rules : ∀ state, (b.run ops).grammar.rulesOf state = b.grammar.rulesOf state ++
    (log.filter (·.descriptor.rule.state = state)).map (·.rule)

theorem accounts_quiet {b : Builder} {ops : List Operation} {op : Operation}
    {log : List Attachment} (accounts : Accounts b ops log)
    (statuses : ∀ i, ((b.run ops).step op).status? i = some .resolved ↔
      (b.run ops).status? i = some .resolved)
    (rules : ∀ state, ((b.run ops).step op).grammar.rulesOf state =
      (b.run ops).grammar.rulesOf state) : Accounts b (ops ++ [op]) log := by
  have made : ∀ a ∈ log, a.Made b (ops ++ [op]) := fun a member =>
    Attachment.made_append (accounts.made a member) [op]
  constructor
  case ordered => exact accounts.ordered
  case once => exact accounts.once
  case made => exact made
  case entries => exact fun a member => Attachment.entry_of_made (made a member)
  case resolved =>
    intro i
    rw [Builder.run_snoc, statuses, accounts.resolved]
  case rules =>
    intro state
    rw [Builder.run_snoc, rules, accounts.rules]

theorem status_after_pass (r : Resolver) (g : Grammar) (done rest : List Pending) (pass i : Nat) :
    (done.map (·.settle r g) ++ rest)[i]?.map (·.status) = some .resolved ↔
      (done ++ rest)[i]?.map (·.status) = some .resolved ∨
        ∃ a ∈ attachmentsFrom pass r g 0 done, a.index = i := by
  by_cases before : i < done.length
  · have inside : i < (done.map (·.settle r g)).length := by simpa using before
    have entry : done[i]? = some done[i] := List.getElem?_eq_getElem before
    rw [List.getElem?_append_left inside, List.getElem?_append_left before, List.getElem?_map,
      entry]
    simp only [Option.map_some, Option.some.injEq]
    rw [Pending.settle_resolved_iff]
    refine or_congr_right ⟨?_, ?_⟩
    · rintro ⟨rule, judged⟩
      obtain ⟨waiting, made⟩ := (Pending.fate_attached_iff _ r g rule).1 judged
      refine ⟨⟨pass, i, done[i].descriptor, rule⟩, ?_, rfl⟩
      refine (mem_attachmentsFrom pass r g done _).2 ⟨rfl, ?_, made⟩
      rw [entry, ← waiting]
    · rintro ⟨a, member, rfl⟩
      obtain ⟨_, found, made⟩ := (mem_attachmentsFrom pass r g done a).1 member
      have same : done[a.index] = ⟨a.descriptor, .unresolved⟩ :=
        Option.some.inj (entry.symm.trans found)
      exact ⟨a.rule, (Pending.fate_attached_iff _ r g a.rule).2 (by simp [same, made])⟩
  · have behind : (done.map (·.settle r g)).length ≤ i := by simpa using before
    rw [List.getElem?_append_right behind, List.getElem?_append_right (Nat.not_lt.1 before)]
    simp only [List.length_map]
    refine ⟨Or.inl, fun either => either.resolve_right ?_⟩
    rintro ⟨a, member, rfl⟩
    obtain ⟨_, found, _⟩ := (mem_attachmentsFrom pass r g done a).1 member
    exact before (List.getElem?_eq_some_iff.1 found).1

theorem unresolved_of_attachment {pass : Nat} {r : Resolver} {g : Grammar}
    {queue done rest : List Pending} (split : queue = done ++ rest) {a : Attachment}
    (member : a ∈ attachmentsFrom pass r g 0 done) :
    queue[a.index]? = some ⟨a.descriptor, .unresolved⟩ := by
  obtain ⟨_, found, _⟩ := (mem_attachmentsFrom pass r g done a).1 member
  have before : a.index < done.length := (List.getElem?_eq_some_iff.1 found).1
  rw [split, List.getElem?_append_left before, found]

theorem made_by_pass {b : Builder} {ops : List Operation} {r : Resolver} {policy : FailurePolicy}
    {done rest : List Pending} (queue : (b.run ops).queue = done ++ rest)
    (left : ((b.run ops).resolvePending r policy).builder.queue =
      done.map (·.settle r (b.run ops).grammar) ++ rest) {a : Attachment}
    (member : a ∈ attachmentsFrom ops.length r (b.run ops).grammar 0 done) :
    a.Made b (ops ++ [.pass r policy]) := by
  obtain ⟨here, found, made⟩ := (mem_attachmentsFrom _ r _ done a).1 member
  have before : a.index < done.length := (List.getElem?_eq_some_iff.1 found).1
  have inside : a.index < (done.map (·.settle r (b.run ops).grammar)).length := by
    simpa using before
  have judged := (Pending.fate_attached_iff ⟨a.descriptor, .unresolved⟩ r _ a.rule).2 ⟨rfl, made⟩
  refine ⟨r, policy, ?_, ?_, ?_, Resolver.makes_of_verdict made⟩
  · simp [here]
  · rw [here, List.take_left]
    exact unresolved_of_attachment queue member
  · have whole : (ops ++ [Operation.pass r policy]).take (a.pass + 1) = ops ++ [.pass r policy] :=
      List.take_of_length_le (by simp [here])
    rw [whole, Builder.run_snoc, Builder.step, left, List.getElem?_append_left inside,
      List.getElem?_map, found]
    simp [Pending.settle, judged]

theorem accounts_pass {b : Builder} {ops : List Operation} {log : List Attachment}
    (accounts : Accounts b ops log) (r : Resolver) (policy : FailurePolicy) :
    ∃ new, Accounts b (ops ++ [.pass r policy]) (log ++ new) := by
  obtain ⟨done, rest, queue, builder⟩ := Builder.pass_split (b.run ops) r policy
  have grammar := congrArg Builder.grammar builder
  have left := congrArg Builder.queue builder
  let new := attachmentsFrom ops.length r (b.run ops).grammar 0 done
  have made : ∀ a ∈ log ++ new, a.Made b (ops ++ [.pass r policy]) := by
    intro a member
    rcases List.mem_append.1 member with old | fresh
    · exact Attachment.made_append (accounts.made a old) [.pass r policy]
    · exact made_by_pass queue left fresh
  have ascending := attachmentsFrom_ordered ops.length r (b.run ops).grammar done
  have recent : ∀ a ∈ new, a.pass = ops.length := fun a member =>
    ((mem_attachmentsFrom _ r _ done a).1 member).1
  refine ⟨new, ?_⟩
  constructor
  case ordered =>
    refine List.pairwise_append.2 ⟨accounts.ordered, ?_, ?_⟩
    · refine ascending.imp_of_mem fun member member' less => Or.inr ⟨?_, less⟩
      rw [recent _ member, recent _ member']
    · intro a old a' fresh
      have earlier := Attachment.made_in_run (accounts.made a old)
      exact Or.inl (by rw [recent a' fresh]; exact earlier)
  case once =>
    rw [List.map_append]
    refine List.nodup_append.2 ⟨accounts.once, ?_, ?_⟩
    · exact List.pairwise_map.2 (ascending.imp Nat.ne_of_lt)
    · intro i old j fresh same
      obtain ⟨a, member, rfl⟩ := List.mem_map.1 old
      obtain ⟨a', member', rfl⟩ := List.mem_map.1 fresh
      have settled := accounts.entries a member
      have waiting := unresolved_of_attachment queue member'
      rw [same, waiting] at settled
      simp at settled
  case made => exact made
  case entries => exact fun a member => Attachment.entry_of_made (made a member)
  case resolved =>
    intro i
    have either := status_after_pass r (b.run ops).grammar done rest ops.length i
    have before := accounts.resolved i
    simp only [Builder.status?, queue] at before
    simp only [Builder.run_snoc, Builder.step, Builder.status?, left, either, before,
      List.mem_append, or_and_right, exists_or]
    rfl
  case rules =>
    intro state
    rw [Builder.run_snoc, Builder.step, grammar, Grammar.rulesOf_attachAll added_declared,
      added_eq_attachments ops.length r _ 0 done, accounts.rules state]
    simp [List.filter_map, Function.comp_def, new]

theorem accounts_step {b : Builder} {ops : List Operation} {log : List Attachment}
    (accounts : Accounts b ops log) (op : Operation) :
    ∃ new, Accounts b (ops ++ [op]) (log ++ new) := by
  cases op with
  | declare state =>
    refine ⟨[], ?_⟩
    rw [List.append_nil]
    exact accounts_quiet accounts (fun _ => Iff.rfl) fun other =>
      Grammar.rulesOf_declare (b.run ops).grammar state other
  | push d =>
    refine ⟨[], ?_⟩
    rw [List.append_nil]
    refine accounts_quiet accounts (fun i => ?_) fun _ => rfl
    simp only [Builder.step, Builder.push, Builder.status?]
    by_cases before : i < (b.run ops).queue.length
    · rw [List.getElem?_append_left before]
    · rw [List.getElem?_append_right (Nat.not_lt.1 before),
        List.getElem?_eq_none (Nat.not_lt.1 before)]
      cases i - (b.run ops).queue.length <;> simp
  | pass r policy => exact accounts_pass accounts r policy

/- Induction on what is still to be done; the account of what was done before only grows. -/
theorem accounts_append {b : Builder} {earlier : List Operation} {log : List Attachment}
    (accounts : Accounts b earlier log) (later : List Operation) :
    ∃ new, Accounts b (earlier ++ later) (log ++ new) := by
  induction later generalizing earlier log with
  | nil => exact ⟨[], by simpa using accounts⟩
  | cons op rest ih =>
    obtain ⟨new, next⟩ := accounts_step accounts op
    obtain ⟨more, done⟩ := ih next
    refine ⟨new ++ more, ?_⟩
    rwa [List.append_assoc, List.append_assoc, List.singleton_append] at done

theorem accounts_run (g : Grammar) (ops : List Operation) :
    ∃ log, Accounts (Builder.ofGrammar g) ops log := by
  have start : Accounts (Builder.ofGrammar g) [] [] := by
    constructor <;> simp [Builder.run, Builder.ofGrammar, Builder.status?]
  obtain ⟨log, accounts⟩ := accounts_append start ops
  exact ⟨_, accounts⟩

/- At every point of a run the rules are those that the grammar had at first and one for each
   resolved entry. A history tells which pass has attached which: each state has its first rules
   and then those of its resolved entries, by pass and within a pass by place, each made by the
   resolver of that pass. No entry leaves its place or becomes unresolved again. -/
theorem attached_exactly_once (g : Grammar) (ops : List Operation) :
    let b := (Builder.ofGrammar g).run ops
    b.grammar.ruleCount = g.ruleCount + b.queue.countP (·.status = .resolved) ∧
    (∃ log, Accounts (Builder.ofGrammar g) ops log) ∧
    ∀ earlier later, ops = earlier ++ later → ((Builder.ofGrammar g).run earlier).Keeps b := by
  intro b
  refine ⟨?_, accounts_run g ops, ?_⟩
  · exact Builder.ruleCount_run (Builder.ofGrammar g) ops
  · intro earlier later split
    have kept := Builder.keeps_run ((Builder.ofGrammar g).run earlier) later
    rwa [← Builder.run_append, ← split] at kept

end LexicalGrammar
