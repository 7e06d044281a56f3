import LexicalGrammar.Proofs.Pass

/-
Runs of a builder: states are declared, descriptors queued and passes made in any order, with any
resolvers and policies. An entry stays where it was queued and stays resolved once it is.
-/
namespace LexicalGrammar
variable [Pattern.Dialect]

/-- What can be done to a builder. A pass counts, whether it ends well or not. -/
inductive Operation where
  | declare (state : String)
  | push (d : Descriptor)
  | pass (r : Resolver) (policy : FailurePolicy)

namespace Builder

def step (b : Builder) : Operation → Builder
  | .declare state => b.declare state
  | .push d => b.push d
  | .pass r policy => (b.resolvePending r policy).builder

def run (b : Builder) (ops : List Operation) : Builder :=
  ops.foldl step b

theorem run_append (b : Builder) (earlier later : List Operation) :
    b.run (earlier ++ later) = (b.run earlier).run later :=
  List.foldl_append

theorem run_snoc (b : Builder) (ops : List Operation) (op : Operation) :
    b.run (ops ++ [op]) = (b.run ops).step op :=
  run_append b ops [op]

/-- Each entry is where it was, with its descriptor, and is resolved if it was. -/
def Keeps (b b' : Builder) : Prop :=
  ∀ (i : Nat) (p : Pending), b.queue[i]? = some p →
    ∃ q, b'.queue[i]? = some q ∧ q.descriptor = p.descriptor ∧
      (p.status = .resolved → q.status = .resolved)

theorem keeps_refl (b : Builder) : b.Keeps b :=
  fun _ p entry => ⟨p, entry, rfl, id⟩

theorem keeps_trans {b b' b'' : Builder} (first : b.Keeps b') (second : b'.Keeps b'') :
    b.Keeps b'' := by
  intro i p entry
  obtain ⟨q, entry', same, stays⟩ := first i p entry
  obtain ⟨s, entry'', same', stays'⟩ := second i q entry'
  exact ⟨s, entry'', same'.trans same, fun settled => stays' (stays settled)⟩

theorem keeps_pass (b : Builder) (r : Resolver) (policy : FailurePolicy) :
    b.Keeps (b.resolvePending r policy).builder := by
  obtain ⟨done, rest, queue, builder⟩ := pass_split b r policy
  intro i p entry
  rw [queue] at entry
  rw [builder]
  by_cases before : i < done.length
  · rw [List.getElem?_append_left before] at entry
    refine ⟨p.settle r b.grammar, ?_, p.settle_descriptor r b.grammar, fun settled => ?_⟩
    · have inside : i < (done.map (·.settle r b.grammar)).length := by simpa using before
      rw [List.getElem?_append_left inside]
      simp [entry]
    · exact (p.settle_resolved_iff r b.grammar).2 (Or.inl settled)
  · have behind : (done.map (·.settle r b.grammar)).length ≤ i := by simpa using before
    rw [List.getElem?_append_right (Nat.not_lt.1 before)] at entry
    refine ⟨p, ?_, rfl, id⟩
    rw [List.getElem?_append_right behind]
    simpa using entry

theorem keeps_step (b : Builder) (op : Operation) : b.Keeps (b.step op) := by
  cases op with
  | declare state => exact keeps_refl b
  | push d =>
    intro i p entry
    have inside := (List.getElem?_eq_some_iff.1 entry).1
    refine ⟨p, ?_, rfl, id⟩
    simpa [step, push, List.getElem?_append_left inside] using entry
  | pass r policy => exact keeps_pass b r policy

theorem keeps_run (b : Builder) (ops : List Operation) : b.Keeps (b.run ops) := by
  induction ops generalizing b with
  | nil => exact keeps_refl b
  | cons op rest ih => exact keeps_trans (keeps_step b op) (ih (b.step op))

/-- A step adds as many rules as it resolves entries. -/
theorem ruleCount_step (b : Builder) (op : Operation) :
    (b.step op).grammar.ruleCount + b.queue.countP (·.status = .resolved) =
      b.grammar.ruleCount + (b.step op).queue.countP (·.status = .resolved) := by
  cases op with
  | declare state => simp [step, declare, Grammar.ruleCount_declare]
  | push d => simp [step, push]
  | pass r policy =>
    obtain ⟨done, rest, queue, builder⟩ := pass_split b r policy
    have gained := Grammar.ruleCount_attachAll (@added_declared _ r b.grammar done)
    have resolved := countP_settle r b.grammar done
    simp only [step, builder, queue, List.countP_append]
    omega

theorem ruleCount_run (b : Builder) (ops : List Operation) :
    (b.run ops).grammar.ruleCount + b.queue.countP (·.status = .resolved) =
      b.grammar.ruleCount + (b.run ops).queue.countP (·.status = .resolved) := by
  induction ops generalizing b with
  | nil => rfl
  | cons op rest ih =>
    have here := ruleCount_step b op
    have later := ih (b.step op)
    simp only [run, List.foldl_cons] at later ⊢
    omega

end Builder
end LexicalGrammar
