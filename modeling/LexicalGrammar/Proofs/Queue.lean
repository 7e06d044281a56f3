import LexicalGrammar.Proofs.Collect
import LexicalGrammar.Proofs.Run

/-
Descriptors as they are queued and as they are after they were tried. Trying an entry again with
the same resolver and the same states finds no rule that was not found before.
-/
namespace LexicalGrammar
variable [Pattern.Dialect]
namespace Pending

def fresh (d : Descriptor) : Pending :=
  ⟨d, .unresolved⟩

def tried (r : Resolver) (g : Grammar) (d : Descriptor) : Pending :=
  (fresh d).settle r g

variable (r : Resolver) (g : Grammar)

theorem fate_fresh_attached_iff (d : Descriptor) (rule : Rule) :
    (fresh d).fate r g = .attached rule ↔ r.verdict d.declaration g = .ok rule := by
  rw [fate_attached_iff]
  exact and_iff_right rfl

theorem fate_fresh_failed_iff (d : Descriptor) (fault : ResolveFault) :
    (fresh d).fate r g = .failed fault ↔ r.verdict d.declaration g = .error fault := by
  rw [fate_failed_iff]
  exact and_iff_right rfl

variable {r g} in
theorem settle_of_attached {p : Pending} {rule : Rule} (judged : p.fate r g = .attached rule) :
    p.settle r g = ⟨p.descriptor, .resolved⟩ := by
  rw [settle, judged]

variable {r g} in
theorem settle_of_no_rule {p : Pending} (nothing : (p.fate r g).rule? = none) :
    p.settle r g = p := by
  cases judged : p.fate r g with
  | skipped => rw [settle, judged]
  | failed fault => rw [settle, judged]
  | attached rule => simp [judged, Fate.rule?] at nothing

variable {r g} in
theorem tried_of_ok {d : Descriptor} {rule : Rule} (made : r.verdict d.declaration g = .ok rule) :
    tried r g d = ⟨d, .resolved⟩ :=
  settle_of_attached ((fate_fresh_attached_iff r g d rule).2 made)

variable {r g} in
theorem tried_of_error {d : Descriptor} {fault : ResolveFault}
    (refused : r.verdict d.declaration g = .error fault) : tried r g d = fresh d := by
  refine settle_of_no_rule ?_
  rw [(fate_fresh_failed_iff r g d fault).2 refused]
  rfl

theorem tried_descriptor (d : Descriptor) : (tried r g d).descriptor = d :=
  settle_descriptor (fresh d) r g

theorem tried_resolved_iff (d : Descriptor) :
    (tried r g d).status = .resolved ↔ ∃ rule, r.verdict d.declaration g = .ok rule := by
  have waiting : (fresh d).status ≠ .resolved := by simp [fresh]
  unfold tried
  rw [settle_resolved_iff, or_iff_right waiting]
  simp only [fate_fresh_attached_iff]

theorem fate_settle (p : Pending) : (p.settle r g).fate r g =
    match p.fate r g with
    | .attached _ => .skipped
    | other => other := by
  cases judged : p.fate r g with
  | skipped => simp [settle, judged]
  | failed fault => simp [settle, judged]
  | attached rule => simp [settle, judged, fate_skipped_iff]

theorem rule_settle (p : Pending) : ((p.settle r g).fate r g).rule? = none := by
  rw [fate_settle]
  cases p.fate r g <;> rfl

theorem fault_settle (p : Pending) :
    ((p.settle r g).fate r g).fault? = (p.fate r g).fault? := by
  rw [fate_settle]
  cases p.fate r g <;> rfl

theorem settle_settle (p : Pending) : (p.settle r g).settle r g = p.settle r g :=
  settle_of_no_rule (rule_settle r g p)

theorem tried_congr {g g' : Grammar} (alike : g.Alike g') (r : Resolver) (d : Descriptor) :
    tried r g' d = tried r g d :=
  settle_congr alike r (fresh d)

end Pending

section
variable (r : Resolver) (g : Grammar)

theorem settle_fresh (ds : List Descriptor) :
    (ds.map Pending.fresh).map (·.settle r g) = ds.map (Pending.tried r g) := by
  rw [List.map_map]
  rfl

theorem settle_settled (entries : List Pending) :
    (entries.map (·.settle r g)).map (·.settle r g) = entries.map (·.settle r g) := by
  simp [Pending.settle_settle, Function.comp_def]

theorem added_settled (entries : List Pending) :
    added r g (entries.map (·.settle r g)) = [] := by
  refine List.filterMap_eq_nil_iff.2 fun q member => ?_
  obtain ⟨p, _, rfl⟩ := List.mem_map.1 member
  simp [Pending.rule_settle]

theorem failuresFrom_settled (index : Nat) (entries : List Pending) :
    failuresFrom r g index (entries.map (·.settle r g)) = failuresFrom r g index entries := by
  induction entries generalizing index with
  | nil => rfl
  | cons p rest ih =>
    rw [List.map_cons, failuresFrom_cons, failuresFrom_cons, ih, Pending.fault_settle,
      Pending.settle_descriptor]

theorem settle_tried (ds : List Descriptor) :
    (ds.map (Pending.tried r g)).map (·.settle r g) = ds.map (Pending.tried r g) := by
  rw [← settle_fresh, settle_settled]

theorem added_tried (ds : List Descriptor) : added r g (ds.map (Pending.tried r g)) = [] := by
  rw [← settle_fresh, added_settled]

theorem failuresFrom_tried (index : Nat) (ds : List Descriptor) :
    failuresFrom r g index (ds.map (Pending.tried r g)) =
      failuresFrom r g index (ds.map Pending.fresh) := by
  rw [← settle_fresh, failuresFrom_settled]

end

namespace Builder

theorem foldl_push (b : Builder) (ds : List Descriptor) :
    ds.foldl push b = ⟨b.grammar, b.queue ++ ds.map Pending.fresh⟩ := by
  induction ds generalizing b with
  | nil => simp
  | cons d rest ih =>
    rw [List.foldl_cons, ih]
    simp [push, Pending.fresh]

theorem run_pushes (b : Builder) (ds : List Descriptor) :
    b.run (ds.map .push) = ⟨b.grammar, b.queue ++ ds.map Pending.fresh⟩ := by
  rw [run, List.foldl_map]
  exact foldl_push b ds

theorem run_declares (b : Builder) (states : List String) :
    b.run (states.map .declare) = ⟨b.grammar.declareAll states, b.queue⟩ := by
  induction states generalizing b with
  | nil => rfl
  | cons state rest ih => exact ih (b.declare state)

theorem alike_pass (b : Builder) (r : Resolver) (policy : FailurePolicy) :
    b.grammar.Alike (b.resolvePending r policy).builder.grammar := by
  obtain ⟨done, rest, _, builder⟩ := pass_split b r policy
  rw [builder]
  exact b.grammar.alike_attachAll _

theorem descriptors_pass (b : Builder) (r : Resolver) (policy : FailurePolicy) :
    (b.resolvePending r policy).builder.queue.map (·.descriptor) =
      b.queue.map (·.descriptor) := by
  obtain ⟨done, rest, queue, builder⟩ := pass_split b r policy
  rw [builder, queue]
  simp [Pending.settle_descriptor, Function.comp_def]

theorem collect_fresh {b : Builder} {ds : List Descriptor} (queue : b.queue = ds.map Pending.fresh)
    (r : Resolver) : (b.resolvePending r .collect).builder =
      ⟨b.grammar.attachAll (added r b.grammar (ds.map Pending.fresh)),
        ds.map (Pending.tried r b.grammar)⟩ := by
  rw [(collect_complete b r).2, queue, settle_fresh]

end Builder
end LexicalGrammar
