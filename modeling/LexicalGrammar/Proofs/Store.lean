import LexicalGrammar.Proofs.Integrity
import Mathlib.Algebra.Ring.Nat

/-
A grammar as a store of states. Whatever is done to it, by hand or by a resolver, it keeps its name,
its states and their rules; it only gains states that are declared and rules that are attached.
-/
namespace LexicalGrammar
variable [Pattern.Dialect]

inductive Edit where
  | declare (name : String)
  /-- Looks a state up and puts a rule behind those that it has. -/
  | append (state : String) (rule : Rule)
  | resolve (r : Resolver) (d : Declaration)

inductive Answer where
  | declared (new : Bool)
  | tried (outcome : Except ResolveFault Unit)

def Answer.isAttached : Answer → Bool
  | .tried (.ok _) => true
  | _ => false

namespace Grammar

def edit (g : Grammar) : Edit → Answer × Grammar
  | .declare name => (.declared (g.declareNew name).1, (g.declareNew name).2)
  | .append state rule =>
    match g.append state rule with
    | .ok after => (.tried (.ok ()), after)
    | .error fault => (.tried (.error fault), g)
  | .resolve r d => (.tried (r.resolve d g).outcome, (r.resolve d g).grammar)

def edits (g : Grammar) : List Edit → List Answer × Grammar
  | [] => ([], g)
  | e :: rest =>
    let (answers, last) := (g.edit e).2.edits rest
    ((g.edit e).1 :: answers, last)

theorem edits_append (g : Grammar) (earlier later : List Edit) :
    (g.edits (earlier ++ later)).2 = ((g.edits earlier).2.edits later).2 := by
  induction earlier generalizing g with
  | nil => rfl
  | cons e rest ih => exact ih (g.edit e).2

/- All that follows about edits is drawn from this: an edit declares a state, or is refused and
   changes nothing, or attaches a rule to a declared state. -/
theorem edit_cases (g : Grammar) (e : Edit) :
    (∃ name, g.edit e = (.declared (!g.hasState name), g.declare name)) ∨
    (∃ fault, g.edit e = (.tried (.error fault), g)) ∨
    ∃ state rule, g.hasState state = true ∧
      g.edit e = (.tried (.ok ()), g.attach state rule) := by
  cases e with
  | declare name =>
    refine Or.inl ⟨name, ?_⟩
    simp only [edit, declareNew_eq]
  | append state rule =>
    cases declared : g.hasState state with
    | true =>
      refine Or.inr (Or.inr ⟨state, rule, declared, ?_⟩)
      simp only [edit, append_eq, declared, ↓reduceIte]
    | false =>
      refine Or.inr (Or.inl ⟨.stateNotFound state, ?_⟩)
      simp [edit, append_eq, declared]
  | resolve r d =>
    cases judged : r.verdict d g with
    | ok rule =>
      obtain ⟨outcome, grammar⟩ := Resolver.resolve_of_ok judged
      refine Or.inr (Or.inr ⟨d.state, rule, Resolver.declared_of_verdict judged, ?_⟩)
      simp only [edit, outcome, grammar]
    | error fault =>
      obtain ⟨outcome, grammar⟩ := Resolver.resolve_of_error judged
      refine Or.inr (Or.inl ⟨fault, ?_⟩)
      simp only [edit, outcome, grammar]

structure Contained (g g' : Grammar) : Prop where
  name : g'.name = g.name
  states : ∀ name s, g.state name = .ok s →
    ∃ s', g'.state name = .ok s' ∧ s.rules <+: s'.rules

theorem contained_refl (g : Grammar) : g.Contained g :=
  ⟨rfl, fun _ s looked => ⟨s, looked, List.prefix_rfl⟩⟩

theorem contained_trans {g g' g'' : Grammar} (first : g.Contained g')
    (second : g'.Contained g'') : g.Contained g'' := by
  refine ⟨second.name.trans first.name, ?_⟩
  intro name s looked
  obtain ⟨s', looked', more⟩ := first.states name s looked
  obtain ⟨s'', looked'', more'⟩ := second.states name s' looked'
  exact ⟨s'', looked'', more.trans more'⟩

theorem contained_of_rules {g g' : Grammar} (name : g'.name = g.name) (states : g.Within g')
    (rules : ∀ name, g.rulesOf name <+: g'.rulesOf name) : g.Contained g' := by
  refine ⟨name, ?_⟩
  intro state s looked
  obtain ⟨s', _, looked'⟩ := state_of_hasState (states state (hasState_of_state looked))
  have grown := rules state
  rw [rulesOf_of_state looked, rulesOf_of_state looked'] at grown
  exact ⟨s', looked', grown⟩

theorem contained_declare (g : Grammar) (name : String) : g.Contained (g.declare name) := by
  have same : (g.declare name).name = g.name := rfl
  apply contained_of_rules same (g.within_declare name)
  intro state
  exact (g.rulesOf_declare name state).symm ▸ List.prefix_rfl

theorem contained_attach {g : Grammar} {state : String} (declared : g.hasState state = true)
    (rule : Rule) : g.Contained (g.attach state rule) := by
  have states : g.Within (g.attach state rule) := fun name found =>
    (g.hasState_attach state rule name).trans found
  apply contained_of_rules (g.name_attach state rule) states
  intro other
  rw [rulesOf_attach declared]
  exact List.prefix_append _ _

theorem contained_edit (g : Grammar) (e : Edit) : g.Contained (g.edit e).2 := by
  rcases edit_cases g e with ⟨name, done⟩ | ⟨fault, done⟩ | ⟨state, rule, declared, done⟩
  · rw [done]
    exact g.contained_declare name
  · rw [done]
    exact g.contained_refl
  · rw [done]
    exact contained_attach declared rule

theorem contained_edits (g : Grammar) (es : List Edit) : g.Contained (g.edits es).2 := by
  induction es generalizing g with
  | nil => exact g.contained_refl
  | cons e rest ih => exact contained_trans (g.contained_edit e) (ih (g.edit e).2)

theorem named_edit {g : Grammar} (named : g.Named) (e : Edit) : (g.edit e).2.Named := by
  rcases edit_cases g e with ⟨name, done⟩ | ⟨fault, done⟩ | ⟨state, rule, _, done⟩
  · rw [done]
    exact named_declare named name
  · rwa [done]
  · rw [done]
    exact named_attach named state rule

theorem named_edits {g : Grammar} (named : g.Named) (es : List Edit) : (g.edits es).2.Named := by
  induction es generalizing g with
  | nil => exact named
  | cons e rest ih => exact ih (named_edit named e)

theorem ruleCount_edit (g : Grammar) (e : Edit) :
    (g.edit e).2.ruleCount = g.ruleCount + if (g.edit e).1.isAttached then 1 else 0 := by
  rcases edit_cases g e with ⟨name, done⟩ | ⟨fault, done⟩ | ⟨state, rule, declared, done⟩
  · rw [done]
    exact g.ruleCount_declare name
  · rw [done]
    rfl
  · rw [done]
    exact ruleCount_attach declared rule

theorem ruleCount_edits (g : Grammar) (es : List Edit) :
    (g.edits es).2.ruleCount = g.ruleCount + (g.edits es).1.countP Answer.isAttached := by
  induction es generalizing g with
  | nil => rfl
  | cons e rest ih =>
    have here := ruleCount_edit g e
    have later := ih (g.edit e).2
    simp only [edits, List.countP_cons]
    omega

theorem ruleCount_eq_sum (g : Grammar) :
    g.ruleCount = (g.stateNames.map fun name => (g.rulesOf name).length).sum := by
  have sizes : g.states.entries.map (fun e => e.2.size) =
      g.states.entries.map fun e => (g.rulesOf e.1).length := by
    apply List.map_congr_left
    intro e member
    simp [rulesOf, NameMap.get?_of_mem member, State.size]
  simp only [ruleCount, stateNames, NameMap.values, NameMap.names, List.map_map,
    Function.comp_def, sizes, List.sum]

end Grammar

theorem start_fresh (start : Start) :
    start.build.grammar.Named ∧ start.build.grammar.ruleCount = 0 := by
  cases start with
  | empty name => exact ⟨Grammar.named_empty name, rfl⟩
  | withStates name states =>
    exact ⟨Grammar.named_declareAll (Grammar.named_empty name) states,
      Grammar.ruleCount_withStates name states⟩
  | builder name => exact ⟨Grammar.named_empty name, rfl⟩

/-- What holds of a grammar at any point of a run, with the answers up to it. -/
structure Consistent (g : Grammar) (answers : List Answer) : Prop where
  named : g.Named
  new : ∀ name, (g.declareNew name).1 = true ↔ g.hasState name = false
  added : ∀ name, g.hasState name = false → (g.declareNew name).2.state name = .ok ⟨name, []⟩
  kept : ∀ name, g.hasState name = true → (g.declareNew name).2 = g
  absent : ∀ name, g.hasState name = false → g.state name = .error (.stateNotFound name)
  refused : ∀ name rule, g.hasState name = false →
    g.edit (.append name rule) = (.tried (.error (.stateNotFound name)), g)
  sum : g.ruleCount = (g.stateNames.map fun name => (g.rulesOf name).length).sum
  attached : g.ruleCount = answers.countP Answer.isAttached

/- At each point of a run the grammar is contained in what it is at any later one. A name that is
   declared again changes nothing, and one that is only looked up does not become a state. The rules
   are as many as were attached since the grammar was made. -/
theorem store_only_grows (start : Start) (earlier later : List Edit) :
    let g := (start.build.grammar.edits earlier).2
    let g' := (start.build.grammar.edits (earlier ++ later)).2
    g.Contained g' ∧ Consistent g (start.build.grammar.edits earlier).1 := by
  intro g g'
  obtain ⟨named, bare⟩ := start_fresh start
  constructor
  · have run : g' = (g.edits later).2 := Grammar.edits_append _ earlier later
    rw [run]
    exact g.contained_edits later
  · constructor
    case named => exact Grammar.named_edits named earlier
    case new =>
      intro name
      simp [Grammar.declareNew_eq]
    case added =>
      intro name missing
      rw [Grammar.declareNew_eq]
      exact Grammar.state_declare missing
    case kept =>
      intro name declared
      simp only [Grammar.declareNew, declared, ↓reduceIte]
    case absent =>
      intro name missing
      exact Grammar.state_of_missing missing
    case refused =>
      intro name rule missing
      simp [Grammar.edit, Grammar.append_eq, missing]
    case sum => exact g.ruleCount_eq_sum
    case attached =>
      have count := start.build.grammar.ruleCount_edits earlier
      rwa [bare, Nat.zero_add] at count

end LexicalGrammar
