import LexicalGrammar.Proofs.Monotone
import LexicalGrammar.Proofs.Run

/-
Where the names in a grammar lead. A grammar may be changed by its builder or past it, and steps of
both kinds may fail. Every rule has the handles of the categories that its descriptor names, every
state that it pushes is declared, and nothing that is done later changes that.
-/
namespace LexicalGrammar

section
variable [Pattern.Dialect]

def StateRef.denoted (owner : String) : StateRef → String
  | .current => owner
  | .named name => name

inductive Start where
  | empty (name : String)
  | withStates (name : String) (states : List String)
  | builder (name : String)

def Start.build : Start → Builder
  | .empty name => .ofGrammar (.empty name)
  | .withStates name states => .ofGrammar (.withStates name states)
  | .builder name => .empty name

inductive Action where
  | operate (op : Operation)
  /-- Resolves a descriptor that is in no queue. -/
  | resolve (r : Resolver) (d : Descriptor)
  | requeue

def Action.Tries (b : Builder) (r : Resolver) (d : Descriptor) : Action → Prop
  | .operate (.pass r' _) => r' = r ∧ ⟨d, .unresolved⟩ ∈ b.queue
  | .resolve r' d' => r' = r ∧ d' = d
  | _ => False

namespace Builder

def act (b : Builder) : Action → Builder
  | .operate op => b.step op
  | .resolve r d => { b with grammar := (r.resolve d.declaration b.grammar).grammar }
  | .requeue => ofGrammar b.grammar

def acts (b : Builder) (actions : List Action) : Builder :=
  actions.foldl act b

theorem acts_append (b : Builder) (earlier later : List Action) :
    b.acts (earlier ++ later) = (b.acts earlier).acts later :=
  List.foldl_append

theorem acts_snoc (b : Builder) (actions : List Action) (a : Action) :
    b.acts (actions ++ [a]) = (b.acts actions).act a :=
  acts_append b actions [a]

def Yields (b : Builder) (a : Action) (e : String × Rule) : Prop :=
  ∃ r d, a.Tries b r d ∧ e.1 = d.rule.state ∧ r.verdict d.declaration b.grammar = .ok e.2

theorem declared_of_yields {b : Builder} {a : Action} {e : String × Rule} (yields : b.Yields a e) :
    b.grammar.hasState e.1 = true := by
  obtain ⟨r, d, _, state, made⟩ := yields
  rw [state]
  exact Resolver.declared_of_verdict made

/- All that follows about actions is drawn from this: an action declares a state or attaches rules
   that it has made in the grammar that it found. -/
theorem act_cases (b : Builder) (a : Action) :
    (∃ state, (b.act a).grammar = b.grammar.declare state) ∨
    (∃ new, (b.act a).grammar = b.grammar.attachAll new ∧ ∀ e ∈ new, b.Yields a e) := by
  cases a with
  | operate op =>
    cases op with
    | declare state => exact Or.inl ⟨state, rfl⟩
    | push d => exact Or.inr ⟨[], rfl, by simp⟩
    | pass r policy =>
      obtain ⟨done, rest, queue, builder⟩ := pass_split b r policy
      refine Or.inr ⟨added r b.grammar done, congrArg Builder.grammar builder, ?_⟩
      intro e member
      obtain ⟨⟨d, status⟩, entry, waiting, state, made⟩ := mem_added member
      obtain rfl : status = .unresolved := waiting
      refine ⟨r, d, ⟨rfl, ?_⟩, state, made⟩
      rw [queue]
      exact List.mem_append_left rest entry
  | resolve r d =>
    cases judged : r.verdict d.declaration b.grammar with
    | error fault => exact Or.inr ⟨[], (Resolver.resolve_of_error judged).2, by simp⟩
    | ok rule =>
      refine Or.inr ⟨[(d.rule.state, rule)], (Resolver.resolve_of_ok judged).2, ?_⟩
      intro e member
      obtain rfl := List.mem_singleton.1 member
      exact ⟨r, d, ⟨rfl, rfl⟩, rfl, judged⟩
  | requeue => exact Or.inr ⟨[], rfl, by simp⟩

theorem within_act (b : Builder) (a : Action) : b.grammar.Within (b.act a).grammar := by
  rcases act_cases b a with ⟨state, after⟩ | ⟨new, after, _⟩
  · rw [after]
    exact b.grammar.within_declare state
  · rw [after]
    exact Grammar.within_of_alike (b.grammar.alike_attachAll new)

theorem rules_act (b : Builder) (a : Action) (state : String) :
    ∃ new, (b.act a).grammar.rulesOf state = b.grammar.rulesOf state ++ new ∧
      ∀ rule ∈ new, b.Yields a (state, rule) := by
  rcases act_cases b a with ⟨other, after⟩ | ⟨new, after, yields⟩
  · refine ⟨[], ?_, by simp⟩
    rw [after, Grammar.rulesOf_declare, List.append_nil]
  · have declared : ∀ e ∈ new, b.grammar.hasState e.1 = true := fun e member =>
      declared_of_yields (yields e member)
    refine ⟨(new.filter (·.1 = state)).map (·.2), ?_, ?_⟩
    · rw [after, Grammar.rulesOf_attachAll declared]
    · intro rule member
      obtain ⟨⟨owner, made⟩, found, rfl⟩ := List.mem_map.1 member
      obtain ⟨entry, here⟩ := List.mem_filter.1 found
      obtain rfl : owner = state := by simpa using here
      exact yields _ entry

theorem within_acts (b : Builder) (actions : List Action) :
    b.grammar.Within (b.acts actions).grammar := by
  induction actions generalizing b with
  | nil => exact b.grammar.within_refl
  | cons a later ih => exact Grammar.within_trans (within_act b a) (ih (b.act a))

theorem rules_acts (b : Builder) (actions : List Action) (state : String) :
    b.grammar.rulesOf state <+: (b.acts actions).grammar.rulesOf state := by
  induction actions generalizing b with
  | nil => exact List.prefix_rfl
  | cons a later ih =>
    obtain ⟨new, after, _⟩ := rules_act b a state
    exact (after ▸ List.prefix_append _ new).trans (ih (b.act a))

end Builder

def Grammar.Named (g : Grammar) : Prop :=
  ∀ name s, g.state name = .ok s → s.name = name

/-- Each target that the rule pushes is declared, where the rule belongs to the state `owner`. -/
def Rule.Anchored (g : Grammar) (owner : String) (rule : Rule) : Prop :=
  ∀ targets, rule.transition = some (.push targets) → ∀ target ∈ targets,
    g.hasState (target.denoted owner) = true

namespace Grammar

theorem named_empty (name : String) : (empty name).Named := by
  intro other s looked
  have found := (state_ok_iff _ other s).1 looked
  cases found

theorem named_declare {g : Grammar} (named : g.Named) (state : String) :
    (g.declare state).Named := by
  intro name s looked
  have found := (state_ok_iff _ name s).1 looked
  by_cases same : name = state
  · subst same
    simp only [declare, NameMap.get?_put_self, Option.some.injEq] at found
    cases before : g.states.get? name with
    | none => simp [before, ← found]
    | some old =>
      have name_old := named name old ((state_ok_iff g name old).2 before)
      simpa [before, ← found] using name_old
  · simp only [declare, NameMap.get?_put_other _ same] at found
    exact named name s ((state_ok_iff g name s).2 found)

theorem named_declareAll {g : Grammar} (named : g.Named) (states : List String) :
    (g.declareAll states).Named := by
  induction states generalizing g with
  | nil => exact named
  | cons state rest ih => exact ih (named_declare named state)

theorem named_attach {g : Grammar} (named : g.Named) (state : String) (rule : Rule) :
    (g.attach state rule).Named := by
  intro name s looked
  have found := (state_ok_iff _ name s).1 looked
  by_cases same : name = state
  · subst same
    rw [attach, NameMap.get?_change_self] at found
    obtain ⟨old, before, rfl⟩ := Option.map_eq_some_iff.1 found
    exact named name old ((state_ok_iff g name old).2 before)
  · rw [attach, NameMap.get?_change_other _ same] at found
    exact named name s ((state_ok_iff g name s).2 found)

theorem named_attachAll {g : Grammar} (named : g.Named) (new : List (String × Rule)) :
    (g.attachAll new).Named := by
  induction new generalizing g with
  | nil => exact named
  | cons e rest ih => exact ih (named_attach named e.1 e.2)

theorem rulesOf_of_state {g : Grammar} {name : String} {s : State}
    (looked : g.state name = .ok s) : g.rulesOf name = s.rules := by
  simp [rulesOf, (state_ok_iff g name s).1 looked]

end Grammar

/-- A resolver has found the names of a descriptor: one handle for each, in their order. -/
structure Resolver.Binds (r : Resolver) (d : Descriptor) (rule : Rule) : Prop where
  nonempty : rule.categories ≠ []
  length : rule.categories.length = d.rule.categories.length
  handles : ∀ (i : Nat) (name : String), d.rule.categories[i]? = some name →
    ∃ c, rule.categories[i]? = some c ∧ r.lookup name = some c

theorem Resolver.binds_of_makes {r : Resolver} {d : Descriptor} {rule : Rule}
    (makes : r.Makes d rule) : r.Binds d rule where
  nonempty := rule.nonempty
  length := by simpa using (congrArg List.length makes.categories).symm
  handles := by
    intro i name named
    have found := congrArg (·[i]?) makes.categories
    simp only [List.getElem?_map, named, Option.map_some] at found
    obtain ⟨c, handle, same⟩ := Option.map_eq_some_iff.1 found.symm
    exact ⟨c, handle, same.symm⟩

/-- The rule was made, by an action of the run, of a descriptor that names its state. -/
structure Provenance (b : Builder) (actions : List Action) (r : Resolver) (d : Descriptor)
    (state : String) (rule : Rule) : Prop where
  tried : ∃ (i : Nat) (a : Action), actions[i]? = some a ∧ a.Tries (b.acts (actions.take i)) r d
  state : state = d.rule.state
  makes : r.Makes d rule
  binds : r.Binds d rule

section
variable {b : Builder} {actions : List Action} {r : Resolver} {d : Descriptor} {state : String}
  {rule : Rule}

theorem provenance_snoc (origin : Provenance b actions r d state rule) (a : Action) :
    Provenance b (actions ++ [a]) r d state rule where
  tried := by
    obtain ⟨i, earlier, place, tries⟩ := origin.tried
    have inside := (List.getElem?_eq_some_iff.1 place).1
    refine ⟨i, earlier, ?_, ?_⟩
    · rw [List.getElem?_append_left inside, place]
    · rwa [List.take_append_of_le_length (Nat.le_of_lt inside)]
  state := origin.state
  makes := origin.makes
  binds := origin.binds

theorem provenance_of_yields {a : Action} (yields : (b.acts actions).Yields a (state, rule)) :
    ∃ r d, Provenance b (actions ++ [a]) r d state rule := by
  obtain ⟨r, d, tries, owner, made⟩ := yields
  have makes := Resolver.makes_of_verdict made
  refine ⟨r, d, ⟨actions.length, a, by simp, ?_⟩, owner, makes, Resolver.binds_of_makes makes⟩
  rwa [List.take_left]

theorem anchored_mono {g g' : Grammar} (more : g.Within g') (anchored : rule.Anchored g state) :
    rule.Anchored g' state :=
  fun targets pushes target member => more _ (anchored targets pushes target member)

theorem anchored_of_yields {a : Action} (yields : b.Yields a (state, rule)) :
    rule.Anchored b.grammar state := by
  intro targets pushes target member
  cases target with
  | current => exact Builder.declared_of_yields yields
  | named name =>
    obtain ⟨r, d, _, _, made⟩ := yields
    have same : d.transition? = some (.push targets) :=
      (Resolver.makes_of_verdict made).transition.symm.trans pushes
    obtain ⟨p, cs, _, created⟩ := (Resolver.verdict_ok_iff r d.declaration b.grammar rule).1 made
    simp only [Descriptor.declaration, same] at created
    have found := Descriptor.targets_of_create created
    exact (Descriptor.missingTarget_none_iff b.grammar targets).1 found name member

end

structure Sound (b : Builder) (actions : List Action) : Prop where
  named : (b.acts actions).grammar.Named
  origin : ∀ state, ∀ rule ∈ (b.acts actions).grammar.rulesOf state,
    ∃ r d, Provenance b actions r d state rule
  anchored : ∀ state, ∀ rule ∈ (b.acts actions).grammar.rulesOf state,
    rule.Anchored (b.acts actions).grammar state

theorem sound_snoc {b : Builder} {actions : List Action} (sound : Sound b actions) (a : Action) :
    Sound b (actions ++ [a]) := by
  constructor
  case named =>
    rw [Builder.acts_snoc]
    rcases Builder.act_cases (b.acts actions) a with ⟨state, after⟩ | ⟨new, after, _⟩
    · exact after ▸ Grammar.named_declare sound.named state
    · exact after ▸ Grammar.named_attachAll sound.named new
  case origin =>
    intro state rule member
    obtain ⟨new, after, yields⟩ := Builder.rules_act (b.acts actions) a state
    rw [Builder.acts_snoc, after] at member
    rcases List.mem_append.1 member with old | fresh
    · obtain ⟨r, d, origin⟩ := sound.origin state rule old
      exact ⟨r, d, provenance_snoc origin a⟩
    · exact provenance_of_yields (yields rule fresh)
  case anchored =>
    intro state rule member
    obtain ⟨new, after, yields⟩ := Builder.rules_act (b.acts actions) a state
    have more := Builder.within_act (b.acts actions) a
    rw [Builder.acts_snoc] at member ⊢
    rw [after] at member
    rcases List.mem_append.1 member with old | fresh
    · exact anchored_mono more (sound.anchored state rule old)
    · exact anchored_mono more (anchored_of_yields (yields rule fresh))

/- Induction on what is still to be done. -/
theorem sound_append {b : Builder} {earlier : List Action} (sound : Sound b earlier)
    (later : List Action) : Sound b (earlier ++ later) := by
  induction later generalizing earlier with
  | nil => simpa using sound
  | cons a rest ih =>
    have next := ih (sound_snoc sound a)
    rwa [List.append_assoc, List.singleton_append] at next

theorem sound_start (start : Start) : Sound start.build [] := by
  have named : start.build.grammar.Named := by
    cases start with
    | empty name => exact Grammar.named_empty name
    | withStates name states => exact Grammar.named_declareAll (Grammar.named_empty name) states
    | builder name => exact Grammar.named_empty name
  have bare : ∀ state, start.build.grammar.rulesOf state = [] := by
    intro state
    cases start with
    | empty name => rfl
    | withStates name states => exact Grammar.rulesOf_withStates name states state
    | builder name => rfl
  refine ⟨named, ?_, ?_⟩
  · intro state rule member
    simp [Builder.acts, bare] at member
  · intro state rule member
    simp [Builder.acts, bare] at member

/- At every point of a run each state is stored under its own name, and each rule was made of a
   descriptor for its state, with the handles that the resolver of that time has for the names of
   its categories. Whatever is done later, the rule stays, and what it pushes is declared. -/
theorem references_lead_somewhere (start : Start) (actions : List Action) :
    let b := start.build.acts actions
    ∀ name s, b.grammar.state name = .ok s → s.name = name ∧ ∀ rule ∈ s.rules,
      (∃ r d, Provenance start.build actions r d name rule) ∧
      ∀ later, (∃ s', (b.acts later).grammar.state name = .ok s' ∧ s.rules <+: s'.rules) ∧
        ∀ targets, rule.transition = some (.push targets) → ∀ target ∈ targets,
          ∃ s', (b.acts later).grammar.state (target.denoted name) = .ok s' := by
  intro b name s looked
  have sound : Sound start.build actions := sound_append (sound_start start) actions
  refine ⟨sound.named name s looked, fun rule member => ?_⟩
  have stored : rule ∈ b.grammar.rulesOf name := by rwa [Grammar.rulesOf_of_state looked]
  refine ⟨sound.origin name rule stored, fun later => ⟨?_, ?_⟩⟩
  · have still := Builder.within_acts b later name (Grammar.hasState_of_state looked)
    obtain ⟨s', _, looked'⟩ := Grammar.state_of_hasState still
    have kept := Builder.rules_acts b later name
    rw [Grammar.rulesOf_of_state looked, Grammar.rulesOf_of_state looked'] at kept
    exact ⟨s', looked', kept⟩
  · intro targets pushes target pushed
    have declared := sound.anchored name rule stored targets pushes target pushed
    obtain ⟨s', _, looked'⟩ :=
      Grammar.state_of_hasState (Builder.within_acts b later _ declared)
    exact ⟨s', looked'⟩

end

/- A rule that pushes another state and its own. -/
theorem references_lead_to_pushed :
    let r : Resolver := ⟨fun name => if name = "a" then some ⟨"a", 0⟩ else none, {}⟩
    let targets : List StateRef := [.named "t", .current]
    let d : Descriptor :=
      .transition ⟨"s", "x", ["a"], by decide, by decide, by decide⟩ (.push targets)
    let start : Start := .withStates "g" ["s", "t"]
    let b := start.build.acts [.resolve r d]
    ∃ s rule, b.grammar.state "s" = .ok s ∧ rule ∈ s.rules ∧
      rule.transition = some (.push targets) ∧
      ∀ later, (∃ s', (b.acts later).grammar.state "s" = .ok s') ∧
        ∃ s', (b.acts later).grammar.state "t" = .ok s' := by
  intro r targets d start b
  obtain ⟨s, _, looked⟩ := Grammar.state_of_hasState
    (show b.grammar.hasState "s" = true by decide +kernel)
  have transitions : (b.grammar.rulesOf "s").map (·.transition) = [some (.push targets)] := by
    decide +kernel
  rw [Grammar.rulesOf_of_state looked] at transitions
  have pushes : some (.push targets) ∈ s.rules.map (·.transition) := by simp [transitions]
  obtain ⟨rule, member, pushes⟩ := List.mem_map.1 pushes
  obtain ⟨_, rules⟩ := references_lead_somewhere start [.resolve r d] "s" s looked
  have leads := fun later => ((rules rule member).2 later).2 targets pushes
  refine ⟨s, rule, looked, member, pushes, fun later => ⟨?_, ?_⟩⟩
  · exact leads later .current (by simp [targets])
  · exact leads later (.named "t") (by simp [targets])

end LexicalGrammar
