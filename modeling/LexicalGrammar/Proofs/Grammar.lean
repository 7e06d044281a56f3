import LexicalGrammar.Grammar
import LexicalGrammar.Proofs.NameMap

/-
Grammars seen through their declared states and the rules of each state. Declaring a state adds
no rule and loses none; attaching a rule touches the list of one state, at its end.
-/
namespace LexicalGrammar.Grammar
variable [Pattern.Dialect]

def rulesOf (g : Grammar) (state : String) : List Rule :=
  ((g.states.get? state).map State.rules).getD []

def attach (g : Grammar) (state : String) (rule : Rule) : Grammar :=
  { g with states := g.states.change state (·.append rule) }

theorem append_eq (g : Grammar) (state : String) (rule : Rule) :
    g.append state rule =
      if g.hasState state then .ok (g.attach state rule) else .error (.stateNotFound state) := rfl

theorem hasState_iff (g : Grammar) (name : String) : g.hasState name ↔ name ∈ g.stateNames :=
  NameMap.contains_iff g.states name

theorem state_ok_iff (g : Grammar) (name : String) (s : State) :
    g.state name = .ok s ↔ g.states.get? name = some s := by
  unfold state
  cases g.states.get? name <;> simp

theorem state_eq_of_get? {g g' : Grammar} {name : String}
    (same : g'.states.get? name = g.states.get? name) : g'.state name = g.state name := by
  simp only [state, same]

theorem state_of_hasState {g : Grammar} {name : String} (declared : g.hasState name = true) :
    ∃ s, g.states.get? name = some s ∧ g.state name = .ok s := by
  obtain ⟨s, found⟩ := Option.isSome_iff_exists.1 declared
  exact ⟨s, found, (state_ok_iff g name s).2 found⟩

theorem hasState_of_state {g : Grammar} {name : String} {s : State}
    (looked : g.state name = .ok s) : g.hasState name = true := by
  have found := (state_ok_iff g name s).1 looked
  simp [hasState, NameMap.contains, found]

theorem state_of_missing {g : Grammar} {name : String} (missing : g.hasState name = false) :
    g.state name = .error (.stateNotFound name) := by
  have absent : g.states.get? name = none := by
    simpa [hasState, NameMap.contains] using missing
  simp [state, absent]

theorem hasState_declare (g : Grammar) (state other : String) :
    (g.declare state).hasState other = (g.hasState other || other = state) :=
  NameMap.contains_put g.states state other _

theorem state_declare {g : Grammar} {name : String} (missing : g.hasState name = false) :
    (g.declare name).state name = .ok ⟨name, []⟩ := by
  have absent : g.states.get? name = none := by
    simpa [hasState, NameMap.contains] using missing
  rw [state_ok_iff]
  simp [declare, NameMap.get?_put_self, absent]

theorem rulesOf_declare (g : Grammar) (state other : String) :
    (g.declare state).rulesOf other = g.rulesOf other := by
  by_cases same : other = state
  · simp only [rulesOf, declare, same, NameMap.get?_put_self]
    cases g.states.get? state <;> rfl
  · simp only [rulesOf, declare, NameMap.get?_put_other _ same]

theorem declareNew_eq (g : Grammar) (name : String) :
    g.declareNew name = (!g.hasState name, g.declare name) := by
  unfold declareNew
  cases taken : g.hasState name with
  | false => rfl
  | true => simp only [declare, NameMap.put_taken taken, ↓reduceIte, Bool.not_true]

theorem ruleCount_declare (g : Grammar) (state : String) :
    (g.declare state).ruleCount = g.ruleCount := by
  have none : State.size ⟨state, []⟩ = 0 := rfl
  exact NameMap.total_putEntry none state g.states.entries

theorem hasState_declareAll (g : Grammar) (names : List String) (other : String) :
    (g.declareAll names).hasState other = (g.hasState other || decide (other ∈ names)) := by
  unfold declareAll
  induction names generalizing g with
  | nil => simp
  | cons name rest ih => simp [ih, hasState_declare, Bool.or_assoc]

theorem rulesOf_declareAll (g : Grammar) (names : List String) (other : String) :
    (g.declareAll names).rulesOf other = g.rulesOf other := by
  unfold declareAll
  induction names generalizing g with
  | nil => rfl
  | cons name rest ih => rw [List.foldl_cons, ih, rulesOf_declare]

theorem name_declareAll (g : Grammar) (names : List String) :
    (g.declareAll names).name = g.name := by
  unfold declareAll
  induction names generalizing g with
  | nil => rfl
  | cons name rest ih => exact ih (g.declare name)

theorem hasState_withStates (name : String) (states : List String) (other : String) :
    (withStates name states).hasState other = decide (other ∈ states) := by
  unfold withStates
  rw [hasState_declareAll]
  simp [hasState, empty, NameMap.contains, NameMap.get?, NameMap.empty]

theorem rulesOf_withStates (name : String) (states : List String) (other : String) :
    (withStates name states).rulesOf other = [] := by
  unfold withStates
  rw [rulesOf_declareAll]
  rfl

theorem ruleCount_withStates (name : String) (states : List String) :
    (withStates name states).ruleCount = 0 := by
  unfold withStates declareAll
  have bare : (empty name).ruleCount = 0 := rfl
  generalize empty name = g at bare
  induction states generalizing g with
  | nil => exact bare
  | cons state rest ih => exact ih (g.declare state) ((ruleCount_declare g state).trans bare)

theorem hasState_withStates_names (name : String) (g : Grammar) (other : String) :
    (withStates name g.stateNames).hasState other = g.hasState other := by
  rw [hasState_withStates, Bool.eq_iff_iff, decide_eq_true_iff, hasState_iff]

theorem name_attach (g : Grammar) (state : String) (rule : Rule) :
    (g.attach state rule).name = g.name := rfl

theorem stateNames_attach (g : Grammar) (state : String) (rule : Rule) :
    (g.attach state rule).stateNames = g.stateNames :=
  NameMap.names_change g.states state _

theorem hasState_attach (g : Grammar) (state : String) (rule : Rule) (other : String) :
    (g.attach state rule).hasState other = g.hasState other :=
  NameMap.contains_change g.states state other _

theorem rulesOf_attach_self {g : Grammar} {state : String} (declared : g.hasState state = true)
    (rule : Rule) : (g.attach state rule).rulesOf state = g.rulesOf state ++ [rule] := by
  obtain ⟨s, found, _⟩ := state_of_hasState declared
  simp [rulesOf, attach, NameMap.get?_change_self, found, State.append]

theorem rulesOf_attach_other (g : Grammar) {state other : String} (different : other ≠ state)
    (rule : Rule) : (g.attach state rule).rulesOf other = g.rulesOf other := by
  simp [rulesOf, attach, NameMap.get?_change_other _ different]

def attachAll (g : Grammar) (added : List (String × Rule)) : Grammar :=
  added.foldl (fun g e => g.attach e.1 e.2) g

theorem attachAll_append (g : Grammar) (first second : List (String × Rule)) :
    g.attachAll (first ++ second) = (g.attachAll first).attachAll second :=
  List.foldl_append

theorem stateNames_attachAll (g : Grammar) (added : List (String × Rule)) :
    (g.attachAll added).stateNames = g.stateNames := by
  unfold attachAll
  induction added generalizing g with
  | nil => rfl
  | cons e rest ih => rw [List.foldl_cons, ih, stateNames_attach]

theorem name_attachAll (g : Grammar) (added : List (String × Rule)) :
    (g.attachAll added).name = g.name := by
  unfold attachAll
  induction added generalizing g with
  | nil => rfl
  | cons e rest ih => rw [List.foldl_cons, ih, name_attach]

theorem hasState_attachAll (g : Grammar) (added : List (String × Rule)) (other : String) :
    (g.attachAll added).hasState other = g.hasState other := by
  rw [Bool.eq_iff_iff, hasState_iff, hasState_iff, stateNames_attachAll]

theorem ruleCount_attach {g : Grammar} {state : String} (declared : g.hasState state = true)
    (rule : Rule) : (g.attach state rule).ruleCount = g.ruleCount + 1 := by
  have present : state ∈ g.states.entries.map (·.1) := (hasState_iff g state).1 declared
  exact NameMap.total_changeEntry (fun s => by simp [State.size, State.append])
    g.states.ascending present

theorem rulesOf_attach {g : Grammar} {state : String} (declared : g.hasState state = true)
    (rule : Rule) (other : String) : (g.attach state rule).rulesOf other =
      g.rulesOf other ++ if state = other then [rule] else [] := by
  by_cases same : state = other
  · subst other
    simp [rulesOf_attach_self declared]
  · simp [rulesOf_attach_other g (Ne.symm same), same]

theorem declared_attach {g : Grammar} {e : String × Rule} {rest : List (String × Rule)}
    (declared : ∀ d ∈ e :: rest, g.hasState d.1 = true) :
    ∀ d ∈ rest, (g.attach e.1 e.2).hasState d.1 = true := by
  intro d member
  rw [hasState_attach]
  exact declared d (List.mem_cons_of_mem _ member)

theorem rulesOf_attachAll {g : Grammar} {added : List (String × Rule)}
    (declared : ∀ e ∈ added, g.hasState e.1 = true) (state : String) :
    (g.attachAll added).rulesOf state =
      g.rulesOf state ++ (added.filter (·.1 = state)).map (·.2) := by
  unfold attachAll
  induction added generalizing g with
  | nil => simp
  | cons e rest ih =>
    have here := declared e (by simp)
    have later := declared_attach declared
    rw [List.foldl_cons, ih later, rulesOf_attach here]
    by_cases same : e.1 = state <;> simp [same]

theorem ruleCount_attachAll {g : Grammar} {added : List (String × Rule)}
    (declared : ∀ e ∈ added, g.hasState e.1 = true) :
    (g.attachAll added).ruleCount = g.ruleCount + added.length := by
  unfold attachAll
  induction added generalizing g with
  | nil => rfl
  | cons e rest ih =>
    have here := declared e (by simp)
    have later := declared_attach declared
    rw [List.foldl_cons, ih later, ruleCount_attach here, List.length_cons]
    omega

end LexicalGrammar.Grammar
