import LexicalGrammar.Proofs.ByteOrder
import LexicalGrammar.Proofs.CategoryNames
import LexicalGrammar.Proofs.Store
import Mathlib.Data.List.Dedup

/-
Names as they are listed. Which names were given is all that a listing tells, not how often or in
which order, nor in which order a table would hand them out before they are sorted.
-/
namespace LexicalGrammar

/-- How the names that were given are listed, where `has` looks a name up. Sorting the names that
are found gives the listing, in whatever order they come. -/
structure Listing (given : List String) (has : String → Bool) (listed : List String) : Prop where
  byBytes : listed.Pairwise fun a b => bytes a < bytes b
  byCodePoints : listed.Pairwise fun a b => codePoints a < codePoints b
  members : ∀ name, name ∈ listed ↔ name ∈ given
  number : listed.length = given.dedup.length
  found : ∀ name, has name = true ↔ name ∈ listed
  sorted : ∀ keys : List String, keys.Nodup → (∀ name, name ∈ keys ↔ has name = true) →
    keys.mergeSort (fun a b => decide (bytes a ≤ bytes b)) = listed

theorem bytes_le_iff (s t : String) : bytes s ≤ bytes t ↔ s ≤ t := by
  have less := bytes_lt_iff t s
  exact List.not_lt.symm.trans (not_congr less)

theorem nodup_of_ascending {l : List String} (ascending : l.Pairwise fun a b => a < b) :
    l.Nodup := by
  refine ascending.imp ?_
  rintro a _ less rfl
  exact String.lt_irrefl a less

/- Sorting keeps the names, and there is one way only to put them in order. -/
theorem sort_eq {keys listed : List String} (nodup : keys.Nodup)
    (ascending : listed.Pairwise fun a b => a < b) (same : ∀ name, name ∈ keys ↔ name ∈ listed) :
    keys.mergeSort (fun a b => decide (bytes a ≤ bytes b)) = listed := by
  have permuted := (List.mergeSort_perm keys fun a b => decide (bytes a ≤ bytes b)).trans
    ((List.perm_ext_iff_of_nodup nodup (nodup_of_ascending ascending)).2 same)
  refine permuted.eq_of_pairwise (fun a b _ _ => String.le_antisymm) ?_
    (ascending.imp fun less => String.lt_asymm less)
  have sorted := @List.pairwise_mergeSort _ (fun a b => decide (bytes a ≤ bytes b)) ?_ ?_ keys
  · exact sorted.imp fun le => (bytes_le_iff _ _).1 (of_decide_eq_true le)
  · intro a b c first second
    simp only [decide_eq_true_eq, bytes_le_iff] at first second ⊢
    exact String.le_trans first second
  · intro a b
    simpa only [Bool.or_eq_true, decide_eq_true_eq, bytes_le_iff] using String.le_total a b

theorem listing_of_map {α : Type} {m : NameMap α} {given : List String}
    (same : ∀ name, m.contains name = true ↔ name ∈ given) :
    Listing given m.contains m.names where
  byBytes := m.names_ascending.imp fun less => (bytes_lt_iff _ _).2 less
  byCodePoints := m.names_ascending.imp fun less => (codePoints_lt_iff _ _).2 less
  members := fun name => (m.contains_iff name).symm.trans (same name)
  number := by
    refine List.Perm.length_eq ((List.perm_ext_iff_of_nodup m.names_nodup given.nodup_dedup).2 ?_)
    intro name
    rw [List.mem_dedup, ← same name, m.contains_iff]
  found := m.contains_iff
  sorted := by
    intro keys nodup among
    exact sort_eq nodup m.names_ascending fun name => (among name).trans (m.contains_iff name)

namespace CategoryTable

theorem contains_register (t : CategoryTable) (name : String) (s : Supply) (other : String) :
    (t.register name s).2.1.byName.contains other =
      (t.byName.contains other || decide (other = name)) := by
  unfold register
  cases taken : t.lookup name with
  | none => exact NameMap.contains_put t.byName name other _
  | some c =>
    by_cases same : other = name
    · have contained : t.byName.contains other = true := by
        rw [same]
        exact Option.isSome_iff_exists.2 ⟨c, taken⟩
      simp [contained]
    · simp [same]

theorem contains_registerAll (t : CategoryTable) (names : List String) (s : Supply)
    (other : String) : (t.registerAll names s).1.byName.contains other = true ↔
      other ∈ t.names ++ names := by
  induction names generalizing t s with
  | nil => rw [List.append_nil]; exact t.byName.contains_iff other
  | cons name rest ih =>
    have last := ih (t.register name s).2.1 (t.register name s).2.2
    have step := contains_register t name s other
    refine last.trans ?_
    rw [List.mem_append, List.mem_append, List.mem_cons, ← or_assoc]
    refine or_congr_left ?_
    rw [names, ← NameMap.contains_iff, step, Bool.or_eq_true, decide_eq_true_iff,
      NameMap.contains_iff]
    rfl

theorem size_eq (t : CategoryTable) : t.size = t.names.length :=
  (List.length_map _).symm

end CategoryTable

theorem listing_of_registerAll (t : CategoryTable) (names : List String) (s : Supply) :
    Listing (t.names ++ names) (fun name => ((t.registerAll names s).1.lookup name).isSome)
      (t.registerAll names s).1.names :=
  listing_of_map (t.contains_registerAll names s)

theorem listing_unique {given given' : List String} {has has' : String → Bool}
    {listed listed' : List String} (first : Listing given has listed)
    (second : Listing given' has' listed') (same : ∀ name, name ∈ given ↔ name ∈ given') :
    listed = listed' := by
  have ascending : listed.Pairwise fun a b => a < b :=
    first.byBytes.imp fun less => (bytes_lt_iff _ _).1 less
  have nodup := nodup_of_ascending ascending
  have among : ∀ name, name ∈ listed ↔ has' name = true := by
    intro name
    rw [first.members, same, second.found, second.members]
  calc listed
      = listed.mergeSort (fun a b => decide (bytes a ≤ bytes b)) :=
        (sort_eq nodup ascending fun _ => Iff.rfl).symm
    _ = listed' := second.sorted listed nodup among

variable [Pattern.Dialect]

def Edit.declared? : Edit → Option String
  | .declare name => some name
  | _ => none

namespace Grammar

theorem hasState_edit (g : Grammar) (e : Edit) (other : String) :
    (g.edit e).2.hasState other = (g.hasState other || decide (e.declared? = some other)) := by
  cases e with
  | declare name =>
    simp only [edit, declareNew_eq, hasState_declare, Edit.declared?, Option.some.injEq, eq_comm]
  | append state rule =>
    cases declared : g.hasState state <;>
      simp [edit, append_eq, declared, hasState_attach, Edit.declared?]
  | resolve r d =>
    cases judged : r.verdict d g with
    | ok rule => simp [edit, (Resolver.resolve_of_ok judged).2, hasState_attach, Edit.declared?]
    | error fault => simp [edit, (Resolver.resolve_of_error judged).2, Edit.declared?]

def given (g : Grammar) (es : List Edit) : List String :=
  g.stateNames ++ es.filterMap Edit.declared?

theorem hasState_edits (g : Grammar) (es : List Edit) (other : String) :
    (g.edits es).2.hasState other = true ↔ other ∈ g.given es := by
  induction es generalizing g with
  | nil =>
    rw [given, List.filterMap_nil, List.append_nil, ← hasState_iff]
    rfl
  | cons e rest ih =>
    have last := ih (g.edit e).2
    rw [given, List.mem_append, ← hasState_iff, hasState_edit, Bool.or_eq_true,
      decide_eq_true_iff] at last
    rw [given, List.mem_append, ← hasState_iff]
    refine last.trans ?_
    cases declared : e.declared? with
    | none => simp [declared]
    | some name =>
      rw [List.filterMap_cons_some declared, List.mem_cons, Option.some.injEq, or_assoc,
        @eq_comm _ name other]

theorem entries_withStates (name : String) (states : List String) :
    (withStates name states).states.entries =
      (withStates name states).stateNames.map fun state => (state, ⟨state, []⟩) := by
  have bare : ∀ e ∈ (withStates name states).states.entries, (e.1, State.mk e.1 []) = e := by
    intro e member
    have named := named_declareAll (named_empty name) states
    have rules := rulesOf_withStates name states e.1
    have looked := NameMap.get?_of_mem member
    rw [rulesOf, looked] at rules
    have own := named e.1 e.2 ((state_ok_iff _ _ _).2 looked)
    obtain ⟨state, s⟩ := e
    obtain ⟨label, held⟩ := s
    obtain rfl : label = state := own
    obtain rfl : held = [] := rules
    rfl
  rw [stateNames, NameMap.names, List.map_map]
  exact ((List.map_congr_left bare).trans (List.map_id _)).symm

theorem withStates_congr (name : String) {states states' : List String}
    (same : ∀ state, state ∈ states ↔ state ∈ states') :
    withStates name states' = withStates name states := by
  have alike : (withStates name states).Alike (withStates name states') := by
    intro other
    rw [hasState_withStates, hasState_withStates, decide_eq_decide]
    exact (same other).symm
  have entries : (withStates name states').states.entries =
      (withStates name states).states.entries := by
    rw [entries_withStates, entries_withStates, stateNames_of_alike alike]
  have named : (withStates name states').name = (withStates name states).name := by
    rw [withStates, withStates, name_declareAll, name_declareAll]
  cases first : withStates name states with
  | mk n m =>
    cases second : withStates name states' with
    | mk n' m' =>
      rw [first, second] at entries named
      obtain ⟨l, _⟩ := m
      obtain ⟨l', _⟩ := m'
      obtain rfl : n' = n := named
      obtain rfl : l' = l := entries
      rfl

end Grammar

theorem listing_of_edits (g : Grammar) (es : List Edit) :
    Listing (g.given es) (g.edits es).2.hasState (g.edits es).2.stateNames :=
  listing_of_map (g.hasState_edits es)

namespace Check

theorem outcome_of_states (config : Config) {names names' : List String} {d d' : Definition}
    (known : ∀ name, name ∈ names ↔ name ∈ names') (name : d'.name = d.name)
    (rules : d'.rules = d.rules) (states : ∀ state, state ∈ d.states ↔ state ∈ d'.states) :
    outcome config names' d' = outcome config names d := by
  have builder : d'.builder = d.builder := by
    rw [Definition.builder, Definition.builder, rules, name, Grammar.withStates_congr _ states]
  have same : outcome config names' d' = outcome config names' d := by
    simp only [outcome, builder]
  exact same.trans (outcome_congr config known d)

theorem Summary.names_ofPass {p : Pass} (completed : (ofPass p).grammar.isSome = true) :
    (ofPass p).states.map (·.1) = p.builder.grammar.stateNames := by
  unfold ofPass at completed ⊢
  cases passed : p.outcome with
  | error failure => simp [passed] at completed
  | ok report =>
    rw [List.map_map]
    rfl

theorem listing_of_summary (config : Config) (names : List String) (d : Definition)
    (completed : (outcome config names d).summary.grammar.isSome = true) :
    Listing d.states (Grammar.withStates d.name d.states).hasState
      ((outcome config names d).summary.states.map (·.1)) := by
  have alike := Builder.alike_pass d.builder (resolver config names) config.onFailure
  have shown : (outcome config names d).summary.states.map (·.1) =
      (Grammar.withStates d.name d.states).stateNames := by
    refine (Summary.names_ofPass completed).trans ((Grammar.stateNames_of_alike alike).trans ?_)
    rw [builder_eq]
  rw [shown]
  refine listing_of_map fun state => ?_
  exact (Bool.eq_iff_iff.1 (Grammar.hasState_withStates d.name d.states state)).trans
    decide_eq_true_iff

end Check

/- By bytes and by code points the order is the same. States and categories are listed in that
   order, each once, and the same names give the same list. So a check shows its states in that
   order, and the order in which states were declared or categories registered changes nothing
   about it. -/
theorem listings_canonical :
    (∀ s t : String, bytes s < bytes t ↔ codePoints s < codePoints t) ∧
    (∀ (g g' : Grammar) (es es' : List Edit),
      Listing (g.given es) (g.edits es).2.hasState (g.edits es).2.stateNames ∧
      ((∀ name, name ∈ g.given es ↔ name ∈ g'.given es') →
        (g.edits es).2.stateNames = (g'.edits es').2.stateNames)) ∧
    (∀ (t t' : CategoryTable) (names names' : List String) (s s' : Supply),
      let after := (t.registerAll names s).1
      Listing (t.names ++ names) (fun name => (after.lookup name).isSome) after.names ∧
      after.size = (t.names ++ names).dedup.length ∧
      ((∀ name, name ∈ t.names ++ names ↔ name ∈ t'.names ++ names') →
        after.names = (t'.registerAll names' s').1.names)) ∧
    (∀ (config : Config) (names : List String) (d : Definition),
      (Check.outcome config names d).summary.grammar.isSome = true →
      Listing d.states (Grammar.withStates d.name d.states).hasState
        ((Check.outcome config names d).summary.states.map (·.1))) ∧
    (∀ (config : Config) (names names' : List String) (d d' : Definition),
      (∀ name, name ∈ names ↔ name ∈ names') → d'.name = d.name → d'.rules = d.rules →
      (∀ state, state ∈ d.states ↔ state ∈ d'.states) →
      Check.outcome config names' d' = Check.outcome config names d) := by
  refine ⟨fun s t => (bytes_lt_iff s t).trans (codePoints_lt_iff s t).symm, ?_, ?_,
    Check.listing_of_summary, fun config _ _ _ _ => Check.outcome_of_states config⟩
  · intro g g' es es'
    exact ⟨listing_of_edits g es, listing_unique (listing_of_edits g es) (listing_of_edits g' es')⟩
  · intro t t' names names' s s' after
    have listing := listing_of_registerAll t names s
    exact ⟨listing, after.size_eq.trans listing.number,
      listing_unique listing (listing_of_registerAll t' names' s')⟩

end LexicalGrammar
