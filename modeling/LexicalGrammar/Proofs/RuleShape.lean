import LexicalGrammar.Definition.Shape
import LexicalGrammar.Proofs.Decode

/-
Which JSON objects are rules, and what the descriptor of each is. Only the keys of an object and
their values count, never the order of the keys.
-/
namespace LexicalGrammar
open Document (Decoded)
open Json (text texts null convention)

theorem TokenRule.make_ok_iff {state pattern : String} {categories : List String} {r : TokenRule} :
    make state pattern categories = .ok r ↔
      r.state = state ∧ r.pattern = pattern ∧ r.categories = categories := by
  constructor
  · intro made
    unfold make at made
    split at made
    · cases made
    · split at made
      · cases made
      · split at made
        · cases made
        · cases made
          exact ⟨rfl, rfl, rfl⟩
  · rintro ⟨rfl, rfl, rfl⟩
    simp [make, r.state_ne, r.pattern_ne, r.categories_ne]

namespace Descriptor

def Moves (d : Descriptor) : Option (List String) → Prop
  | none => d = .token d.rule
  | some entries => ∃ t, Transition.parse entries = .ok t ∧ d = .transition d.rule t

theorem make_ok_iff {state pattern : String} {categories : List String}
    {next : Option (List String)} {d : Descriptor} :
    make state pattern categories next = .ok d ↔
      d.rule.state = state ∧ d.rule.pattern = pattern ∧ d.rule.categories = categories ∧
        d.Moves next := by
  constructor
  · intro made
    unfold make at made
    split at made
    · cases made
    · next r token =>
      obtain ⟨rfl, rfl, rfl⟩ := TokenRule.make_ok_iff.1 token
      cases next with
      | none =>
        cases made
        exact ⟨rfl, rfl, rfl, rfl⟩
      | some entries =>
        cases parsed : Transition.parse entries with
        | error cause => simp [parsed] at made
        | ok t =>
          simp only [parsed, Except.ok.injEq] at made
          subst made
          exact ⟨rfl, rfl, rfl, t, parsed, rfl⟩
  · rintro ⟨rfl, rfl, rfl, moves⟩
    have token : TokenRule.make d.rule.state d.rule.pattern d.rule.categories = .ok d.rule :=
      TokenRule.make_ok_iff.2 ⟨rfl, rfl, rfl⟩
    cases next with
    | none =>
      rw [make, token]
      exact congrArg Except.ok moves.symm
    | some entries =>
      obtain ⟨t, parsed, same⟩ := moves
      simp only [make, token, parsed]
      exact congrArg Except.ok same.symm

theorem exists_made {state pattern : String} {categories : List String}
    {next : Option (List String)} (state_ne : state ≠ "") (pattern_ne : pattern ≠ "")
    (categories_ne : categories ≠ [])
    (parses : ∀ entries, next = some entries → ∃ t, Transition.parse entries = .ok t) :
    ∃ d, make state pattern categories next = .ok d := by
  let r : TokenRule := ⟨state, pattern, categories, state_ne, pattern_ne, categories_ne⟩
  cases next with
  | none => exact ⟨.token r, make_ok_iff.2 ⟨rfl, rfl, rfl, rfl⟩⟩
  | some entries =>
    obtain ⟨t, parsed⟩ := parses entries rfl
    exact ⟨.transition r t, make_ok_iff.2 ⟨rfl, rfl, rfl, t, parsed, rfl⟩⟩

end Descriptor

namespace Definition

structure RuleShape (fields : List (String × Json)) : Prop where
  known : ∀ key ∈ Json.keys fields, key ∈ ["state", "pattern", "categories", "next"]
  distinct : (Json.keys fields).Nodup
  state : ∃ name, name ≠ "" ∧ ("state", text name) ∈ fields
  pattern : ∃ source, source ≠ "" ∧ ("pattern", text source) ∈ fields
  categories : ∃ names, names ≠ [] ∧ ("categories", texts names) ∈ fields
  next : ∀ j, ("next", j) ∈ fields → j = null ∨
    ∃ entries t, j = texts entries ∧ Transition.parse entries = .ok t

/-- The entries of the transition that an object gives, if the field is neither absent nor null. -/
inductive Entries (fields : List (String × Json)) : Option (List String) → Prop where
  | absent : "next" ∉ Json.keys fields → Entries fields none
  | null : ("next", null) ∈ fields → Entries fields none
  | given {entries : List String} : ("next", texts entries) ∈ fields →
      Entries fields (some entries)

structure RuleContent (fields : List (String × Json)) (d : Descriptor) : Prop where
  state : ("state", text d.rule.state) ∈ fields
  pattern : ("pattern", text d.rule.pattern) ∈ fields
  categories : ("categories", texts d.rule.categories) ∈ fields
  next : ∃ next, Entries fields next ∧ d.Moves next

def NextDenotes (j : Json) (next : Option (List String)) : Prop :=
  (j = null ∧ next = none) ∨ ∃ entries, j = texts entries ∧ next = some entries

theorem next_ok_iff {ε : Type} {t : Document Json.Leaf} {j : Json}
    (stands : Json.ofDocument? t = some j) (next : Option (List String)) :
    (Document.optional convention (Document.textsOf convention) t : Decoded ε _) = .ok next ↔
      NextDenotes j next := by
  refine Json.optional_ok_iff (fun j names => j = texts names) stands
    (Json.textsOf_ok_iff stands) ?_ next
  intro names same
  cases same

def ruleAccepts : String → Json → Prop
  | "state", j => ∃ name, j = text name
  | "pattern", j => ∃ source, j = text source
  | "categories", j => ∃ names, j = texts names
  | "next", j => ∃ next, NextDenotes j next
  | _, _ => False

structure RuleDraft.Agrees (fields : List (String × Json)) (d : RuleDraft) : Prop where
  state : Json.Filled (fun j name => j = text name) fields "state" d.state
  pattern : Json.Filled (fun j source => j = text source) fields "pattern" d.pattern
  categories : Json.Filled (fun j names => j = texts names) fields "categories" d.categories
  next : Json.Filled NextDenotes fields "next" d.next

theorem takes_rule (object : List (String × Json)) :
    Json.Takes (ruleRecord convention) object ruleAccepts RuleDraft.Agrees where
  isSet := by
    intro f member fields draft agrees
    simp only [ruleRecord, List.mem_cons, List.not_mem_nil, or_false] at member
    rcases member with rfl | rfl | rfl | rfl
    · exact Json.isSome_iff_of_filled agrees.state
    · exact Json.isSome_iff_of_filled agrees.pattern
    · exact Json.isSome_iff_of_filled agrees.categories
    · exact Json.isSome_iff_of_filled agrees.next
  set := by
    intro f member fields draft j t agrees fresh _ stands
    simp only [ruleRecord, List.mem_cons, List.not_mem_nil, or_false] at member
    rcases member with rfl | rfl | rfl | rfl
    · refine Json.set_spec (Json.textOf_ok_iff stands _) fun name here => ?_
      exact ⟨Json.filled_self fresh here, Json.filled_other agrees.pattern (by decide) j,
        Json.filled_other agrees.categories (by decide) j, Json.filled_other agrees.next (by decide) j⟩
    · refine Json.set_spec (Json.textOf_ok_iff stands _) fun name here => ?_
      exact ⟨Json.filled_other agrees.state (by decide) j, Json.filled_self fresh here,
        Json.filled_other agrees.categories (by decide) j, Json.filled_other agrees.next (by decide) j⟩
    · refine Json.set_spec (Json.textsOf_ok_iff stands) fun names here => ?_
      exact ⟨Json.filled_other agrees.state (by decide) j, Json.filled_other agrees.pattern (by decide) j,
        Json.filled_self fresh here, Json.filled_other agrees.next (by decide) j⟩
    · refine Json.set_spec (next_ok_iff stands) fun next here => ?_
      exact ⟨Json.filled_other agrees.state (by decide) j, Json.filled_other agrees.pattern (by decide) j,
        Json.filled_other agrees.categories (by decide) j, Json.filled_self fresh here⟩

theorem descriptor_of_fits {fields : List (String × Json)}
    (fits : Json.Fits (ruleRecord convention) ruleAccepts fields) {draft : RuleDraft}
    (agrees : draft.Agrees fields) : ∃ state pattern categories,
      ("state", text state) ∈ fields ∧ ("pattern", text pattern) ∈ fields ∧
      ("categories", texts categories) ∈ fields ∧
      draft.descriptor = Descriptor.make state pattern categories draft.next.join := by
  obtain ⟨_, state_mem, state, rfl⟩ := Json.entry_of_required fits (.head _) rfl
  obtain ⟨_, pattern_mem, pattern, rfl⟩ := Json.entry_of_required fits (.tail _ (.head _)) rfl
  obtain ⟨_, categories_mem, categories, rfl⟩ :=
    Json.entry_of_required fits (.tail _ (.tail _ (.head _))) rfl
  refine ⟨state, pattern, categories, state_mem, pattern_mem, categories_mem, ?_⟩
  obtain ⟨state', read, draft_state⟩ := agrees.state.value _ state_mem
  obtain ⟨pattern', read', draft_pattern⟩ := agrees.pattern.value _ pattern_mem
  obtain ⟨categories', read'', draft_categories⟩ := agrees.categories.value _ categories_mem
  cases read
  cases read'
  obtain rfl := Json.texts_inj read''
  rw [RuleDraft.descriptor, draft_state, draft_pattern, draft_categories]
  rfl

theorem entries_of_agrees {fields : List (String × Json)} {draft : RuleDraft}
    (agrees : draft.Agrees fields) : Entries fields draft.next.join := by
  by_cases present : "next" ∈ Json.keys fields
  · obtain ⟨⟨_, j⟩, member, rfl⟩ := List.mem_map.1 present
    obtain ⟨next, denoted, same⟩ := agrees.next.value j member
    rw [same]
    rcases denoted with ⟨rfl, rfl⟩ | ⟨entries, rfl, rfl⟩
    · exact .null member
    · exact .given member
  · rw [agrees.next.empty present]
    exact .absent present

theorem entries_unique {fields : List (String × Json)} (distinct : (Json.keys fields).Nodup)
    {next next' : Option (List String)} (stands : Entries fields next)
    (stands' : Entries fields next') : next = next' := by
  have unique := @Json.value_unique fields distinct "next"
  cases stands with
  | absent none =>
    cases stands' with
    | absent _ => rfl
    | null member => exact absurd (List.mem_map_of_mem member) none
    | given member => exact absurd (List.mem_map_of_mem member) none
  | null member =>
    cases stands' with
    | absent none => exact absurd (List.mem_map_of_mem member) none
    | null _ => rfl
    | given member' => cases unique member member'
  | given member =>
    cases stands' with
    | absent none => exact absurd (List.mem_map_of_mem member) none
    | null member' => cases unique member member'
    | given member' => rw [Json.texts_inj (unique member member')]

theorem fits_of_ruleShape {fields : List (String × Json)} (shape : RuleShape fields) :
    Json.Fits (ruleRecord convention) ruleAccepts fields where
  known := shape.known
  distinct := shape.distinct
  required := by
    obtain ⟨state, _, state_mem⟩ := shape.state
    obtain ⟨pattern, _, pattern_mem⟩ := shape.pattern
    obtain ⟨categories, _, categories_mem⟩ := shape.categories
    intro f member needed
    simp only [ruleRecord, List.mem_cons, List.not_mem_nil, or_false] at member
    rcases member with rfl | rfl | rfl | rfl
    · exact List.mem_map_of_mem state_mem
    · exact List.mem_map_of_mem pattern_mem
    · exact List.mem_map_of_mem categories_mem
    · cases needed
  accepted := by
    rintro ⟨name, j⟩ member
    have known := shape.known name (List.mem_map_of_mem member)
    simp only [List.mem_cons, List.not_mem_nil, or_false] at known
    rcases known with rfl | rfl | rfl | rfl
    · obtain ⟨state, _, state_mem⟩ := shape.state
      exact ⟨state, Json.value_unique shape.distinct member state_mem⟩
    · obtain ⟨pattern, _, pattern_mem⟩ := shape.pattern
      exact ⟨pattern, Json.value_unique shape.distinct member pattern_mem⟩
    · obtain ⟨categories, _, categories_mem⟩ := shape.categories
      exact ⟨categories, Json.value_unique shape.distinct member categories_mem⟩
    · rcases shape.next j member with rfl | ⟨entries, _, rfl, _⟩
      · exact ⟨none, Or.inl ⟨rfl, rfl⟩⟩
      · exact ⟨some entries, Or.inr ⟨entries, rfl, rfl⟩⟩

def RuleReads (fields : List (String × Json)) (d : Descriptor) : Prop :=
  RuleShape fields ∧ RuleContent fields d

theorem reads_of_draft {fields : List (String × Json)}
    (fits : Json.Fits (ruleRecord convention) ruleAccepts fields) {draft : RuleDraft}
    (agrees : draft.Agrees fields) {d : Descriptor} (made : draft.descriptor = .ok d) :
    RuleReads fields d := by
  obtain ⟨state, pattern, categories, state_mem, pattern_mem, categories_mem, descriptor⟩ :=
    descriptor_of_fits fits agrees
  obtain ⟨rfl, rfl, rfl, moves⟩ := Descriptor.make_ok_iff.1 (descriptor.symm.trans made)
  have stands := entries_of_agrees agrees
  constructor
  · constructor
    case known => exact fits.known
    case distinct => exact fits.distinct
    case state => exact ⟨_, d.rule.state_ne, state_mem⟩
    case pattern => exact ⟨_, d.rule.pattern_ne, pattern_mem⟩
    case categories => exact ⟨_, d.rule.categories_ne, categories_mem⟩
    case next =>
      intro j member
      obtain ⟨_, ⟨here, _⟩ | ⟨entries, here, _⟩⟩ := fits.accepted _ member
      · exact Or.inl here
      · obtain rfl : j = texts entries := here
        rw [entries_unique fits.distinct stands (.given member)] at moves
        obtain ⟨t, parsed, _⟩ := moves
        exact Or.inr ⟨entries, t, rfl, parsed⟩
  · exact ⟨state_mem, pattern_mem, categories_mem, _, stands, moves⟩

theorem make_of_reads {fields : List (String × Json)} {d : Descriptor} (reads : RuleReads fields d)
    {state pattern : String} {categories : List String} {next : Option (List String)}
    (state_mem : ("state", text state) ∈ fields) (pattern_mem : ("pattern", text pattern) ∈ fields)
    (categories_mem : ("categories", texts categories) ∈ fields) (stands : Entries fields next) :
    Descriptor.make state pattern categories next = .ok d := by
  obtain ⟨shape, content⟩ := reads
  have unique := @Json.value_unique fields shape.distinct
  obtain ⟨next', stands', moves⟩ := content.next
  obtain rfl := entries_unique shape.distinct stands stands'
  exact Descriptor.make_ok_iff.2 ⟨Json.text_inj (unique content.state state_mem),
    Json.text_inj (unique content.pattern pattern_mem),
    Json.texts_inj (unique content.categories categories_mem), moves⟩

theorem ruleReads_unique : Relator.RightUnique RuleReads := by
  intro fields d d' reads reads'
  obtain ⟨next, stands, _⟩ := reads'.2.next
  have content := reads'.2
  have made := make_of_reads reads content.state content.pattern content.categories stands
  have made' := make_of_reads reads' content.state content.pattern content.categories stands
  exact Except.ok.inj (made.symm.trans made')

theorem rule_ok_iff {t : Document Json.Leaf} {fields : List (String × Json)}
    (stands : Json.ofDocument? t = some (.object fields)) (d : Descriptor) :
    (∃ draft, readRule convention t = .ok draft ∧ draft.descriptor = .ok d) ↔
      RuleReads fields d := by
  have nothing : RuleDraft.Agrees [] {} :=
    ⟨Json.filled_nothing, Json.filled_nothing, Json.filled_nothing, Json.filled_nothing⟩
  obtain ⟨accepted, agreed⟩ := Json.read_object stands (takes_rule fields) nothing
  constructor
  · rintro ⟨draft, read, made⟩
    exact reads_of_draft (accepted.1 ⟨draft, read⟩) (agreed draft read) made
  · intro reads
    have fits := fits_of_ruleShape reads.1
    obtain ⟨draft, read⟩ := accepted.2 fits
    have agrees := agreed draft read
    obtain ⟨state, pattern, categories, state_mem, pattern_mem, categories_mem, descriptor⟩ :=
      descriptor_of_fits fits agrees
    refine ⟨draft, read, descriptor.trans ?_⟩
    exact make_of_reads reads state_mem pattern_mem categories_mem (entries_of_agrees agrees)

theorem exists_entries {fields : List (String × Json)} (shape : RuleShape fields) :
    ∃ next, Entries fields next ∧
      ∀ entries, next = some entries → ∃ t, Transition.parse entries = .ok t := by
  by_cases present : "next" ∈ Json.keys fields
  · obtain ⟨⟨_, j⟩, member, rfl⟩ := List.mem_map.1 present
    rcases shape.next j member with rfl | ⟨entries, t, rfl, parsed⟩
    · refine ⟨none, .null member, fun entries given => ?_⟩
      cases given
    · refine ⟨some entries, .given member, fun entries' given => ?_⟩
      cases given
      exact ⟨t, parsed⟩
  · refine ⟨none, .absent present, fun entries given => ?_⟩
    cases given

theorem exists_reads {fields : List (String × Json)} (shape : RuleShape fields) :
    ∃ d, RuleReads fields d := by
  obtain ⟨state, state_ne, state_mem⟩ := shape.state
  obtain ⟨pattern, pattern_ne, pattern_mem⟩ := shape.pattern
  obtain ⟨categories, categories_ne, categories_mem⟩ := shape.categories
  obtain ⟨next, stands, parses⟩ := exists_entries shape
  obtain ⟨d, made⟩ := Descriptor.exists_made state_ne pattern_ne categories_ne parses
  obtain ⟨rfl, rfl, rfl, moves⟩ := Descriptor.make_ok_iff.1 made
  exact ⟨d, shape, state_mem, pattern_mem, categories_mem, next, stands, moves⟩

theorem exists_reads_iff {objects : List (List (String × Json))} :
    (∃ ds, List.Forall₂ RuleReads objects ds) ↔ ∀ object ∈ objects, RuleShape object := by
  induction objects with
  | nil => simp
  | cons object rest ih =>
    rw [List.forall_mem_cons, ← ih]
    constructor
    · rintro ⟨_, here | ⟨reads, others⟩⟩
      exact ⟨reads.1, _, others⟩
    · rintro ⟨shape, ds, others⟩
      obtain ⟨d, reads⟩ := exists_reads shape
      exact ⟨d :: ds, .cons reads others⟩

end Definition
end LexicalGrammar
