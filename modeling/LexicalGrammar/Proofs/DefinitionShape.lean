import LexicalGrammar.Definition.Load
import LexicalGrammar.Proofs.RuleShape

/-
Which JSON documents are grammar definitions, and what the definition of each is.
-/
namespace LexicalGrammar
open Document (Decoded)
open Json (text texts null convention)

namespace Definition

structure Shape (fields : List (String × Json)) : Prop where
  known : ∀ key ∈ Json.keys fields, key ∈ ["name", "states", "rules"]
  distinct : (Json.keys fields).Nodup
  name : ∃ name, ("name", text name) ∈ fields
  states : ∀ j, ("states", j) ∈ fields → ∃ names, j = texts names
  rules : ∀ j, ("rules", j) ∈ fields → ∃ objects : List (List (String × Json)),
    j = .list (objects.map .object) ∧ ∀ object ∈ objects, RuleShape object

/-- The definition is what the object says, with its states and rules in their order. -/
structure Content (fields : List (String × Json)) (d : Definition) : Prop where
  name : ("name", text d.name) ∈ fields
  states : "states" ∉ Json.keys fields ∧ d.states = [] ∨ ("states", texts d.states) ∈ fields
  rules : "rules" ∉ Json.keys fields ∧ d.rules = [] ∨
    ∃ objects : List (List (String × Json)), ("rules", .list (objects.map .object)) ∈ fields ∧
      List.Forall₂ RuleContent objects d.rules

theorem forall₂_object_iff {β : Type} {denotes : List (String × Json) → β → Prop}
    {items : List Json} {values : List β} :
    List.Forall₂ (fun item b => ∃ fields, item = .object fields ∧ denotes fields b) items values ↔
      ∃ objects : List (List (String × Json)), items = objects.map .object ∧
        List.Forall₂ denotes objects values := by
  constructor
  · intro pairs
    induction pairs with
    | nil => exact ⟨[], rfl, .nil⟩
    | cons here _ ih =>
      obtain ⟨fields, rfl, denoted⟩ := here
      obtain ⟨objects, rfl, others⟩ := ih
      exact ⟨fields :: objects, rfl, .cons denoted others⟩
  · rintro ⟨objects, rfl, pairs⟩
    rw [List.forall₂_map_left_iff]
    exact pairs.imp fun fields b denoted => ⟨fields, rfl, denoted⟩

def RulesDenote (j : Json) (ds : List Descriptor) : Prop :=
  ∃ objects : List (List (String × Json)), j = .list (objects.map .object) ∧
    List.Forall₂ RuleReads objects ds

def Objects (j : Json) : Prop :=
  ∀ items, j = .list items → ∀ item ∈ items, ∃ fields, item = .object fields

theorem rules_ok_iff {t : Document Json.Leaf} {j : Json} (stands : Json.ofDocument? t = some j)
    (objects : Objects j) (ds : List Descriptor) :
    Document.listOf convention (readRule convention) RuleDraft.descriptor t = .ok ds ↔
      RulesDenote j ds := by
  have understood : ∀ items, j = .list items → ∀ item ∈ items, ∀ u,
      Json.ofDocument? u = some item → ∀ d,
      (∃ draft, readRule convention u = .ok draft ∧ draft.descriptor = .ok d) ↔
        ∃ fields, item = .object fields ∧ RuleReads fields d := by
    intro items same item member u stands' d
    obtain ⟨fields, rfl⟩ := objects items same item member
    rw [rule_ok_iff stands' d]
    simp
  rw [Json.listOf_ok_iff stands understood]
  simp only [forall₂_object_iff, RulesDenote]
  constructor
  · rintro ⟨_, rfl, given, rfl, pairs⟩
    exact ⟨given, rfl, pairs⟩
  · rintro ⟨given, rfl, pairs⟩
    exact ⟨_, rfl, given, rfl, pairs⟩

def accepts : String → Json → Prop
  | "name", j => ∃ name, j = text name
  | "states", j => ∃ names, j = texts names
  | "rules", j => ∃ ds, RulesDenote j ds
  | _, _ => False

structure Draft.Agrees (fields : List (String × Json)) (d : Draft) : Prop where
  name : Json.Filled (fun j name => j = text name) fields "name" d.name
  states : Json.Filled (fun j names => j = texts names) fields "states" d.states
  rules : Json.Filled RulesDenote fields "rules" d.rules

theorem takes_definition {object : List (String × Json)}
    (objects : ∀ j, ("rules", j) ∈ object → Objects j) :
    Json.Takes (record convention) object accepts Draft.Agrees where
  isSet := by
    intro f member fields draft agrees
    simp only [record, List.mem_cons, List.not_mem_nil, or_false] at member
    rcases member with rfl | rfl | rfl
    · exact Json.isSome_iff_of_filled agrees.name
    · exact Json.isSome_iff_of_filled agrees.states
    · exact Json.isSome_iff_of_filled agrees.rules
  set := by
    intro f member fields draft j t agrees fresh inside stands
    simp only [record, List.mem_cons, List.not_mem_nil, or_false] at member
    rcases member with rfl | rfl | rfl
    · refine Json.set_spec (Json.textOf_ok_iff stands _) fun name here => ?_
      exact ⟨Json.filled_self fresh here, Json.filled_other agrees.states (by decide) j,
        Json.filled_other agrees.rules (by decide) j⟩
    · refine Json.set_spec (Json.textsOf_ok_iff stands) fun names here => ?_
      exact ⟨Json.filled_other agrees.name (by decide) j, Json.filled_self fresh here,
        Json.filled_other agrees.rules (by decide) j⟩
    · refine Json.set_spec (rules_ok_iff stands (objects j inside)) fun ds here => ?_
      exact ⟨Json.filled_other agrees.name (by decide) j, Json.filled_other agrees.states (by decide) j,
        Json.filled_self fresh here⟩

theorem fits_iff_shape {fields : List (String × Json)} :
    Json.Fits (record convention) accepts fields ↔ Shape fields := by
  constructor
  · intro fits
    constructor
    case known => exact fits.known
    case distinct => exact fits.distinct
    case name =>
      obtain ⟨_, member, name, rfl⟩ := Json.entry_of_required fits (.head _) rfl
      exact ⟨name, member⟩
    case states => exact fun j member => fits.accepted _ member
    case rules =>
      intro j member
      obtain ⟨ds, objects, same, pairs⟩ := fits.accepted _ member
      exact ⟨objects, same, exists_reads_iff.1 ⟨ds, pairs⟩⟩
  · intro shape
    obtain ⟨name, name_mem⟩ := shape.name
    constructor
    case known => exact shape.known
    case distinct => exact shape.distinct
    case required =>
      intro f member needed
      simp only [record, List.mem_cons, List.not_mem_nil, or_false] at member
      rcases member with rfl | rfl | rfl
      · exact List.mem_map_of_mem name_mem
      · cases needed
      · cases needed
    case accepted =>
      rintro ⟨key, j⟩ member
      have known := shape.known key (List.mem_map_of_mem member)
      simp only [List.mem_cons, List.not_mem_nil, or_false] at known
      rcases known with rfl | rfl | rfl
      · exact ⟨name, Json.value_unique shape.distinct member name_mem⟩
      · exact shape.states j member
      · obtain ⟨objects, same, shapes⟩ := shape.rules j member
        obtain ⟨ds, pairs⟩ := exists_reads_iff.2 shapes
        exact ⟨ds, objects, same, pairs⟩

theorem objects_inj {objects objects' : List (List (String × Json))}
    (same : Json.list (objects.map .object) = .list (objects'.map .object)) :
    objects = objects' := by
  have injective : Function.Injective Json.object := fun _ _ => Json.object.inj
  exact List.map_injective_iff.2 injective (Json.list.inj same)

theorem rulesDenote_unique {j : Json} {ds ds' : List Descriptor} (denoted : RulesDenote j ds)
    (denoted' : RulesDenote j ds') : ds = ds' := by
  obtain ⟨objects, rfl, pairs⟩ := denoted
  obtain ⟨objects', same, pairs'⟩ := denoted'
  obtain rfl := objects_inj same
  exact ruleReads_unique.forall₂ pairs pairs'

def Reads (fields : List (String × Json)) (d : Definition) : Prop :=
  Shape fields ∧ Content fields d

theorem content_of_agrees {fields : List (String × Json)} (shape : Shape fields) {draft : Draft}
    (agrees : draft.Agrees fields) : Content fields draft.definition where
  name := by
    obtain ⟨name, member⟩ := shape.name
    obtain ⟨name', same, held⟩ := agrees.name.value _ member
    rw [Draft.definition, held, Option.getD_some, ← same]
    exact member
  states := by
    by_cases present : "states" ∈ Json.keys fields
    · obtain ⟨⟨_, j⟩, member, rfl⟩ := List.mem_map.1 present
      obtain ⟨names, rfl, held⟩ := agrees.states.value j member
      rw [Draft.definition, held]
      exact Or.inr member
    · rw [Draft.definition, agrees.states.empty present]
      exact Or.inl ⟨present, rfl⟩
  rules := by
    by_cases present : "rules" ∈ Json.keys fields
    · obtain ⟨⟨_, j⟩, member, rfl⟩ := List.mem_map.1 present
      obtain ⟨ds, ⟨objects, rfl, pairs⟩, held⟩ := agrees.rules.value j member
      rw [Draft.definition, held]
      exact Or.inr ⟨objects, member, pairs.imp fun _ _ reads => reads.2⟩
    · rw [Draft.definition, agrees.rules.empty present]
      exact Or.inl ⟨present, rfl⟩

theorem definition_of_agrees {fields : List (String × Json)} {d : Definition}
    (reads : Reads fields d) {draft : Draft} (agrees : draft.Agrees fields) :
    draft.definition = d := by
  obtain ⟨shape, content⟩ := reads
  have name : draft.name.getD "" = d.name := by
    obtain ⟨name, same, held⟩ := agrees.name.value _ content.name
    rw [held, Json.text_inj same]
    rfl
  have states : draft.states.getD [] = d.states := by
    rcases content.states with ⟨absent, none⟩ | member
    · rw [agrees.states.empty absent, none]
      rfl
    · obtain ⟨names, same, held⟩ := agrees.states.value _ member
      rw [held, Json.texts_inj same]
      rfl
  have rules : draft.rules.getD [] = d.rules := by
    rcases content.rules with ⟨absent, none⟩ | ⟨objects, member, pairs⟩
    · rw [agrees.rules.empty absent, none]
      rfl
    · obtain ⟨ds, denoted, held⟩ := agrees.rules.value _ member
      obtain ⟨objects', same, shapes⟩ := shape.rules _ member
      obtain rfl := objects_inj same
      have reads := (List.forall₂_and_left _ _).2 ⟨shapes, pairs⟩
      rw [held, rulesDenote_unique denoted ⟨objects, rfl, reads⟩]
      rfl
  rw [Draft.definition, name, states, rules]

theorem read_ok_iff {t : Document Json.Leaf} {fields : List (String × Json)}
    (stands : Json.ofDocument? t = some (.object fields))
    (objects : ∀ j, ("rules", j) ∈ fields → Objects j) :
    ((∃ d, read convention t = .ok d) ↔ Shape fields) ∧
      ∀ d, read convention t = .ok d ↔ Reads fields d := by
  have nothing : Draft.Agrees [] {} := ⟨Json.filled_nothing, Json.filled_nothing, Json.filled_nothing⟩
  obtain ⟨accepted, agreed⟩ := Json.read_object stands (takes_definition objects) nothing
  rw [fits_iff_shape] at accepted
  have made : ∀ d, read convention t = .ok d ↔
      ∃ draft, (record convention).read convention {} t = .ok draft ∧ draft.definition = d := by
    intro d
    unfold read
    cases (record convention).read convention {} t <;> simp [Except.map]
  refine ⟨⟨?_, ?_⟩, fun d => ⟨?_, ?_⟩⟩
  · rintro ⟨d, ok⟩
    obtain ⟨draft, read, _⟩ := (made d).1 ok
    exact accepted.1 ⟨draft, read⟩
  · intro shape
    obtain ⟨draft, read⟩ := accepted.2 shape
    exact ⟨_, (made _).2 ⟨draft, read, rfl⟩⟩
  · intro ok
    obtain ⟨draft, read, rfl⟩ := (made d).1 ok
    have shape := accepted.1 ⟨draft, read⟩
    exact ⟨shape, content_of_agrees shape (agreed draft read)⟩
  · intro reads
    obtain ⟨draft, read⟩ := accepted.2 reads.1
    exact (made d).2 ⟨draft, read, definition_of_agrees reads (agreed draft read)⟩

theorem ofText_json_iff {source : String} {j : Json} (parsed : Json.parse? source = some j) :
    ∃ t, Json.ofDocument? t = some j ∧
      ∀ d, ofText .json source = .ok d ↔ read convention t = .ok d := by
  have clean : (Json.readDocument source).trailing.isNone = true ∧
      Json.ofDocument? (Json.readDocument source).tree = some j := by
    simpa [Json.parse?] using parsed
  have closed : (Json.readDocument source).trailing = none := by simpa using clean.1
  refine ⟨_, clean.2, fun d => ?_⟩
  simp only [ofText, Document.Reading.decode, closed, Document.closed]
  cases read convention (Json.readDocument source).tree <;>
    simp [Except.mapError, bind, Except.bind, pure, Except.pure]

end Definition
end LexicalGrammar
