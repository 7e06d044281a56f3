import LexicalGrammar.Proofs.DefinitionShape
import Mathlib

/-
Documents that differ in the order of keys only. They are grammar definitions alike, and the same
ones.
-/
namespace LexicalGrammar

namespace Json

/-- The keys of one object, anywhere in a document, are put in another order. -/
inductive Reordered : Json → Json → Prop where
  | here {fields fields' : List (String × Json)} : fields.Perm fields' →
      Reordered (.object fields) (.object fields')
  | item {before after : List Json} {j j' : Json} : Reordered j j' →
      Reordered (.list (before ++ j :: after)) (.list (before ++ j' :: after))
  | value {before after : List (String × Json)} {name : String} {j j' : Json} : Reordered j j' →
      Reordered (.object (before ++ (name, j) :: after)) (.object (before ++ (name, j') :: after))

theorem reordered_symm {j j' : Json} (reordered : Reordered j j') : Reordered j' j := by
  induction reordered with
  | here permuted => exact .here permuted.symm
  | item _ ih => exact .item ih
  | value _ ih => exact .value ih

theorem not_reordered_texts (names : List String) (j : Json) : ¬ Reordered (texts names) j := by
  generalize same : texts names = k
  intro reordered
  cases reordered with
  | here _ => cases same
  | value _ => cases same
  | @item before after i i' inner =>
    have member : i ∈ names.map text := by
      rw [Json.list.inj same]
      exact List.mem_append_right before List.mem_cons_self
    obtain ⟨name, _, rfl⟩ := List.mem_map.1 member
    cases inner

structure Covered (fields fields' : List (String × Json)) : Prop where
  keys : (keys fields).Perm (keys fields')
  values : ∀ name j, (name, j) ∈ fields → ∃ j', (name, j') ∈ fields' ∧ (j = j' ∨ Reordered j j')

theorem covered_perm {fields fields' : List (String × Json)} (permuted : fields.Perm fields') :
    Covered fields fields' where
  keys := permuted.map _
  values := fun _ j member => ⟨j, permuted.mem_iff.1 member, Or.inl rfl⟩

theorem covered_value {before after : List (String × Json)} {name : String} {j j' : Json}
    (reordered : Reordered j j') :
    Covered (before ++ (name, j) :: after) (before ++ (name, j') :: after) where
  keys := by simp
  values := by
    intro other k member
    simp only [List.mem_append, List.mem_cons, Prod.mk.injEq] at member ⊢
    rcases member with earlier | ⟨rfl, rfl⟩ | later
    · exact ⟨k, Or.inl earlier, Or.inl rfl⟩
    · exact ⟨j', Or.inr (Or.inl ⟨rfl, rfl⟩), Or.inr reordered⟩
    · exact ⟨k, Or.inr (Or.inr later), Or.inl rfl⟩

def Same (fields fields' : List (String × Json)) : Prop :=
  Covered fields fields' ∧ Covered fields' fields

theorem same_refl (fields : List (String × Json)) : Same fields fields :=
  ⟨covered_perm (.refl fields), covered_perm (.refl fields)⟩

theorem object_of_reordered {fields : List (String × Json)} {j : Json}
    (reordered : Reordered (.object fields) j) : ∃ fields', j = .object fields' ∧
      Same fields fields' := by
  cases reordered with
  | here permuted => exact ⟨_, rfl, covered_perm permuted, covered_perm permuted.symm⟩
  | value inner => exact ⟨_, rfl, covered_value inner, covered_value (reordered_symm inner)⟩

theorem objects_of_reordered {objects : List (List (String × Json))} {j : Json}
    (reordered : Reordered (.list (objects.map .object)) j) :
    ∃ objects' : List (List (String × Json)), j = .list (objects'.map .object) ∧
      List.Forall₂ Same objects objects' := by
  generalize given : Json.list (objects.map .object) = k at reordered
  cases reordered with
  | here _ => cases given
  | value _ => cases given
  | @item before after i i' inner =>
    obtain ⟨first, behind, rfl, rfl, rest⟩ := List.map_eq_append_iff.1 (Json.list.inj given)
    obtain ⟨fields, last, rfl, rfl, rfl⟩ := List.map_eq_cons_iff.1 rest
    obtain ⟨fields', rfl, same⟩ := object_of_reordered inner
    refine ⟨first ++ fields' :: last, by simp, ?_⟩
    have alike : ∀ l : List (List (String × Json)), List.Forall₂ Same l l := fun l =>
      List.forall₂_same.2 fun fields _ => same_refl fields
    exact List.rel_append (alike first) (.cons same (alike last))

variable {fields fields' : List (String × Json)}

theorem mem_keys_of_covered (covered : Covered fields fields') {name : String} :
    name ∈ keys fields' ↔ name ∈ keys fields :=
  covered.keys.mem_iff.symm

theorem mem_of_covered (covered : Covered fields fields') {name : String} {j : Json}
    (fixed : ∀ j', ¬ Reordered j j') (member : (name, j) ∈ fields) : (name, j) ∈ fields' := by
  obtain ⟨j', member', rfl | reordered⟩ := covered.values name j member
  · exact member'
  · exact absurd reordered (fixed j')

theorem text_of_covered (covered : Covered fields fields') {name value : String}
    (member : (name, text value) ∈ fields) : (name, text value) ∈ fields' := by
  refine mem_of_covered covered (fun j' reordered => ?_) member
  cases reordered

theorem null_of_covered (covered : Covered fields fields') {name : String}
    (member : (name, null) ∈ fields) : (name, null) ∈ fields' := by
  refine mem_of_covered covered (fun j' reordered => ?_) member
  cases reordered

theorem texts_of_covered (covered : Covered fields fields') {name : String} {values : List String}
    (member : (name, texts values) ∈ fields) : (name, texts values) ∈ fields' :=
  mem_of_covered covered (not_reordered_texts values) member

end Json

namespace Definition
open Json (text texts null)

variable {fields fields' : List (String × Json)}

theorem ruleShape_of_same (same : Json.Same fields fields') (shape : RuleShape fields) :
    RuleShape fields' where
  known := fun key member => shape.known key ((Json.mem_keys_of_covered same.1).1 member)
  distinct := same.1.keys.nodup_iff.1 shape.distinct
  state := by
    obtain ⟨name, name_ne, member⟩ := shape.state
    exact ⟨name, name_ne, Json.text_of_covered same.1 member⟩
  pattern := by
    obtain ⟨source, source_ne, member⟩ := shape.pattern
    exact ⟨source, source_ne, Json.text_of_covered same.1 member⟩
  categories := by
    obtain ⟨names, names_ne, member⟩ := shape.categories
    exact ⟨names, names_ne, Json.texts_of_covered same.1 member⟩
  next := by
    intro j' member'
    obtain ⟨j, member, rfl | reordered⟩ := same.2.values "next" j' member'
    · exact shape.next j' member
    · have back := Json.reordered_symm reordered
      rcases shape.next j member with rfl | ⟨entries, t, rfl, _⟩
      · cases back
      · exact absurd back (Json.not_reordered_texts entries j')

theorem ruleContent_of_same (same : Json.Same fields fields') {d : Descriptor}
    (content : RuleContent fields d) : RuleContent fields' d where
  state := Json.text_of_covered same.1 content.state
  pattern := Json.text_of_covered same.1 content.pattern
  categories := Json.texts_of_covered same.1 content.categories
  next := by
    obtain ⟨next, stands, moves⟩ := content.next
    refine ⟨next, ?_, moves⟩
    cases stands with
    | absent none => exact .absent fun member => none ((Json.mem_keys_of_covered same.1).1 member)
    | null member => exact .null (Json.null_of_covered same.1 member)
    | given member => exact .given (Json.texts_of_covered same.1 member)

theorem contents_of_same {objects objects' : List (List (String × Json))}
    (alike : List.Forall₂ Json.Same objects objects') {ds : List Descriptor}
    (pairs : List.Forall₂ RuleContent objects ds) : List.Forall₂ RuleContent objects' ds := by
  induction alike generalizing ds with
  | nil => exact pairs
  | cons same _ ih =>
    cases pairs with
    | cons content others => exact .cons (ruleContent_of_same same content) (ih others)

theorem rules_of_same (same : Json.Same fields fields') {objects : List (List (String × Json))}
    (member : ("rules", .list (objects.map .object)) ∈ fields) :
    ∃ objects' : List (List (String × Json)), ("rules", .list (objects'.map .object)) ∈ fields' ∧
      List.Forall₂ Json.Same objects objects' := by
  obtain ⟨j', member', rfl | reordered⟩ := same.1.values "rules" _ member
  · exact ⟨objects, member', List.forall₂_same.2 fun fields _ => Json.same_refl fields⟩
  · obtain ⟨objects', rfl, alike⟩ := Json.objects_of_reordered reordered
    exact ⟨objects', member', alike⟩

theorem shape_of_same (same : Json.Same fields fields') (shape : Shape fields) : Shape fields' where
  known := fun key member => shape.known key ((Json.mem_keys_of_covered same.1).1 member)
  distinct := same.1.keys.nodup_iff.1 shape.distinct
  name := by
    obtain ⟨name, member⟩ := shape.name
    exact ⟨name, Json.text_of_covered same.1 member⟩
  states := by
    intro j' member'
    obtain ⟨j, member, rfl | reordered⟩ := same.2.values "states" j' member'
    · exact shape.states j' member
    · obtain ⟨names, rfl⟩ := shape.states j member
      exact absurd (Json.reordered_symm reordered) (Json.not_reordered_texts names j')
  rules := by
    intro j' member'
    obtain ⟨j, member, rfl | reordered⟩ := same.2.values "rules" j' member'
    · exact shape.rules j' member
    · obtain ⟨objects, rfl, shapes⟩ := shape.rules j member
      obtain ⟨objects', rfl, alike⟩ := Json.objects_of_reordered (Json.reordered_symm reordered)
      refine ⟨objects', rfl, fun object' here => ?_⟩
      obtain ⟨i, inside, rfl⟩ := List.getElem_of_mem here
      have inside' : i < objects.length := alike.length_eq ▸ inside
      exact ruleShape_of_same (alike.get inside' inside) (shapes _ (List.getElem_mem inside'))

theorem content_of_same (same : Json.Same fields fields') {d : Definition}
    (content : Content fields d) : Content fields' d where
  name := Json.text_of_covered same.1 content.name
  states := by
    rw [Json.mem_keys_of_covered same.1]
    exact content.states.imp id (Json.texts_of_covered same.1)
  rules := by
    rw [Json.mem_keys_of_covered same.1]
    refine content.rules.imp id ?_
    rintro ⟨objects, member, pairs⟩
    obtain ⟨objects', member', alike⟩ := rules_of_same same member
    exact ⟨objects', member', contents_of_same alike pairs⟩

def Legible (fields : List (String × Json)) : Prop :=
  ∀ j, ("rules", j) ∈ fields → Objects j

theorem legible_of_same (same : Json.Same fields fields') (legible : Legible fields) :
    Legible fields' := by
  intro j' member' items' list item' here
  obtain ⟨j, member, rfl | reordered⟩ := same.2.values "rules" j' member'
  · exact legible j' member items' list item' here
  · subst list
    cases reordered with
    | @item before after i i' inner =>
      have objects := legible _ member _ rfl
      rcases List.mem_append.1 here with earlier | later
      · exact objects item' (List.mem_append_left _ earlier)
      · rcases List.mem_cons.1 later with rfl | behind
        · obtain ⟨entries, rfl⟩ := objects i' (List.mem_append_right _ List.mem_cons_self)
          obtain ⟨entries', rfl, _⟩ := Json.object_of_reordered (Json.reordered_symm inner)
          exact ⟨entries', rfl⟩
        · exact objects item' (List.mem_append_right _ (List.mem_cons_of_mem _ behind))

theorem reads_of_chain {j' : Json}
    (chain : Relation.ReflTransGen Json.Reordered (.object fields) j') :
    ∃ fields', j' = .object fields' ∧ (Legible fields → Legible fields') ∧
      ∀ d, Reads fields d → Reads fields' d := by
  induction chain with
  | refl => exact ⟨fields, rfl, id, fun _ => id⟩
  | tail _ reordered ih =>
    obtain ⟨between, rfl, legible, reads⟩ := ih
    obtain ⟨fields', rfl, same⟩ := Json.object_of_reordered reordered
    refine ⟨fields', rfl, legible_of_same same ∘ legible, fun d before => ?_⟩
    obtain ⟨shape, content⟩ := reads d before
    exact ⟨shape_of_same same shape, content_of_same same content⟩

theorem chain_symm {j j' : Json} (chain : Relation.ReflTransGen Json.Reordered j j') :
    Relation.ReflTransGen Json.Reordered j' j := by
  induction chain with
  | refl => exact .refl
  | tail _ reordered ih => exact .head (Json.reordered_symm reordered) ih

theorem ofText_ok_iff {source : String} (parsed : Json.parse? source = some (.object fields))
    (legible : Legible fields) :
    ((∃ d, ofText .json source = .ok d) ↔ Shape fields) ∧
      ∀ d, ofText .json source = .ok d ↔ Reads fields d := by
  obtain ⟨t, stands, same⟩ := ofText_json_iff parsed
  simp only [same]
  exact read_ok_iff stands legible

/- For an object whose rules are objects too: there is a definition exactly if the object has the
   shape of one, and then it is what the object says. The order of keys, in any object of the
   document, makes no difference. -/
theorem definition_by_shape {source : String} {fields : List (String × Json)}
    (parsed : Json.parse? source = some (.object fields))
    (objects : ∀ items, ("rules", .list items) ∈ fields → ∀ item ∈ items,
      ∃ entries, item = .object entries) :
    ((∃ d, ofText .json source = .ok d) ↔ Shape fields) ∧
    (∀ d, ofText .json source = .ok d ↔ Shape fields ∧ Content fields d) ∧
    ∀ source' j', Relation.ReflTransGen Json.Reordered (.object fields) j' →
      Json.parse? source' = some j' →
      ∀ d, ofText .json source' = .ok d ↔ ofText .json source = .ok d := by
  have legible : Legible fields := by
    rintro _ member items rfl
    exact objects items member
  obtain ⟨accepted, made⟩ := ofText_ok_iff parsed legible
  refine ⟨accepted, made, ?_⟩
  intro source' j' chain parsed' d
  obtain ⟨fields', rfl, legible', reads⟩ := reads_of_chain chain
  obtain ⟨_, same, _, reads'⟩ := reads_of_chain (chain_symm chain)
  cases same
  rw [made, (ofText_ok_iff parsed' (legible' legible)).2]
  exact ⟨reads' d, reads d⟩

/- The keys of the one rule and those at the top are put in another order. -/
theorem definition_by_shape_reordered :
    let source := "\x7b\"name\":\"g\",\"rules\":[\x7b\"state\":\"s\",\"pattern\":\"x\",\"categories\":[\"a\"],\"next\":[\"#pop\"]\x7d]\x7d"
    let source' := "\x7b\"rules\":[\x7b\"next\":[\"#pop\"],\"state\":\"s\",\"pattern\":\"x\",\"categories\":[\"a\"]\x7d],\"name\":\"g\"\x7d"
    let parts := [("state", text "s"), ("pattern", text "x"), ("categories", texts ["a"])]
    let next := ("next", texts ["#pop"])
    let fields := [("name", text "g"), ("rules", .list [.object (parts ++ [next])])]
    let d : Definition :=
      ⟨"g", [], [.transition ⟨"s", "x", ["a"], by decide, by decide, by decide⟩ (.pop 1)]⟩
    Json.parse? source = some (.object fields) ∧
      (∀ items, ("rules", .list items) ∈ fields → ∀ item ∈ items,
        ∃ entries, item = .object entries) ∧
      Shape fields ∧ Content fields d ∧ ofText .json source' = .ok d := by
  intro source source' parts next fields d
  have parsed : Json.parse? source = some (.object fields) := by
    simp only [source, fields, parts, next]
    cbv
  have objects : ∀ items, ("rules", .list items) ∈ fields → ∀ item ∈ items,
      ∃ entries, item = .object entries := by
    intro items member item here
    obtain rfl : items = [.object (parts ++ [next])] := by simpa [fields] using member
    exact ⟨_, List.mem_singleton.1 here⟩
  have made : ofText .json source = .ok d := by decide +kernel
  obtain ⟨_, describes, reordered⟩ := definition_by_shape parsed objects
  refine ⟨parsed, objects, ((describes d).1 made).1, ((describes d).1 made).2, ?_⟩
  have inner : Json.Reordered (.object fields)
      (.object [("name", text "g"), ("rules", .list [.object (next :: parts)])]) :=
    @Json.Reordered.value [("name", text "g")] [] "rules" _ _
      (@Json.Reordered.item [] [] _ _ (.here List.perm_append_comm))
  have outer : Json.Reordered
      (.object [("name", text "g"), ("rules", .list [.object (next :: parts)])])
      (.object [("rules", .list [.object (next :: parts)]), ("name", text "g")]) :=
    .here (.swap _ _ _)
  have parsed' : Json.parse? source' =
      some (.object [("rules", .list [.object (next :: parts)]), ("name", text "g")]) := by
    simp only [source', parts, next]
    cbv
  exact (reordered source' _ (.tail (.single inner) outer) parsed' d).2 made

end Definition
end LexicalGrammar
