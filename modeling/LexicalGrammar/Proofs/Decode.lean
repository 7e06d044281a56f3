import LexicalGrammar.Json.Reader
import Mathlib.Data.List.Forall2
import Mathlib.Data.List.Nodup

/-
What the decoders make of a document that was read to its end, told by the JSON value of the
document. A record takes the fields of an object in any order.
-/
namespace LexicalGrammar.Json
open Document (Convention Decoded Field Record)

def texts (names : List String) : Json := .list (names.map text)

theorem text_inj {name name' : String} (same : text name = text name') : name = name' := by
  cases same
  rfl

theorem texts_inj {names names' : List String} (same : texts names = texts names') :
    names = names' :=
  List.map_injective_iff.2 (fun _ _ => text_inj) (Json.list.inj same)

abbrev keys (fields : List (String × Json)) : List String := fields.map (·.1)

theorem keys_append (fields fields' : List (String × Json)) :
    keys (fields ++ fields') = keys fields ++ keys fields' :=
  List.map_append

theorem nodup_keys_snoc {fields : List (String × Json)} {field : String × Json} :
    (keys (fields ++ [field])).Nodup ↔ (keys fields).Nodup ∧ field.1 ∉ keys fields := by
  rw [keys_append, List.nodup_append]
  constructor
  · rintro ⟨distinct, _, apart⟩
    exact ⟨distinct, fun again => apart _ again _ List.mem_cons_self rfl⟩
  · rintro ⟨distinct, fresh⟩
    refine ⟨distinct, by simp, ?_⟩
    rintro name earlier _ last rfl
    obtain rfl : name = field.1 := by simpa using last
    exact fresh earlier

theorem value_unique {fields : List (String × Json)} (distinct : (keys fields).Nodup)
    {name : String} {j j' : Json} (member : (name, j) ∈ fields) (member' : (name, j') ∈ fields) :
    j = j' :=
  congrArg Prod.snd (List.inj_on_of_nodup_map distinct member member' rfl)

inductive Closed : Document Leaf → Json → Prop where
  | leaf (value : Leaf) : Closed (.leaf value) (.leaf value)
  | list {items : List (Document Leaf)} {js : List Json} : ofDocuments? items = some js →
      Closed (.list items none) (.list js)
  | table {entries : List (Document Leaf × Document Leaf)} {fields : List (String × Json)} :
      ofEntries? entries = some fields → Closed (.table entries none) (.object fields)

variable {t : Document Leaf} {j : Json}

theorem closed_target (stands : ofDocument? t = some j) : Closed t.target j := by
  fun_induction Document.target t with
  | case1 t ih => exact ih stands
  | case2 t direct =>
    cases t with
    | leaf value =>
      cases stands
      exact .leaf value
    | list items ending =>
      cases ending with
      | none =>
        obtain ⟨js, read, rfl⟩ := Option.map_eq_some_iff.1 stands
        exact .list read
      | some fault => cases stands
    | table entries ending =>
      cases ending with
      | none =>
        obtain ⟨fields, read, rfl⟩ := Option.map_eq_some_iff.1 stands
        exact .table read
      | some fault => cases stands
    | broken fault => cases stands
    | _ => exact absurd rfl (direct _)

theorem items_stand {items : List (Document Leaf)} {js : List Json}
    (read : ofDocuments? items = some js) :
    List.Forall₂ (fun t j => ofDocument? t = some j) items js := by
  induction items generalizing js with
  | nil =>
    cases read
    exact .nil
  | cons t rest ih =>
    obtain ⟨j, stands, others⟩ := Option.bind_eq_some_iff.1 read
    obtain ⟨tail, read', rfl⟩ := Option.map_eq_some_iff.1 others
    exact .cons stands (ih read')

def Entry (e : Document Leaf × Document Leaf) (field : String × Json) : Prop :=
  e.1 = .leaf (.text field.1) ∧ ofDocument? e.2 = some field.2

theorem entries_stand {entries : List (Document Leaf × Document Leaf)}
    {fields : List (String × Json)} (read : ofEntries? entries = some fields) :
    List.Forall₂ Entry entries fields := by
  induction entries generalizing fields with
  | nil =>
    cases read
    exact .nil
  | cons e rest ih =>
    obtain ⟨key, t⟩ := e
    cases key with
    | leaf value =>
      cases value with
      | text name =>
        obtain ⟨j, stands, others⟩ := Option.bind_eq_some_iff.1 read
        obtain ⟨tail, read', rfl⟩ := Option.map_eq_some_iff.1 others
        exact .cons ⟨rfl, stands⟩ (ih read')
      | _ => cases read
    | _ => cases read

section
variable {ε α β σ : Type}

theorem bind_ok_iff {x : Except ε α} {f : α → Except ε β} {b : β} :
    (x >>= f) = .ok b ↔ ∃ a, x = .ok a ∧ f a = .ok b := by
  cases x <;> simp [bind, Except.bind]

theorem below_ok_iff {x : Decoded ε α} {step : Document.Step} {a : α} :
    Document.Decoded.below step x = .ok a ↔ x = .ok a := by
  cases x <;> simp [Document.Decoded.below, Except.mapError]

theorem textOf_ok_iff (stands : ofDocument? t = some j) (wanted name : String) :
    (Document.textOf convention wanted t : Decoded ε String) = .ok name ↔ j = text name := by
  have closed := closed_target stands
  generalize same : t.target = u at closed
  cases closed with
  | leaf value =>
    cases value <;> simp [Document.textOf, same, convention, Leaf.text?, Document.wrongLeaf,
      Document.fail, text]
  | list _ => simp [Document.textOf, same, Document.wrongType, Document.fail, text]
  | table _ => simp [Document.textOf, same, Document.wrongType, Document.fail, text]

section
variable {read : Document Leaf → Decoded ε α} {judge : α → Except ε β}

theorem itemsFrom_cons_ok_iff {rest : List (Document Leaf)} {place : Nat} {values : List β} :
    Document.itemsFrom read judge place (t :: rest) = .ok values ↔
      ∃ b tail, (∃ a, read t = .ok a ∧ judge a = .ok b) ∧
        Document.itemsFrom read judge (place + 1) rest = .ok tail ∧ values = b :: tail := by
  rw [Document.itemsFrom, bind_ok_iff]
  simp only [below_ok_iff]
  constructor
  · rintro ⟨a, first, next⟩
    cases judged : judge a with
    | error reason => simp [judged, Document.fail] at next
    | ok b =>
      simp only [judged, bind_ok_iff] at next
      obtain ⟨tail, others, same⟩ := next
      exact ⟨b, tail, ⟨a, first, judged⟩, others, (Except.ok.inj same).symm⟩
  · rintro ⟨b, tail, ⟨a, first, judged⟩, others, rfl⟩
    refine ⟨a, first, ?_⟩
    simp [judged, others, bind, Except.bind, pure, Except.pure]

theorem itemsFrom_ok_iff {items : List (Document Leaf)} {place : Nat} {values : List β} :
    Document.itemsFrom read judge place items = .ok values ↔
      List.Forall₂ (fun t b => ∃ a, read t = .ok a ∧ judge a = .ok b) items values := by
  induction items generalizing place values with
  | nil => simp [Document.itemsFrom, eq_comm]
  | cons t rest ih => simp only [itemsFrom_cons_ok_iff, List.forall₂_cons_left_iff, ih]

/-- What is known of documents by their values carries over from lists of them to their values. -/
theorem forall₂_values {P : Document Leaf → β → Prop} {denotes : Json → β → Prop}
    {items : List (Document Leaf)} {js : List Json}
    (pairs : List.Forall₂ (fun t j => ofDocument? t = some j) items js)
    (understood : ∀ i ∈ js, ∀ u, ofDocument? u = some i → ∀ b, P u b ↔ denotes i b)
    (values : List β) : List.Forall₂ P items values ↔ List.Forall₂ denotes js values := by
  induction pairs generalizing values with
  | nil => simp
  | @cons t j items js stands _ ih =>
    have here := understood j List.mem_cons_self t stands
    have others := ih fun i member => understood i (List.mem_cons_of_mem j member)
    simp only [List.forall₂_cons_left_iff, here, others]

theorem listOf_ok_iff {denotes : Json → β → Prop} (stands : ofDocument? t = some j)
    (understood : ∀ js, j = .list js → ∀ i ∈ js, ∀ u, ofDocument? u = some i → ∀ b,
      (∃ a, read u = .ok a ∧ judge a = .ok b) ↔ denotes i b) (values : List β) :
    Document.listOf convention read judge t = .ok values ↔
      ∃ js, j = .list js ∧ List.Forall₂ denotes js values := by
  have closed := closed_target stands
  generalize same : t.target = u at closed
  cases closed with
  | leaf value =>
    simp [Document.listOf, same, convention, Document.wrongType, Document.wrongLeaf, Document.fail]
  | table _ => simp [Document.listOf, same, Document.wrongType, Document.fail]
  | @list items js read' =>
    have values_ok : Document.listOf convention read judge t = .ok values ↔
        Document.itemsFrom read judge 0 items = .ok values := by
      cases run : Document.itemsFrom read judge 0 items <;>
        simp [Document.listOf, same, run, Document.closed, bind, Except.bind, pure, Except.pure]
    rw [values_ok, itemsFrom_ok_iff]
    rw [forall₂_values (items_stand read') (understood js rfl) values]
    simp

end

theorem textsOf_ok_iff (stands : ofDocument? t = some j) (names : List String) :
    (Document.textsOf convention t : Decoded ε (List String)) = .ok names ↔ j = texts names := by
  have understood : ∀ js, j = .list js → ∀ i ∈ js, ∀ u, ofDocument? u = some i → ∀ name : String,
      (∃ a, (Document.textOf convention "a string" u : Decoded ε String) = .ok a ∧
        (.ok a : Except ε String) = .ok name) ↔ i = text name := by
    intro js _ i _ u stands' name
    simp [textOf_ok_iff stands']
  have same : ∀ js : List Json,
      List.Forall₂ (fun i name => i = text name) js names ↔ js = names.map text := by
    intro js
    rw [← List.forall₂_eq_eq_eq, List.forall₂_map_right_iff]
  rw [Document.textsOf, listOf_ok_iff stands understood]
  simp only [same, exists_eq_right, texts]

theorem optional_ok_iff {read : Document Leaf → Decoded ε α} (denotes : Json → α → Prop)
    (stands : ofDocument? t = some j) (understood : ∀ a, read t = .ok a ↔ denotes j a)
    (nothing : ∀ a, ¬ denotes (.leaf .null) a) (value : Option α) :
    Document.optional convention read t = .ok value ↔
      (j = null ∧ value = none) ∨ ∃ a, denotes j a ∧ value = some a := by
  have present : (read t).map some = .ok value ↔ ∃ a, denotes j a ∧ value = some a := by
    simp only [← understood]
    cases read t <;> simp [Except.map, eq_comm]
  have closed := closed_target stands
  generalize same : t.target = u at closed
  cases closed with
  | leaf leaf =>
    cases leaf <;> simp [Document.optional, same, convention, Leaf.isNull, present, null, nothing,
      @eq_comm _ none]
  | list _ => simp [Document.optional, same, present, null]
  | table _ => simp [Document.optional, same, present, null]

/-- How a record takes the fields of one object. A value that is taken is `accepted` for its name,
and a draft that has taken some of the fields `agrees` with these. -/
structure Takes (r : Record ε Leaf σ) (object : List (String × Json))
    (accepted : String → Json → Prop) (agrees : List (String × Json) → σ → Prop) : Prop where
  isSet : ∀ f ∈ r.fields, ∀ fields draft, agrees fields draft →
    (f.isSet draft = true ↔ f.name ∈ keys fields)
  set : ∀ f ∈ r.fields, ∀ fields draft j t, agrees fields draft → f.name ∉ keys fields →
    (f.name, j) ∈ object → ofDocument? t = some j →
    ((∃ draft', f.set t draft = .ok draft') ↔ accepted f.name j) ∧
      ∀ draft', f.set t draft = .ok draft' → agrees (fields ++ [(f.name, j)]) draft'

/-- The fields of an object are those of a record, each once, all that are required among them, and
their values are accepted. -/
structure Fits (r : Record ε Leaf σ) (accepted : String → Json → Prop)
    (object : List (String × Json)) : Prop where
  known : ∀ name ∈ keys object, name ∈ r.fieldNames
  distinct : (keys object).Nodup
  required : ∀ f ∈ r.fields, f.required = true → f.name ∈ keys object
  accepted : ∀ e ∈ object, accepted e.1 e.2

section
variable {r : Record ε Leaf σ} {object : List (String × Json)} {accepted : String → Json → Prop}
  {agrees : List (String × Json) → σ → Prop}

theorem addEntry_ok_iff {draft draft' : σ} {e : Document Leaf × Document Leaf} {name : String}
    (key : e.1 = .leaf (.text name)) : r.addEntry convention draft e = .ok draft' ↔
      ∃ f, r.fields.find? (·.name = name) = some f ∧ f.isSet draft = false ∧
        f.set e.2 draft = .ok draft' := by
  have named : (Document.textOf convention "field identifier" e.1 : Decoded ε String) =
      .ok name := by
    rw [key]
    rfl
  cases found : r.fields.find? (·.name = name) with
  | none => simp [Record.addEntry, named, found, bind, Except.bind, Document.fail]
  | some f =>
    cases taken : f.isSet draft <;>
      simp [Record.addEntry, named, found, taken, bind, Except.bind, Document.fail, below_ok_iff]

theorem complete_ok_iff {draft draft' : σ} : r.complete draft = .ok draft' ↔
    draft = draft' ∧ ∀ f ∈ r.fields, f.required = true → f.isSet draft = true := by
  unfold Record.complete
  cases missing : r.fields.find? fun f => f.required && !f.isSet draft with
  | none =>
    have present := List.find?_eq_none.1 missing
    simp only [Except.ok.injEq, iff_self_and]
    rintro -
    simpa using present
  | some f =>
    have absent : f.required = true ∧ f.isSet draft = false := by
      simpa using List.find?_some missing
    have member := List.mem_of_find?_eq_some missing
    simp only [Document.fail, reduceCtorEq, false_iff, not_and]
    intro _ present
    simp [present f member absent.1] at absent

section
variable {done : List (String × Json)} {draft next : σ} {e : Document Leaf × Document Leaf}
  {field : String × Json}

theorem taken_of_addEntry (takes : Takes r object accepted agrees) (agreed : agrees done draft)
    (entry : Entry e field) (member : field ∈ object)
    (step : r.addEntry convention draft e = .ok next) :
    field.1 ∈ r.fieldNames ∧ field.1 ∉ keys done ∧ accepted field.1 field.2 ∧
      agrees (done ++ [field]) next := by
  obtain ⟨f, found, free, set⟩ := (addEntry_ok_iff entry.1).1 step
  have known := List.mem_of_find?_eq_some found
  have name : f.name = field.1 := by simpa using List.find?_some found
  have fresh : f.name ∉ keys done := by
    rw [← takes.isSet f known done draft agreed, free]
    exact Bool.false_ne_true
  have here : (f.name, field.2) ∈ object := name ▸ member
  obtain ⟨ok, agreed'⟩ := takes.set f known done draft field.2 e.2 agreed fresh here entry.2
  have accepts := ok.1 ⟨next, set⟩
  have agreed'' := agreed' next set
  rw [name] at fresh accepts agreed''
  exact ⟨List.mem_map.2 ⟨f, known, name⟩, fresh, accepts, agreed''⟩

theorem addEntry_of_field (takes : Takes r object accepted agrees) (agreed : agrees done draft)
    (entry : Entry e field) (member : field ∈ object) (named : field.1 ∈ r.fieldNames)
    (fresh : field.1 ∉ keys done) (accepts : accepted field.1 field.2) :
    ∃ next, r.addEntry convention draft e = .ok next := by
  obtain ⟨f, found⟩ : ∃ f, r.fields.find? (·.name = field.1) = some f := by
    obtain ⟨f, known, name⟩ := List.mem_map.1 named
    refine Option.isSome_iff_exists.1 (List.find?_isSome.2 ⟨f, known, ?_⟩)
    simpa using name
  have known := List.mem_of_find?_eq_some found
  have name : f.name = field.1 := by simpa using List.find?_some found
  rw [← name] at fresh accepts
  have here : (f.name, field.2) ∈ object := name ▸ member
  obtain ⟨next, set⟩ :=
    (takes.set f known done draft field.2 e.2 agreed fresh here entry.2).1.2 accepts
  have free : f.isSet draft = false := by
    rw [← Bool.not_eq_true, takes.isSet f known done draft agreed]
    exact fresh
  exact ⟨next, (addEntry_ok_iff entry.1).2 ⟨f, found, free, set⟩⟩

end

theorem taken_of_run (takes : Takes r object accepted agrees)
    {entries : List (Document Leaf × Document Leaf)} {rest : List (String × Json)}
    (pairs : List.Forall₂ Entry entries rest) {done : List (String × Json)} {draft draft' : σ}
    (within : ∀ e ∈ rest, e ∈ object) (agreed : agrees done draft)
    (distinct : (keys done).Nodup)
    (run : entries.foldlM (r.addEntry convention) draft = .ok draft') :
    agrees (done ++ rest) draft' ∧ (keys (done ++ rest)).Nodup ∧
      ∀ e ∈ rest, e.1 ∈ r.fieldNames ∧ accepted e.1 e.2 := by
  -- on the entries still to come; the draft agrees with the fields of those before
  induction pairs generalizing done draft with
  | nil =>
    cases run
    simpa using ⟨agreed, distinct⟩
  | @cons e field entries rest entry _ ih =>
    rw [List.foldlM_cons, bind_ok_iff] at run
    obtain ⟨next, step, run⟩ := run
    obtain ⟨named, fresh, accepts, agreed'⟩ :=
      taken_of_addEntry takes agreed entry (within field List.mem_cons_self) step
    obtain ⟨agreed_end, distinct_end, others⟩ := ih
      (fun e member => within e (List.mem_cons_of_mem field member)) agreed'
      (nodup_keys_snoc.2 ⟨distinct, fresh⟩) run
    rw [List.append_assoc, List.singleton_append] at agreed_end distinct_end
    exact ⟨agreed_end, distinct_end, List.forall_mem_cons.2 ⟨⟨named, accepts⟩, others⟩⟩

theorem run_of_fields (takes : Takes r object accepted agrees)
    {entries : List (Document Leaf × Document Leaf)} {rest : List (String × Json)}
    (pairs : List.Forall₂ Entry entries rest) {done : List (String × Json)} {draft : σ}
    (within : ∀ e ∈ rest, e ∈ object) (agreed : agrees done draft)
    (distinct : (keys (done ++ rest)).Nodup)
    (known : ∀ e ∈ rest, e.1 ∈ r.fieldNames ∧ accepted e.1 e.2) :
    ∃ draft', entries.foldlM (r.addEntry convention) draft = .ok draft' := by
  induction pairs generalizing done draft with
  | nil => exact ⟨draft, rfl⟩
  | @cons e field entries rest entry _ ih =>
    obtain ⟨⟨named, accepts⟩, others⟩ := List.forall_mem_cons.1 known
    have member := within field List.mem_cons_self
    rw [List.append_cons] at distinct
    have front : (keys (done ++ [field])).Nodup := by
      rw [keys_append] at distinct
      exact (List.nodup_append.1 distinct).1
    have fresh := (nodup_keys_snoc.1 front).2
    obtain ⟨next, step⟩ := addEntry_of_field takes agreed entry member named fresh accepts
    obtain ⟨_, _, _, agreed'⟩ := taken_of_addEntry takes agreed entry member step
    obtain ⟨draft', run⟩ := ih (fun e member => within e (List.mem_cons_of_mem field member))
      agreed' distinct others
    refine ⟨draft', ?_⟩
    rw [List.foldlM_cons, bind_ok_iff]
    exact ⟨next, step, run⟩

theorem entry_of_required (fits : Fits r accepted object) {f : Field ε Leaf σ}
    (member : f ∈ r.fields) (required : f.required = true) :
    ∃ j, (f.name, j) ∈ object ∧ accepted f.name j := by
  obtain ⟨⟨_, j⟩, entry, rfl⟩ := List.mem_map.1 (fits.required f member required)
  exact ⟨j, entry, fits.accepted _ entry⟩

/-- A record is read from an object exactly if its fields fit, in whatever order they stand; then
the draft agrees with all of them. -/
theorem read_object (stands : ofDocument? t = some (.object object))
    (takes : Takes r object accepted agrees) {start : σ} (nothing : agrees [] start) :
    ((∃ draft, r.read convention start t = .ok draft) ↔ Fits r accepted object) ∧
      ∀ draft, r.read convention start t = .ok draft → agrees object draft := by
  have closed := closed_target stands
  generalize same : t.target = u at closed
  cases closed with
  | @table entries _ read =>
    have pairs := entries_stand read
    have read_ok : ∀ draft, r.read convention start t = .ok draft ↔
        entries.foldlM (r.addEntry convention) start = .ok draft ∧
          ∀ f ∈ r.fields, f.required = true → f.isSet draft = true := by
      intro draft
      simp only [Record.read, same, Document.closed, bind_ok_iff, complete_ok_iff]
      constructor
      · rintro ⟨_, run, _, _, rfl, present⟩
        exact ⟨run, present⟩
      · rintro ⟨run, present⟩
        exact ⟨draft, run, (), trivial, rfl, present⟩
    have run_taken : ∀ {draft}, entries.foldlM (r.addEntry convention) start = .ok draft →
        agrees object draft ∧ (keys object).Nodup ∧
          ∀ e ∈ object, e.1 ∈ r.fieldNames ∧ accepted e.1 e.2 := fun run =>
      taken_of_run takes pairs (fun _ member => member) nothing List.nodup_nil run
    refine ⟨⟨?_, ?_⟩, fun draft read' => (run_taken ((read_ok draft).1 read').1).1⟩
    · rintro ⟨draft, read'⟩
      obtain ⟨run, present⟩ := (read_ok draft).1 read'
      obtain ⟨agreed, distinct, known⟩ := run_taken run
      constructor
      case known =>
        intro name member
        obtain ⟨e, entry, rfl⟩ := List.mem_map.1 member
        exact (known e entry).1
      case distinct => exact distinct
      case required =>
        intro f member needed
        exact (takes.isSet f member object draft agreed).1 (present f member needed)
      case accepted => exact fun e member => (known e member).2
    · intro fits
      obtain ⟨draft, run⟩ := run_of_fields takes pairs (fun _ member => member) nothing
        fits.distinct fun e member =>
          ⟨fits.known e.1 (List.mem_map_of_mem member), fits.accepted e member⟩
      have agreed := (run_taken run).1
      refine ⟨draft, (read_ok draft).2 ⟨run, fun f member needed => ?_⟩⟩
      exact (takes.isSet f member object draft agreed).2 (fits.required f member needed)

end

end

structure Filled {α : Type} (denotes : Json → α → Prop) (fields : List (String × Json))
    (name : String) (slot : Option α) : Prop where
  value : ∀ j, (name, j) ∈ fields → ∃ a, denotes j a ∧ slot = some a
  empty : name ∉ keys fields → slot = none

section
variable {α : Type} {denotes : Json → α → Prop} {fields : List (String × Json)} {name : String}
  {slot : Option α}

theorem filled_nothing : Filled denotes [] name none where
  value := by
    intro j member
    cases member
  empty := fun _ => rfl

theorem filled_self (fresh : name ∉ keys fields) {j : Json} {a : α} (here : denotes j a) :
    Filled denotes (fields ++ [(name, j)]) name (some a) where
  value := by
    intro j' member
    rcases List.mem_append.1 member with before | last
    · exact absurd (List.mem_map_of_mem before) fresh
    · cases List.mem_singleton.1 last
      exact ⟨a, here, rfl⟩
  empty := by
    intro absent
    simp [keys] at absent

theorem filled_other (filled : Filled denotes fields name slot) {other : String}
    (different : name ≠ other) (j : Json) : Filled denotes (fields ++ [(other, j)]) name slot where
  value := by
    intro j' member
    refine filled.value j' ?_
    simpa [different] using member
  empty := by
    intro absent
    refine filled.empty ?_
    simpa [keys, different] using absent

theorem isSome_iff_of_filled (filled : Filled denotes fields name slot) :
    slot.isSome = true ↔ name ∈ keys fields := by
  constructor
  · intro some
    by_contra absent
    simp [filled.empty absent] at some
  · intro member
    obtain ⟨⟨_, j⟩, entry, rfl⟩ := List.mem_map.1 member
    obtain ⟨a, _, rfl⟩ := filled.value j entry
    rfl

theorem set_spec {ε σ : Type} {read : Decoded ε α} {put : α → σ} {denoted : α → Prop}
    {agrees : σ → Prop} (understood : ∀ a, read = .ok a ↔ denoted a)
    (agreed : ∀ a, denoted a → agrees (put a)) :
    ((∃ draft, (do return put (← read)) = (.ok draft : Decoded ε σ)) ↔ ∃ a, denoted a) ∧
      ∀ draft, (do return put (← read)) = (.ok draft : Decoded ε σ) → agrees draft := by
  simp only [← understood] at agreed ⊢
  cases read with
  | error fault => simp [bind, Except.bind]
  | ok a => simpa [bind, Except.bind, pure, Except.pure] using agreed a rfl

end

end LexicalGrammar.Json
