import LexicalGrammar.NameMap

/-
What entering and changing a value does to a lookup, to the names, and to a sum over the values.
-/
namespace LexicalGrammar.NameMap
variable {α : Type}

def find (name : String) (l : List (String × α)) : Option α :=
  (l.find? (·.1 = name)).map (·.2)

theorem get?_eq_find (m : NameMap α) (name : String) : m.get? name = find name m.entries := rfl

theorem entries_change (m : NameMap α) (name : String) (f : α → α) :
    (m.change name f).entries = m.entries.map (changeEntry name f) := rfl

theorem find_cons (name : String) (e : String × α) (l : List (String × α)) :
    find name (e :: l) = if e.1 = name then some e.2 else find name l := by
  unfold find
  by_cases same : e.1 = name <;> simp [same]

theorem find_none_of_absent {name : String} {l : List (String × α)}
    (absent : ∀ e ∈ l, e.1 ≠ name) : find name l = none := by
  induction l with
  | nil => rfl
  | cons e rest ih =>
    rw [find_cons, if_neg (absent e (by simp))]
    exact ih fun e member => absent e (List.mem_cons_of_mem _ member)

theorem find_isSome_iff (name : String) (l : List (String × α)) :
    (find name l).isSome ↔ name ∈ l.map (·.1) := by
  induction l with
  | nil => simp [find]
  | cons e rest ih =>
    rw [find_cons]
    by_cases same : e.1 = name
    · simp [same]
    · simp [same, ih, Ne.symm same]

theorem find_of_mem {l : List (String × α)} (ascending : l.Pairwise fun a b => a.1 < b.1)
    {e : String × α} (member : e ∈ l) : find e.1 l = some e.2 := by
  induction l with
  | nil => cases member
  | cons first rest ih =>
    obtain ⟨below, others⟩ := List.pairwise_cons.1 ascending
    rw [find_cons]
    rcases List.mem_cons.1 member with rfl | later
    · rw [if_pos rfl]
    · have different : first.1 ≠ e.1 := fun same =>
        String.lt_irrefl _ (same ▸ below e later)
      rw [if_neg different, ih others later]

theorem find_putEntry_self (name : String) (value : α) {l : List (String × α)}
    (ascending : l.Pairwise fun a b => a.1 < b.1) :
    find name (putEntry name value l) = some ((find name l).getD value) := by
  induction l with
  | nil => simp [putEntry, find]
  | cons e rest ih =>
    obtain ⟨first, others⟩ := List.pairwise_cons.1 ascending
    unfold putEntry
    split
    · next lower =>
      have absent : ∀ d ∈ e :: rest, d.1 ≠ name := by
        intro d member same
        rcases List.mem_cons.1 member with rfl | member
        · exact String.lt_irrefl _ (same ▸ lower)
        · exact String.lt_irrefl _ (same ▸ String.lt_trans lower (first d member))
      rw [find_none_of_absent absent]
      simp [find_cons]
    · next notLower =>
      split
      · next higher =>
        have other : e.1 ≠ name := fun same => String.lt_irrefl _ (same ▸ higher)
        rw [find_cons, if_neg other, ih others, find_cons, if_neg other]
      · next notHigher =>
        have same : e.1 = name := String.le_antisymm notLower notHigher
        simp [find_cons, same]

theorem find_putEntry_other {name key : String} (other : key ≠ name) (value : α)
    (l : List (String × α)) : find key (putEntry name value l) = find key l := by
  induction l with
  | nil => simp [putEntry, find, Ne.symm other]
  | cons e rest ih =>
    unfold putEntry
    split
    · rw [find_cons, if_neg (Ne.symm other)]
    · split
      · rw [find_cons, find_cons, ih]
      · rfl

theorem find_changeEntry (name key : String) (f : α → α) (l : List (String × α)) :
    find key (l.map (changeEntry name f)) =
      if key = name then (find key l).map f else find key l := by
  induction l with
  | nil => simp [find]
  | cons e rest ih =>
    simp only [List.map_cons, find_cons, changeEntry_fst, ih]
    by_cases here : e.1 = key
    · by_cases same : key = name <;> simp [here, same, changeEntry]
    · simp [here]

theorem get?_of_mem {m : NameMap α} {e : String × α} (member : e ∈ m.entries) :
    m.get? e.1 = some e.2 :=
  find_of_mem m.ascending member

theorem get?_put_self (m : NameMap α) (name : String) (value : α) :
    (m.put name value).get? name = some ((m.get? name).getD value) :=
  find_putEntry_self name value m.ascending

theorem get?_put_other (m : NameMap α) {name key : String} (other : key ≠ name) (value : α) :
    (m.put name value).get? key = m.get? key :=
  find_putEntry_other other value m.entries

theorem get?_change_self (m : NameMap α) (name : String) (f : α → α) :
    (m.change name f).get? name = (m.get? name).map f := by
  rw [get?_eq_find, entries_change, find_changeEntry, if_pos rfl, get?_eq_find]

theorem get?_change_other (m : NameMap α) {name key : String} (other : key ≠ name) (f : α → α) :
    (m.change name f).get? key = m.get? key := by
  rw [get?_eq_find, entries_change, find_changeEntry, if_neg other, get?_eq_find]

theorem putEntry_taken {name : String} {l : List (String × α)}
    (ascending : l.Pairwise fun a b => a.1 < b.1) (taken : name ∈ l.map (·.1)) (value : α) :
    putEntry name value l = l := by
  induction l with
  | nil => simp at taken
  | cons e rest ih =>
    obtain ⟨first, others⟩ := List.pairwise_cons.1 ascending
    rw [List.map_cons, List.mem_cons] at taken
    unfold putEntry
    rcases taken with rfl | later
    · rw [if_neg (String.lt_irrefl e.1), if_neg (String.lt_irrefl e.1)]
    · obtain ⟨d, member, rfl⟩ := List.mem_map.1 later
      have below := first d member
      rw [if_neg (String.lt_asymm below), if_pos below, ih others later]

theorem contains_iff (m : NameMap α) (name : String) : m.contains name ↔ name ∈ m.names :=
  find_isSome_iff name m.entries

theorem put_taken {m : NameMap α} {name : String} (taken : m.contains name = true) (value : α) :
    m.put name value = m := by
  have entries := putEntry_taken m.ascending ((contains_iff m name).1 taken) value
  simp only [put, entries]

theorem names_nodup (m : NameMap α) : m.names.Nodup := by
  refine m.names_ascending.imp ?_
  rintro a _ less rfl
  exact String.lt_irrefl a less

theorem names_ext {β : Type} {m : NameMap α} {m' : NameMap β}
    (same : ∀ name, name ∈ m.names ↔ name ∈ m'.names) : m.names = m'.names := by
  have permuted := (List.perm_ext_iff_of_nodup m.names_nodup m'.names_nodup).2 same
  refine permuted.eq_of_pairwise ?_ m.names_ascending m'.names_ascending
  intro a b _ _ less more
  exact absurd more (String.lt_asymm less)

theorem contains_change (m : NameMap α) (name key : String) (f : α → α) :
    (m.change name f).contains key = m.contains key := by
  rw [Bool.eq_iff_iff, contains_iff, contains_iff, names_change]

theorem contains_put (m : NameMap α) (name key : String) (value : α) :
    (m.put name value).contains key = (m.contains key || key = name) := by
  by_cases same : key = name
  · simp [same, contains, get?_put_self]
  · simp [same, contains, get?_put_other]

def total (measure : α → Nat) (l : List (String × α)) : Nat :=
  ((l.map (·.2)).map measure).foldr (· + ·) 0

theorem total_cons (measure : α → Nat) (e : String × α) (l : List (String × α)) :
    total measure (e :: l) = measure e.2 + total measure l := rfl

theorem total_putEntry {measure : α → Nat} {value : α} (zero : measure value = 0)
    (name : String) (l : List (String × α)) :
    total measure (putEntry name value l) = total measure l := by
  induction l with
  | nil => simp [putEntry, total, zero]
  | cons e rest ih =>
    unfold putEntry
    split
    · simp [total_cons, zero]
    · split
      · rw [total_cons, total_cons, ih]
      · rfl

theorem map_changeEntry_absent {name : String} {l : List (String × α)}
    (absent : ∀ e ∈ l, e.1 ≠ name) (f : α → α) : l.map (changeEntry name f) = l := by
  induction l with
  | nil => rfl
  | cons e rest ih =>
    rw [List.map_cons, ih fun e member => absent e (List.mem_cons_of_mem _ member)]
    simp [changeEntry, absent e (by simp)]

theorem total_changeEntry {measure : α → Nat} {f : α → α} {grown : Nat}
    (grows : ∀ a, measure (f a) = measure a + grown) {name : String} {l : List (String × α)}
    (ascending : l.Pairwise fun a b => a.1 < b.1) (present : name ∈ l.map (·.1)) :
    total measure (l.map (changeEntry name f)) = total measure l + grown := by
  induction l with
  | nil => simp at present
  | cons e rest ih =>
    obtain ⟨first, others⟩ := List.pairwise_cons.1 ascending
    rw [List.map_cons, total_cons, total_cons]
    by_cases same : e.1 = name
    · have absent : ∀ d ∈ rest, d.1 ≠ name := by
        intro d member eq
        exact String.lt_irrefl _ ((same.trans eq.symm) ▸ first d member)
      rw [map_changeEntry_absent absent]
      simp only [changeEntry, same, ↓reduceIte, grows]
      omega
    · have later : name ∈ rest.map (·.1) := by
        rcases List.mem_cons.1 present with here | later
        · exact absurd here.symm same
        · exact later
      rw [ih others later]
      simp only [changeEntry, same, ↓reduceIte]
      omega

end LexicalGrammar.NameMap
