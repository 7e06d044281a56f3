/-
Values by name. The entries are kept in ascending order of the names, by code points, so nothing
tells in which order the names were entered.
-/
namespace LexicalGrammar

structure NameMap (α : Type) where
  entries : List (String × α)
  ascending : entries.Pairwise fun a b => a.1 < b.1

namespace NameMap
variable {α : Type}

def putEntry (name : String) (value : α) : List (String × α) → List (String × α)
  | [] => [(name, value)]
  | e :: rest =>
    if name < e.1 then (name, value) :: e :: rest
    else if e.1 < name then e :: putEntry name value rest
    else e :: rest

theorem mem_putEntry {name : String} {value : α} {e : String × α} {l : List (String × α)}
    (h : e ∈ putEntry name value l) : e = (name, value) ∨ e ∈ l := by
  induction l with
  | nil => simpa [putEntry] using h
  | cons a rest ih =>
    unfold putEntry at h
    split at h
    · simpa using h
    · split at h
      · rcases List.mem_cons.1 h with rfl | h
        · simp
        · rcases ih h with h | h <;> simp [h]
      · exact Or.inr h

theorem putEntry_ascending (name : String) (value : α) {l : List (String × α)}
    (h : l.Pairwise fun a b => a.1 < b.1) :
    (putEntry name value l).Pairwise fun a b => a.1 < b.1 := by
  induction l with
  | nil => simp [putEntry]
  | cons a rest ih =>
    obtain ⟨first, others⟩ := List.pairwise_cons.1 h
    unfold putEntry
    split
    · next lower =>
      refine List.pairwise_cons.2 ⟨fun e member => ?_, h⟩
      rcases List.mem_cons.1 member with rfl | member
      · exact lower
      · exact String.lt_trans lower (first e member)
    · split
      · next higher =>
        refine List.pairwise_cons.2 ⟨fun e member => ?_, ih others⟩
        rcases mem_putEntry member with rfl | member
        · exact higher
        · exact first e member
      · exact h

def changeEntry (name : String) (change : α → α) (e : String × α) : String × α :=
  if e.1 = name then (e.1, change e.2) else e

theorem changeEntry_fst (name : String) (change : α → α) (e : String × α) :
    (changeEntry name change e).1 = e.1 := by
  unfold changeEntry
  split <;> rfl

def empty : NameMap α := ⟨[], List.Pairwise.nil⟩

instance : Inhabited (NameMap α) := ⟨empty⟩

/-- Enters a value under a name, unless the name is taken. -/
def put (m : NameMap α) (name : String) (value : α) : NameMap α :=
  ⟨putEntry name value m.entries, putEntry_ascending name value m.ascending⟩

def change (m : NameMap α) (name : String) (f : α → α) : NameMap α where
  entries := m.entries.map (changeEntry name f)
  ascending := by
    refine List.pairwise_map.2 (m.ascending.imp fun {a b} lower => ?_)
    simpa [changeEntry_fst] using lower

def get? (m : NameMap α) (name : String) : Option α :=
  (m.entries.find? (·.1 = name)).map (·.2)

def contains (m : NameMap α) (name : String) : Bool :=
  (m.get? name).isSome

def names (m : NameMap α) : List String :=
  m.entries.map (·.1)

def values (m : NameMap α) : List α :=
  m.entries.map (·.2)

def size (m : NameMap α) : Nat :=
  m.entries.length

theorem names_ascending (m : NameMap α) : m.names.Pairwise (· < ·) :=
  List.pairwise_map.2 m.ascending

theorem names_change (m : NameMap α) (name : String) (f : α → α) :
    (m.change name f).names = m.names := by
  simp [names, change, changeEntry_fst, Function.comp_def]

end NameMap
end LexicalGrammar
