import LexicalGrammar.Proofs.Resolution

/-
More states and more categories. A descriptor that resolves goes on resolving, with the same rule,
when states are declared and categories registered.
-/
namespace LexicalGrammar

structure Resolver.Within (r r' : Resolver) : Prop where
  options : r'.options = r.options
  lookup : ∀ name c, r.lookup name = some c → r'.lookup name = some c

namespace Resolver

theorem within_refl (r : Resolver) : r.Within r :=
  ⟨rfl, fun _ _ found => found⟩

theorem within_ofTable {t t' : CategoryTable}
    (more : ∀ name c, t.lookup name = some c → t'.lookup name = some c)
    (options : Pattern.Options) : (ofTable t options).Within (ofTable t' options) :=
  ⟨rfl, more⟩

theorem found_mono {r r' : Resolver} (more : r.Within r') {names : List String}
    {cs : List Category} (found : names.map r.lookup = cs.map some) :
    names.map r'.lookup = cs.map some := by
  induction names generalizing cs with
  | nil => exact found
  | cons name rest ih =>
    cases cs with
    | nil => simp at found
    | cons c tail =>
      obtain ⟨here, later⟩ := List.cons.inj found
      simp only [List.map_cons]
      rw [more.lookup name c here, ih later]

end Resolver

namespace CategoryTable

theorem lookup_register {t : CategoryTable} {name : String} {c : Category}
    (found : t.lookup name = some c) (other : String) (s : Supply) :
    (t.register other s).2.1.lookup name = some c := by
  unfold register
  cases taken : t.lookup other with
  | some _ => exact found
  | none =>
    have different : name ≠ other := by
      rintro rfl
      rw [found] at taken
      cases taken
    exact (NameMap.get?_put_other t.byName different _).trans found

theorem lookup_registerAll {t : CategoryTable} {name : String} {c : Category}
    (found : t.lookup name = some c) (names : List String) (s : Supply) :
    (t.registerAll names s).1.lookup name = some c := by
  induction names generalizing t s with
  | nil => exact found
  | cons first rest ih => exact ih (lookup_register found first s) _

theorem within_register (t : CategoryTable) (options : Pattern.Options) (name : String)
    (s : Supply) :
    (Resolver.ofTable t options).Within (Resolver.ofTable (t.register name s).2.1 options) :=
  Resolver.within_ofTable (fun _ _ found => lookup_register found name s) options

end CategoryTable

variable [Pattern.Dialect]

def Grammar.Within (g g' : Grammar) : Prop :=
  ∀ name, g.hasState name = true → g'.hasState name = true

namespace Grammar

theorem within_refl (g : Grammar) : g.Within g :=
  fun _ declared => declared

theorem within_trans {g g' g'' : Grammar} (first : g.Within g') (second : g'.Within g'') :
    g.Within g'' :=
  fun name declared => second name (first name declared)

theorem within_of_alike {g g' : Grammar} (alike : g.Alike g') : g.Within g' :=
  fun name declared => (alike name).trans declared

theorem within_declare (g : Grammar) (state : String) : g.Within (g.declare state) := by
  intro name declared
  simp [hasState_declare, declared]

theorem within_declareAll (g : Grammar) (states : List String) :
    g.Within (g.declareAll states) := by
  intro name declared
  simp [hasState_declareAll, declared]

theorem stateNames_of_alike {g g' : Grammar} (alike : g.Alike g') :
    g'.stateNames = g.stateNames := by
  refine NameMap.names_ext fun name => ?_
  change name ∈ g'.stateNames ↔ name ∈ g.stateNames
  rw [← hasState_iff, ← hasState_iff, alike name]

end Grammar

namespace Descriptor

theorem missingTarget_none_iff (g : Grammar) (targets : List StateRef) :
    missingTarget? g (.push targets) = none ↔
      ∀ name, .named name ∈ targets → g.hasState name = true := by
  simp only [missingTarget?, List.findSome?_eq_none_iff]
  constructor
  · intro found name member
    simpa using found (.named name) member
  · intro declared target member
    cases target with
    | current => rfl
    | named name => simp [declared name member]

theorem targets_of_create {g : Grammar} {t : Transition} {p : Pattern.Compiled}
    {cs : List Category} {rule : Rule} (made : create (some t) p cs g = .ok rule) :
    missingTarget? g t = none := by
  cases missing : missingTarget? g t with
  | none => rfl
  | some name => simp [create, missing] at made

theorem missingTarget_none_mono {g g' : Grammar} (more : g.Within g') {t : Transition}
    (none : missingTarget? g t = none) : missingTarget? g' t = Option.none := by
  cases t with
  | pop count => rfl
  | push targets =>
    have declared := (missingTarget_none_iff g targets).1 none
    exact (missingTarget_none_iff g' targets).2 fun name member => more name (declared name member)

theorem create_mono {g g' : Grammar} (more : g.Within g') {t : Option Transition}
    {p : Pattern.Compiled} {cs : List Category} {rule : Rule}
    (made : create t p cs g = .ok rule) : create t p cs g' = .ok rule := by
  cases t with
  | none => exact made
  | some t =>
    have found := targets_of_create made
    simpa [create, found, missingTarget_none_mono more found] using made

end Descriptor

theorem Resolver.verdict_mono {r r' : Resolver} {g g' : Grammar} (categories : r.Within r')
    (states : g.Within g') {d : Descriptor} {rule : Rule}
    (made : r.verdict d.declaration g = .ok rule) : r'.verdict d.declaration g' = .ok rule := by
  obtain ⟨p, cs, ready, created⟩ := (verdict_ok_iff r d.declaration g rule).1 made
  refine (verdict_ok_iff r' d.declaration g' rule).2
    ⟨p, cs, ?_, Descriptor.create_mono states created⟩
  constructor
  case declared => exact states _ ready.declared
  case compiled =>
    rw [categories.options]
    exact ready.compiled
  case found => exact Resolver.found_mono categories ready.found

end LexicalGrammar
