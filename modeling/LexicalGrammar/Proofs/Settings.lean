import LexicalGrammar.Config.Loader
import Mathlib.Data.List.Induction
import Mathlib.Logic.Function.Basic

/-
Configurations in which each setting has a value without parts. Merging a layer that sets some of
them into such a configuration changes these and leaves the others as they are.
-/
namespace LexicalGrammar.Config

inductive Setting where
  | caseInsensitive
  | sizeLimit
  | onFailure
  deriving Repr, DecidableEq

namespace Setting

def table : Setting → String
  | .caseInsensitive | .sizeLimit => "pattern"
  | .onFailure => "resolution"

def key : Setting → String
  | .caseInsensitive => "case_insensitive"
  | .sizeLimit => "size_limit"
  | .onFailure => "on_failure"

def path (s : Setting) : String :=
  s.table ++ "." ++ s.key

def place (s : Setting) : Key :=
  ⟨s.table, [.child s.key]⟩

def default : Setting → Leaf
  | .caseInsensitive => .bool false
  | .sizeLimit => .int (.ofInt 10485760)
  | .onFailure => .text "abort"

def all : List Setting := [.caseInsensitive, .sizeLimit, .onFailure]

def named? (table key : String) : Option Setting :=
  all.find? fun s => s.table = table ∧ s.key = key

theorem lowercase_table (s : Setting) : Unicode.lowercase s.table = s.table := by
  cases s <;> decide +kernel

theorem lowercase_key (s : Setting) : Unicode.lowercase s.key = s.key := by
  cases s <;> decide +kernel

theorem parse_table (s : Setting) : Key.parse s.table = .ok ⟨s.table, []⟩ := by
  cases s <;> rfl

theorem parse_path (s : Setting) : Key.parse s.path = .ok s.place := by
  cases s <;> rfl

theorem place_inj_iff (s s' : Setting) : s.place = s'.place ↔ s = s' := by
  cases s <;> cases s' <;> decide

theorem of_named {table key : String} {s : Setting} (named : named? table key = some s) :
    s.table = table ∧ s.key = key := by
  simpa using List.find?_some named

end Setting

/-- A leaf for each setting, with the file that it comes from, if it comes from one. -/
abbrev Values := Setting → Leaf × Option String

namespace Values

def value (a : Values) (s : Setting) : Value :=
  .leaf (a s).1 (a s).2

def tableOf (a : Values) : Setting → Value
  | .caseInsensitive | .sizeLimit =>
    .table [("case_insensitive", a.value .caseInsensitive), ("size_limit", a.value .sizeLimit)] none
  | .onFailure => .table [("on_failure", a.value .onFailure)] none

def root (a : Values) : Value :=
  .table [("pattern", a.tableOf .sizeLimit), ("resolution", a.tableOf .onFailure)] none

def overlaid (a : Values) (given : List (Setting × Leaf × Option String)) : Values :=
  given.foldl (fun a e => Function.update a e.1 e.2) a

theorem put_leaf (target : Value) (name : String) (v : Leaf) (origin : Option String) :
    target.put name (.leaf v origin) = target.insert (Unicode.lowercase name) (.leaf v origin) := by
  rw [Value.put]
  intro _ _ same
  cases same

theorem put_tableOf (a : Values) (s : Setting) (v : Leaf) (origin : Option String) :
    (a.tableOf s).put s.key (.leaf v origin) = tableOf (Function.update a s (v, origin)) s := by
  rw [put_leaf, Setting.lowercase_key]
  cases s <;> simp [tableOf, value, Value.insert, Value.insertEntry, Setting.key]

theorem get_root (a : Values) (s : Setting) : a.root.get? s.table = some (a.tableOf s) := by
  cases s <;> rfl

theorem insert_root {a a' : Values} {s : Setting}
    (others : ∀ other, other.table ≠ s.table → a' other = a other) :
    a.root.insert s.table (a'.tableOf s) = a'.root := by
  cases s with
  | onFailure =>
    have first := others .caseInsensitive (by decide)
    have second := others .sizeLimit (by decide)
    simp [root, Value.insert, Value.insertEntry, Setting.table, tableOf, value, first, second]
  | _ =>
    have policy := others .onFailure (by decide)
    simp [root, Value.insert, Value.insertEntry, Setting.table, tableOf, value, policy]

theorem overlaid_append (a : Values) (given others : List (Setting × Leaf × Option String)) :
    a.overlaid (given ++ others) = (a.overlaid given).overlaid others :=
  List.foldl_append

theorem overlaid_apply (a : Values) (given : List (Setting × Leaf × Option String)) (s : Setting) :
    a.overlaid given s = (((given.filter (·.1 = s)).getLast?).map (·.2)).getD (a s) := by
  induction given using List.reverseRecOn with
  | nil => rfl
  | append_singleton given e ih =>
    have last : a.overlaid (given ++ [e]) = Function.update (a.overlaid given) e.1 e.2 :=
      overlaid_append a given [e]
    by_cases same : e.1 = s
    · subst same
      simp [last]
    · simp [last, ih, same, Function.update_of_ne (Ne.symm same)]

theorem overlaid_others {a : Values} {given : List (Setting × Leaf × Option String)} {s : Setting}
    (absent : ∀ e ∈ given, e.1 ≠ s) : a.overlaid given s = a s := by
  have none : given.filter (·.1 = s) = [] := by simpa [List.filter_eq_nil_iff] using absent
  rw [overlaid_apply, none]
  rfl

/- Entries of one table, put into it one after the other. -/
theorem putAll_tableOf (a : Values) (s : Setting) (origin : Option String)
    {given : List (Setting × Leaf)} (here : ∀ e ∈ given, e.1.table = s.table) :
    (a.tableOf s).putAll (given.map fun e => (e.1.key, .leaf e.2 origin)) =
      (a.overlaid (given.map fun e => (e.1, e.2, origin))).tableOf s := by
  induction given generalizing a with
  | nil => rfl
  | cons e rest ih =>
    have tables (a : Values) : a.tableOf s = a.tableOf e.1 := by
      have same := here e List.mem_cons_self
      revert same
      cases e.1 <;> cases s <;> simp [Setting.table, tableOf]
    rw [List.map_cons, Value.putAll, tables, put_tableOf, ← tables,
      ih _ fun e' member => here e' (List.mem_cons_of_mem e member)]
    rfl

end Values

def scalar? : Toml.Value → Option Leaf
  | .text s => some (.text s)
  | .int n => some (.int (.ofInt n))
  | .float x => some (.float x)
  | .bool b => some (.bool b)
  | .moment m => some (.text m.text)
  | .list _ | .table _ => none

def setting? (table : String) (e : String × Toml.Value) : Option (Setting × Leaf) :=
  (Setting.named? table e.1).bind fun s => (scalar? e.2).map (s, ·)

/-- What a table sets; none if it is not one of those with settings, or has other entries. -/
def tableSettings? (e : String × Toml.Value) : Option (List (Setting × Leaf)) :=
  match Setting.all.find? (·.table = e.1), e.2 with
  | some _, .table entries => entries.mapM (setting? e.1)
  | _, _ => none

def settings? (entries : List (String × Toml.Value)) : Option (List (Setting × Leaf)) :=
  (entries.mapM tableSettings?).map List.flatten

theorem ofToml_scalar {v : Toml.Value} {leaf : Leaf} (scalar : scalar? v = some leaf)
    (origin : Option String) : Value.ofToml origin v = .leaf leaf origin := by
  cases v with
  | list items => cases scalar
  | table entries => cases scalar
  | _ =>
    obtain rfl := Option.some.inj scalar
    rfl

theorem entries_of_settings {table : String} {entries : List (String × Toml.Value)}
    {given : List (Setting × Leaf)} (sets : entries.mapM (setting? table) = some given)
    (origin : Option String) :
    Value.ofTomlEntries origin entries = given.map (fun e => (e.1.key, .leaf e.2 origin)) ∧
      ∀ e ∈ given, e.1.table = table := by
  induction entries generalizing given with
  | nil =>
    cases sets
    exact ⟨rfl, by simp⟩
  | cons e rest ih =>
    obtain ⟨name, v⟩ := e
    simp only [List.mapM_cons, bind, Option.bind_eq_some_iff, pure, Option.some.injEq] at sets
    obtain ⟨first, set, others, later, rfl⟩ := sets
    obtain ⟨s, named, scalar⟩ := Option.bind_eq_some_iff.1 set
    obtain ⟨leaf, found, rfl⟩ := Option.map_eq_some_iff.1 scalar
    obtain ⟨here, key⟩ := Setting.of_named named
    obtain rfl : s.key = name := key
    obtain ⟨written, tables⟩ := ih later
    refine ⟨?_, List.forall_mem_cons.2 ⟨here, tables⟩⟩
    rw [Value.ofTomlEntries, ofToml_scalar found, written, List.map_cons]

theorem put_table (target : Value) (name : String) (incoming : List (String × Value))
    (origin : Option String) : target.put name (.table incoming origin) =
      target.insert (Unicode.lowercase name)
        (((target.get? (Unicode.lowercase name)).getD .emptyTable).putAll incoming) := by
  rw [Value.put]

theorem layer_table {e : String × Toml.Value} {given : List (Setting × Leaf)}
    (sets : tableSettings? e = some given) (origin : Option String) (a : Values) :
    layer [(e.1, Value.ofToml origin e.2)] a.root =
      (a.overlaid (given.map fun g => (g.1, g.2, origin))).root := by
  obtain ⟨name, v⟩ := e
  unfold tableSettings? at sets
  split at sets
  · next s entries known table =>
    obtain rfl : s.table = name := by simpa using List.find?_some known
    obtain rfl : v = .table entries := table
    obtain ⟨written, here⟩ := entries_of_settings sets origin
    have others : ∀ other, other.table ≠ s.table →
        a.overlaid (given.map fun g => (g.1, g.2, origin)) other = a other := by
      intro other different
      refine Values.overlaid_others fun e member => ?_
      obtain ⟨g, member', rfl⟩ := List.mem_map.1 member
      rintro rfl
      exact different (here g member')
    simp only [layer, List.foldl_cons, List.foldl_nil, Setting.parse_table, Value.set, Key.steps,
      Value.setAt, Value.ofToml]
    rw [put_table, Setting.lowercase_table, Values.get_root, Option.getD_some, written,
      Values.putAll_tableOf a s origin here, Values.insert_root others]
  · cases sets

/- The layer of a file, whose tables are merged one after the other. -/
theorem layer_settings {entries : List (String × Toml.Value)} {given : List (Setting × Leaf)}
    (sets : settings? entries = some given) (origin : Option String) (a : Values) :
    layer (Value.ofTomlEntries origin entries) a.root =
      (a.overlaid (given.map fun g => (g.1, g.2, origin))).root := by
  obtain ⟨tables, each, rfl⟩ := Option.map_eq_some_iff.1 sets
  clear sets
  induction entries generalizing a tables with
  | nil =>
    cases each
    rfl
  | cons e rest ih =>
    simp only [List.mapM_cons, bind, Option.bind_eq_some_iff, pure, Option.some.injEq] at each
    obtain ⟨first, set, others, later, rfl⟩ := each
    have split : layer (Value.ofTomlEntries origin (e :: rest)) a.root =
        layer (Value.ofTomlEntries origin rest)
          (layer [(e.1, Value.ofToml origin e.2)] a.root) := rfl
    rw [split, layer_table set, ih _ others later, List.flatten_cons, List.map_append,
      Values.overlaid_append]

/- An override goes the same way, with a key for the setting alone. -/
theorem set_root (a : Values) (s : Setting) (v : Leaf) (origin : Option String) :
    a.root.set s.place (.leaf v origin) =
      (Values.root (Function.update a s (v, origin))) := by
  have others : ∀ other, other.table ≠ s.table →
      Function.update a s (v, origin) other = a other := by
    intro other different
    refine Function.update_of_ne ?_ _ _
    rintro rfl
    exact different rfl
  rw [Value.set, Key.steps, Setting.place, Value.setAt, Value.changeChild, Setting.lowercase_table,
    Values.get_root, Option.getD_some, Value.setAt, Values.put_tableOf, Values.insert_root others]
  simp

theorem layer_defaults : layer defaults .emptyTable =
    Values.root fun s => (s.default, none) := by
  rfl

/- Where a value stands and which file it is from shows in the fault only. -/
theorem toBool_ok_iff (place : List Document.Step) (v : Leaf) (origin : Option String) (b : Bool) :
    toBool place (.leaf v origin) = .ok b ↔ toBool [] (.leaf v none) = .ok b := by
  cases v with
  | text s => cases truth : truth? s <;> simp [toBool, truth]
  | _ => simp [toBool]

theorem toSize_ok_iff (place : List Document.Step) (v : Leaf) (origin : Option String) (n : Nat) :
    toSize place (.leaf v origin) = .ok n ↔ toSize [] (.leaf v none) = .ok n := by
  cases v with
  | text s => cases size : sizeOfText? s <;> simp [toSize, size]
  | int m => cases size : m.size? <;> simp [toSize, size]
  | _ => simp [toSize]

theorem fits_of_size? {n : Whole} {size : Nat} (sized : n.size? = some size) :
    Word.fits size = true := by
  unfold Whole.size? at sized
  split at sized
  · next inside =>
    obtain rfl := Option.some.inj sized
    exact inside.2
  · cases sized

theorem fits_of_sizeOfText? {text : String} {size : Nat} (sized : sizeOfText? text = some size) :
    Word.fits size = true := by
  simp only [sizeOfText?] at sized
  split at sized
  · obtain rfl := Option.some.inj sized
    rfl
  · split at sized
    · obtain rfl := Option.some.inj sized
      rfl
    · exact (Option.filter_eq_some_iff.1 sized).2

theorem fits_roundedSize (x : Float) : Word.fits (roundedSize x) = true :=
  decide_eq_true (UInt64.toNat_lt _)

/-- A size is a number of 64 bits, whatever it was converted from. -/
theorem fits_of_toSize {place : List Document.Step} {v : Value} {size : Nat}
    (converted : toSize place v = .ok size) : Word.fits size = true := by
  cases v with
  | list _ _ => cases converted
  | table _ _ => cases converted
  | leaf v origin =>
    cases v with
    | nil => cases converted
    | bool b =>
      obtain rfl := Except.ok.inj converted
      cases b <;> rfl
    | float x =>
      obtain rfl := Except.ok.inj converted
      exact fits_roundedSize x
    | int n =>
      cases sized : n.size? with
      | none => simp [toSize, sized] at converted
      | some m =>
        obtain rfl : m = size := by simpa [toSize, sized] using converted
        exact fits_of_size? sized
    | text s =>
      cases sized : sizeOfText? s with
      | none => simp [toSize, sized] at converted
      | some m =>
        obtain rfl : m = size := by simpa [toSize, sized] using converted
        exact fits_of_sizeOfText? sized

example : toSize [] (.leaf (.int (.unsigned128 (BitVec.ofNat 128 Word.count))) none) =
    .error (.conversion "128-bit unsigned integer `18446744073709551616`"
      "an unsigned 64 bit or less integer" [] none) := by
  decide +kernel

theorem toPolicy_leaf (v : Leaf) (origin : Option String) :
    toPolicy (.leaf v origin) = toPolicy (.leaf v none) := by
  cases v <;> rfl

structure Accepted (winner : Setting → Leaf) (config : Config) : Prop where
  caseInsensitive :
    toBool [] (.leaf (winner .caseInsensitive) none) = .ok config.options.caseInsensitive
  sizeLimit : toSize [] (.leaf (winner .sizeLimit) none) = .ok config.options.sizeLimit
  onFailure : toPolicy (.leaf (winner .onFailure) none) = .ok config.onFailure

theorem toOption_eq_some_iff {ε α : Type} {x : Except ε α} {a : α} :
    x.toOption = some a ↔ x = .ok a := by
  cases x <;> simp [Except.toOption]

theorem accepted_iff (winner : Setting → Leaf) (config : Config) : Accepted winner config ↔
    (toBool [] (.leaf (winner .caseInsensitive) none)).toOption =
        some config.options.caseInsensitive ∧
      (toSize [] (.leaf (winner .sizeLimit) none)).toOption = some config.options.sizeLimit ∧
      (toPolicy (.leaf (winner .onFailure) none)).toOption = some config.onFailure := by
  simp only [toOption_eq_some_iff]
  constructor
  · rintro ⟨switch, size, failure⟩
    exact ⟨switch, size, failure⟩
  · rintro ⟨switch, size, failure⟩
    exact ⟨switch, size, failure⟩

instance (winner : Setting → Leaf) (config : Config) : Decidable (Accepted winner config) :=
  decidable_of_iff _ (accepted_iff winner config).symm

theorem toOptions_ok_iff (a : Values) (o : Pattern.Options) :
    toOptions (a.tableOf .sizeLimit) = .ok o ↔
      toBool [] (.leaf (a .caseInsensitive).1 none) = .ok o.caseInsensitive ∧
      toSize [] (.leaf (a .sizeLimit).1 none) = .ok o.sizeLimit := by
  have read : toOptions (a.tableOf .sizeLimit) = [("case_insensitive", a.value .caseInsensitive),
      ("size_limit", a.value .sizeLimit)].foldlM addOption {} := rfl
  rw [read, ← toBool_ok_iff (optionsPlace (.field "case_insensitive")) _ (a .caseInsensitive).2,
    ← toSize_ok_iff (optionsPlace (.field "size_limit")) _ (a .sizeLimit).2]
  simp only [List.foldlM_cons, List.foldlM_nil, addOption, Values.value]
  obtain ⟨caseInsensitive, sizeLimit⟩ := o
  cases toBool (optionsPlace (.field "case_insensitive"))
      (.leaf (a .caseInsensitive).1 (a .caseInsensitive).2) with
  | error fault => simp [bind, Except.bind]
  | ok b =>
    cases toSize (optionsPlace (.field "size_limit"))
        (.leaf (a .sizeLimit).1 (a .sizeLimit).2) <;>
      simp [bind, Except.bind, pure, Except.pure]

theorem ofValue_root (a : Values) (config : Config) :
    ofValue a.root = .ok config ↔ Accepted (fun s => (a s).1) config := by
  have pattern : part a.root "pattern" = .ok (a.tableOf .sizeLimit) := rfl
  have resolution : part a.root "resolution" = .ok (a.tableOf .onFailure) := rfl
  have policy : toResolution (a.tableOf .onFailure) = toPolicy (.leaf (a .onFailure).1 none) :=
    toPolicy_leaf (a .onFailure).1 (a .onFailure).2
  have parts : ofValue a.root = .ok config ↔ toOptions (a.tableOf .sizeLimit) = .ok config.options ∧
      toPolicy (.leaf (a .onFailure).1 none) = .ok config.onFailure := by
    obtain ⟨options, onFailure⟩ := config
    simp only [ofValue, pattern, resolution, bind, Except.bind, policy]
    cases toOptions (a.tableOf .sizeLimit) with
    | error fault => simp
    | ok o =>
      cases toPolicy (.leaf (a .onFailure).1 none) <;> simp [pure, Except.pure]
  rw [parts, toOptions_ok_iff]
  constructor
  · rintro ⟨⟨switch, size⟩, failure⟩
    exact ⟨switch, size, failure⟩
  · rintro ⟨switch, size, failure⟩
    exact ⟨⟨switch, size⟩, failure⟩

end LexicalGrammar.Config
