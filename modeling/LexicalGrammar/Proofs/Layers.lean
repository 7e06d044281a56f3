import LexicalGrammar.Proofs.Settings

/-
Which layer decides about a setting. Calls to a loader name files and override single settings, in
any order. Of the files the last one that has a setting counts, and over them the last override.
-/
namespace LexicalGrammar.Config

inductive Call where
  | file (path : String)
  | optionalFile (path : String)
  | override (s : Setting) (value : Leaf)

namespace Call

def apply (l : Loader) : Call → Except Fault Loader
  | .file path => .ok (l.withFile path)
  | .optionalFile path => .ok (l.withOptionalFile path)
  | .override s v => l.setOverride s.path (.leaf v none)

def source? : Call → Option Source
  | .file path => some ⟨path, true⟩
  | .optionalFile path => some ⟨path, false⟩
  | .override .. => none

def override? : Call → Option (Setting × Leaf)
  | .override s v => some (s, v)
  | _ => none

end Call

def Loader.after (calls : List Call) : Except Fault Loader :=
  calls.foldlM Call.apply {}

section
variable (readFile : String → Except ReadFailure String)

def file? (path : String) : Option Source.File :=
  Source.firstOf readFile (Source.candidates path)

def textSettings? (text : String) : Option (List (Setting × Leaf)) :=
  (Toml.read? (Source.withoutMark text)).bind settings?

def fileSettings (path : String) : List (Setting × Leaf) :=
  ((file? readFile path).bind fun file => file.text?.bind textSettings?).getD []

def lastOf (given : List (Setting × Leaf)) (s : Setting) : Option Leaf :=
  ((given.filter (·.1 = s)).getLast?).map (·.2)

/-- The value that counts for a setting: of the last override of it, else of the last file that has
it, else the default. -/
def winner (calls : List Call) (s : Setting) : Leaf :=
  let overrides := calls.filterMap Call.override?
  let files := (calls.filterMap Call.source?).flatMap fun f => fileSettings readFile f.path
  ((lastOf overrides s).or (lastOf files s)).getD s.default

end

def enter (s : Setting) (v : Leaf) : List (Setting × Leaf) → List (Setting × Leaf)
  | [] => [(s, v)]
  | e :: rest => if e.1 = s then (s, v) :: rest else e :: enter s v rest

def entered (given : List (Setting × Leaf)) : List (Setting × Leaf) :=
  given.foldl (fun kept e => enter e.1 e.2 kept) []

def keyed (e : Setting × Leaf) : Key × Value :=
  (e.1.place, .leaf e.2 none)

theorem addOverride_keyed (s : Setting) (v : Leaf) (kept : List (Setting × Leaf)) :
    Loader.addOverride s.place (.leaf v none) (kept.map keyed) = (enter s v kept).map keyed := by
  induction kept with
  | nil => rfl
  | cons e rest ih =>
    have same : (keyed e).1 = s.place ↔ e.1 = s := Setting.place_inj_iff e.1 s
    by_cases here : e.1 = s
    · simp [Loader.addOverride, enter, here, keyed]
    · simp [Loader.addOverride, enter, mt same.1 here, here, ih]

theorem apply_override (sources : List Source) (kept : List (Setting × Leaf)) (s : Setting)
    (v : Leaf) : Call.apply ⟨sources, kept.map keyed⟩ (.override s v) =
      .ok ⟨sources, (enter s v kept).map keyed⟩ := by
  rw [Call.apply, Loader.setOverride, Setting.parse_path, ← addOverride_keyed]

/- The files and the overrides of the calls are kept apart, each in their order. -/
theorem foldlM_apply (calls : List Call) (sources : List Source) (kept : List (Setting × Leaf)) :
    calls.foldlM Call.apply ⟨sources, kept.map keyed⟩ =
      .ok ⟨sources ++ calls.filterMap Call.source?,
        ((calls.filterMap Call.override?).foldl (fun kept e => enter e.1 e.2 kept) kept).map
          keyed⟩ := by
  induction calls generalizing sources kept with
  | nil => simp [pure, Except.pure]
  | cons call rest ih =>
    rw [List.foldlM_cons]
    cases call with
    | file path =>
      refine (ih (sources ++ [⟨path, true⟩]) kept).trans ?_
      simp [List.filterMap_cons, Call.source?, Call.override?]
    | optionalFile path =>
      refine (ih (sources ++ [⟨path, false⟩]) kept).trans ?_
      simp [List.filterMap_cons, Call.source?, Call.override?]
    | override s v =>
      rw [apply_override]
      refine (ih sources (enter s v kept)).trans ?_
      simp [List.filterMap_cons, Call.source?, Call.override?]

theorem after_calls (calls : List Call) : Loader.after calls =
    .ok ⟨calls.filterMap Call.source?, (entered (calls.filterMap Call.override?)).map keyed⟩ :=
  foldlM_apply calls [] []

theorem filter_enter_self (s : Setting) (v : Leaf) {kept : List (Setting × Leaf)}
    (single : (kept.filter (·.1 = s)).length ≤ 1) :
    (enter s v kept).filter (·.1 = s) = [(s, v)] := by
  induction kept with
  | nil => simp [enter]
  | cons e rest ih =>
    by_cases here : e.1 = s
    · have none : rest.filter (·.1 = s) = [] := by
        simpa [here] using single
      simp [enter, here, none]
    · have single' : (rest.filter (·.1 = s)).length ≤ 1 := by simpa [here] using single
      simp [enter, here, ih single']

theorem filter_enter_other {s other : Setting} (different : other ≠ s) (v : Leaf)
    (kept : List (Setting × Leaf)) :
    (enter s v kept).filter (·.1 = other) = kept.filter (·.1 = other) := by
  induction kept with
  | nil => simp [enter, different.symm]
  | cons e rest ih =>
    by_cases here : e.1 = s
    · simp [enter, here, different.symm]
    · simp [enter, here, List.filter_cons, ih]

/- An override replaces those of the same setting before it. -/
theorem filter_entered (given : List (Setting × Leaf)) (s : Setting) :
    (entered given).filter (·.1 = s) = ((lastOf given s).map (s, ·)).toList := by
  induction given using List.reverseRecOn with
  | nil => rfl
  | append_singleton given e ih =>
    have last : entered (given ++ [e]) = enter e.1 e.2 (entered given) := List.foldl_append
    rw [last]
    by_cases same : e.1 = s
    · subst same
      have single : ((entered given).filter (·.1 = e.1)).length ≤ 1 := by
        rw [ih]
        cases lastOf given e.1 <;> simp
      simp [filter_enter_self e.1 e.2 single, lastOf]
    · rw [filter_enter_other (Ne.symm same), ih]
      simp [lastOf, same]

/- The overrides are put over values one by one, each for a setting of its own. -/
theorem foldl_keyed (a : Values) (kept : List (Setting × Leaf)) :
    (kept.map keyed).foldl (fun root (key, v) => root.set key v) a.root =
      (a.overlaid (kept.map fun e => (e.1, e.2, none))).root := by
  induction kept generalizing a with
  | nil => rfl
  | cons e rest ih =>
    rw [List.map_cons, List.foldl_cons]
    simp only [keyed] at ih ⊢
    rw [set_root, ih]
    rfl

theorem overlaid_fst (a : Values) (given : List (Setting × Leaf × Option String)) (s : Setting) :
    (a.overlaid given s).1 = (lastOf (given.map fun g => (g.1, g.2.1)) s).getD (a s).1 := by
  rw [Values.overlaid_apply, lastOf, List.filter_map, List.getLast?_map]
  have same : (given.filter (·.1 = s)).getLast? = (given.filter
      ((fun e : Setting × Leaf => decide (e.1 = s)) ∘ fun g => (g.1, g.2.1))).getLast? := rfl
  rw [same]
  cases (given.filter ((fun e : Setting × Leaf => decide (e.1 = s)) ∘
    fun g => (g.1, g.2.1))).getLast? <;> rfl

section
variable {readFile : String → Except ReadFailure String}

/-- The same as `fileSettings`, with the file that the values come from. -/
def fileValues (readFile : String → Except ReadFailure String) (path : String) :
    List (Setting × Leaf × Option String) :=
  (fileSettings readFile path).map fun g =>
    (g.1, g.2, (file? readFile path).map fun file => Path.normalize file.path)

def Plain (readFile : String → Except ReadFailure String) (path : String) : Prop :=
  ∀ file, file? readFile path = some file → (file.text?.bind textSettings?).isSome = true

theorem read_source {f : Source} (plain : Plain readFile f.path)
    (there : f.required = true → (file? readFile f.path).isSome = true) :
    ∃ entries, Source.read readFile f = .ok entries ∧ ∀ a : Values,
      layer entries a.root = (a.overlaid (fileValues readFile f.path)).root := by
  cases found : file? readFile f.path with
  | none =>
    have optional : f.required = false := by
      cases required : f.required with
      | false => rfl
      | true => simpa [found] using there required
    have absent : Source.firstOf readFile (Source.candidates f.path) = none := found
    refine ⟨[], by simp [Source.read, absent, optional], fun a => ?_⟩
    simp [fileValues, fileSettings, found, Values.overlaid, layer]
  | some file =>
    have present : Source.firstOf readFile (Source.candidates f.path) = some file := found
    obtain ⟨given, sets⟩ := Option.isSome_iff_exists.1 (plain _ found)
    obtain ⟨text, has, sets'⟩ := Option.bind_eq_some_iff.1 sets
    obtain ⟨entries, read, settings⟩ := Option.bind_eq_some_iff.1 sets'
    refine ⟨Value.ofTomlEntries (some (Path.normalize file.path)) entries, ?_, fun a => ?_⟩
    · simp only [Source.read, present, has, Option.bind_some, read]
    · rw [layer_settings settings]
      simp [fileValues, fileSettings, found, sets]

/-- Each file that is there is the one with just the name that was given. -/
def OwnNames (readFile : String → Except ReadFailure String) (calls : List Call) : Prop :=
  ∀ path, .file path ∈ calls ∨ .optionalFile path ∈ calls →
    ∀ file, file? readFile path = some file → file.path = path

theorem read_of_firstOf {paths : List String} {file : Source.File} {text : String}
    (found : Source.firstOf readFile paths = some file) (has : file.text? = some text) :
    readFile file.path = .ok text := by
  induction paths with
  | nil => cases found
  | cons path rest ih =>
    unfold Source.firstOf at found
    split at found
    · next read =>
      obtain rfl := Option.some.inj found
      rw [read, Option.some.inj has]
    · obtain rfl := Option.some.inj found
      cases has
    · exact ih found

theorem file_of_read {path text : String} (read : readFile path = .ok text) :
    file? readFile path = some ⟨path, some text⟩ := by
  rw [file?, Source.candidates, Source.firstOf, read]

theorem there_iff_read {path : String} (plain : Plain readFile path)
    (own : ∀ file, file? readFile path = some file → file.path = path) :
    (file? readFile path).isSome = true ↔ ∃ text, readFile path = .ok text := by
  constructor
  · intro there
    obtain ⟨file, found⟩ := Option.isSome_iff_exists.1 there
    obtain ⟨_, sets⟩ := Option.isSome_iff_exists.1 (plain file found)
    obtain ⟨text, has, _⟩ := Option.bind_eq_some_iff.1 sets
    have read := read_of_firstOf found has
    rw [own file found] at read
    exact ⟨text, read⟩
  · rintro ⟨text, read⟩
    rw [file_of_read read]
    rfl

theorem read_missing {f : Source} (required : f.required = true)
    (absent : file? readFile f.path = none) :
    Source.read readFile f = .error (.missingFile f.path) := by
  have none : Source.firstOf readFile (Source.candidates f.path) = none := absent
  simp [Source.read, none, required]

theorem read_sources {sources : List Source} (plain : ∀ f ∈ sources, Plain readFile f.path)
    (there : ∀ f ∈ sources, f.required = true → (file? readFile f.path).isSome = true) :
    ∃ files, sources.mapM (Source.read readFile) = .ok files ∧ ∀ a : Values,
      files.foldl (fun root entries => layer entries root) a.root =
        (a.overlaid (sources.flatMap fun f => fileValues readFile f.path)).root := by
  induction sources with
  | nil => exact ⟨[], rfl, fun a => rfl⟩
  | cons f rest ih =>
    obtain ⟨entries, read, first⟩ :=
      read_source (plain f List.mem_cons_self) (there f List.mem_cons_self)
    obtain ⟨files, others, behind⟩ := ih
      (fun g member => plain g (List.mem_cons_of_mem f member))
      (fun g member => there g (List.mem_cons_of_mem f member))
    refine ⟨entries :: files, ?_, fun a => ?_⟩
    · rw [List.mapM_cons, read, others]
      rfl
    · rw [List.foldl_cons, first, behind, List.flatMap_cons, Values.overlaid_append]

theorem ok_of_mapM {α β ε : Type} {f : α → Except ε β} {xs : List α} {ys : List β}
    (run : xs.mapM f = .ok ys) : ∀ x ∈ xs, ∃ y, f x = .ok y := by
  induction xs generalizing ys with
  | nil => simp
  | cons x rest ih =>
    rw [List.mapM_cons] at run
    cases first : f x with
    | error fault => simp [first, bind, Except.bind] at run
    | ok y =>
      cases others : rest.mapM f with
      | error fault => simp [first, others, bind, Except.bind] at run
      | ok tail =>
        intro z member
        rcases List.mem_cons.1 member with rfl | behind
        · exact ⟨y, first⟩
        · exact ih others z behind

theorem required_of_mapM {sources : List Source} {files : List (List (String × Value))}
    (read : sources.mapM (Source.read readFile) = .ok files) :
    ∀ f ∈ sources, f.required = true → (file? readFile f.path).isSome = true := by
  intro f member required
  obtain ⟨entries, made⟩ := ok_of_mapM read f member
  cases found : file? readFile f.path with
  | some file => rfl
  | none => cases (read_missing required found).symm.trans made

theorem fst_fileValues (sources : List Source) :
    (sources.flatMap fun f => fileValues readFile f.path).map (fun g => (g.1, g.2.1)) =
      sources.flatMap fun f => fileSettings readFile f.path := by
  rw [List.map_flatMap]
  refine congrArg (sources.flatMap ·) (funext fun f => ?_)
  rw [fileValues, List.map_map]
  exact List.map_id _

theorem lastOf_entered (given : List (Setting × Leaf)) (s : Setting) :
    lastOf (entered given) s = lastOf given s := by
  have filtered := filter_entered given s
  unfold lastOf at filtered ⊢
  rw [filtered]
  cases (given.filter (·.1 = s)).getLast? <;> rfl

def merged (readFile : String → Except ReadFailure String) (calls : List Call) : Values :=
  (Values.overlaid (fun s => (s.default, none))
    ((calls.filterMap Call.source?).flatMap fun f => fileValues readFile f.path)).overlaid
      ((entered (calls.filterMap Call.override?)).map fun e => (e.1, e.2, none))

theorem merged_winner (calls : List Call) (s : Setting) :
    (merged readFile calls s).1 = winner readFile calls s := by
  have kept : ((entered (calls.filterMap Call.override?)).map
      fun e => ((e.1, e.2, none) : Setting × Leaf × Option String)).map (fun g => (g.1, g.2.1)) =
        entered (calls.filterMap Call.override?) := by
    rw [List.map_map]
    exact List.map_id _
  rw [merged, overlaid_fst, overlaid_fst, kept, lastOf_entered, fst_fileValues, winner]
  cases lastOf (calls.filterMap Call.override?) s <;> rfl

end

section
variable {readFile : String → Except ReadFailure String} {calls : List Call}

theorem mem_sources {f : Source} (member : f ∈ calls.filterMap Call.source?) :
    .file f.path ∈ calls ∧ f.required = true ∨
      .optionalFile f.path ∈ calls ∧ f.required = false := by
  obtain ⟨call, given, source⟩ := List.mem_filterMap.1 member
  cases call with
  | file path =>
    cases source
    exact Or.inl ⟨given, rfl⟩
  | optionalFile path =>
    cases source
    exact Or.inr ⟨given, rfl⟩
  | override s v => cases source

theorem build_of_there (plain : ∀ path, .file path ∈ calls ∨ .optionalFile path ∈ calls →
      Plain readFile path)
    (there : ∀ path, .file path ∈ calls → (file? readFile path).isSome = true) :
    Loader.build ⟨calls.filterMap Call.source?,
      (entered (calls.filterMap Call.override?)).map keyed⟩ readFile =
        ofValue (merged readFile calls).root := by
  have plain' : ∀ f ∈ calls.filterMap Call.source?, Plain readFile f.path := by
    intro f member
    rcases mem_sources member with ⟨given, _⟩ | ⟨given, _⟩
    · exact plain f.path (Or.inl given)
    · exact plain f.path (Or.inr given)
  have there' : ∀ f ∈ calls.filterMap Call.source?, f.required = true →
      (file? readFile f.path).isSome = true := by
    intro f member required
    rcases mem_sources member with ⟨given, _⟩ | ⟨_, optional⟩
    · exact there f.path given
    · cases required.symm.trans optional
  obtain ⟨files, read, layers⟩ := read_sources plain' there'
  have built : Loader.merged ⟨calls.filterMap Call.source?,
      (entered (calls.filterMap Call.override?)).map keyed⟩ readFile =
        .ok (merged readFile calls).root := by
    unfold Loader.merged
    simp only [read, layer_defaults, bind, Except.bind, pure, Except.pure]
    rw [layers, foldl_keyed]
    rfl
  rw [Loader.build, built]
  rfl

theorem there_of_build {l : Loader} {config : Config} (built : l.build readFile = .ok config) :
    ∀ f ∈ l.sources, f.required = true → (file? readFile f.path).isSome = true := by
  cases read : l.sources.mapM (Source.read readFile) with
  | ok files => exact required_of_mapM read
  | error fault =>
    unfold Loader.build Loader.merged at built
    simp only [read, bind, Except.bind] at built
    cases built

theorem build_iff (plain : ∀ path, .file path ∈ calls ∨ .optionalFile path ∈ calls →
      Plain readFile path) (config : Config) :
    Loader.build ⟨calls.filterMap Call.source?,
      (entered (calls.filterMap Call.override?)).map keyed⟩ readFile = .ok config ↔
        (∀ path, .file path ∈ calls → (file? readFile path).isSome = true) ∧
        Accepted (winner readFile calls) config := by
  have winners : (fun s => (merged readFile calls s).1) = winner readFile calls :=
    funext fun s => merged_winner calls s
  constructor
  · intro built
    have there : ∀ path, .file path ∈ calls → (file? readFile path).isSome = true := by
      intro path given
      exact there_of_build built ⟨path, true⟩ (List.mem_filterMap.2 ⟨_, given, rfl⟩) rfl
    rw [build_of_there plain there, ofValue_root, winners] at built
    exact ⟨there, built⟩
  · rintro ⟨there, accepted⟩
    rwa [build_of_there plain there, ofValue_root, winners]

end

/- Files and overrides may be named in any order, where each file that is there has settings and
   nothing else. The configuration is made if and only if each file that has to be there is, and the
   values that count are accepted; and it is made of these. No other value matters, and neither does
   where among the files an override is given. A file that has to be there may have a longer name
   than the one that was given; where none has, a file of just this name is what has to be there. -/
theorem last_layer_wins (readFile : String → Except ReadFailure String) (calls : List Call)
    (plain : ∀ path, .file path ∈ calls ∨ .optionalFile path ∈ calls → Plain readFile path) :
    ∃ l, Loader.after calls = .ok l ∧
      (∀ config, l.build readFile = .ok config ↔
        (∀ path, .file path ∈ calls → (file? readFile path).isSome = true) ∧
        Accepted (winner readFile calls) config) ∧
      (OwnNames readFile calls → ∀ config, l.build readFile = .ok config ↔
        (∀ path, .file path ∈ calls → ∃ text, readFile path = .ok text) ∧
        Accepted (winner readFile calls) config) ∧
      (∀ config, l.build readFile = .ok config → Word.fits config.options.sizeLimit = true) ∧
      ∀ calls', calls'.filterMap Call.source? = calls.filterMap Call.source? →
        calls'.filterMap Call.override? = calls.filterMap Call.override? →
        Loader.after calls' = .ok l := by
  have built := build_iff plain
  refine ⟨_, after_calls calls, built, ?_, ?_, ?_⟩
  · intro own config
    have there : (∀ path, .file path ∈ calls → (file? readFile path).isSome = true) ↔
        ∀ path, .file path ∈ calls → ∃ text, readFile path = .ok text :=
      forall₂_congr fun path given =>
        there_iff_read (plain path (Or.inl given)) (own path (Or.inl given))
    rw [built config, there]
  · intro config made
    exact fits_of_toSize ((built config).1 made).2.sizeLimit
  · intro calls' files overrides
    rw [after_calls, files, overrides]

/- The first file has a size that is none, and the second a policy that is none. Both lose. -/
theorem last_layer_wins_losers :
    let readFile (path : String) : Except ReadFailure String :=
      if path = "a" then .ok "[pattern]\nsize_limit = 'big'\ncase_insensitive = 1\n"
      else if path = "b" then .ok "resolution.on_failure = 7\npattern.size_limit = 5\n"
      else .error .notFound
    let calls := [.optionalFile "a", .override .onFailure (.text "collect"), .file "b"]
    ∃ l, Loader.after calls = .ok l ∧ l.build readFile = .ok ⟨⟨true, 5⟩, .collect⟩ := by
  intro readFile calls
  have first : file? readFile "a" =
      some ⟨"a", some "[pattern]\nsize_limit = 'big'\ncase_insensitive = 1\n"⟩ := rfl
  have second : file? readFile "b" =
      some ⟨"b", some "resolution.on_failure = 7\npattern.size_limit = 5\n"⟩ := rfl
  have paths : ∀ path, .file path ∈ calls ∨ .optionalFile path ∈ calls →
      path = "b" ∨ path = "a" := by
    intro path given
    simpa [calls] using given
  have plain : ∀ path, .file path ∈ calls ∨ .optionalFile path ∈ calls → Plain readFile path := by
    intro path given file found
    rcases paths path given with rfl | rfl
    · obtain rfl := Option.some.inj (second.symm.trans found)
      decide +kernel
    · obtain rfl := Option.some.inj (first.symm.trans found)
      decide +kernel
  have own : OwnNames readFile calls := by
    intro path given file found
    rcases paths path given with rfl | rfl
    · obtain rfl := Option.some.inj (second.symm.trans found)
      rfl
    · obtain rfl := Option.some.inj (first.symm.trans found)
      rfl
  have accepted : Accepted (winner readFile calls) ⟨⟨true, 5⟩, .collect⟩ := by decide +kernel
  obtain ⟨l, loaded, _, built, _⟩ := last_layer_wins readFile calls plain
  refine ⟨l, loaded, (built own _).2 ⟨?_, accepted⟩⟩
  intro path given
  rcases paths path (Or.inl given) with rfl | rfl
  · exact ⟨_, rfl⟩
  · exact ⟨_, rfl⟩

theorem candidates_a : Source.candidates "a" = ["a", "a.toml"] := by
  have parts : Path.parts "a" = ["a"] := by
    rw [Path.parts, String.splitOn, if_neg (by decide), String.splitOnAux, if_neg (by decide),
      if_neg (by decide), String.splitOnAux, if_pos (by decide)]
    decide +kernel
  rw [Source.candidates, Path.fileName?, Path.normalize, parts]
  decide +kernel

/- A file that has to be there need not have just the name that was given. -/
theorem file_of_longer_name :
    let readFile (path : String) : Except ReadFailure String :=
      if path = "a.toml" then .ok "[pattern]\ncase_insensitive = true\n" else .error .notFound
    let calls := [Call.file "a"]
    ¬ ((∃ l config, Loader.after calls = .ok l ∧ l.build readFile = .ok config) ↔
      (∀ path, .file path ∈ calls → ∃ text, readFile path = .ok text) ∧
        ∃ config, Accepted (winner readFile calls) config) := by
  intro readFile calls same
  have found : file? readFile "a" =
      some ⟨"a.toml", some "[pattern]\ncase_insensitive = true\n"⟩ := by
    rw [file?, candidates_a]
    rfl
  have only : ∀ path, .file path ∈ calls → path = "a" := by
    intro path given
    simpa [calls] using given
  have plain : ∀ path, .file path ∈ calls ∨ .optionalFile path ∈ calls → Plain readFile path := by
    rintro path (given | given) file read
    · rw [only path given, found] at read
      obtain rfl := Option.some.inj read
      decide +kernel
    · simp [calls] at given
  have built := build_of_there plain fun path given => by
    rw [only path given, found]
    rfl
  have winners : (fun s => (merged readFile calls s).1) = fun s => (lastOf ((textSettings?
      "[pattern]\ncase_insensitive = true\n").getD []) s).getD s.default := by
    funext s
    rw [merged_winner, winner]
    simp [calls, List.filterMap_cons, Call.override?, Call.source?, fileSettings, found, lastOf]
  have accepted : Accepted (fun s => (merged readFile calls s).1) ⟨⟨true, 10485760⟩, .abort⟩ := by
    rw [winners]
    decide +kernel
  obtain ⟨given, _⟩ := same.1
    ⟨_, _, after_calls calls, built.trans ((ofValue_root _ _).2 accepted)⟩
  obtain ⟨text, read⟩ := given "a" (by simp [calls])
  cases read

end LexicalGrammar.Config
