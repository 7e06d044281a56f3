import LexicalGrammar.Proofs.Formats
import LexicalGrammar.Proofs.Handles
import LexicalGrammar.Proofs.KnownNames

/-
Which categories were named is all that a check shows of them, not how often, in which order or in
which place they were named.
-/
namespace LexicalGrammar

theorem CategoryTable.known_ofNames_iff (names : List String) (name : String) :
    ((CategoryTable.ofNames names {}).1.lookup name).isSome = true ↔ name ∈ names := by
  constructor
  · intro known
    obtain ⟨c, found⟩ := Option.isSome_iff_exists.1 known
    obtain ⟨new, given, entered⟩ := entered_registerAll empty names {}
    obtain ⟨m, place, _⟩ := entered.made name c rfl found
    exact given (List.mem_of_getElem? place)
  · intro member
    obtain ⟨c, found⟩ := lookup_registerAll_of_mem member empty {}
    exact Option.isSome_iff_exists.2 ⟨c, found⟩

namespace Check

theorem knownTo_resolver (config : Config) {names names' : List String}
    (more : ∀ name ∈ names, name ∈ names') :
    (resolver config names).KnownTo (resolver config names') where
  options := rfl
  known := by
    intro name known
    have member := (CategoryTable.known_ofNames_iff names name).1 known
    exact (CategoryTable.known_ofNames_iff names' name).2 (more name member)

section
variable [Pattern.Dialect]

theorem Summary.ofPass_congr {p p' : Pass} (outcome : p'.outcome = p.outcome)
    (same : p.builder.grammar.SameSizes p'.builder.grammar) : ofPass p' = ofPass p := by
  unfold ofPass
  rw [outcome]
  cases p.outcome with
  | error failure => rfl
  | ok report => simp only [same.name, same.sizes]

theorem outcome_congr (config : Config) {names names' : List String}
    (same : ∀ name, name ∈ names ↔ name ∈ names') (d : Definition) :
    outcome config names' d = outcome config names d := by
  have more := knownTo_resolver config fun name => (same name).1
  have back := knownTo_resolver config fun name => (same name).2
  obtain ⟨report, grammar, events⟩ := Builder.resolveFrom_congr more back config.onFailure 0 {}
    (⟨rfl, rfl⟩ : d.builder.grammar.SameSizes d.builder.grammar) d.builder.queue
  have summary : (outcome config names' d).summary = (outcome config names d).summary :=
    Summary.ofPass_congr report grammar
  have told : (outcome config names' d).events = (outcome config names d).events := events
  calc outcome config names' d
      = ⟨(outcome config names' d).summary, (outcome config names' d).events⟩ := rfl
    _ = outcome config names d := by rw [summary, told]

section
variable {c c' : Check} {readFile readFile' : String → Except ReadFailure String}
  {names names' : List String}

/- Both checks load, or both miss the same; the names themselves are there in both. -/
theorem run_congr (config : c'.settings readFile' = c.settings readFile)
    (definition : Definition.load readFile' c'.path = Definition.load readFile c.path)
    (given : c.names readFile = .ok names) (given' : c'.names readFile' = .ok names')
    (same : ∀ name, name ∈ names ↔ name ∈ names') : c'.run readFile' = c.run readFile := by
  rcases loads_or_misses c readFile with ⟨found, named, d, loads⟩ | ⟨fault, misses⟩
  · obtain rfl : named = names := Except.ok.inj (loads.names.symm.trans given)
    have loads' : c'.Loads readFile' found names' d :=
      ⟨config.trans loads.config, given', definition.trans loads.definition⟩
    rw [run_of_loads loads, run_of_loads loads', outcome_congr found same d]
  · have misses' : c'.Misses readFile' fault := by
      cases misses with
      | config cause => exact .config (config.trans cause)
      | categories _ cause => cases given.symm.trans cause
      | definition found _ cause =>
        exact .definition (config.trans found) given' (definition.trans cause)
    rw [run_of_misses misses, run_of_misses misses']

end

def failuresOf (config : Config) (names : List String) (d : Definition) : List Failure :=
  failuresFrom (resolver config names) (Grammar.withStates d.name d.states) 0
    (d.rules.map Pending.fresh)

/-- The failures are those of a pass that went through all rules, and the answer tells of them. -/
structure Reports (response : Command.Response) (format : Format) (config : Config)
    (names : List String) (d : Definition) (failures : List Failure) : Prop where
  pass : ∃ report, report.failures = failures ∧
    (d.builder.resolvePending (resolver config names) config.onFailure).outcome = .ok report
  summary : (outcome config names d).summary.failures = failures.map .ofFailure
  output : response.output = (outcome config names d).summary.render format

theorem reports_failuresOf {config : Config} (collects : config.onFailure = .collect)
    {c : Check} {readFile : String → Except ReadFailure String} {names : List String}
    {d : Definition} (loads : c.Loads readFile config names d) (format : Format)
    (filter : Log.Filter) : Reports (.ofCheck format filter (c.run readFile)) format config names d
      (failuresOf config names d) where
  pass := by
    have queue := builder_eq d
    obtain ⟨passed, _⟩ := Builder.collect_complete d.builder (resolver config names)
    rw [collects, passed, queue]
    exact ⟨_, rfl, rfl⟩
  summary := by
    have tells := tells_outcome config names d
    rw [(tells.complete (Or.inr collects)).failures, failedAlone_eq]
    rfl
  output := by
    rw [run_of_loads loads]
    rfl

theorem mem_failuresOf (config : Config) (names : List String) (d : Definition) (f : Failure) :
    f ∈ failuresOf config names d ↔ ∃ rule, d.rules[f.index]? = some rule ∧
      ((resolver config names).alone d.name d.states rule).outcome = .error f.fault ∧
      f.descriptor = rule.describe := by
  unfold failuresOf
  rw [mem_failuresFrom]
  have alone (rule : Descriptor) : (Pending.fresh rule).fate (resolver config names)
      (Grammar.withStates d.name d.states) = .failed f.fault ↔
        ((resolver config names).alone d.name d.states rule).outcome = .error f.fault := by
    rw [Pending.fate_fresh_failed_iff, Resolver.alone, Resolver.resolve_outcome]
    cases (resolver config names).verdict rule.declaration
      (Grammar.withStates d.name d.states) <;> simp [Except.map]
  constructor
  · rintro ⟨p, place, judged, shown⟩
    rw [List.getElem?_map] at place
    obtain ⟨rule, entry, rfl⟩ := Option.map_eq_some_iff.1 place
    exact ⟨rule, entry, (alone rule).1 judged, shown⟩
  · rintro ⟨rule, entry, refused, shown⟩
    exact ⟨.fresh rule, by simp [entry], (alone rule).2 refused, shown⟩

section
variable {names names' : List String} (config : Config) (d : Definition)

theorem failuresOf_subset (more : ∀ name ∈ names, name ∈ names') :
    ∀ f' ∈ failuresOf config names' d, ∃ f ∈ failuresOf config names d,
      f.index = f'.index ∧ f.descriptor = f'.descriptor := by
  intro f' member
  have known := knownTo_resolver config more
  obtain ⟨rule, entry, refused, shown⟩ := (mem_failuresOf config names' d f').1 member
  cases alone : ((resolver config names).alone d.name d.states rule).outcome with
  | ok _ =>
    have passes := Resolver.outcome_ok_mono known alone
    cases passes.symm.trans refused
  | error fault =>
    exact ⟨⟨f'.index, f'.descriptor, fault⟩,
      (mem_failuresOf config names d _).2 ⟨rule, entry, alone, shown⟩, rfl, rfl⟩

theorem failuresOf_kept (more : ∀ name ∈ names, name ∈ names') :
    ∀ f ∈ failuresOf config names d, (∀ name, f.fault ≠ .unknownCategory name) →
      f ∈ failuresOf config names' d := by
  intro f member other
  have known := knownTo_resolver config more
  obtain ⟨rule, entry, refused, shown⟩ := (mem_failuresOf config names d f).1 member
  exact (mem_failuresOf config names' d f).2
    ⟨rule, entry, Resolver.outcome_error_mono known refused other, shown⟩

end

/- Two checks with the same configuration and the same definition, and with names of categories from
   options and files as they may be. If they have the same names, however they were given, the
   answers are equal. If the second has more, and all failures are collected, then each rule that
   fails in the second check fails in the first, and those that fail there for anything but an
   unknown category fail in the second just so. -/
theorem only_names_matter {arguments arguments' : List String} {c c' : Check} {format : Format}
    (asked : Command.Request.parse arguments = .ok (.check c format))
    (asked' : Command.Request.parse arguments' = .ok (.check c' format))
    {readFile readFile' : String → Except ReadFailure String} (logFilter : Option String)
    (config : c'.settings readFile' = c.settings readFile)
    (definition : Definition.load readFile' c'.path = Definition.load readFile c.path)
    {names names' : List String} (given : c.names readFile = .ok names)
    (given' : c'.names readFile' = .ok names') :
    let response := Command.respond readFile logFilter arguments
    let response' := Command.respond readFile' logFilter arguments'
    ((∀ name, name ∈ names ↔ name ∈ names') → response' = response) ∧
    (∀ found d, c.Loads readFile found names d → found.onFailure = .collect →
      (∀ name ∈ names, name ∈ names') → ∃ failures failures' : List Failure,
        Reports response format found names d failures ∧
        Reports response' format found names' d failures' ∧
        (∀ f' ∈ failures', ∃ f ∈ failures, f.index = f'.index ∧ f.descriptor = f'.descriptor) ∧
        ∀ f ∈ failures, (∀ name, f.fault ≠ .unknownCategory name) → f ∈ failures') := by
  intro response response'
  have answer : response = .ofCheck format (.ofText logFilter) (c.run readFile) := by
    simp only [response, Command.respond, asked]
  have answer' : response' = .ofCheck format (.ofText logFilter) (c'.run readFile') := by
    simp only [response', Command.respond, asked']
  constructor
  · intro same
    rw [answer, answer', run_congr config definition given given' same]
  · intro found d loads collects more
    have loads' : c'.Loads readFile' found names' d :=
      ⟨config.trans loads.config, given', definition.trans loads.definition⟩
    rw [answer, answer']
    exact ⟨_, _, reports_failuresOf collects loads format _,
      reports_failuresOf collects loads' format _, failuresOf_subset found d more,
      failuresOf_kept found d more⟩

end

/- Names in a file, once more and in another order; then a name less, with all failures. -/
theorem only_names_matter_file :
    let source := "\x7b\"name\": \"g\", \"states\": [\"s\"], \"rules\": [" ++
      "\x7b\"state\": \"s\", \"pattern\": \"x\", \"categories\": [\"b\"]\x7d, " ++
      "\x7b\"state\": \"t\", \"pattern\": \"x\", \"categories\": [\"b\"]\x7d]\x7d"
    let readFile (path : String) : Except ReadFailure String :=
      if path = "lexgram.toml" then .ok "" else if path = "g.json" then .ok source
      else if path = "names" then .ok "b\n# and\n a\nb\n" else .error .notFound
    let d : Definition := ⟨"g", ["s"], [.token ⟨"s", "x", ["b"], by decide, by decide, by decide⟩,
      .token ⟨"t", "x", ["b"], by decide, by decide, by decide⟩]⟩
    let respond := Command.respond readFile none
    respond ["check", "g.json", "--categories-file", "names"] =
      respond ["check", "g.json", "-ca", "-cb"] ∧
    ∃ failures failures' : List Failure,
      Reports (respond ["check", "g.json", "--collect", "-ca"]) .text ⟨{}, .collect⟩ ["a"] d
        failures ∧
      Reports (respond ["check", "g.json", "--collect", "-ca", "-cb"]) .text ⟨{}, .collect⟩
        ["a", "b"] d failures' ∧
      ∀ f' ∈ failures', ∃ f ∈ failures, f.index = f'.index ∧ f.descriptor = f'.descriptor := by
  intro source readFile d respond
  let c (categories : List String) (file : Option String) (collect : Bool) : Check :=
    ⟨"g.json", categories, file, none, collect⟩
  have fromFile : Command.Request.parse ["check", "g.json", "--categories-file", "names"] =
      .ok (.check (c [] (some "names") false) .text) := by cbv
  have fromOptions : Command.Request.parse ["check", "g.json", "-ca", "-cb"] =
      .ok (.check (c ["a", "b"] none false) .text) := by cbv
  have fewer : Command.Request.parse ["check", "g.json", "--collect", "-ca"] =
      .ok (.check (c ["a"] none true) .text) := by cbv
  have more : Command.Request.parse ["check", "g.json", "--collect", "-ca", "-cb"] =
      .ok (.check (c ["a", "b"] none true) .text) := by cbv
  have listed : (c [] (some "names") false).names readFile = .ok ["b", "a", "b"] :=
    ok_of_toOption (by decide +kernel)
  have loads : (c ["a"] none true).Loads readFile ⟨{}, .collect⟩ ["a"] d := by
    constructor
    case config => exact ok_of_toOption (by decide +kernel)
    case names => rfl
    case definition =>
      have read : (Definition.ofText .json source).toOption = some d := by decide +kernel
      simp only [Definition.load, c, ofPath_json]
      exact ok_of_toOption read
  have given : (c ["a", "b"] none false).names readFile = .ok ["a", "b"] := rfl
  have given' : (c ["a", "b"] none true).names readFile = .ok ["a", "b"] := rfl
  have same : ∀ name, name ∈ ["a", "b"] ↔ name ∈ ["b", "a", "b"] := by
    intro name
    simp only [List.mem_cons, List.not_mem_nil, or_false]
    tauto
  have equal := (only_names_matter fromOptions fromFile none rfl rfl given listed).1 same
  obtain ⟨failures, failures', reports, reports', subset, _⟩ :=
    (only_names_matter fewer more none rfl rfl loads.names given').2 _ d loads rfl (by simp)
  exact ⟨equal, failures, failures', reports, reports', subset⟩

end Check
end LexicalGrammar
