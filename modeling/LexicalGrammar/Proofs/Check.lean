import LexicalGrammar.Command.Response
import LexicalGrammar.Proofs.Queue
import Mathlib.Algebra.Ring.Nat

/-
What a check answers, told by the rules of the definition one by one: each is resolved alone, in a
new grammar with the states that the definition declares.
-/
namespace LexicalGrammar
namespace Check

def goodCount (d : Definition) (failed : List FailedRule) (state : String) : Nat :=
  d.rules.zipIdx.countP fun e => e.1.rule.state = state ∧ e.2 ∉ failed.map (·.index)

structure Loads (c : Check) (readFile : String → Except ReadFailure String) (config : Config)
    (names : List String) (d : Definition) : Prop where
  config : c.settings readFile = .ok config
  names : c.names readFile = .ok names
  definition : Definition.load readFile c.path = .ok d

/-- One of them is not; the first that is missed is told. -/
inductive Misses (c : Check) (readFile : String → Except ReadFailure String) : Fault → Prop where
  | config {cause : Config.Fault} : c.settings readFile = .error cause →
      Misses c readFile (.config cause)
  | categories {config : Config} {cause : ReadFailure} : c.settings readFile = .ok config →
      c.names readFile = .error cause → Misses c readFile (.categories cause)
  | definition {config : Config} {names : List String} {cause : Definition.LoadFault} :
      c.settings readFile = .ok config → c.names readFile = .ok names →
      Definition.load readFile c.path = .error cause → Misses c readFile (.definition cause)

def resolver (config : Config) (names : List String) : Resolver :=
  .ofTable (CategoryTable.ofNames names {}).1 config.options

namespace Summary

structure Complete (s : Summary) (d : Definition) (failed : List FailedRule) : Prop where
  grammar : s.grammar = some d.name
  ascending : (s.states.map (·.1)).Pairwise (· < ·)
  states : ∀ name, name ∈ s.states.map (·.1) ↔ name ∈ d.states
  counts : ∀ e ∈ s.states, e.2 = goodCount d failed e.1
  failures : s.failures = failed
  total : (s.states.map (·.2)).sum + failed.length = d.rules.length

end Summary

/-- What a check tells of a definition, with its failures told rule by rule. -/
structure Summary.Tells (s : Summary) (policy : FailurePolicy) (d : Definition)
    (failed : List FailedRule) : Prop where
  complete : failed = [] ∨ policy = .collect → s.Complete d failed
  stopped : ∀ first others, failed = first :: others → policy = .abort → s = ⟨none, [], [first]⟩

theorem isSuccess_of_tells {s : Summary} {policy : FailurePolicy} {d : Definition}
    {failed : List FailedRule} (tells : s.Tells policy d failed) :
    s.isSuccess = true ↔ failed = [] := by
  rw [Summary.isSuccess, List.isEmpty_iff]
  cases failed with
  | nil => rw [(tells.complete (Or.inl rfl)).failures]
  | cons first others =>
    cases policy with
    | abort => simp [tells.stopped first others rfl rfl]
    | collect => rw [(tells.complete (Or.inr rfl)).failures]

theorem tells_of_complete {s : Summary} {policy : FailurePolicy} {d : Definition}
    {failed : List FailedRule} (complete : s.Complete d failed)
    (goesOn : failed = [] ∨ policy = .collect) : s.Tells policy d failed where
  complete := fun _ => complete
  stopped := by
    intro first others fails stops
    rcases goesOn with none | collects
    · rw [none] at fails
      cases fails
    · rw [collects] at stops
      cases stops

theorem tells_of_first {d : Definition} {failed others : List FailedRule} {first : FailedRule}
    (fails : failed = first :: others) :
    (⟨none, [], [first]⟩ : Summary).Tells .abort d failed where
  complete := by
    rintro (none | collects)
    · rw [fails] at none
      cases none
    · cases collects
  stopped := by
    intro f rest same _
    rw [fails] at same
    obtain ⟨rfl, _⟩ := List.cons.inj same
    rfl

theorem loads_or_misses (c : Check) (readFile : String → Except ReadFailure String) :
    (∃ config names d, c.Loads readFile config names d) ∨ ∃ fault, c.Misses readFile fault := by
  cases settings : c.settings readFile with
  | error cause => exact Or.inr ⟨_, .config settings⟩
  | ok config =>
    cases named : c.names readFile with
    | error cause => exact Or.inr ⟨_, .categories settings named⟩
    | ok names =>
      cases definition : Definition.load readFile c.path with
      | error cause => exact Or.inr ⟨_, .definition settings named definition⟩
      | ok d => exact Or.inl ⟨config, names, d, settings, named, definition⟩

section
variable [Pattern.Dialect]

def failedAlone? (r : Resolver) (d : Definition) (index : Nat) (rule : Descriptor) :
    Option FailedRule :=
  match (r.alone d.name d.states rule).outcome with
  | .error fault => some ⟨index, rule.describe, fault.chain⟩
  | .ok () => none

def failedAlone (r : Resolver) (d : Definition) : List FailedRule :=
  d.rules.zipIdx.filterMap fun e => failedAlone? r d e.2 e.1

section
variable (r : Resolver) (d : Definition)

theorem builder_eq : d.builder =
    ⟨Grammar.withStates d.name d.states, d.rules.map Pending.fresh⟩ :=
  Builder.foldl_push (Builder.ofGrammar (Grammar.withStates d.name d.states)) d.rules

theorem failedAlone?_eq (index : Nat) (rule : Descriptor) : failedAlone? r d index rule =
    ((Pending.fresh rule).failure? r (Grammar.withStates d.name d.states) index).map
      FailedRule.ofFailure := by
  have alone : (r.alone d.name d.states rule).outcome = (r.verdict rule.declaration
      (Grammar.withStates d.name d.states)).map fun _ => () := Resolver.resolve_outcome r _ _
  unfold failedAlone? Pending.failure?
  rw [alone]
  cases judged : r.verdict rule.declaration (Grammar.withStates d.name d.states) with
  | error fault =>
    rw [(Pending.fate_fresh_failed_iff r _ rule fault).2 judged]
    rfl
  | ok made =>
    rw [(Pending.fate_fresh_attached_iff r _ rule made).2 judged]
    rfl

theorem failedAlone_eq : failedAlone r d =
    (failuresFrom r (Grammar.withStates d.name d.states) 0 (d.rules.map Pending.fresh)).map
      FailedRule.ofFailure := by
  unfold failedAlone failuresFrom gather
  rw [List.map_filterMap, List.zipIdx_map, List.filterMap_map]
  refine congrArg (d.rules.zipIdx.filterMap ·) (funext fun e => ?_)
  exact failedAlone?_eq r d e.2 e.1

theorem failedAlone_of_clean
    (clean : Clean r (Grammar.withStates d.name d.states) (d.rules.map Pending.fresh)) :
    failedAlone r d = [] := by
  rw [failedAlone_eq, failuresFrom_clean clean]
  rfl

variable {r d} in
theorem failedAlone_of_first {done rest : List Pending} {p : Pending} {fault : ResolveFault}
    (split : d.rules.map Pending.fresh = done ++ p :: rest)
    (clean : Clean r (Grammar.withStates d.name d.states) done)
    (judged : p.fate r (Grammar.withStates d.name d.states) = .failed fault) :
    ∃ others, failedAlone r d =
      .ofFailure ⟨done.length, p.descriptor.describe, fault⟩ :: others := by
  rw [failedAlone_eq, split, failuresFrom_append, failuresFrom_clean clean, failuresFrom_cons,
    judged]
  exact ⟨_, by simp [Fate.fault?]; rfl⟩

theorem index_of_failedAlone? {index : Nat} {rule : Descriptor} {f : FailedRule}
    (fails : failedAlone? r d index rule = some f) : f.index = index := by
  unfold failedAlone? at fails
  split at fails
  · cases fails
    rfl
  · cases fails

theorem mem_failedAlone_iff {e : Descriptor × Nat} (member : e ∈ d.rules.zipIdx) :
    e.2 ∈ (failedAlone r d).map (·.index) ↔ (failedAlone? r d e.2 e.1).isSome := by
  constructor
  · intro listed
    obtain ⟨f, fails, here⟩ := List.mem_map.1 listed
    obtain ⟨e', member', alone⟩ := List.mem_filterMap.1 fails
    have place : e'.2 = e.2 := (index_of_failedAlone? r d alone).symm.trans here
    have found := List.mem_zipIdx_iff_getElem?.1 member
    have found' := List.mem_zipIdx_iff_getElem?.1 member'
    rw [place] at found' alone
    have same : e.1 = e'.1 := Option.some.inj (found.symm.trans found')
    rw [same, alone]
    rfl
  · intro fails
    obtain ⟨f, alone⟩ := Option.isSome_iff_exists.1 fails
    have listed : f ∈ failedAlone r d := List.mem_filterMap.2 ⟨e, member, alone⟩
    exact List.mem_map.2 ⟨f, listed, index_of_failedAlone? r d alone⟩

theorem countP_added (index : Nat) (rules : List Descriptor) (state : String) :
    (rules.zipIdx index).countP
        (fun e => e.1.rule.state = state ∧ (failedAlone? r d e.2 e.1).isSome = false) =
      (added r (Grammar.withStates d.name d.states) (rules.map Pending.fresh)).countP
        (·.1 = state) := by
  induction rules generalizing index with
  | nil => rfl
  | cons rule rest ih =>
    rw [List.zipIdx_cons, List.countP_cons, ih, List.map_cons, added_cons, List.countP_append,
      failedAlone?_eq]
    cases judged : r.verdict rule.declaration (Grammar.withStates d.name d.states) with
    | error fault =>
      rw [Pending.failure?, (Pending.fate_fresh_failed_iff r _ rule fault).2 judged]
      simp [Fate.fault?, Fate.rule?]
    | ok made =>
      rw [Pending.failure?, (Pending.fate_fresh_attached_iff r _ rule made).2 judged]
      simp [Fate.fault?, Fate.rule?, Pending.fresh, List.countP_cons, Nat.add_comm]

theorem goodCount_eq (state : String) : goodCount d (failedAlone r d) state =
    (added r (Grammar.withStates d.name d.states) (d.rules.map Pending.fresh)).countP
      (·.1 = state) := by
  rw [← countP_added r d 0 d.rules state]
  refine List.countP_congr fun e member => ?_
  simp only [decide_eq_true_eq, mem_failedAlone_iff r d member, Bool.not_eq_true]

/- No rule of a definition is resolved before the pass, so none is skipped. -/
theorem added_and_failed :
    (added r (Grammar.withStates d.name d.states) (d.rules.map Pending.fresh)).length +
      (failedAlone r d).length = d.rules.length := by
  have waiting : (d.rules.map Pending.fresh).countP (·.status = .resolved) = 0 := by
    rw [List.countP_eq_zero]
    intro p member
    obtain ⟨rule, _, rfl⟩ := List.mem_map.1 member
    simp [Pending.fresh]
  have counted := length_eq_fates r (Grammar.withStates d.name d.states) 0
    (d.rules.map Pending.fresh)
  rw [failedAlone_eq, List.length_map]
  simp only [List.length_map] at counted
  omega

theorem complete_ofPass {p : Pass} {entries : List Pending}
    (outcome : p.outcome = .ok (Report.after {} r (Grammar.withStates d.name d.states) 0
      (d.rules.map Pending.fresh)))
    (builder : p.builder = ⟨(Grammar.withStates d.name d.states).attachAll
      (added r (Grammar.withStates d.name d.states) (d.rules.map Pending.fresh)), entries⟩) :
    (Summary.ofPass p).Complete d (failedAlone r d) := by
  have grammar := congrArg Builder.grammar builder
  have names : p.builder.grammar.stateNames = (Grammar.withStates d.name d.states).stateNames := by
    rw [grammar, Grammar.stateNames_attachAll]
  have states : (Summary.ofPass p).states =
      p.builder.grammar.states.entries.map fun e => (e.1, e.2.size) := by
    rw [Summary.ofPass, outcome]
  have shown : (Summary.ofPass p).states.map (·.1) = p.builder.grammar.stateNames := by
    rw [states, List.map_map]
    rfl
  have failures : (Summary.ofPass p).failures = failedAlone r d := by
    rw [Summary.ofPass, outcome, failedAlone_eq]
    simp [Report.after]
  constructor
  case grammar =>
    rw [Summary.ofPass, outcome, grammar]
    simp only [Grammar.name_attachAll]
    rw [Grammar.withStates, Grammar.name_declareAll]
    rfl
  case ascending =>
    rw [shown]
    exact p.builder.grammar.states.names_ascending
  case states =>
    intro name
    rw [shown, names, ← Grammar.hasState_iff, Grammar.hasState_withStates, decide_eq_true_iff]
  case counts =>
    intro e member
    rw [states] at member
    obtain ⟨⟨name, s⟩, stored, rfl⟩ := List.mem_map.1 member
    have rules : p.builder.grammar.rulesOf name = s.rules := by
      simp [Grammar.rulesOf, NameMap.get?_of_mem stored]
    rw [grammar, Grammar.rulesOf_attachAll added_declared, Grammar.rulesOf_withStates] at rules
    simp [goodCount_eq, State.size, ← rules, List.countP_eq_length_filter]
  case failures => exact failures
  case total =>
    have sum : ((Summary.ofPass p).states.map (·.2)).sum = p.builder.grammar.ruleCount := by
      rw [states, List.map_map, List.sum, Grammar.ruleCount, NameMap.values, List.map_map]
      rfl
    rw [sum, grammar, Grammar.ruleCount_attachAll added_declared, Grammar.ruleCount_withStates,
      Nat.zero_add]
    exact added_and_failed r d

end

/- With no failure the policies do the same; what differs is a pass that the first failure ends. -/
theorem tells_outcome (config : Config) (names : List String) (d : Definition) :
    (outcome config names d).summary.Tells config.onFailure d
      (failedAlone (resolver config names) d) := by
  let r := resolver config names
  let g := Grammar.withStates d.name d.states
  have summary : (outcome config names d).summary =
      .ofPass (d.builder.resolvePending r config.onFailure) := rfl
  have grammar : d.builder.grammar = g := congrArg Builder.grammar (builder_eq d)
  have queue : d.builder.queue = d.rules.map Pending.fresh :=
    congrArg Builder.queue (builder_eq d)
  rw [summary]
  cases policy : config.onFailure with
  | collect =>
    obtain ⟨outcome, after⟩ := Builder.collect_complete d.builder r
    rw [grammar, queue] at outcome after
    exact tells_of_complete (complete_ofPass r d outcome after) (Or.inr rfl)
  | abort =>
    rcases Builder.clean_or_first_failure r d.builder.grammar d.builder.queue with
      clean | ⟨done, p, rest, fault, split, clean, judged⟩
    · have goesOn : FailurePolicy.abort = .abort → Clean r d.builder.grammar d.builder.queue :=
        fun _ => clean
      obtain ⟨outcome, after⟩ := Builder.pass_complete goesOn
      rw [grammar, queue] at outcome after clean
      exact tells_of_complete (complete_ofPass r d outcome after)
        (Or.inl (failedAlone_of_clean r d clean))
    · have stopped := (Builder.pass_stopped split clean judged).1
      rw [grammar] at clean judged
      rw [queue] at split
      obtain ⟨others, fails⟩ := failedAlone_of_first split clean judged
      rw [Summary.ofPass, stopped]
      exact tells_of_first fails

theorem run_of_loads {c : Check} {readFile : String → Except ReadFailure String} {config : Config}
    {names : List String} {d : Definition} (loads : c.Loads readFile config names d) :
    c.run readFile = .ok (outcome config names d) := by
  rw [run, loads.config, loads.names, loads.definition]
  rfl

theorem run_of_misses {c : Check} {readFile : String → Except ReadFailure String} {fault : Fault}
    (misses : c.Misses readFile fault) : c.run readFile = .error fault := by
  cases misses with
  | config settings =>
    rw [run, settings]
    rfl
  | categories settings names =>
    rw [run, settings, names]
    rfl
  | definition settings names definition =>
    rw [run, settings, names, definition]
    rfl

/- A check whose configuration, categories and definition are there writes a summary. Its status is
   zero if every rule resolves alone. The summary tells of all states and all failures, unless the
   first failure had to stop it; then it tells of that failure only. If something is not there, the
   check writes no summary but an error. -/
theorem check_answers {arguments : List String} {c : Check} {format : Format}
    (asked : Command.Request.parse arguments = .ok (.check c format))
    (readFile : String → Except ReadFailure String) (logFilter : Option String) :
    let response := Command.respond readFile logFilter arguments
    (∀ config names d, c.Loads readFile config names d →
      let failed := failedAlone (resolver config names) d
      response.status = (if failed = [] then 0 else 1) ∧
      ∃ summary : Summary, response.output = summary.render format ∧
        summary.Tells config.onFailure d failed) ∧
    (∀ fault, c.Misses readFile fault → response.status = 1 ∧ response.output = "" ∧
      ∃ cause : String, response.log = s!"Error: {cause}\n") ∧
    ((∃ config names d, c.Loads readFile config names d) ∨ ∃ fault, c.Misses readFile fault) := by
  intro response
  have answer : response = .ofCheck format (.ofText logFilter) (c.run readFile) := by
    simp only [response, Command.respond, asked]
  refine ⟨?_, ?_, loads_or_misses c readFile⟩
  · intro config names d loads failed
    have tells : (outcome config names d).summary.Tells config.onFailure d failed :=
      tells_outcome config names d
    rw [answer, run_of_loads loads]
    refine ⟨?_, _, rfl, tells⟩
    simp only [Command.Response.ofCheck, isSuccess_of_tells tells]
  · intro fault misses
    rw [answer, run_of_misses misses]
    exact ⟨rfl, rfl, fault.message, rfl⟩

end

theorem ok_of_toOption {ε α : Type} {x : Except ε α} {a : α} (some_a : x.toOption = some a) :
    x = .ok a := by
  cases x with
  | error fault => cases some_a
  | ok b => exact congrArg Except.ok (Option.some.inj some_a)

/- The first of two rules is for a state that is not declared. -/
theorem check_answers_undeclared :
    let source := "\x7b\"name\": \"g\", \"states\": [\"s\"], \"rules\": [" ++
      "\x7b\"state\": \"t\", \"pattern\": \"x\", \"categories\": [\"a\"]\x7d, " ++
      "\x7b\"state\": \"s\", \"pattern\": \"x\", \"categories\": [\"a\"]\x7d]\x7d"
    let readFile (path : String) : Except ReadFailure String :=
      if path = "lexgram.toml" then .ok "" else if path = "g.json" then .ok source
      else .error .notFound
    let arguments := ["check", "g.json", "-c", "a", "--collect"]
    let rule (state : String) (named : state ≠ "") : Descriptor :=
      .token ⟨state, "x", ["a"], named, by decide, by decide⟩
    let d : Definition := ⟨"g", ["s"], [rule "t" (by decide), rule "s" (by decide)]⟩
    let c : Check := ⟨"g.json", ["a"], none, none, true⟩
    Command.Request.parse arguments = .ok (.check c .text) ∧
      c.Loads readFile ⟨{}, .collect⟩ ["a"] d ∧
      (Command.respond readFile none arguments).status = 1 ∧
      ∃ summary : Summary,
        (Command.respond readFile none arguments).output = summary.render .text ∧
        summary.Complete d [⟨0, "t: /x/ -> [a]", "state not found: t"⟩] := by
  intro source readFile arguments rule d c
  have asked : Command.Request.parse arguments = .ok (.check c .text) := by cbv
  have format : Definition.Format.ofPath? "g.json" = some .json := by
    have parts : Path.parts "g.json" = ["g.json"] := by
      rw [Path.parts, String.splitOn, if_neg (by decide)]
      iterate 6 rw [String.splitOnAux, if_neg (by decide), if_neg (by decide)]
      rw [String.splitOnAux, if_pos (by decide)]
      decide +kernel
    rw [Definition.Format.ofPath?, Path.extension?, Path.fileName?, parts]
    decide +kernel
  have loads : c.Loads readFile ⟨{}, .collect⟩ ["a"] d := by
    constructor
    case config => exact ok_of_toOption (by decide +kernel)
    case names => rfl
    case definition =>
      have read : (Definition.ofText .json source).toOption = some d := by decide +kernel
      simp only [Definition.load, c, format]
      exact ok_of_toOption read
  obtain ⟨answers, _⟩ := check_answers asked readFile none
  obtain ⟨status, summary, output, tells⟩ := answers _ _ d loads
  have failed : failedAlone (resolver ⟨{}, .collect⟩ ["a"]) d =
      [⟨0, "t: /x/ -> [a]", "state not found: t"⟩] := by decide +kernel
  rw [failed] at status tells
  exact ⟨asked, loads, status, summary, output, tells.complete (Or.inr rfl)⟩

end Check
end LexicalGrammar
