import LexicalGrammar.Proofs.Check
import LexicalGrammar.Proofs.JsonText
import Mathlib.Algebra.Order.BigOperators.Group.List
import Mathlib.Algebra.Order.Group.Nat

/-
The two forms in which a check is written say the same: the lines of the text can be told from what
is read in the JSON form.
-/
namespace LexicalGrammar.Check
open Json (Readable)

/-- A JSON value that tells of a grammar, of its states with their counts, and of failures. -/
structure Shows (value : Json) (grammar : Option String) (states : List (String × Nat))
    (failures : List FailedRule) : Prop where
  grammar : value.field? "grammar" = some (grammar.elim .null .text)
  states : ∃ items, value.field? "states" = some (.list items) ∧
    List.Forall₂ (fun item e => item.field? "name" = some (.text e.1) ∧
      item.field? "rules" = some (.nat e.2)) items states
  failures : ∃ items, value.field? "failures" = some (.list items) ∧
    List.Forall₂ (fun item f => item.field? "index" = some (.nat f.index) ∧
      item.field? "rule" = some (.text f.rule) ∧
      item.field? "error" = some (.text f.error)) items failures

def grammarText (name : String) : String :=
  "grammar " ++ name ++ "\n"

def stateText (e : String × Nat) : String :=
  "  " ++ e.1 ++ ": " ++ toString e.2 ++ " rule(s)\n"

def failureText (f : FailedRule) : String :=
  "error: rule #" ++ toString f.index ++ " (" ++ f.rule ++ "): " ++ f.error ++ "\n"

def linesOf (grammar : Option String) (states : List (String × Nat))
    (failures : List FailedRule) : List String :=
  grammar.elim [] (fun name => grammarText name :: states.map stateText) ++
    failures.map failureText

theorem toText_eq (s : Summary) :
    s.toText = String.join (linesOf s.grammar s.states s.failures) := by
  have state : (fun e : String × Nat => s!"  {e.1}: {e.2} rule(s)\n") = stateText := rfl
  have failure : Summary.failureLine = failureText := rfl
  rw [Summary.toText, Summary.grammarLines, linesOf, state, failure]
  cases s.grammar with
  | none => rfl
  | some name => rfl

theorem forall₂_map {α β : Type} {R : β → α → Prop} {f : α → β} (holds : ∀ a, R (f a) a)
    (parts : List α) : List.Forall₂ R (parts.map f) parts := by
  rw [List.forall₂_map_left_iff, List.forall₂_same]
  exact fun a _ => holds a

theorem shows_toJson (s : Summary) : Shows s.toJson s.grammar s.states s.failures where
  grammar := by
    obtain ⟨grammar, states, failures⟩ := s
    cases grammar <;> rfl
  states := ⟨_, rfl, forall₂_map (fun _ => ⟨rfl, rfl⟩) s.states⟩
  failures := ⟨_, rfl, forall₂_map (fun _ => ⟨rfl, rfl, rfl⟩) s.failures⟩

section
variable {depth : Nat}

theorem readable_text (name : String) : Readable depth (.text name) :=
  .leaf trivial

theorem readable_nat {n : Nat} (fits : Word.fits n = true) : Readable depth (.nat n) := by
  have bound : n < Word.count := of_decide_eq_true fits
  refine .leaf ⟨?_, Int.ofNat_lt.2 bound⟩
  omega

/- Three lists and objects stand in each other. -/
theorem readable_toJson {s : Summary} (counts : ∀ e ∈ s.states, Word.fits e.2 = true)
    (indices : ∀ f ∈ s.failures, Word.fits f.index = true) :
    Readable (depth + 3) s.toJson := by
  have states : ∀ e ∈ s.states,
      Readable (depth + 1) (.object [("name", .text e.1), ("rules", .nat e.2)]) := by
    intro e member
    refine .object ?_
    simp only [List.forall_mem_cons]
    exact ⟨readable_text e.1, readable_nat (counts e member), by simp⟩
  have failures : ∀ f ∈ s.failures, Readable (depth + 1)
      (.object [("index", .nat f.index), ("rule", .text f.rule), ("error", .text f.error)]) := by
    intro f member
    refine .object ?_
    simp only [List.forall_mem_cons]
    exact ⟨readable_nat (indices f member), readable_text f.rule, readable_text f.error, by simp⟩
  refine .object ?_
  simp only [List.forall_mem_cons]
  refine ⟨?_, .list ?_, .list ?_, by simp⟩
  · cases s.grammar with
    | some name => exact readable_text name
    | none => exact .leaf trivial
  · simpa only [List.forall_mem_map] using states
  · simpa only [List.forall_mem_map] using failures

end

section
variable {s : Summary} {policy : FailurePolicy} {d : Definition} {failed : List FailedRule}

theorem tells_cases (tells : s.Tells policy d failed) :
    s.Complete d failed ∧ (failed = [] ∨ policy = .collect) ∨
      ∃ first others, failed = first :: others ∧ policy = .abort ∧ s = ⟨none, [], [first]⟩ := by
  cases policy with
  | collect => exact Or.inl ⟨tells.complete (Or.inr rfl), Or.inr rfl⟩
  | abort =>
    cases failed with
    | nil => exact Or.inl ⟨tells.complete (Or.inl rfl), Or.inl rfl⟩
    | cons first others => exact Or.inr ⟨first, others, rfl, rfl, tells.stopped _ _ rfl rfl⟩

theorem states_le_of_tells (tells : s.Tells policy d failed) :
    ∀ e ∈ s.states, e.2 ≤ d.rules.length := by
  rcases tells_cases tells with ⟨complete, _⟩ | ⟨first, others, _, _, rfl⟩
  · intro e member
    have within := List.le_sum_of_mem (List.mem_map_of_mem (f := (·.2)) member)
    have total := complete.total
    omega
  · simp

theorem failures_of_tells (tells : s.Tells policy d failed) : ∀ f ∈ s.failures, f ∈ failed := by
  rcases tells_cases tells with ⟨complete, _⟩ | ⟨first, others, rfl, _, rfl⟩
  · intro f member
    rwa [complete.failures] at member
  · simp

/- There is no grammar if and only if a failure stopped the pass. -/
theorem grammar_none_iff (tells : s.Tells policy d failed) :
    s.grammar = none ↔ failed ≠ [] ∧ policy = .abort := by
  rcases tells_cases tells with ⟨complete, none | collects⟩ | ⟨first, others, rfl, rfl, rfl⟩
  · simp [complete.grammar, none]
  · simp [complete.grammar, collects]
  · simp

theorem alone_of_grammar_none (tells : s.Tells policy d failed) (absent : s.grammar = none) :
    s.states = [] ∧ s.failures.length = 1 := by
  rcases tells_cases tells with ⟨complete, _⟩ | ⟨first, others, _, _, rfl⟩
  · rw [complete.grammar] at absent
    cases absent
  · exact ⟨rfl, rfl⟩

end

section
variable [Pattern.Dialect]

theorem index_lt_of_failedAlone (r : Resolver) {d : Definition} {f : FailedRule} (fails : f ∈ failedAlone r d) :
    f.index < d.rules.length := by
  obtain ⟨e, member, alone⟩ := List.mem_filterMap.1 fails
  rw [index_of_failedAlone? r d alone]
  exact List.snd_lt_of_mem_zipIdx member

/- Two command lines ask for one check, written as a text and as JSON. The number of rules is that of
   a list in memory, so it has 64 bits. -/
theorem formats_agree {arguments arguments' : List String} {c : Check}
    (textAsked : Command.Request.parse arguments = .ok (.check c .text))
    (jsonAsked : Command.Request.parse arguments' = .ok (.check c .json))
    (readFile : String → Except ReadFailure String) (logFilter : Option String) {config : Config}
    {names : List String} {d : Definition} (loads : c.Loads readFile config names d)
    (fits : Word.fits d.rules.length = true) :
    let text := Command.respond readFile logFilter arguments
    let json := Command.respond readFile logFilter arguments'
    json.status = text.status ∧
      ∃ value grammar states failures, Json.parse? json.output = some value ∧
        Shows value grammar states failures ∧
        text.output = String.join (linesOf grammar states failures) ∧
        (grammar = none ↔
          failedAlone (resolver config names) d ≠ [] ∧ config.onFailure = .abort) ∧
        (grammar = none → states = [] ∧ failures.length = 1) := by
  intro text json
  let s := (outcome config names d).summary
  have tells : s.Tells config.onFailure d (failedAlone (resolver config names) d) :=
    tells_outcome config names d
  have answer : text = .ofCheck .text (.ofText logFilter) (.ok (outcome config names d)) := by
    simp only [text, Command.respond, textAsked, run_of_loads loads]
  have answer' : json = .ofCheck .json (.ofText logFilter) (.ok (outcome config names d)) := by
    simp only [json, Command.respond, jsonAsked, run_of_loads loads]
  have counts : ∀ e ∈ s.states, Word.fits e.2 = true := fun e member =>
    decide_eq_true ((states_le_of_tells tells e member).trans_lt (of_decide_eq_true fits))
  have indices : ∀ f ∈ s.failures, Word.fits f.index = true := fun f member =>
    decide_eq_true ((index_lt_of_failedAlone _ (failures_of_tells tells f member)).trans
      (of_decide_eq_true fits))
  have read : Json.parse? json.output = some s.toJson := by
    rw [answer']
    exact Json.parse_pretty (readable_toJson counts indices)
  have written : text.output = String.join (linesOf s.grammar s.states s.failures) := by
    rw [answer]
    exact toText_eq s
  refine ⟨?_, s.toJson, s.grammar, s.states, s.failures, read, shows_toJson s, written,
    grammar_none_iff tells, alone_of_grammar_none tells⟩
  rw [answer, answer']
  rfl

end

theorem ofPath_json : Definition.Format.ofPath? "g.json" = some .json := by
  have parts : Path.parts "g.json" = ["g.json"] := by
    rw [Path.parts, String.splitOn, if_neg (by decide)]
    iterate 6 rw [String.splitOnAux, if_neg (by decide), if_neg (by decide)]
    rw [String.splitOnAux, if_pos (by decide)]
    decide +kernel
  rw [Definition.Format.ofPath?, Path.extension?, Path.fileName?, parts]
  decide +kernel

/- The only rule is for a state that is not declared, with a name that has to be escaped. -/
theorem formats_agree_undeclared :
    let source := "\x7b\"name\": \"g\", \"states\": [], \"rules\": [" ++
      "\x7b\"state\": \"\\\"\\n\", \"pattern\": \"x\", \"categories\": [\"a\"]\x7d]\x7d"
    let readFile (path : String) : Except ReadFailure String :=
      if path = "lexgram.toml" then .ok "" else if path = "g.json" then .ok source
      else .error .notFound
    let text := Command.respond readFile none ["check", "g.json"]
    let json := Command.respond readFile none ["check", "g.json", "--format=json"]
    json.status = text.status ∧
      ∃ value failure, Json.parse? json.output = some value ∧ Shows value none [] [failure] ∧
        text.output = failureText failure := by
  intro source readFile text json
  let d : Definition := ⟨"g", [], [.token ⟨"\"\n", "x", ["a"], by decide, by decide, by decide⟩]⟩
  let c : Check := ⟨"g.json", [], none, none, false⟩
  have asked : Command.Request.parse ["check", "g.json"] = .ok (.check c .text) := by cbv
  have asked' : Command.Request.parse ["check", "g.json", "--format=json"] =
      .ok (.check c .json) := by cbv
  have loads : c.Loads readFile ⟨{}, .abort⟩ [] d := by
    constructor
    case config => exact ok_of_toOption (by decide +kernel)
    case names => rfl
    case definition =>
      have read : (Definition.ofText .json source).toOption = some d := by decide +kernel
      simp only [Definition.load, c, ofPath_json]
      exact ok_of_toOption read
  obtain ⟨status, value, grammar, states, failures, read, shows, output, absent, alone⟩ :=
    formats_agree asked asked' readFile none loads (by decide)
  obtain rfl := absent.2 ⟨by decide +kernel, rfl⟩
  obtain ⟨rfl, single⟩ := alone rfl
  obtain ⟨failure, rfl⟩ := List.length_eq_one_iff.1 single
  exact ⟨status, value, failure, read, shows, output⟩

end LexicalGrammar.Check
