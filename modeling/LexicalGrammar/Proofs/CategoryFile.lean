import LexicalGrammar.Check.Outcome
import LexicalGrammar.Proofs.CharSet
import Mathlib.Data.List.DropRight

/-
Files that list categories, told by how they are written: each line holds a name with white space
on both sides, or nothing but white space, or a comment. Every text is such a file, and the names
that are read from it are those that were written.
-/
namespace LexicalGrammar.CategoryFile

def whiteSpace : List (Nat × Nat) :=
  [(9, 13), (32, 32), (0x85, 0x85), (0xa0, 0xa0), (0x1680, 0x1680), (0x2000, 0x200a),
    (0x2028, 0x2029), (0x202f, 0x202f), (0x205f, 0x205f), (0x3000, 0x3000)]

def White (c : Char) : Prop :=
  ∃ r ∈ whiteSpace, r.1 ≤ c.toNat ∧ c.toNat ≤ r.2

def Padding (chars : List Char) : Prop :=
  ∀ c ∈ chars, White c ∧ c ≠ '\n'

structure Proper (name : List Char) : Prop where
  nonempty : name ≠ []
  unbroken : '\n' ∉ name
  first : ∀ c, name.head? = some c → ¬ White c ∧ c ≠ '#'
  last : ∀ c, name.getLast? = some c → ¬ White c

/-- A line without its end, and the name that it holds. -/
inductive Line : List Char → Option String → Prop where
  | name {before name behind : List Char} : Padding before → Proper name → Padding behind →
      Line (before ++ name ++ behind) (some (String.ofList name))
  | blank {space : List Char} : Padding space → Line space none
  | comment {before text : List Char} : Padding before → '\n' ∉ text →
      Line (before ++ '#' :: text) none

/-- Lines end with a line feed, in front of which a carriage return may stand. The end of the file
ends the last one. -/
inductive Writes : List Char → List String → Prop where
  | last {line : List Char} {told : Option String} : Line line told → Writes line told.toList
  | line {line ending rest : List Char} {told : Option String} {names : List String} :
      Line line told → ending = ['\n'] ∨ ending = ['\r', '\n'] → Writes rest names →
      Writes (line ++ ending ++ rest) (told.toList ++ names)

theorem isSpace_iff (c : Char) : isSpace c = true ↔ White c := by
  have ranges : Unicode.spaceChars.ranges.toList = whiteSpace := by decide +kernel
  have apart : Unicode.CharSet.Apart Unicode.spaceChars.ranges.toList := by
    rw [ranges]
    constructor
    · decide
    · decide
  unfold isSpace
  rw [Unicode.CharSet.contains_iff_holds apart, ranges]
  rfl

theorem white_return : White '\r' := ⟨(9, 13), by decide, by decide, by decide⟩

theorem not_white_hash : ¬ White '#' := by
  rintro ⟨r, member, low, high⟩
  revert r
  decide

theorem padding_append {before behind : List Char} (first : Padding before)
    (second : Padding behind) : Padding (before ++ behind) := by
  intro c member
  rcases List.mem_append.1 member with earlier | later
  · exact first c earlier
  · exact second c later

theorem padding_return : Padding ['\r'] := by
  intro c member
  obtain rfl := List.mem_singleton.1 member
  exact ⟨white_return, by decide⟩

theorem trim_front {before : List Char} (padding : Padding before) {c : Char}
    (other : ¬ White c) (rest : List Char) :
    trim (before ++ c :: rest) = (c :: rest).rdropWhile isSpace := by
  have spaces : ∀ d ∈ before, isSpace d = true := fun d member =>
    (isSpace_iff d).2 (padding d member).1
  have stops : isSpace c ≠ true := fun space => other ((isSpace_iff c).1 space)
  unfold trim
  rw [List.dropWhile_append_of_pos spaces, List.dropWhile_cons_of_neg stops]
  rfl

theorem trim_padding {space : List Char} (padding : Padding space) : trim space = [] := by
  have all : space.dropWhile isSpace = [] :=
    List.dropWhile_eq_nil_iff.2 fun c member => (isSpace_iff c).2 (padding c member).1
  unfold trim
  rw [all]
  rfl

/- Trimming takes away padding, and nothing of a name. -/
theorem trim_name {before name behind : List Char} (padding : Padding before)
    (proper : Proper name) (padding' : Padding behind) :
    trim (before ++ name ++ behind) = name := by
  have spaces : ∀ c ∈ behind.reverse, isSpace c = true := fun c member =>
    (isSpace_iff c).2 (padding' c (List.mem_reverse.1 member)).1
  cases name with
  | nil => exact absurd rfl proper.nonempty
  | cons c rest =>
    have whole : (c :: rest).rdropWhile isSpace = c :: rest := by
      refine List.rdropWhile_eq_self_iff.2 fun _ space => ?_
      exact proper.last _ (List.getLast?_eq_some_getLast _) ((isSpace_iff _).1 space)
    rw [List.append_assoc, List.cons_append, trim_front padding (proper.first c rfl).1,
      ← List.cons_append, List.rdropWhile, List.reverse_append,
      List.dropWhile_append_of_pos spaces]
    exact whole

/- What is left of a comment begins with its mark. -/
theorem trim_comment {before : List Char} (padding : Padding before) (text : List Char) :
    ∃ rest, trim (before ++ '#' :: text) = '#' :: rest := by
  rw [trim_front padding not_white_hash]
  cases left : ('#' :: text).rdropWhile isSpace with
  | nil =>
    have space := List.rdropWhile_eq_nil_iff.1 left '#' List.mem_cons_self
    exact absurd ((isSpace_iff '#').1 space) not_white_hash
  | cons c rest =>
    have front := List.rdropWhile_prefix isSpace ('#' :: text)
    rw [left] at front
    obtain ⟨rfl, _⟩ := List.cons_prefix_cons.1 front
    exact ⟨rest, rfl⟩

theorem head_trim {line : List Char} {c : Char} (head : (trim line).head? = some c) :
    ¬ White c := by
  have start : (line.dropWhile isSpace).head? = some c := by
    obtain ⟨cut, whole⟩ := List.rdropWhile_prefix isSpace (line.dropWhile isSpace)
    rw [← whole, List.head?_append]
    exact Option.or_eq_some_iff.2 (Or.inl head)
  have other := List.head?_dropWhile_not isSpace line
  rw [start] at other
  intro white
  simp [(isSpace_iff c).2 white] at other

theorem last_trim {line : List Char} {c : Char} (final : (trim line).getLast? = some c) :
    ¬ White c := by
  have nonempty : trim line ≠ [] := by
    intro none
    rw [none] at final
    cases final
  have other := List.rdropWhile_last_not isSpace (line.dropWhile isSpace) nonempty
  rw [List.getLast?_eq_some_getLast nonempty] at final
  obtain rfl := Option.some.inj final
  exact fun white => other ((isSpace_iff _).2 white)

theorem trim_split {line : List Char} (unbroken : '\n' ∉ line) :
    ∃ before behind, line = before ++ trim line ++ behind ∧ Padding before ∧ Padding behind := by
  have front : line.takeWhile isSpace ++ line.dropWhile isSpace = line :=
    List.takeWhile_append_dropWhile
  have back : trim line ++ (line.dropWhile isSpace).rtakeWhile isSpace = line.dropWhile isSpace :=
    List.rdropWhile_append_rtakeWhile
  have padding : ∀ chars, (∀ c ∈ chars, isSpace c = true) → chars ⊆ line → Padding chars := by
    intro chars spaces inside c member
    refine ⟨(isSpace_iff c).1 (spaces c member), ?_⟩
    rintro rfl
    exact unbroken (inside member)
  refine ⟨line.takeWhile isSpace, (line.dropWhile isSpace).rtakeWhile isSpace, ?_, ?_, ?_⟩
  · rw [List.append_assoc, back, front]
  · exact padding _ (fun c => List.mem_takeWhile_imp) (List.takeWhile_prefix isSpace).subset
  · refine padding _ (fun c => List.mem_rtakeWhile_imp) ?_
    exact List.Subset.trans (List.rtakeWhile_suffix isSpace _).subset
      (List.dropWhile_suffix isSpace).subset

theorem name?_of_line {line : List Char} {told : Option String} (written : Line line told) :
    name? line = told := by
  unfold name?
  cases written with
  | @name before name behind padding proper padding' =>
    rw [trim_name padding proper padding']
    cases name with
    | nil => exact absurd rfl proper.nonempty
    | cons c rest =>
      have other : c ≠ '#' := (proper.first c rfl).2
      split
      · next none => cases none
      · next comment => exact absurd (List.cons.inj comment).1 other
      · rfl
  | blank padding => rw [trim_padding padding]
  | @comment before text padding unbroken =>
    obtain ⟨rest, trimmed⟩ := trim_comment padding text
    rw [trimmed]
    rfl

/- What is left of a line after trimming is nothing, a comment or a name. -/
theorem line_name? {line : List Char} (unbroken : '\n' ∉ line) : Line line (name? line) := by
  obtain ⟨before, behind, split, padding, padding'⟩ := trim_split unbroken
  have inside : '\n' ∉ trim line := by
    intro member
    apply unbroken
    rw [split]
    exact List.mem_append_left behind (List.mem_append_right before member)
  have first : ∀ c, (trim line).head? = some c → ¬ White c := fun _ => head_trim
  have last : ∀ c, (trim line).getLast? = some c → ¬ White c := fun _ => last_trim
  unfold name?
  generalize trim line = inner at split inside first last
  rw [split]
  split
  · rw [List.append_nil]
    exact .blank (padding_append padding padding')
  · next text =>
    rw [List.append_assoc, List.cons_append]
    refine .comment padding fun member => ?_
    rcases List.mem_append.1 member with here | space
    · exact inside (List.mem_cons_of_mem _ here)
    · exact (padding' _ space).2 rfl
  · next nonempty unmarked =>
    refine .name padding ⟨nonempty, inside, ?_, last⟩ padding'
    intro c head
    refine ⟨first c head, ?_⟩
    rintro rfl
    obtain ⟨rest, here⟩ := List.head?_eq_some_iff.1 head
    exact unmarked rest here

theorem lines_of_line {line : List Char} (unbroken : '\n' ∉ line) : lines line = [line] := by
  induction line with
  | nil => rfl
  | cons c rest ih =>
    have other : c ≠ '\n' := fun same => unbroken (same ▸ List.mem_cons_self)
    have behind : '\n' ∉ rest := fun member => unbroken (List.mem_cons_of_mem c member)
    simp [lines, other, ih behind]

theorem lines_append {line : List Char} (unbroken : '\n' ∉ line) (rest : List Char) :
    lines (line ++ '\n' :: rest) = line :: lines rest := by
  induction line with
  | nil => simp [lines]
  | cons c tail ih =>
    have other : c ≠ '\n' := fun same => unbroken (same ▸ List.mem_cons_self)
    have behind : '\n' ∉ tail := fun member => unbroken (List.mem_cons_of_mem c member)
    simp [lines, other, ih behind]

theorem unbroken_of_line {line : List Char} {told : Option String} (written : Line line told) :
    '\n' ∉ line := by
  have padded : ∀ {chars}, Padding chars → '\n' ∉ chars := fun padding member =>
    (padding _ member).2 rfl
  cases written with
  | name padding proper padding' =>
    simp [padded padding, proper.unbroken, padded padding']
  | blank padding => exact padded padding
  | comment padding unbroken => simp [padded padding, unbroken]

/- A carriage return in front of the line feed is white space at the end of the line. -/
theorem line_return {line : List Char} {told : Option String} (written : Line line told) :
    Line (line ++ ['\r']) told := by
  cases written with
  | name padding proper padding' =>
    rw [List.append_assoc]
    exact .name padding proper (padding_append padding' padding_return)
  | blank padding => exact .blank (padding_append padding padding_return)
  | comment padding unbroken =>
    rw [List.append_assoc, List.cons_append]
    exact .comment padding (by simp [unbroken])

theorem names_cons (line : List Char) (rest : List (List Char)) :
    (line :: rest).filterMap name? = (name? line).toList ++ rest.filterMap name? := by
  rw [List.filterMap_cons]
  cases name? line <;> rfl

theorem names_of_writes {chars : List Char} {names : List String} (written : Writes chars names) :
    (lines chars).filterMap name? = names := by
  induction written with
  | @last line told here =>
    rw [lines_of_line (unbroken_of_line here), names_cons, name?_of_line here]
    exact List.append_nil told.toList
  | @line line ending rest told names here ends _ ih =>
    obtain ⟨line', here', split⟩ : ∃ line', Line line' told ∧
        line ++ ending ++ rest = line' ++ '\n' :: rest := by
      rcases ends with rfl | rfl
      · exact ⟨line, here, by simp⟩
      · exact ⟨line ++ ['\r'], line_return here, by simp⟩
    rw [split, lines_append (unbroken_of_line here'), names_cons, name?_of_line here', ih]

/- Induction on the length: the text has one line, or a first line and a shorter rest. -/
theorem writes_names (chars : List Char) : Writes chars ((lines chars).filterMap name?) := by
  induction size : chars.length using Nat.strong_induction_on generalizing chars with
  | _ n ih =>
    by_cases broken : '\n' ∈ chars
    · obtain ⟨line, rest, rfl, unbroken⟩ := List.eq_append_cons_of_mem broken
      have shorter : rest.length < n := by
        rw [← size, List.length_append, List.length_cons]
        omega
      have here := Writes.line (line_name? unbroken) (Or.inl rfl) (ih _ shorter rest rfl)
      rw [lines_append unbroken, names_cons]
      simpa using here
    · rw [lines_of_line broken, names_cons, List.filterMap_nil, List.append_nil]
      exact .last (line_name? broken)

theorem proper_of_line {line : List Char} {told : Option String} (written : Line line told) :
    ∀ name ∈ told.toList, Proper name.toList := by
  cases written with
  | @name before inner behind _ proper _ =>
    intro name member
    obtain rfl := List.mem_singleton.1 member
    rw [String.toList_ofList]
    exact proper
  | blank _ => simp
  | comment _ _ => simp

theorem proper_of_writes {chars : List Char} {names : List String}
    (written : Writes chars names) : ∀ name ∈ names, Proper name.toList := by
  induction written with
  | last here => exact proper_of_line here
  | line here _ _ ih =>
    intro name member
    rcases List.mem_append.1 member with first | later
    · exact proper_of_line here name first
    · exact ih name later

/- Every text is a file of categories. The names that a check reads from it are those that its lines
   hold, each line one or none, in the order of the lines; each of them can stand on a line. -/
theorem names_round_trip (text : String) :
    (∀ names, Writes text.toList names ↔ CategoryFile.names text = names) ∧
    (∀ name ∈ CategoryFile.names text, Proper name.toList) ∧
    ∀ (c : Check) (path : String) (readFile : String → Except ReadFailure String),
      c.categoryFile = some path → readFile path = .ok text →
      c.names readFile = .ok (c.categories ++ CategoryFile.names text) := by
  have written : Writes text.toList (CategoryFile.names text) := writes_names text.toList
  refine ⟨fun names => ⟨names_of_writes, ?_⟩, proper_of_writes written, ?_⟩
  · rintro rfl
    exact written
  · intro c path readFile given found
    simp only [Check.names, given, found]
    rfl

/- White space of several kinds, both ends of lines, and a comment that is indented. -/
theorem names_round_trip_spaces :
    let text := "\u3000a b\r\n\t# c\r\n\r\n#\n\u00a0d \r"
    let readFile (path : String) : Except ReadFailure String :=
      if path = "names" then .ok text else .error .notFound
    let c : Check := ⟨"g.json", ["e"], some "names", none, false⟩
    Writes text.toList ["a b", "d"] ∧ Proper "d".toList ∧
      c.names readFile = .ok ["e", "a b", "d"] := by
  intro text readFile c
  have names : CategoryFile.names text = ["a b", "d"] := by decide +kernel
  obtain ⟨round, proper, read⟩ := names_round_trip text
  refine ⟨(round _).2 names, proper "d" (by rw [names]; simp), ?_⟩
  rw [read c "names" readFile rfl rfl, names]
  rfl

end LexicalGrammar.CategoryFile
