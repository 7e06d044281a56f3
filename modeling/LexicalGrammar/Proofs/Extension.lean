import LexicalGrammar.Definition.Load
import Mathlib.Data.List.TakeWhile
import Mathlib.Data.String.Basic

/-
Extensions of paths. The last name of a path stands behind its last slash, once slashes and single
dots at the end are left off; its extension stands behind its last dot. By the extension alone a
definition is read in one format or the other, or not at all.
-/
namespace LexicalGrammar
namespace Path

section
open String

/- Induction on what is left of the text. Behind `front`, which ends with a slash, `part` was
   read. -/
theorem splitOnAux_slash (front part rest : List Char) (found : List String) :
    splitOnAux (ofList (front ++ part ++ rest)) "/" ⟨utf8Len front⟩
      ⟨utf8Len front + utf8Len part⟩ 0 found =
      found.reverse ++ (List.splitOnPPrepend (· == '/') rest part.reverse).map ofList := by
  have start : (0 : Pos.Raw).get "/" = '/' := by decide
  have stop : ((0 : Pos.Raw).next "/").atEnd "/" = true := by decide
  have width : (0 : Pos.Raw).next "/" = ⟨1⟩ := by decide
  induction rest generalizing front part found with
  | nil =>
    have ended : (⟨utf8Len front + utf8Len part⟩ : Pos.Raw).atEnd
        (ofList (front ++ part ++ [])) = true := by
      simp [-ofList_append]
    rw [splitOnAux, if_pos ended, extract_of_valid front part []]
    simp
  | cons c rest ih =>
    have inside : ¬ (⟨utf8Len front + utf8Len part⟩ : Pos.Raw).atEnd
        (ofList (front ++ part ++ c :: rest)) = true := by
      have size := c.utf8Size_pos
      simp [-ofList_append]
      omega
    have here := get_of_valid (front ++ part) (c :: rest)
    have next := next_of_valid (front ++ part) c rest
    have same : (⟨utf8Len front + utf8Len part⟩ : Pos.Raw).unoffsetBy 0 =
      ⟨utf8Len front + utf8Len part⟩ := rfl
    rw [utf8Len_append] at here next
    rw [splitOnAux, if_neg inside, here, start, next, same, next, List.headD_cons]
    by_cases slash : c = '/'
    · subst slash
      have before : (⟨utf8Len front + utf8Len part + '/'.utf8Size⟩ : Pos.Raw).unoffsetBy ⟨1⟩ =
        ⟨utf8Len front + utf8Len part⟩ := rfl
      have behind := ih (front ++ part ++ ['/']) [] (ofList part :: found)
      simp only [beq_self_eq_true, ↓reduceIte, stop]
      rw [width, before, extract_of_valid front part ('/' :: rest),
        List.splitOnPPrepend_cons_pos rfl]
      simpa [-ofList_append, utf8Len_append, Nat.add_assoc] using behind
    · rw [if_neg (by simpa using slash), List.splitOnPPrepend_cons_neg (by simpa using slash)]
      simpa [-ofList_append, utf8Len_append, Nat.add_assoc] using ih front (part ++ [c]) found

end

theorem parts_eq (path : String) : parts path = (path.toList.splitOn '/').map String.ofList := by
  have cut := splitOnAux_slash [] [] path.toList []
  rw [parts, String.splitOn, if_neg (by decide)]
  simpa using! cut

/-- What does not count at the end of a path: slashes, and single dots behind them. -/
inductive Trailing : List Char → Prop where
  | nothing : Trailing []
  | slash {rest : List Char} : Trailing rest → Trailing ('/' :: rest)
  | dot {rest : List Char} : Trailing rest → Trailing ('/' :: '.' :: rest)

/-- The last name of a path begins behind a slash, or with the path, and only what does not count
stands behind it. A single dot is no name. -/
structure LastName (path name : List Char) : Prop where
  place : ∃ front tail, path = front ++ name ++ tail ∧ Trailing tail ∧
    (front = [] ∨ ∃ above, front = above ++ ['/'])
  whole : '/' ∉ name
  nonempty : name ≠ []
  named : name ≠ ['.']

/-- The extension of a path: what follows the last dot of the last name, if something stands in
front of that dot. Two dots have none. -/
def HasExtension (path ext : String) : Prop :=
  ∃ stem, stem ≠ [] ∧ LastName path.toList (stem ++ '.' :: ext.toList) ∧ '.' ∉ ext.toList ∧
    stem ++ '.' :: ext.toList ≠ ['.', '.']

example : HasExtension "main/words.en.YML/./" "YML" :=
  ⟨"words.en".toList, by decide, ⟨⟨"main/".toList, "/./".toList, by decide, .dot (.slash .nothing),
    .inr ⟨"main".toList, by decide⟩⟩, by decide, by decide, by decide⟩, by decide, by decide⟩

def Bare (path : String) : Prop :=
  ∀ name, LastName path.toList name →
    name = ['.', '.'] ∨ '.' ∉ name ∨ ∃ rest, name = '.' :: rest ∧ '.' ∉ rest

theorem trailing_append {front behind : List Char} (first : Trailing front)
    (second : Trailing behind) : Trailing (front ++ behind) := by
  induction first with
  | nothing => exact second
  | slash _ ih => exact .slash ih
  | dot _ ih => exact .dot ih

theorem last_of_mem {c : Char} {l : List Char} (member : c ∈ l) :
    ∃ front behind, l = front ++ c :: behind ∧ c ∉ behind := by
  obtain ⟨behind, front, split, absent⟩ := List.eq_append_cons_of_mem (List.mem_reverse.2 member)
  refine ⟨front.reverse, behind.reverse, ?_, mt List.mem_reverse.1 absent⟩
  simpa using congrArg List.reverse split

def names (path : List Char) : List (List Char) :=
  (path.splitOn '/').filter fun p => p ≠ [] ∧ p ≠ ['.']

theorem names_slash (front behind : List Char) :
    names (front ++ '/' :: behind) = names front ++ names behind := by
  rw [names, List.splitOn_append_cons_self, List.filter_append]
  rfl

theorem names_of_whole {part : List Char} (whole : '/' ∉ part) :
    names part = if part ≠ [] ∧ part ≠ ['.'] then [part] else [] := by
  rw [names, List.splitOn_eq_singleton whole]
  split <;> simp_all

theorem names_mark (front : List Char) {mark : List Char} (nameless : names mark = []) :
    names (front ++ '/' :: mark) = names front := by
  rw [names_slash, nameless, List.append_nil]

theorem names_trailing {tail : List Char} (trailing : Trailing tail) (front : List Char) :
    names (front ++ tail) = names front := by
  induction trailing generalizing front with
  | nothing => rw [List.append_nil]
  | slash _ ih =>
    have longer := ih (front ++ ['/'])
    rwa [names_mark front rfl, List.append_assoc] at longer
  | dot _ ih =>
    have longer := ih (front ++ ['/', '.'])
    rwa [names_mark front rfl, List.append_assoc] at longer

theorem getLast_of_lastName {path name : List Char} (last : LastName path name) :
    (names path).getLast? = some name := by
  have alone : names name = [name] := by
    rw [names_of_whole last.whole, if_pos ⟨last.nonempty, last.named⟩]
  obtain ⟨front, tail, rfl, trailing, rfl | ⟨above, rfl⟩⟩ := last.place
  · rw [names_trailing trailing, List.nil_append, alone]
    rfl
  · rw [names_trailing trailing, List.append_assoc, List.singleton_append, names_slash, alone]
    simp

theorem last_slash (path : List Char) : ∃ front part, path = front ++ part ∧ '/' ∉ part ∧
    (front = [] ∨ ∃ above, front = above ++ ['/']) := by
  by_cases member : '/' ∈ path
  · obtain ⟨above, part, rfl, absent⟩ := last_of_mem member
    refine ⟨above ++ ['/'], part, ?_, absent, Or.inr ⟨above, rfl⟩⟩
    rw [List.append_assoc, List.singleton_append]
  · exact ⟨[], path, rfl, member, Or.inl rfl⟩

theorem trailing_nameless {part : List Char} (nameless : ¬ (part ≠ [] ∧ part ≠ ['.'])) :
    Trailing ('/' :: part) := by
  by_cases empty : part = []
  · exact empty ▸ .slash .nothing
  · have dot : part = ['.'] := by
      by_contra other
      exact nameless ⟨empty, other⟩
    exact dot ▸ .dot .nothing

theorem lastName_append {path name tail : List Char} (last : LastName path name)
    (trailing : Trailing tail) : LastName (path ++ tail) name := by
  obtain ⟨front, within, rfl, behind, begins⟩ := last.place
  refine ⟨⟨front, within ++ tail, ?_, trailing_append behind trailing, begins⟩, last.whole,
    last.nonempty, last.named⟩
  rw [List.append_assoc _ within]

/- By the length of the path: what stands behind its last slash is the name, or it does not
   count. -/
theorem lastName_or_none (path : List Char) : names path = [] ∨ ∃ name, LastName path name := by
  induction size : path.length using Nat.strongRecOn generalizing path with
  | ind n ih =>
    subst size
    obtain ⟨front, part, rfl, whole, begins⟩ := last_slash path
    by_cases isName : part ≠ [] ∧ part ≠ ['.']
    · exact Or.inr ⟨part, ⟨front, [], (List.append_nil _).symm, .nothing, begins⟩, whole,
        isName.1, isName.2⟩
    · have none : names part = [] := by rw [names_of_whole whole, if_neg isName]
      rcases begins with rfl | ⟨above, rfl⟩
      · exact Or.inl none
      · have shorter : above.length < (above ++ ['/'] ++ part).length := by
          simp only [List.length_append, List.length_singleton]
          omega
        rw [List.append_assoc, List.singleton_append]
        rcases ih _ shorter above rfl with nothing | ⟨name, last⟩
        · exact Or.inl ((names_mark above none).trans nothing)
        · exact Or.inr ⟨name, lastName_append last (trailing_nameless isName)⟩

theorem getLast_names_iff (path name : List Char) :
    (names path).getLast? = some name ↔ LastName path name := by
  refine ⟨fun found => ?_, getLast_of_lastName⟩
  rcases lastName_or_none path with nothing | ⟨name', last⟩
  · rw [nothing] at found
    cases found
  · obtain rfl : name' = name := Option.some.inj ((getLast_of_lastName last).symm.trans found)
    exact last

theorem fileName?_iff (path name : String) :
    fileName? path = some name ↔ LastName path.toList name.toList ∧ name ≠ ".." := by
  have last : ((parts path).filter fun p => p ≠ "" && p ≠ ".").getLast? =
      (names path.toList).getLast?.map String.ofList := by
    rw [parts_eq, List.filter_map, List.getLast?_map, names]
    congr 3
    funext p
    have empty : String.ofList p = "" ↔ p = [] := by
      rw [← String.toList_inj]
      simp
    have dot : String.ofList p = "." ↔ p = ['.'] := by
      rw [← String.toList_inj]
      simp
    simp [empty, dot]
  rw [fileName?, last, ← getLast_names_iff]
  cases (names path.toList).getLast? with
  | none => simp
  | some l =>
    have same : l = name.toList ↔ String.ofList l = name := by
      rw [← String.toList_inj, String.toList_ofList]
    simp only [Option.map_some, Option.some.injEq, same]
    split
    · next none => cases none
    · next dots =>
      rw [Option.some.inj dots]
      constructor
      · intro none
        cases none
      · rintro ⟨rfl, other⟩
        exact absurd rfl other
    · next other =>
      constructor
      · intro found
        obtain rfl := Option.some.inj found
        exact ⟨rfl, fun dots => other (congrArg some dots)⟩
      · rintro ⟨rfl, _⟩
        rfl

theorem takeWhile_to_dot {front : List Char} (absent : '.' ∉ front) (behind : List Char) :
    (front ++ '.' :: behind).takeWhile (· ≠ '.') = front := by
  have all : ∀ c ∈ front, decide (c ≠ '.') = true := by
    intro c member
    simpa using fun dot : c = '.' => absent (dot ▸ member)
  rw [List.takeWhile_append_of_pos all, List.takeWhile_cons_of_neg (by simp), List.append_nil]

theorem ending_iff (name ext : List Char) :
    (let ending := name.reverse.takeWhile (· ≠ '.')
     ending.length + 1 < name.length ∧ ending.reverse = ext) ↔
    ∃ stem, stem ≠ [] ∧ name = stem ++ '.' :: ext ∧ '.' ∉ ext := by
  constructor
  · rintro ⟨short, rfl⟩
    by_cases dotted : '.' ∈ name
    · obtain ⟨stem, behind, rfl, absent⟩ := last_of_mem dotted
      have ending := takeWhile_to_dot (mt List.mem_reverse.1 absent) stem.reverse
      have turned : (stem ++ '.' :: behind).reverse = behind.reverse ++ '.' :: stem.reverse := by
        simp
      rw [turned, ending] at short
      rw [turned, ending, List.reverse_reverse]
      refine ⟨stem, ?_, rfl, absent⟩
      rintro rfl
      simp at short
    · have all : name.reverse.takeWhile (· ≠ '.') = name.reverse := by
        refine List.takeWhile_eq_self_iff.2 fun c member => ?_
        simpa using fun dot : c = '.' => dotted (dot ▸ List.mem_reverse.1 member)
      rw [all, List.length_reverse] at short
      omega
  · rintro ⟨stem, nonempty, rfl, absent⟩
    have ending := takeWhile_to_dot (mt List.mem_reverse.1 absent) stem.reverse
    have some := List.length_pos_iff.2 nonempty
    simp only [List.reverse_append, List.reverse_cons, List.append_assoc, List.singleton_append,
      ending, List.reverse_reverse, List.length_reverse, List.length_append, List.length_cons]
    exact ⟨by omega, trivial⟩

theorem extension?_iff (path ext : String) :
    extension? path = some ext ↔ HasExtension path ext := by
  have cut : ∀ name : String,
      ((let ending := name.toList.reverse.takeWhile (· ≠ '.')
        if ending.length + 1 < name.length then some (String.ofList ending.reverse) else none) =
          some ext) ↔ ∃ stem, stem ≠ [] ∧ name.toList = stem ++ '.' :: ext.toList ∧
            '.' ∉ ext.toList := by
    intro name
    rw [← ending_iff, String.length_toList]
    simp only [Option.ite_none_right_eq_some, Option.some.injEq, ← String.toList_inj,
      String.toList_ofList]
  rw [extension?, Option.bind_eq_some_iff]
  simp only [cut, fileName?_iff]
  constructor
  · rintro ⟨name, ⟨last, dots⟩, stem, nonempty, whole, absent⟩
    refine ⟨stem, nonempty, whole ▸ last, absent, fun same => dots ?_⟩
    rw [← String.toList_inj, whole, same]
    rfl
  · rintro ⟨stem, nonempty, last, absent, dots⟩
    refine ⟨String.ofList (stem ++ '.' :: ext.toList), ?_, stem, nonempty, ?_, absent⟩
    · rw [String.toList_ofList]
      refine ⟨last, fun same => dots ?_⟩
      rw [← String.toList_inj, String.toList_ofList] at same
      exact same
    · rw [String.toList_ofList]

theorem extension_unique {path ext ext' : String} (first : HasExtension path ext)
    (second : HasExtension path ext') : ext = ext' :=
  Option.some.inj
    (((extension?_iff path ext).2 first).symm.trans ((extension?_iff path ext').2 second))

theorem no_extension_iff (path : String) : (∀ ext, ¬ HasExtension path ext) ↔ Bare path := by
  constructor
  · intro none name last
    by_cases dots : name = ['.', '.']
    · exact Or.inl dots
    · by_cases dotted : '.' ∈ name
      · obtain ⟨stem, behind, rfl, absent⟩ := last_of_mem dotted
        by_cases first : stem = []
        · exact Or.inr (Or.inr ⟨behind, by rw [first, List.nil_append], absent⟩)
        · refine absurd ?_ (none (String.ofList behind))
          rw [HasExtension, String.toList_ofList]
          exact ⟨stem, first, last, absent, dots⟩
      · exact Or.inr (Or.inl dotted)
  · rintro bare ext ⟨stem, nonempty, last, absent, dots⟩
    rcases bare _ last with same | undotted | ⟨rest, whole, single⟩
    · exact dots same
    · exact undotted (by simp)
    · obtain ⟨c, stem', rfl⟩ := List.exists_cons_of_ne_nil nonempty
      rw [List.cons_append] at whole
      rw [← (List.cons.inj whole).2] at single
      exact single (by simp)

end Path

namespace Definition

def Format.extensions : Format → List String
  | .yaml => ["yaml", "yml"]
  | .json => ["json"]

def Format.NamedBy (format : Format) (path : String) : Prop :=
  ∃ ext, Path.HasExtension path ext ∧ ext.toLower ∈ format.extensions

/-- Extensions that differ in small and capital letters only, or that stand for one format. -/
def Format.Interchangeable (ext ext' : String) : Prop :=
  ext.toLower = ext'.toLower ∨
    ∃ format : Format, ext.toLower ∈ format.extensions ∧ ext'.toLower ∈ format.extensions

theorem Format.ofExtension?_iff (ext : String) (format : Format) :
    ofExtension? ext = some format ↔ ext.toLower ∈ format.extensions := by
  have lower : ext.toLower = ext.map Char.toLower := rfl
  have small : String.ofList (ext.toList.map Char.toLower) = ext.toLower := by
    rw [lower, ← String.toList_inj, String.toList_ofList, String.toList_map]
  simp only [ofExtension?, small]
  split
  · next yaml =>
    cases format with
    | yaml => simpa [extensions] using yaml
    | json => rcases yaml with same | same <;> simp [extensions, same]
  · next other =>
    split
    · next json => cases format <;> simp [extensions, json]
    · next neither =>
      cases format with
      | yaml => simpa [extensions] using other
      | json => simpa [extensions] using neither

theorem Format.ofPath?_iff (path : String) (format : Format) :
    ofPath? path = some format ↔ format.NamedBy path := by
  rw [ofPath?, Option.bind_eq_some_iff]
  simp only [Path.extension?_iff, ofExtension?_iff]
  rfl

/-- What comes of a file. It is not opened unless its path names a format, and once it is read only
its text counts. -/
inductive Loaded (files : String → Except ReadFailure String) (path : String) :
    Except LoadFault Definition → Prop where
  | unsupported : (∀ format : Format, ¬ format.NamedBy path) →
      Loaded files path (.error (.unsupported path))
  | unreadable {format : Format} {cause : ReadFailure} : format.NamedBy path →
      files path = .error cause → Loaded files path (.error (.unreadable path cause))
  | read {format : Format} {source : String} : format.NamedBy path →
      files path = .ok source → Loaded files path (ofText format source)

section
variable {files files' : String → Except ReadFailure String} {path path' : String}

theorem load_unnamed (unnamed : ∀ format : Format, ¬ format.NamedBy path) :
    load files path = .error (.unsupported path) := by
  have none : Format.ofPath? path = none := by
    refine Option.eq_none_iff_forall_ne_some.2 fun format found => ?_
    exact unnamed format ((Format.ofPath?_iff path format).1 found)
  rw [load, none]

theorem load_unreadable {format : Format} (named : format.NamedBy path) {cause : ReadFailure}
    (unreadable : files path = .error cause) :
    load files path = .error (.unreadable path cause) := by
  have found := (Format.ofPath?_iff path format).2 named
  simp only [load, found, unreadable]

theorem load_readable {format : Format} (named : format.NamedBy path) {source : String}
    (readable : files path = .ok source) : load files path = ofText format source := by
  have found := (Format.ofPath?_iff path format).2 named
  simp only [load, found, readable]

theorem load_iff (result : Except LoadFault Definition) :
    load files path = result ↔ Loaded files path result := by
  constructor
  · rintro rfl
    by_cases unnamed : ∀ format : Format, ¬ format.NamedBy path
    · rw [load_unnamed unnamed]
      exact .unsupported unnamed
    · simp only [not_forall, not_not] at unnamed
      obtain ⟨format, named⟩ := unnamed
      cases tried : files path with
      | error cause =>
        rw [load_unreadable named tried]
        exact .unreadable named tried
      | ok source =>
        rw [load_readable named tried]
        exact .read named tried
  · intro loaded
    cases loaded with
    | unsupported unnamed => exact load_unnamed unnamed
    | unreadable named unreadable => exact load_unreadable named unreadable
    | read named readable => exact load_readable named readable

theorem Format.namedBy_iff {ext : String} (has : Path.HasExtension path ext) (format : Format) :
    format.NamedBy path ↔ ext.toLower ∈ format.extensions := by
  constructor
  · rintro ⟨ext', has', member⟩
    rwa [Path.extension_unique has has']
  · exact fun member => ⟨ext, has, member⟩

theorem Format.namedBy_congr {ext ext' : String} (has : Path.HasExtension path ext)
    (has' : Path.HasExtension path' ext') (alike : Interchangeable ext ext') (format : Format) :
    format.NamedBy path ↔ format.NamedBy path' := by
  rw [namedBy_iff has, namedBy_iff has']
  rcases alike with same | ⟨shared, member, member'⟩
  · rw [same]
  · have one : ∀ {e : String}, e.toLower ∈ shared.extensions →
        (e.toLower ∈ format.extensions ↔ format = shared) := by
      intro e member
      rw [← ofExtension?_iff] at member ⊢
      rw [member, Option.some.injEq, eq_comm]
    rw [one member, one member']

end

/- Of a path that names no format nothing is read, so it does not matter which files there are. Any
   other path gives what its text gives, and paths that name the same format give the same for the
   same text. -/
theorem load_by_extension (path : String) (files files' : String → Except ReadFailure String) :
    ((∀ ext, ¬ Path.HasExtension path ext) ↔ Path.Bare path) ∧
    (∀ ext ext', Path.HasExtension path ext → Path.HasExtension path ext' → ext = ext') ∧
    (∀ result, load files path = result ↔ Loaded files path result) ∧
    ((∀ format : Format, ¬ format.NamedBy path) →
      load files path = .error (.unsupported path) ∧
      load files' path = .error (.unsupported path)) ∧
    (∀ path' ext ext' source, Path.HasExtension path ext → Path.HasExtension path' ext' →
      Format.Interchangeable ext ext' → files path = .ok source → files' path' = .ok source →
      (∃ format : Format, format.NamedBy path) ∧ load files path = load files' path' ∨
      load files path = .error (.unsupported path) ∧
      load files' path' = .error (.unsupported path')) := by
  refine ⟨Path.no_extension_iff path, fun _ _ => Path.extension_unique, load_iff,
    fun unnamed => ⟨load_unnamed unnamed, load_unnamed unnamed⟩, ?_⟩
  intro path' ext ext' source has has' alike readable readable'
  have congr := Format.namedBy_congr has has' alike
  by_cases named : ∃ format : Format, format.NamedBy path
  · obtain ⟨format, named⟩ := named
    refine Or.inl ⟨⟨format, named⟩, ?_⟩
    rw [load_readable named readable, load_readable ((congr format).1 named) readable']
  · have unnamed : ∀ format : Format, ¬ format.NamedBy path :=
      fun format named' => named ⟨format, named'⟩
    exact Or.inr ⟨load_unnamed unnamed,
      load_unnamed fun format named' => unnamed format ((congr format).2 named')⟩

end Definition
end LexicalGrammar
