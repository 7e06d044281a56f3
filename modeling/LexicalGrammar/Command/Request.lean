import LexicalGrammar.Check.Outcome

/-
What a command line asks for. Arguments are read from left to right, and the first one that cannot
be understood, or that asks for help, decides.
-/
namespace LexicalGrammar.Command

inductive Topic where
  | program
  | check
  deriving Repr, DecidableEq

inductive Request where
  | version
  | help (topic : Topic)
  | check (check : Check) (format : Check.Format)
  deriving Repr, DecidableEq

inductive Misuse where
  | noCommand
  | unknownCommand (name : String)
  | unexpected (argument : String)
  | missingValue (option : String)
  | needlessValue (option : String)
  | repeated (option : String)
  | badFormat (name : String)
  | missingPath
  deriving Repr, DecidableEq

def Misuse.message : Misuse → String
  | .noCommand => "a subcommand is required"
  | .unknownCommand name => s!"unrecognized subcommand '{name}'"
  | .unexpected argument => s!"unexpected argument '{argument}' found"
  | .missingValue option => s!"a value is required for '{option}' but none was supplied"
  | .needlessValue option => s!"unexpected value for '{option}' found; no more were expected"
  | .repeated option => s!"the argument '{option}' cannot be used multiple times"
  | .badFormat name => s!"invalid value '{name}' for '--format <format>'"
  | .missingPath => "the following required arguments were not provided: <path>"

inductive ValueOption where
  | category
  | categoryFile
  | config
  | format
  deriving Repr, DecidableEq

namespace ValueOption

def name : ValueOption → String
  | .category => "category"
  | .categoryFile => "categories-file"
  | .config => "config"
  | .format => "format"

def all : List ValueOption := [.category, .categoryFile, .config, .format]

def ofName? (name : String) : Option ValueOption :=
  all.find? (·.name = name)

def ofLetter? (letter : Char) : Option ValueOption :=
  if letter = 'c' then some .category else if letter = 'f' then some .format else none

def shown (o : ValueOption) : String :=
  "--" ++ o.name

end ValueOption

structure Draft where
  path : Option String := none
  categories : List String := []
  categoryFile : Option String := none
  config : Option String := none
  format : Option Check.Format := none
  collect : Bool := false
  deriving Repr, DecidableEq

namespace Draft

/-- Takes the value of an option. Only categories can be given more than once. -/
def give (d : Draft) (o : ValueOption) (value : String) : Except Misuse Draft :=
  match o with
  | .category => .ok { d with categories := d.categories ++ [value] }
  | .categoryFile =>
    if d.categoryFile.isSome then .error (.repeated o.shown)
    else .ok { d with categoryFile := some value }
  | .config =>
    if d.config.isSome then .error (.repeated o.shown) else .ok { d with config := some value }
  | .format =>
    if d.format.isSome then .error (.repeated o.shown)
    else
      match Check.Format.ofName? value with
      | some format => .ok { d with format := some format }
      | none => .error (.badFormat value)

def giveCollect (d : Draft) : Except Misuse Draft :=
  if d.collect then .error (.repeated "--collect") else .ok { d with collect := true }

def givePath (d : Draft) (path : String) : Except Misuse Draft :=
  if d.path.isSome then .error (.unexpected path) else .ok { d with path := some path }

def request (d : Draft) : Except Misuse Request :=
  match d.path with
  | some path =>
    .ok (.check ⟨path, d.categories, d.categoryFile, d.config, d.collect⟩ (d.format.getD .text))
  | none => .error .missingPath

end Draft

inductive Argument where
  /-- Two hyphens alone: only paths follow. -/
  | separator
  /-- A name behind two hyphens, and what stands behind a sign of equality. -/
  | long (name : String) (value : Option String)
  | short (letter : Char) (rest : List Char)
  | plain
  deriving Repr, DecidableEq

namespace Argument

def ofText (text : String) : Argument :=
  match text.toList with
  | ['-', '-'] => .separator
  | '-' :: '-' :: cs =>
    let name := cs.takeWhile (· ≠ '=')
    let value := match cs.drop name.length with
      | _ :: value => some (String.ofList value)
      | [] => none
    .long (String.ofList name) value
  | '-' :: letter :: cs => .short letter cs
  | _ => .plain

def attached? (rest : List Char) : Option String :=
  match rest with
  | [] => none
  | '=' :: value => some (String.ofList value)
  | value => some (String.ofList value)

end Argument

inductive Meaning where
  | path
  | onlyPaths
  | help
  | collect
  | option (option : ValueOption) (value : Option String)
  deriving Repr, DecidableEq

def Meaning.ofText (text : String) : Except Misuse Meaning :=
  match Argument.ofText text with
  | .plain => .ok .path
  | .separator => .ok .onlyPaths
  | .short 'h' _ => .ok .help
  | .short letter rest =>
    match ValueOption.ofLetter? letter with
    | some o => .ok (.option o (Argument.attached? rest))
    | none => .error (.unexpected text)
  | .long "help" none => .ok .help
  | .long "collect" none => .ok .collect
  | .long name value =>
    match ValueOption.ofName? name with
    | some o => .ok (.option o value)
    | none =>
      if name = "help" ∨ name = "collect" then .error (.needlessValue ("--" ++ name))
      else .error (.unexpected text)

namespace Request

def readCheck (d : Draft) : List String → Except Misuse Request
  | [] => d.request
  | argument :: rest =>
    match Meaning.ofText argument with
    | .error misuse => .error misuse
    | .ok .help => .ok (.help .check)
    | .ok .onlyPaths => (rest.foldlM Draft.givePath d).bind Draft.request
    | .ok .path => (d.givePath argument).bind (readCheck · rest)
    | .ok .collect => d.giveCollect.bind (readCheck · rest)
    | .ok (.option o (some value)) => (d.give o value).bind (readCheck · rest)
    | .ok (.option o none) =>
      match rest with
      | [] => .error (.missingValue o.shown)
      | value :: rest =>
        if Argument.ofText value = .plain then (d.give o value).bind (readCheck · rest)
        else .error (.missingValue o.shown)

def readHelp : List String → Except Misuse Request
  | [] | ["help"] => .ok (.help .program)
  | ["check"] => .ok (.help .check)
  | "check" :: name :: _ | "help" :: name :: _ | name :: _ => .error (.unknownCommand name)

def parse : List String → Except Misuse Request
  | [] => .error .noCommand
  | "check" :: rest => readCheck {} rest
  | "help" :: rest => readHelp rest
  | argument :: rest =>
    match Argument.ofText argument with
    | .plain => .error (.unknownCommand argument)
    | .separator =>
      match rest with
      | [] => .error .noCommand
      | next :: _ => .error (.unexpected next)
    | .short 'V' _ | .long "version" none => .ok .version
    | .short 'h' _ | .long "help" none => .ok (.help .program)
    | .short .. => .error (.unexpected argument)
    | .long name _ =>
      if name = "help" ∨ name = "version" then .error (.needlessValue ("--" ++ name))
      else .error (.unexpected argument)

end Request
end LexicalGrammar.Command
