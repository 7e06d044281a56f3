import LexicalGrammar.Definition.Shape
import LexicalGrammar.Files
import LexicalGrammar.Json.Reader
import LexicalGrammar.Yaml.Reader

/-
Loading grammar definitions. The extension of a file's name alone says how the file is read.
-/
namespace LexicalGrammar
namespace Definition

inductive Format where
  | yaml
  | json
  deriving Repr, DecidableEq

def Format.ofExtension? (extension : String) : Option Format :=
  let name := String.ofList (extension.toList.map Char.toLower)
  if name = "yaml" ∨ name = "yml" then some .yaml
  else if name = "json" then some .json
  else none

def Format.ofPath? (path : String) : Option Format :=
  (Path.extension? path).bind Format.ofExtension?

inductive LoadFault where
  | unsupported (path : String)
  | unreadable (path : String) (cause : ReadFailure)
  | invalid (format : Format) (cause : Document.Fault DescriptorFault)
  deriving Repr, DecidableEq

def LoadFault.message : LoadFault → String
  | .unsupported path => s!"unsupported grammar file format: {path}"
  | .unreadable path _ => s!"failed to read {path}"
  | .invalid .yaml _ => "invalid YAML grammar definition"
  | .invalid .json _ => "invalid JSON grammar definition"

/-- What is wrong with the file or with the shape of its document. In YAML the path to the place is
told. The line and the column, and what a reader says of broken syntax, are left out. -/
def LoadFault.detail? : LoadFault → Option String
  | .unreadable _ cause => some cause.message
  | .invalid .json (.shape _ cause) => some (cause.message DescriptorFault.message)
  | .invalid .yaml (.shape path cause) =>
    let place := Document.pathText path
    some ((if place.isEmpty then "" else place ++ ": ") ++ cause.message DescriptorFault.message)
  | _ => none

def LoadFault.chain (f : LoadFault) : String :=
  match f.detail? with
  | some detail => f.message ++ ": " ++ detail
  | none => f.message

def ofText (format : Format) (source : String) : Except LoadFault Definition :=
  let decoded := match format with
    | .json => (Json.readDocument source).decode (read Json.convention)
    | .yaml => (Yaml.readDocument source).decode (read Yaml.convention)
  decoded.mapError (.invalid format)

def load (readFile : String → Except ReadFailure String) (path : String) :
    Except LoadFault Definition :=
  match Format.ofPath? path with
  | none => .error (.unsupported path)
  | some format =>
    match readFile path with
    | .error cause => .error (.unreadable path cause)
    | .ok source => ofText format source

def descriptorOfJson (source : String) : Document.Decoded DescriptorFault Descriptor :=
  (Json.readDocument source).decode (readDescriptor Json.convention)

end Definition
end LexicalGrammar
