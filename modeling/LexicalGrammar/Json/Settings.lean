import LexicalGrammar.Builder
import LexicalGrammar.Json.Reader

/-
Pattern options and failure policies as JSON texts.
-/
namespace LexicalGrammar
open Document (Decoded Field ReadFault Record)

namespace Pattern.Options

structure Draft where
  caseInsensitive : Option Bool := none
  sizeLimit : Option Nat := none
  deriving Repr

def record : Record Empty Json.Leaf Draft where
  name := "PatternOptions"
  fields := [
    ⟨"case_insensitive", false, (·.caseInsensitive.isSome), fun t d =>
      return { d with caseInsensitive := ← Json.boolOf t }⟩,
    ⟨"size_limit", false, (·.sizeLimit.isSome), fun t d =>
      return { d with sizeLimit := ← Json.sizeOf t }⟩]

def ofJson (source : String) : Decoded Empty Options :=
  (Json.readDocument source).decode fun t => do
    let d ← record.read Json.convention {} t
    let default : Options := {}
    return ⟨d.caseInsensitive.getD default.caseInsensitive, d.sizeLimit.getD default.sizeLimit⟩

end Pattern.Options

namespace FailurePolicy

def names : List String :=
  [FailurePolicy.abort.name, FailurePolicy.collect.name]

def ofName (name : String) : Decoded Empty FailurePolicy :=
  match ofName? name with
  | some policy => .ok policy
  | none => Document.fail (.unknownVariant name names)

def ofEntry (chars : List Char) : Decoded Empty (FailurePolicy × List Char) := do
  let fuel := 2 * chars.length + 2
  let (key, r) := Json.Reader.value fuel Json.Reader.maxDepth chars
  let policy ← ofName (← Document.textOf Json.convention "variant identifier" key)
  let rest ← r.mapError .reading
  match Json.Reader.skipBlank rest with
  | [] => .error (.reading .ended)
  | ':' :: rest =>
    let (value, r) := Json.Reader.value fuel Json.Reader.maxDepth rest
    match value with
    | .leaf .null =>
      match Json.Reader.skipBlank (← r.mapError .reading) with
      | [] => .error (.reading .ended)
      | '\x7d' :: rest => return (policy, rest)
      | _ => .error (.reading .malformed)
    | value => Document.wrongType Json.convention "unit" value
  | _ => .error (.reading .malformed)

def ofJson (source : String) : Decoded Empty FailurePolicy := do
  let chars := source.toList
  let (policy, rest) ← match Json.Reader.skipBlank chars with
    | [] => .error (.reading .ended)
    | '"' :: rest =>
      match Json.Reader.string rest with
      | .ok (name, rest) => (ofName name).map (·, rest)
      | .error fault => .error (.reading fault)
    | '\x7b' :: rest => ofEntry rest
    | _ => .error (.reading .malformed)
  Document.closed (Json.Reader.trailing rest)
  return policy

end FailurePolicy
end LexicalGrammar
