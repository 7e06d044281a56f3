import LexicalGrammar.Rule

/-
What the library tells about its work while it goes on.
-/
namespace LexicalGrammar

inductive Level where
  | error
  | warn
  | info
  | debug
  | trace
  deriving Repr, DecidableEq

inductive Event where
  | groupMismatch (state pattern : String) (categories groups : Nat)
  | attached (grammar state pattern : String)
  | aborted (index : Nat) (descriptor : String) (fault : ResolveFault)
  | ruleFailed (index : Nat) (descriptor : String) (fault : ResolveFault)
  | passFinished (grammar : String) (attached skipped failed : Nat)
  deriving Repr, DecidableEq

namespace Event

inductive Value where
  | number (n : Nat)
  | text (s : String)
  | shown (s : String)
  deriving Repr, DecidableEq

def level : Event → Level
  | .groupMismatch .. | .ruleFailed .. => .warn
  | .attached .. | .aborted .. | .passFinished .. => .debug

def source : Event → String
  | .groupMismatch .. | .attached .. => "lexgram::lexgram::resolver"
  | .aborted .. | .ruleFailed .. | .passFinished .. => "lexgram::lexgram::builder"

def message : Event → String
  | .groupMismatch .. => "category count does not match capture group count"
  | .attached .. => "attached rule"
  | .aborted .. => "aborting grammar build"
  | .ruleFailed .. => "rule failed to resolve"
  | .passFinished .. => "resolution pass finished"

def fields : Event → List (String × Value)
  | .groupMismatch state pattern categories groups =>
    [("state", .text state), ("pattern", .text pattern), ("categories", .number categories),
      ("groups", .number groups)]
  | .attached grammar state pattern =>
    [("grammar", .text grammar), ("state", .text state), ("pattern", .text pattern)]
  | .aborted index descriptor fault | .ruleFailed index descriptor fault =>
    [("index", .number index), ("descriptor", .shown descriptor), ("error", .shown fault.message)]
  | .passFinished grammar done skipped failed =>
    [("grammar", .text grammar), ("attached", .number done), ("skipped", .number skipped),
      ("failed", .number failed)]

end Event
end LexicalGrammar
