import LexicalGrammar.Event
import LexicalGrammar.Text.Quoted

/-
Events as lines of a log.
-/
namespace LexicalGrammar.Log

def label : Level → String
  | .error => "ERROR"
  | .warn => " WARN"
  | .info => " INFO"
  | .debug => "DEBUG"
  | .trace => "TRACE"

def valueText : Event.Value → String
  | .number n => toString n
  | .text s => Text.quoted s
  | .shown s => s

def field (f : String × Event.Value) : String :=
  s!" {f.1}={valueText f.2}"

/-- The line for an event where `NO_COLOR` is set, so without the codes of a terminal. -/
def line (e : Event) : String :=
  label e.level ++ " " ++ e.message ++ String.join (e.fields.map field) ++ "\n"

end LexicalGrammar.Log
