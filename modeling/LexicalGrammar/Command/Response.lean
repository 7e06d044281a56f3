import LexicalGrammar.Command.Request
import LexicalGrammar.Log.Filter
import LexicalGrammar.Log.Line

/-
What the program answers to a command line.
-/
namespace LexicalGrammar.Command
variable [Pattern.Dialect]

structure Response where
  status : Nat
  output : String
  log : String
  deriving Repr, DecidableEq

def versionText : String := "lexgram 0.1.0\n"

namespace Topic

def usage : Topic → String
  | .program => "Usage: lexgram <COMMAND>\n"
  | .check => "Usage: lexgram check [OPTIONS] <path>\n"

def programHelp : List String := [
  "Check declarative lexical grammars\n", "\n", usage .program, "\n",
  "Commands:\n",
  "  check  Resolve a grammar definition and report failing rules\n",
  "  help   Print this message or the help of the given subcommand(s)\n", "\n",
  "Options:\n",
  "  -h, --help     Print help\n",
  "  -V, --version  Print version\n"]

def checkHelp : List String := [
  "Resolve a grammar definition and report failing rules\n", "\n", usage .check, "\n",
  "Arguments:\n",
  "  <path>  Path to the grammar definition (.yaml, .yml or .json)\n", "\n",
  "Options:\n",
  "  -c, --category <category>\n          Register a token category (repeatable)\n",
  "      --categories-file <categories-file>\n          File listing one token category per line\n",
  "      --config <config>\n          Configuration file layered over the defaults and ./lexgram.toml\n",
  "      --collect\n          Report every failing rule instead of stopping at the first\n",
  "  -f, --format <format>\n          Output format [default: text] [possible values: text, json]\n",
  "  -h, --help\n          Print help\n"]

def help : Topic → String
  | .program => String.join programHelp
  | .check => String.join checkHelp

end Topic

namespace Response

def ofMisuse (m : Misuse) : Response :=
  ⟨2, "", s!"error: {m.message}\n\nFor more information, try '--help'.\n"⟩

def logText (filter : Log.Filter) (events : List Event) : String :=
  String.join ((events.filter filter.admits).map Log.line)

def ofCheck (format : Check.Format) (filter : Log.Filter) : Except Check.Fault Check.Outcome → Response
  | .ok o =>
    ⟨if o.summary.isSuccess then 0 else 1, o.summary.render format, logText filter o.events⟩
  | .error fault => ⟨1, "", s!"Error: {fault.message}\n"⟩

end Response

def paths (arguments : List String) : List String :=
  match Request.parse arguments with
  | .ok (.check c _) => c.paths
  | _ => []

/-- The answer to a command line; `logFilter` is the filter for the log, if one was given. -/
def respond (readFile : String → Except ReadFailure String) (logFilter : Option String)
    (arguments : List String) : Response :=
  match Request.parse arguments with
  | .error misuse => .ofMisuse misuse
  | .ok .version => ⟨0, versionText, ""⟩
  | .ok (.help topic) => ⟨0, topic.help, ""⟩
  | .ok (.check c format) => .ofCheck format (.ofText logFilter) (c.run readFile)

end LexicalGrammar.Command
