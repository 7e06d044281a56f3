/-
What can be wrong with a pattern, and how it is told.
-/
namespace LexicalGrammar.Pattern

inductive ParseFault where
  | trailing
  | noCloseParen
  | bareCondition
  | unclosedParen
  | tooDeep
  | trailingBackslash
  | unknownEscape (text : String)
  | unclosedPropertyName
  | badHex
  | badCodePoint
  | badClass
  | unknownFlag (text : String)
  | byteMode
  | badReference
  | nothingToRepeat
  | badGroupName
  | unknownGroupName (name : String)
  deriving Repr, DecidableEq

inductive BuildFault where
  | badReference
  | numberedWithNamed
  | lookBehindLength
  | malformedPart
  | tooLarge
  deriving Repr, DecidableEq

/-- Why a pattern text cannot be used. Places are byte offsets. -/
inductive Fault where
  | parsing (place : Nat) (cause : ParseFault)
  | building (cause : BuildFault)
  deriving Repr, DecidableEq

def ParseFault.message : ParseFault → String
  | .trailing => "General parsing error: end of string not reached"
  | .noCloseParen => "General parsing error: expected close paren"
  | .bareCondition => "General parsing error: expected conditional to be a backreference or " ++
      "at least an expression for when the condition is true"
  | .unclosedParen => "Opening parenthesis without closing parenthesis"
  | .tooDeep => "Pattern too deeply nested"
  | .trailingBackslash => "Backslash without following character"
  | .unknownEscape text => s!"Invalid escape: {text}"
  | .unclosedPropertyName => "Unicode escape not closed"
  | .badHex => "Invalid hex escape"
  | .badCodePoint => "Invalid codepoint for hex or unicode escape"
  | .badClass => "Invalid character class"
  | .unknownFlag text => s!"Unknown group flag: {text}"
  | .byteMode => "Disabling Unicode not supported"
  | .badReference => "Invalid back reference"
  | .nothingToRepeat => "Target of repeat operator is invalid"
  | .badGroupName => "Could not parse group name"
  | .unknownGroupName name => s!"Invalid group name in back reference: {name}"

def BuildFault.message : BuildFault → String
  | .badReference => "Invalid back reference"
  | .numberedWithNamed => "Numbered backref/call not allowed because named group was used, " ++
      "use a named backref instead"
  | .lookBehindLength => "Look-behind assertion without constant size"
  | .malformedPart => "Regex error: error parsing pattern 0"
  | .tooLarge => "Regex error: error building NFA"

def Fault.message : Fault → String
  | .parsing place cause => s!"Parsing error at position {place}: {cause.message}"
  | .building cause => s!"Error compiling regex: {cause.message}"

inductive SearchFault where
  | tooManyBacktracks
  | startOutOfRange
  deriving Repr, DecidableEq

def SearchFault.message : SearchFault → String
  | .tooManyBacktracks => "Error executing regex: Max limit for backtracking count exceeded"
  | .startOutOfRange => "Search start out of range"

end LexicalGrammar.Pattern
