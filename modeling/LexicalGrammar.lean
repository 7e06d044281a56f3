import LexicalGrammar.Json.Settings
import LexicalGrammar.Main
import LexicalGrammar.Proofs.Collect
import LexicalGrammar.Proofs.Abort
import LexicalGrammar.Proofs.Run
import LexicalGrammar.Proofs.History
import LexicalGrammar.Proofs.Queue
import LexicalGrammar.Proofs.Slices
import LexicalGrammar.Proofs.Monotone
import LexicalGrammar.Proofs.Confluence
import LexicalGrammar.Proofs.Integrity
import LexicalGrammar.Proofs.Check
import LexicalGrammar.Proofs.Checkpoint
import LexicalGrammar.Proofs.Retry
import LexicalGrammar.Proofs.Handles
import LexicalGrammar.Proofs.KeyOrder
import LexicalGrammar.Proofs.WrittenForm
import LexicalGrammar.Proofs.Verdict
import LexicalGrammar.Proofs.Store
import LexicalGrammar.Proofs.CategoryFile
import LexicalGrammar.Proofs.Formats
import LexicalGrammar.Proofs.CategoryNames
import LexicalGrammar.Proofs.Layers
import LexicalGrammar.Proofs.ByteOrder
import LexicalGrammar.Proofs.Extension
import LexicalGrammar.Proofs.NameListing
import LexicalGrammar.Proofs.PassLog
