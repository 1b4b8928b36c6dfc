import ScriptureText.BookId
import ScriptureText.Kinds
import ScriptureText.Quoted
import ScriptureText.Pattern
import ScriptureText.Error
import ScriptureText.Bible
import ScriptureText.Text
import ScriptureText.Tree.Check
import ScriptureText.Tree.Lifecycle
import ScriptureText.Traversal.Call
import ScriptureText.Traversal.Decoration
import ScriptureText.Traversal.Recorder
import ScriptureText.Builder
import ScriptureText.Validation
import ScriptureText.Normalization
import ScriptureText.Snapshot.Basic
import ScriptureText.Assertion
import ScriptureText.Json.Reader
import ScriptureText.Snapshot.Serial
import ScriptureText.Serial
import ScriptureText.Config.Loader
import ScriptureText.Tree.Reachable
import ScriptureText.Proofs.Traversal
import ScriptureText.Proofs.Pattern
import ScriptureText.Proofs.Text
import ScriptureText.Proofs.Normalization
import ScriptureText.Proofs.Reachable
import ScriptureText.Proofs.Copy
import ScriptureText.Proofs.HeadlinePlacement
import ScriptureText.Proofs.Validator
import ScriptureText.Proofs.StructuralRules
import ScriptureText.Proofs.TrimmedValidation
import ScriptureText.Proofs.Fields
import ScriptureText.Proofs.Transcript
import ScriptureText.Proofs.Representation
import ScriptureText.Proofs.WhitespaceAgreement
import ScriptureText.Proofs.ValidTrimming
import ScriptureText.Proofs.Dangling
import ScriptureText.Proofs.Adapters
import ScriptureText.Proofs.Descending
import ScriptureText.Proofs.CanonicalCalls
import ScriptureText.Proofs.Snapshot
import ScriptureText.Proofs.JsonText
import ScriptureText.Proofs.SnapshotJson
import ScriptureText.Proofs.AtomicCalls
import ScriptureText.Proofs.Accept
import ScriptureText.Proofs.Sealing
import ScriptureText.Proofs.Appending
import ScriptureText.Proofs.Protocol
import ScriptureText.Proofs.NormalForm
import ScriptureText.Proofs.LeadingSpaces
import ScriptureText.Proofs.Lowercase
import ScriptureText.Proofs.Settings
import ScriptureText.Proofs.Layering
import ScriptureText.Proofs.AdjacentSpaces
import ScriptureText.Proofs.StricterContexts
import ScriptureText.Proofs.RangeOrder
import ScriptureText.Proofs.Signature
import ScriptureText.Proofs.SignatureDepths
import ScriptureText.Proofs.Splitting
import ScriptureText.Proofs.Fragments
import ScriptureText.Proofs.TextLanguage
import ScriptureText.Proofs.NumberedChapters
