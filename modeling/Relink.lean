import Relink.Declared.Draft
import Relink.Host.Bench
import Relink.Main
import Relink.Proofs.Relocation
import Relink.Proofs.Pass.Phases
import Relink.Proofs.Pass.Course
import Relink.Proofs.Pass.Renames
import Relink.Proofs.Pass.Run
import Relink.Proofs.Pass.Repetition
import Relink.Proofs.Pass.Idempotence
import Relink.Proofs.Pass.Trace
import Relink.Proofs.Pass.Ending
import Relink.Proofs.Pass.Account
import Relink.Proofs.Yaml.Layering
import Relink.Proofs.Yaml.Record
import Relink.Proofs.Declared.Reading
import Relink.Proofs.Declared.Layering
import Relink.Proofs.Link.Mac
import Relink.Proofs.Link.Order
import Relink.Proofs.MatchTables
import Relink.Proofs.Pass.Retry
import Relink.Proofs.Shell.Quoting
import Relink.Proofs.Declared.Documents
import Relink.Proofs.Commands
import Relink.Proofs.Declared.Interpretation
import Relink.Proofs.Declared.Draft
import Relink.Proofs.Yaml.Document
import Relink.Proofs.Yaml.MergeAll
import Relink.Proofs.Settings
import Relink.Proofs.CallLog
