import DsnBinding.Dsn.Formatting
import DsnBinding.Dsn.Parsing
import DsnBinding.Environment
import DsnBinding.Proofs.Binding.Selection
import DsnBinding.Proofs.Dsn.Failing
import DsnBinding.Proofs.Dsn.Interruption
import DsnBinding.Proofs.Dsn.Inverse
import DsnBinding.Proofs.Dsn.Receiving
import DsnBinding.Proofs.Dsn.Reparsing
import DsnBinding.Proofs.Dsn.RoundTrip
import DsnBinding.Proofs.Dsn.Scheme
import DsnBinding.Proofs.Pattern.Absence
import DsnBinding.Proofs.Pattern.Delimited
import DsnBinding.Proofs.Pattern.Doubling
import DsnBinding.Proofs.Pattern.Keys
import DsnBinding.Proofs.Pattern.Printing
import DsnBinding.Proofs.Pattern.QuestionMarks
import DsnBinding.Proofs.Pattern.Refusal
import DsnBinding.Proofs.Pattern.Reordering
import DsnBinding.Proofs.Query.Joining
import DsnBinding.Proofs.Registry.Consistency
import DsnBinding.Proofs.Schema.Building
import DsnBinding.Registry
import DsnBinding.Proofs.Pattern.LookAhead
