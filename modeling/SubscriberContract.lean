import SubscriberContract.Main
import SubscriberContract.Proofs.Validation.Conformance
import SubscriberContract.Proofs.Validation.Silence
import SubscriberContract.Proofs.Validation.Resolution
import SubscriberContract.Proofs.Validation.Subjects
import SubscriberContract.Proofs.Validation.Signatures
import SubscriberContract.Proofs.Validation.NamedTypes
import SubscriberContract.Proofs.Exchange.Truncation
import SubscriberContract.Proofs.Exchange.AnySpelling
import SubscriberContract.Proofs.Runs.Policy
import SubscriberContract.Proofs.Runs.ReportLines
import SubscriberContract.Proofs.Exchange.ModuleId
import SubscriberContract.Proofs.Model.Description
import SubscriberContract.Proofs.Validation.PrintedErrors
import SubscriberContract.Proofs.Report.Marks
import SubscriberContract.Proofs.Runs.Sources
import SubscriberContract.Proofs.Runs.Configuration
