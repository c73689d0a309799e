import PaymentAllocation.Main
import PaymentAllocation.Proofs.CompiledRules
import PaymentAllocation.Proofs.Expansions
import PaymentAllocation.Proofs.Paths
import PaymentAllocation.Proofs.Origins
import PaymentAllocation.Proofs.Reports
import PaymentAllocation.Proofs.UnknownComponents
import PaymentAllocation.Proofs.Rearrangement
import PaymentAllocation.Proofs.PolicyFindings
import PaymentAllocation.Proofs.Registrations
import PaymentAllocation.Proofs.JsonTexts
import PaymentAllocation.Proofs.Satisfiability
import PaymentAllocation.Proofs.Documents
import PaymentAllocation.Proofs.RoundTrips
import PaymentAllocation.Proofs.EntryFindings
import PaymentAllocation.Proofs.OrderFindings
import PaymentAllocation.Proofs.Resubmission
import PaymentAllocation.Proofs.CompileRuns
import PaymentAllocation.Proofs.SlotNames
import PaymentAllocation.Proofs.Shorthand
import PaymentAllocation.Proofs.Tightening
import PaymentAllocation.Proofs.TypeFindings
import PaymentAllocation.Proofs.Vocabularies
import PaymentAllocation.Proofs.Suppression
import PaymentAllocation.Proofs.Duplicates
import PaymentAllocation.Proofs.Previews
import PaymentAllocation.Proofs.CompleteSets
