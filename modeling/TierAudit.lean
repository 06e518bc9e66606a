import TierAudit.Main
import TierAudit.Proofs.Check.Monotone
import TierAudit.Proofs.Check.Symmetry
import TierAudit.Proofs.CommandLine.CheckWord
import TierAudit.Proofs.Config.Complaints
import TierAudit.Proofs.Config.Credentials
import TierAudit.Proofs.Config.Layers
import TierAudit.Proofs.Config.Tiers
import TierAudit.Proofs.Preflight.Characters
import TierAudit.Proofs.Preflight.Isolation
import TierAudit.Proofs.Preflight.Project
import TierAudit.Proofs.Preflight.Scheduling
import TierAudit.Proofs.Preflight.Selection
import TierAudit.Proofs.Preflight.Shape
import TierAudit.Proofs.Program.ExitCode
import TierAudit.Proofs.Report.Json
import TierAudit.Proofs.Report.Junit
import TierAudit.Proofs.Report.Ledger
import TierAudit.Proofs.Report.Table
import TierAudit.Proofs.Report.Terminal
import TierAudit.Proofs.Substvar.Declarations
import TierAudit.Proofs.Substvar.Encodings
import TierAudit.Proofs.Substvar.Invariant
import TierAudit.Proofs.Substvar.RoundTrip
import TierAudit.Proofs.Substvar.Truncation
