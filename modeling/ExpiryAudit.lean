import ExpiryAudit.Host.Scripted
import ExpiryAudit.Main
import ExpiryAudit.Proofs.PostedBodies
import ExpiryAudit.Proofs.Act
import ExpiryAudit.Proofs.Evaluation
import ExpiryAudit.Proofs.Run
import ExpiryAudit.Proofs.Ambiguity
import ExpiryAudit.Proofs.Contents
import ExpiryAudit.Proofs.FalseAlarm
import ExpiryAudit.Proofs.FaultyWrite
import ExpiryAudit.Proofs.IgnoredLifetime
import ExpiryAudit.Proofs.Resumption
import ExpiryAudit.Proofs.Failure
import ExpiryAudit.Proofs.Averages
import ExpiryAudit.Proofs.RunReport
import ExpiryAudit.Proofs.RefusedLine
import ExpiryAudit.Proofs.HostAnswers
import ExpiryAudit.Proofs.Bookkeeping
import ExpiryAudit.Proofs.Coupling
import ExpiryAudit.Proofs.Independence
import ExpiryAudit.Proofs.OrderlyHistory
import ExpiryAudit.Proofs.Replay
import ExpiryAudit.Proofs.ReplayedRun
import ExpiryAudit.Proofs.ExpiryInstants
import ExpiryAudit.Proofs.ConstantExpectation
import ExpiryAudit.Proofs.StampedReplay
import ExpiryAudit.Proofs.ClashResidue
import ExpiryAudit.Proofs.ClosedReplay
import ExpiryAudit.Proofs.ServiceAnswers
import ExpiryAudit.Proofs.InvertedWindows
import ExpiryAudit.Proofs.WholeEvents
import ExpiryAudit.Proofs.ClashDecisions
import ExpiryAudit.Proofs.JsonCanonical
import ExpiryAudit.Proofs.Tampering
import ExpiryAudit.Proofs.Ledger
import ExpiryAudit.Proofs.LogicalContent
import ExpiryAudit.Proofs.Usage
import ExpiryAudit.Proofs.Conservation
import ExpiryAudit.Proofs.PayloadChecks
import ExpiryAudit.Proofs.Summaries
import ExpiryAudit.Proofs.ReportedSummaries
import ExpiryAudit.Proofs.FaultSorts
import ExpiryAudit.Proofs.Sparing
import ExpiryAudit.Proofs.BlamedLines
import ExpiryAudit.Proofs.TidyPaths
import ExpiryAudit.Proofs.GeneratedEvents
import ExpiryAudit.Proofs.GeneratedFiles
