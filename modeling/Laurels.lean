import Laurels.Criteria.Evaluation
import Laurels.Fetched
import Laurels.Pool
import Laurels.Proposal
import Laurels.Session
import Laurels.Settings
import Laurels.Proofs.Standing
import Laurels.Proofs.History
import Laurels.Proofs.AwardHistory
import Laurels.Proofs.CallHistory
import Laurels.Proofs.ExactlyOnce
import Laurels.Proofs.CallQueries
import Laurels.Proofs.ViewerIds
import Laurels.Proofs.NoneMissed
import Laurels.Proofs.AwardRun
import Laurels.Proofs.Closeness
import Laurels.Proofs.ReportRun
import Laurels.Proofs.Unanswered
import Laurels.Proofs.Isolation
import Laurels.Proofs.Permanence
import Laurels.Proofs.Agreement
import Laurels.Proofs.Batch
import Laurels.Proofs.Confluence
import Laurels.Proofs.Deserved
import Laurels.Proofs.Criteria.Acceptance
import Laurels.Proofs.Restriction
import Laurels.Proofs.Criteria.ActionRule
import Laurels.Proofs.Recording
import Laurels.Proofs.Apart
import Laurels.Proofs.EventFirst
import Laurels.Proofs.Rerun
import Laurels.Proofs.Validation
import Laurels.Proofs.Share
import Laurels.Proofs.Nearing
import Laurels.Proofs.MissingTables
import Laurels.Proofs.NoneLost
import Laurels.Proofs.Snapshots
import Laurels.Proofs.Readers
import Laurels.Proofs.UnknownMetrics
import Laurels.Proofs.Consistent
import Laurels.Proofs.Criteria.Composition
import Laurels.Proofs.Criteria.Names
import Laurels.Proofs.Migration
import Laurels.Proofs.Pipeline
import Laurels.Proofs.ViewerRoutes
import Laurels.Proofs.FirstSeen
