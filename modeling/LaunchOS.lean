import LaunchOS.Lib.FirstCome
import LaunchOS.Lib.Run
import LaunchOS.Lib.Table
import LaunchOS.Lib.Txn
import LaunchOS.Lib.Versions
import LaunchOS.Runtime.Fencing
import LaunchOS.Runtime.Outbox
import LaunchOS.Runtime.SessionScope
import LaunchOS.Runtime.Redaction
import LaunchOS.Runtime.SecretSearch
import LaunchOS.AiRuntime.ContextIsolation
import LaunchOS.AiRuntime.DomainSteps
import LaunchOS.AiRuntime.PendingRuns
import LaunchOS.AiRuntime.RunBindings
import LaunchOS.AiRuntime.Schemas
import LaunchOS.AiRuntime.DomainTxn
import LaunchOS.Application.WorthInfix
import LaunchOS.Application.DecisionWakeups
import LaunchOS.Application.ControllerGate
import LaunchOS.Application.WorthAgreement
import LaunchOS.Production.Wakeups
import LaunchOS.Production.AssetRevisions
import LaunchOS.Execution.AtMostOnce
import LaunchOS.Execution.WriteBoundary
import LaunchOS.Execution.ProposalMoves
import LaunchOS.Execution.Approvals
import LaunchOS.Execution.Deliveries
import LaunchOS.Execution.Telegram
import LaunchOS.Analytics.ZeroLegality
import LaunchOS.Analytics.Provenance
import LaunchOS.Analytics.Observations
import LaunchOS.Analytics.ChatScope
import LaunchOS.Analytics.PollBatch
import LaunchOS.Analytics.ExactlyOnce
import LaunchOS.Analytics.Recalculation
import LaunchOS.Analytics.EventTimes
import LaunchOS.Analytics.LearningOnce
import LaunchOS.Analytics.Acknowledge
import LaunchOS.Analytics.Attribution
import LaunchOS.Application.Supersession
import LaunchOS.Application.EvidenceStatuses
import LaunchOS.Application.ReadyAssets
import LaunchOS.Application.ContextRefs
import LaunchOS.Application.DecisionMoves
import LaunchOS.Application.RevisionBound
import LaunchOS.Application.Phase6Moves
import LaunchOS.Application.Checkpoints
import LaunchOS.Application.Exposure
import LaunchOS.Application.PriorDecisions
import LaunchOS.Application.Adaptation
import LaunchOS.Runtime.JobRepresentation
import LaunchOS.Persistence.ReferenceClosure
import LaunchOS.Application.CheckpointClasses
import LaunchOS.Application.Objections
import LaunchOS.AiRuntime.Registry
import LaunchOS.AiRuntime.RequiredContext
import LaunchOS.AiRuntime.RunContexts
import LaunchOS.Application.DecisionContexts
import LaunchOS.Production.AssetContexts
import LaunchOS.Domain.Epistemic
import LaunchOS.AiRuntime.ContextText
import LaunchOS.Application.PublicationTrace
import LaunchOS.AiRuntime.RunHistory
