import AlphaDecay.Agent.ClaimsDecided
import AlphaDecay.AgentCodec.Decisions
import AlphaDecay.Alpaca.Activities
import AlphaDecay.Evidence.Laws
import AlphaDecay.Experiments.PerformanceLaws
import AlphaDecay.Experiments.Revisions
import AlphaDecay.Experiments.TickAgreement
import AlphaDecay.Experiments.Windows
import AlphaDecay.Lifecycle.CloseMonotone
import AlphaDecay.Performance.Commitment
import AlphaDecay.Persistence.EntryCharge
import AlphaDecay.Persistence.EnvelopeIdentity
import AlphaDecay.Persistence.FeePostings
import AlphaDecay.Persistence.FillEvidence
import AlphaDecay.Persistence.KnownActivities
import AlphaDecay.Persistence.MemoryAtomicity
import AlphaDecay.Persistence.RoundTrip
import AlphaDecay.Persistence.SentOrders
import AlphaDecay.Policy.EvidenceScore
import AlphaDecay.Selection.Exhaustive
import AlphaDecay.Services.ExecutionOutcome
import AlphaDecay.Services.HaltFreshness
import AlphaDecay.Services.HaltLatch
import AlphaDecay.Services.HaltStreamRecovery
import AlphaDecay.Services.PlanVersions
import AlphaDecay.Services.Replacement
import AlphaDecay.StrategyBriefs.SelectionLaws
