import AlphaDecay.Execution.Reconciliation

/-!
# Permits of broker mutations

A permit authorizes one broker mutation: the submission, replacement or cancel of one attempt. It
is prepared, acquired for one dispatch and consumed by the outcome, or it expires undispatched.
-/

namespace AlphaDecay

open Foundation

/-- Where an observation of an attempt comes from. -/
inductive AttemptObservationSource where
  | dispatchOutcome
  | targetedLookup
  | targetedLookupFailure
deriving DecidableEq, Repr

/-- The written form of a source. -/
def AttemptObservationSource.text : AttemptObservationSource → String
  | dispatchOutcome => "DISPATCH_OUTCOME"
  | targetedLookup => "TARGETED_LOOKUP"
  | targetedLookupFailure => "TARGETED_LOOKUP_FAILURE"

/-- The life of a permit. -/
inductive PermitState where
  | prepared
  | dispatching
  | lookupOnly
  | consumed
  | expired
deriving DecidableEq, Repr

/-- The permit may still lead to a broker mutation or has one in flight. -/
def PermitState.isActive : PermitState → Bool
  | prepared | dispatching | lookupOnly => true
  | consumed | expired => false

structure BrokerMutationPermit where
  permitId : Uuid
  reconciliationId : Uuid
  intentId : Uuid
  intentDigest : String
  claimToken : Uuid
  claimGeneration : Int
  executionEpoch : Int
  mutationKind : ReconciliationPurpose
  attemptOrdinal : Int
  generation : Int
  predecessorPermitId : Option Uuid
  requestHash : String
  targetClientOrderId : Option String
  targetProviderOrderId : Option String
  issuedAt : Int
  expiresAt : Int
  state : PermitState
  dispatchNonce : Option Uuid := none
  dispatchAcquiredAt : Option Int := none
  consumedAt : Option Int := none
  outcomeHash : Option String := none
  limitPrice : Option Decimal := none
  quoteHash : Option String := none
  quoteSourceTimestamps : List Int := []
  quoteRetrievedAt : Option Int := none
  timingAuthorityAt : Option Int := none
  priorRequestHash : Option String := none

structure AttemptObservation where
  observationId : Uuid
  permitId : Uuid
  intentId : Uuid
  attemptOrdinal : Int
  sequence : Int
  source : AttemptObservationSource
  observedAttempt : Option OrderAttempt
  observedAt : Int
  observationHash : String

/-- The result of a preparation: the reconciliation it made, and the permit and attempt where one
was authorized. -/
structure BrokerMutationPreparation where
  reconciliation : WholeAccountReconciliation
  permit : Option BrokerMutationPermit
  attempt : Option OrderAttempt

structure BrokerMutationPlan where
  expectation : ReconciliationExpectation
  attempt : OrderAttempt

/-- The mutation that is due, with the time it is decided at. -/
structure BrokerMutationSchedule where
  purpose : ReconciliationPurpose
  timingAuthorityAt : Int
deriving DecidableEq, Repr

end AlphaDecay
