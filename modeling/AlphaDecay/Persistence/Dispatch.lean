import AlphaDecay.Persistence.Mutation

/-!
# Dispatching a permit and recording what came of it

A permit is acquired for one dispatch. The outcome of the dispatch, or of a targeted lookup after
it, is recorded as an observation of the attempt, and consumes the permit.
-/

namespace AlphaDecay

open Foundation Table

/-! ## The permit of a claim -/

structure ClaimedPermit where
  permit : BrokerMutationPermit
  intent : ExecutionIntentRow
  account : AccountRoleRow

/-- Read a permit whose intent the caller has claimed. -/
def claimedPermit (db : Database) (permitId : Uuid) (claim : ExecutionIntent) :
    Except Failure ClaimedPermit := do
  let permit ← require (db.permit permitId) .key
  let intent ← require (db.intent permit.intentId) (.blocked "BROKER_PERMIT_INTENT_MISSING")
  let account ← require (db.account intent.accountRole) (.blocked "ACCOUNT_NOT_REGISTERED")
  verifyClaimFence intent account claim
  return { permit, intent, account }

/-- A permit was issued under the claim that its intent still has. -/
def fenceHolds (permit : BrokerMutationPermit) (intent : ExecutionIntentRow) : Bool :=
  permit.intentDigest == intent.intentDigest && intent.claimToken == some permit.claimToken &&
  permit.claimGeneration == intent.claimGeneration &&
  permit.executionEpoch == intent.executionEpoch

/-- Require that a permit was issued under the claim that its intent still has. -/
def verifyPermitFence (permit : BrokerMutationPermit) (intent : ExecutionIntentRow) :
    Except Failure Unit :=
  raiseIf (permit.intentId != intent.intentId || !fenceHolds permit intent)
    (.blocked "BROKER_PERMIT_FENCE_MISMATCH")

def Database.attempt (db : Database) (intentId : Uuid) (ordinal : Int) : Option OrderAttemptRow :=
  db.attempts.rows.find? fun row => row.intentId == intentId && row.ordinal == ordinal

/-! ## Acquiring a dispatch -/

/-- Require that a permit carries the material of its attempt. -/
def verifyPermitMaterial (permit : BrokerMutationPermit) (attempt : OrderAttemptRow)
    (intent : ExecutionIntentRow) : Except Failure Unit :=
  raiseIf (!sameDecimal permit.limitPrice (some (attempt.limitPrice.getD intent.minimumLimit)) ||
    permit.quoteHash != attempt.quoteHash ||
    permit.quoteSourceTimestamps != attempt.quoteSourceTimestamps ||
    permit.quoteRetrievedAt != attempt.quoteRetrievedAt ||
    permit.timingAuthorityAt != attempt.timingAuthorityAt ||
    permit.priorRequestHash != attempt.priorRequestHash)
    (.blocked "BROKER_PERMIT_MATERIAL_MISMATCH")

/-- A time lies in the recent past. -/
def isRecent (t now : Int) : Bool :=
  t ≤ now && now - t ≤ maxQuoteAge

/-- Require that a replacement is dispatched before the cancel is due and on fresh quotes. -/
def validateReplacementDispatchAuthority (attempt : OrderAttemptRow)
    (initialPermit : BrokerMutationPermit) (now : Int) : Except Failure Unit := do
  let dispatchAcquiredAt ←
    require initialPermit.dispatchAcquiredAt (.blocked "INITIAL_DISPATCH_TIME_MISSING")
  raiseIf (cancelDue ≤ now - dispatchAcquiredAt) (.blocked "REPLACEMENT_CANCEL_DUE")
  raiseIf (attempt.quoteSourceTimestamps.isEmpty ||
    !attempt.quoteRetrievedAt.any (isRecent · now) ||
    !attempt.timingAuthorityAt.any (isRecent · now) ||
    !attempt.quoteSourceTimestamps.all (isRecent · now)) (.blocked "REPLACEMENT_QUOTE_STALE")

/-- Require that the dispatch of a replacement is authorized at a time. -/
def requireReplacementDispatch (db : Database) (permit : BrokerMutationPermit)
    (attempt : OrderAttemptRow) (now : Int) : Except Failure Unit := do
  let initial ← require (db.attempt permit.intentId 0) (.blocked "INITIAL_ATTEMPT_MISSING")
  raiseIf (permit.expiresAt ≤ now) (.blocked "BROKER_PERMIT_EXPIRED")
  let initialPermit ← creationPermit initial (db.permitsOf permit.intentId)
  validateReplacementDispatchAuthority attempt initialPermit now

/-- Require that the dispatch of a permit is authorized at a time, where it is a replacement. -/
def requireDispatchAuthority (db : Database) (permit : BrokerMutationPermit)
    (attempt : OrderAttemptRow) (now : Int) : Except Failure Unit :=
  if permit.mutationKind = .replace then requireReplacementDispatch db permit attempt now
  else .ok ()

/-- A permit can be acquired at a time. -/
def acquirable (permit : BrokerMutationPermit) (now : Int) : Bool :=
  permit.state == .prepared && permit.dispatchNonce.isNone && permit.dispatchAcquiredAt.isNone &&
  permit.consumedAt.isNone && permit.outcomeHash.isNone && now < permit.expiresAt

def dispatchPermit (now : Int) (nonce : Uuid) (permit : BrokerMutationPermit) :
    BrokerMutationPermit :=
  { permit with
    state := .dispatching
    dispatchNonce := some nonce
    dispatchAcquiredAt := some now }

/-- The time of a dispatch. The clock is read again before a replacement is dispatched. -/
def dispatchTime (permit : BrokerMutationPermit) (start now : Int) : Int :=
  if permit.mutationKind = .replace then now else start

def acquireBrokerDispatch (db : Database) (permitId : Uuid) (claim : ExecutionIntent)
    (start now : Int) (nonce : Uuid) : Except Failure (Database × BrokerMutationPermit) := do
  let { permit, intent, account } ← claimedPermit db permitId claim
  raiseIf account.executionLocked (.blocked "ACCOUNT_EXECUTION_LOCKED")
  raiseIf (permit.state != .prepared) (.blocked "BROKER_PERMIT_NOT_PREPARED")
  raiseIf (permit.expiresAt ≤ start) (.blocked "BROKER_PERMIT_EXPIRED")
  raiseIf (!fenceHolds permit intent) (.blocked "BROKER_PERMIT_FENCE_MISMATCH")
  let attempt ← require (db.attempt permit.intentId permit.attemptOrdinal)
    (.blocked "BROKER_PERMIT_ATTEMPT_MISSING")
  verifyPermitMaterial permit attempt intent
  requireDispatchAuthority db permit attempt now
  let dispatchedAt := dispatchTime permit start now
  raiseIf (!acquirable permit dispatchedAt) (.blocked "BROKER_PERMIT_NOT_PREPARED")
  let db ← db.changePermits [permitId] (dispatchPermit dispatchedAt nonce)
  return (db, dispatchPermit dispatchedAt nonce permit)

/-- A permit whose dispatch may or may not have reached the broker. -/
def ambiguousPermit (permit : BrokerMutationPermit) : BrokerMutationPermit :=
  { permit with state := .lookupOnly }

def markBrokerDispatchAmbiguous (db : Database) (permitId : Uuid) (nonce : Uuid)
    (claim : ExecutionIntent) : Except Failure (Database × BrokerMutationPermit) := do
  let { permit, intent, account := _ } ← claimedPermit db permitId claim
  raiseIf (permit.state != .dispatching) (.blocked "BROKER_PERMIT_NOT_DISPATCHING")
  raiseIf (permit.dispatchNonce != some nonce) (.blocked "BROKER_DISPATCH_NONCE_MISMATCH")
  verifyPermitFence permit intent
  let db ← db.changePermits [permitId] ambiguousPermit
  return (db, ambiguousPermit permit)

/-! ## Observations -/

/-- An attempt as a document. -/
def attemptToJson (attempt : OrderAttempt) : Json :=
  .object [
    ("intent_id", .text attempt.intentId.toText),
    ("ordinal", .number attempt.ordinal),
    ("client_order_id", .text attempt.clientOrderId),
    ("request_hash", .text attempt.requestHash),
    ("state", .text attempt.state.text),
    ("replaces_client_order_id", Json.ofOptional .text attempt.replacesClientOrderId),
    ("provider_order_id", Json.ofOptional .text attempt.providerOrderId),
    ("filled_quantity", .number attempt.filledQuantity),
    ("quantity", .number attempt.quantity),
    ("fill_cash_flow", Json.ofOptional decimalText attempt.fillCashFlow),
    ("limit_price", Json.ofOptional decimalText attempt.limitPrice),
    ("quote_hash", Json.ofOptional .text attempt.quoteHash),
    ("quote_source_timestamps", .array (attempt.quoteSourceTimestamps.map timeText)),
    ("quote_retrieved_at", Json.ofOptional timeText attempt.quoteRetrievedAt),
    ("timing_authority_at", Json.ofOptional timeText attempt.timingAuthorityAt),
    ("prior_request_hash", Json.ofOptional .text attempt.priorRequestHash)]

variable [Digest]

def observationHash (permit : BrokerMutationPermit) (sequence : Int)
    (source : AttemptObservationSource) (observed : Option OrderAttempt) (observedAt : Int) :
    String :=
  Digest.authorityHash (.object [
    ("domain", .text "alphadecay.attempt-observation.v1"),
    ("permit_id", .text permit.permitId.toText),
    ("intent_id", .text permit.intentId.toText),
    ("attempt_ordinal", .number permit.attemptOrdinal),
    ("sequence", .number sequence),
    ("source", .text source.text),
    ("observed_attempt", Json.ofOptional attemptToJson observed),
    ("observed_at", timeText observedAt)])

/-- The observation of the attempt of a permit that follows those on record. -/
def nextObservation (permit : BrokerMutationPermit) (attemptId : Uuid)
    (observations : List AttemptObservationRow) (source : AttemptObservationSource)
    (observed : Option OrderAttempt) (observedAt : Int) : AttemptObservationRow :=
  let sequence := observations.length + 1
  let hash := observationHash permit sequence source observed observedAt
  { observationId := Digest.uuid5 ("alphadecay:attempt-observation:" ++ hash)
    permitId := permit.permitId
    intentId := permit.intentId
    attemptOrdinal := permit.attemptOrdinal
    sequence
    source
    observedAttempt := observed
    observedAt
    observationHash := hash
    attemptId }

/-- Require that the lookup of a cancel comes after the horizon of its dispatch. -/
def requireCancelHorizon (settings : RepositorySettings) (permit : BrokerMutationPermit)
    (now : Int) : Except Failure Unit := do
  let dispatchAcquiredAt ←
    require permit.dispatchAcquiredAt (.blocked "BROKER_DISPATCH_TIME_MISSING")
  raiseIf (now < horizonEnd permit dispatchAcquiredAt settings.networkCallHorizon)
    (.blocked "CANCEL_LOOKUP_HORIZON_ACTIVE")

/-- Require that an absence is reported after the horizon of its dispatch, where it is a cancel. -/
def requireAbsenceHorizon (settings : RepositorySettings) (permit : BrokerMutationPermit)
    (now : Int) : Except Failure Unit :=
  if permit.mutationKind = .cancel then requireCancelHorizon settings permit now else .ok ()

/-- A permit whose order may be looked up. -/
def mayBeLookedUp (state : PermitState) : Bool :=
  state == .consumed || state == .lookupOnly

/-- Require that a source may report on a permit at a time. -/
def requireObservationSource (settings : RepositorySettings) (permit : BrokerMutationPermit)
    (source : AttemptObservationSource) (nonce : Option Uuid) (now : Int) : Except Failure Unit :=
  match source with
  | .dispatchOutcome => do
      raiseIf (permit.state != .dispatching) (.blocked "BROKER_PERMIT_NOT_DISPATCHING")
      raiseIf (nonce.isNone || permit.dispatchNonce != nonce)
        (.blocked "BROKER_DISPATCH_NONCE_MISMATCH")
  | .targetedLookup => do
      raiseIf (nonce.isSome || !mayBeLookedUp permit.state)
        (.blocked "TARGETED_LOOKUP_NOT_AUTHORIZED")
      if permit.mutationKind = .cancel ∧ permit.state = .lookupOnly then
        requireCancelHorizon settings permit now
  | .targetedLookupFailure => .error (.blocked "ATTEMPT_OBSERVATION_SOURCE_INVALID")

/-- Everything of an attempt that an observation cannot change. -/
def sameRequest (existing observed : OrderAttempt) : Bool :=
  observed.clientOrderId == existing.clientOrderId &&
  observed.requestHash == existing.requestHash &&
  observed.replacesClientOrderId == existing.replacesClientOrderId &&
  sameDecimal observed.limitPrice existing.limitPrice &&
  observed.quoteHash == existing.quoteHash &&
  observed.quoteSourceTimestamps == existing.quoteSourceTimestamps &&
  observed.quoteRetrievedAt == existing.quoteRetrievedAt &&
  observed.timingAuthorityAt == existing.timingAuthorityAt &&
  observed.priorRequestHash == existing.priorRequestHash

def observedRow (observed : OrderAttempt) (row : OrderAttemptRow) : OrderAttemptRow :=
  { row with
    state := observed.state
    providerOrderId := observed.providerOrderId
    filledQuantity := observed.filledQuantity
    quantity := observed.quantity
    fillCashFlow := observed.fillCashFlow }

/-- An order that is still open stays to be looked up, unless it is filled in all but name. -/
def lookupPending (permit : BrokerMutationPermit) (observed : OrderAttempt) : Bool :=
  permit.state == .lookupOnly &&
  (permit.mutationKind == .submit || permit.mutationKind == .replace) &&
  observed.state.satisfies BrokerOrderState.isPending &&
  !(observed.state == .broker .calculated && observed.filledQuantity == observed.quantity)

def consumes (permit : BrokerMutationPermit) (observed : OrderAttempt) : Bool :=
  permit.state == .dispatching || (permit.state == .lookupOnly && !lookupPending permit observed)

def consumePermit (now : Int) (outcomeHash : String) (permit : BrokerMutationPermit) :
    BrokerMutationPermit :=
  { permit with state := .consumed, consumedAt := some now, outcomeHash := some outcomeHash }

/-- Write an observation, what it shows of the attempt, and that it consumes the permit. -/
def writeObservation (db : Database) (permit : BrokerMutationPermit) (row : OrderAttemptRow)
    (observed : OrderAttempt) (observation : AttemptObservationRow) (now : Int) :
    Except Failure Database := do
  let db ← db.changeAttempt row.attemptId (observedRow observed)
  let db ← db.changePermits (if consumes permit observed then [permit.permitId] else [])
    (consumePermit now observation.observationHash)
  db.addObservation observation

/-- Record what a dispatch or a lookup showed of an attempt. -/
def recordAttemptObservation (settings : RepositorySettings) (db : Database) (permitId : Uuid)
    (observed : OrderAttempt) (source : AttemptObservationSource) (claim : ExecutionIntent)
    (nonce : Option Uuid) (now : Int) : Except Failure (Database × AttemptObservation) := do
  let { permit, intent, account } ← claimedPermit db permitId claim
  raiseIf (account.executionLocked && source != .targetedLookup)
    (.blocked "ACCOUNT_EXECUTION_LOCKED")
  let attempts := db.attemptsOf intent.intentId
  verifyPermitFence permit intent
  requireObservationSource settings permit source nonce now
  raiseIf (observed.intentId != intent.intentId || observed.ordinal != permit.attemptOrdinal)
    (.blocked "ATTEMPT_OBSERVATION_LINEAGE_MISMATCH")
  let row ← require (attempts.find? fun row => row.ordinal == observed.ordinal)
    (.blocked "ATTEMPT_NOT_FOUND")
  let existing := attemptFromRow row attempts
  raiseIf (!sameRequest existing observed) (.blocked "ATTEMPT_IMMUTABLE_FIELDS_MISMATCH")
  validateAttemptObservation existing observed
  let observation := nextObservation permit row.attemptId (db.observationsOf intent.intentId) source
    (some observed) now
  let db ← writeObservation db permit row observed observation now
  return (db, observation.toAttemptObservation)

def recordAttemptLookupFailure (db : Database) (permitId : Uuid) (claim : ExecutionIntent)
    (now : Int) : Except Failure (Database × AttemptObservation) := do
  let { permit, intent, account := _ } ← claimedPermit db permitId claim
  verifyPermitFence permit intent
  raiseIf (!mayBeLookedUp permit.state) (.blocked "TARGETED_LOOKUP_NOT_AUTHORIZED")
  let target ← require (db.attempt intent.intentId permit.attemptOrdinal)
    (.blocked "ATTEMPT_NOT_FOUND")
  let observation := nextObservation permit target.attemptId (db.observationsOf intent.intentId)
    .targetedLookupFailure none now
  let db ← db.addObservation observation
  return (db, observation.toAttemptObservation)

/-- Lock the account of an intent, unless the permit creates the order that was not found. -/
def latchMissing (db : Database) (permit : BrokerMutationPermit) (role : AccountRole) (now : Int)
    (lockId : Uuid) : Except Failure Database :=
  if permit.mutationKind = .submit ∨ permit.mutationKind = .replace then .ok db
  else db.changeAccount role (latchAccount "RECONCILIATION_MISMATCH" now lockId)

/-- Record that a lookup found no order. The order of a cancel must be there. -/
def recordAttemptAbsence (settings : RepositorySettings) (db : Database) (permitId : Uuid)
    (source : AttemptObservationSource) (claim : ExecutionIntent) (now : Int) (lockId : Uuid) :
    Except Failure (Database × AttemptObservation) := do
  raiseIf (source != .targetedLookup) (.blocked "ATTEMPT_ABSENCE_SOURCE_INVALID")
  let { permit, intent, account := _ } ← claimedPermit db permitId claim
  verifyPermitFence permit intent
  raiseIf (!mayBeLookedUp permit.state) (.blocked "TARGETED_LOOKUP_NOT_AUTHORIZED")
  let target ← require ((db.attemptsOf intent.intentId).find? fun row =>
    row.ordinal == permit.attemptOrdinal) (.blocked "ATTEMPT_NOT_FOUND")
  requireAbsenceHorizon settings permit now
  let observation := nextObservation permit target.attemptId (db.observationsOf intent.intentId)
    source none now
  let db ← latchMissing db permit intent.accountRole now lockId
  let db ← db.addObservation observation
  return (db, observation.toAttemptObservation)

end AlphaDecay
