import AlphaDecay.Execution.Exposure
import AlphaDecay.Persistence.Mutation

/-!
# Finalizing an execution

A finalization reconciles the whole account after the last order is finished, charges the budget,
stores the certificate of the execution and appends the next reconciliation state of the account.
-/

namespace AlphaDecay

open Foundation Table

/-! ## The budget -/

/-- The budget after an entry with a fill: its reservation is charged. -/
def chargedBudget (budget : CompetitionEntryBudgetRow) : CompetitionEntryBudgetRow :=
  { budget with
    entriesUsed := budget.entriesUsed + 1
    grossApprovedRisk := budget.grossApprovedRisk + budget.reservedRisk }

def withoutReservation (budget : CompetitionEntryBudgetRow) : CompetitionEntryBudgetRow :=
  { budget with reservedIntentId := none, reservedRisk := Decimal.ofInt 0 }

/-- What a finalization makes of the budget, and whether the intent has had its first fill. An
entry with a fill is checked against the limits again. -/
def applyBudgetFinalization (limits : Option EntryBudgetLimits) (intent : ExecutionIntentRow)
    (budget : CompetitionEntryBudgetRow) (account : AccountRoleRow) (hasFill : Bool) :
    Except Failure (CompetitionEntryBudgetRow × Bool) :=
  if intent.action = .entry then do
    raiseIf (budget.reservedIntentId != some intent.intentId)
      (.blocked "ENTRY_RESERVATION_MISSING")
    raiseIf (budget.reservedRisk != intent.approvedMaxLoss)
      (.blocked "ENTRY_RESERVATION_RISK_MISMATCH")
    if hasFill then do
      validateEntryLimits limits (proposedEntryOf intent account budget)
      return (withoutReservation (chargedBudget budget), true)
    else return (withoutReservation budget, intent.firstFillConsumed)
  else return (budget, hasFill || intent.firstFillConsumed)

/-! ## Certificates -/

/-- The provenance of a certificate. -/
structure Provenance where
  reconciliationId : Uuid
  reconciliationHash : String
  lastObservationHash : String

/-- A certificate names no provenance, or this one. -/
def provenanceFits (certificate : ExecutionCertificate) (expected : Provenance) : Bool :=
  (certificate.reconciliationId.isNone && certificate.reconciliationHash.isNone &&
    certificate.lastObservationHash.isNone) ||
  (certificate.reconciliationId == some expected.reconciliationId &&
    certificate.reconciliationHash == some expected.reconciliationHash &&
    certificate.lastObservationHash == some expected.lastObservationHash)

/-- A certificate with a provenance and the exposure that was found. -/
def certificateWith (certificate : ExecutionCertificate) (provenance : Provenance)
    (actualExposure : Option GreekExposure) : Except Failure ExecutionCertificate :=
  ExecutionCertificate.make { certificate.toExecutionCertificateFields with
    reconciliationId := some provenance.reconciliationId
    reconciliationHash := some provenance.reconciliationHash
    lastObservationHash := some provenance.lastObservationHash
    actualExposure }

/-! ## Rows that a finalization reads -/

/-- The time of the first dispatch of some permits. -/
def firstDispatch (permits : List BrokerMutationPermit) : Option Int :=
  (permits.filterMap fun permit => permit.dispatchAcquiredAt).min?

/-- The time at which the origin of an intent must have been valid: its first dispatch. -/
def originTime (permits : List BrokerMutationPermit) (now : Int) : Int :=
  (firstDispatch permits).elim now (min now)

/-- Everything that a finalization reads of an intent. -/
structure FinalizationRows where
  intent : ExecutionIntentRow
  account : AccountRoleRow
  budget : CompetitionEntryBudgetRow
  state : AccountReconciliationStateRow
  attempts : List OrderAttemptRow
  observations : List AttemptObservationRow
  latestPermit : Option BrokerMutationPermit

variable [Digest]

/-- Read the rows of an intent that a caller has claimed and that was authorized when it was
dispatched. -/
def readFinalization (db : Database) (claim : ExecutionIntent) (now : Int) :
    Except Failure FinalizationRows := do
  let intent ← require (db.intent claim.intentId) .key
  let account ← require (db.account intent.accountRole) (.blocked "ACCOUNT_NOT_REGISTERED")
  let budget ← require (db.budget intent.accountRole) (.blocked "ACCOUNT_NOT_REGISTERED")
  verifyClaimFence intent account claim
  let permits := db.permitsOf intent.intentId
  let value ← intentFromRow db intent
  validateOrigin db value (originTime permits now)
  requireSubmissionBaseline db intent.accountRole
  let state ← require (db.latestState intent.accountRole) (.blocked "RECONCILIATION_STATE_REQUIRED")
  let observations := db.observationsOf intent.intentId
  let attempts ← executionAttemptRows (db.attemptsOf intent.intentId) permits
  return {
    intent
    account
    budget
    state
    attempts
    observations
    latestPermit := observations.getLast?.bind fun latest =>
      permits.find? fun permit => permit.permitId == latest.permitId }

/-! ## The transaction -/

/-- The reconciliation that a finalization derives from a safe sweep. -/
def derivedReconciliation (actualExposure : Option GreekExposure) : Reconciliation where
  terminal := true
  remainderAbsent := true
  matchesExpected := true
  assignmentSuspected := false
  actualExposure

/-- The reconciliation state after a finalization. -/
def nextState (rows : FinalizationRows) (evaluated : WholeAccountReconciliation) (now : Int) :
    Except Failure AccountReconciliationState :=
  AccountReconciliationState.fromRepositoryState {
    accountRole := rows.intent.accountRole
    accountFingerprint := rows.state.accountFingerprint
    baselineCapturedAt := rows.state.baselineCapturedAt
    acceptedAt := now
    expectedCash := evaluated.expectation.expectedCash
    expectedPositions := evaluated.expectation.expectedPositions
    expectedOpenOrders := evaluated.expectation.expectedOpenOrders
    knownActivities := evaluated.sweep.activities
    activityCompleteThrough := evaluated.sweep.activityPagination.visibilityCompleteThrough
    resolvedActivityHashes := evaluated.expectation.resolvedActivityHashes }

def nextStateRow (rows : FinalizationRows) (evaluated : WholeAccountReconciliation)
    (permit : BrokerMutationPermit) (latest : AttemptObservationRow)
    (state : AccountReconciliationState) : AccountReconciliationStateRow where
  toAccountReconciliationStateFields := state.toAccountReconciliationStateFields
  stateId := state.stateId
  sequence := rows.state.sequence + 1
  baselineId := rows.state.baselineId
  predecessorStateId := some rows.state.stateId
  authorityReconciliationId := some evaluated.reconciliationId
  authorityPermitId := some permit.permitId
  authorityObservationId := some latest.observationId
  authorityPermitRequestHash := some permit.requestHash
  stateHash := state.stateHash

/-- The account after a finalization: a partial fill that stays locks it. -/
def finalizedAccount (hasFill : Bool) (requestedStatus : String) (now : Int) (lockId : Uuid)
    (account : AccountRoleRow) : AccountRoleRow :=
  if hasFill && "PARTIAL_".toList.isPrefixOf requestedStatus.toList then
    latchAccount "UNMANAGED_PARTIAL_EXPOSURE" now lockId account
  else account

/-- Write a finalization: the account, the budget, the next state, the certificate and the end of
the intent. -/
def writeFinalization (settings : RepositorySettings) (db : Database) (rows : FinalizationRows)
    (evaluated : WholeAccountReconciliation) (latest : AttemptObservationRow)
    (certificate : ExecutionCertificate) (hasFill : Bool) (requestedStatus : String) (now : Int)
    (lockId : Uuid) : Except Failure Database := do
  let change := finalizedAccount hasFill requestedStatus now lockId
  let role := rows.intent.accountRole
  let (budget, consumed) ← applyBudgetFinalization settings.entryLimits rows.intent rows.budget
    (change rows.account) hasFill
  let db ← db.changeAccount role change
  let db ← db.changeBudget role fun _ => budget
  let state ← nextState rows evaluated now
  let permit ← require rows.latestPermit .missing
  let db ← db.changeIntent rows.intent.intentId fun row =>
    { row with state := .terminal, firstFillConsumed := consumed }
  let db ← db.addState (nextStateRow rows evaluated permit latest state)
  db.addCertificate certificate

/-- Lock the account of an intent and return no certificate. -/
def latchedFinalization (db : Database) (role : AccountRole) (reason : String) (now : Int)
    (lockId : Uuid) : Except Failure (Database × Option ExecutionCertificate) := do
  let db ← db.changeAccount role (latchAccount reason now lockId)
  return (db, none)

/-- Finalize after a safe reconciliation. Evidence of the exposure that does not hold locks the
account. -/
def certifyFinalization (settings : RepositorySettings) (db : Database) (rows : FinalizationRows)
    (evaluated : WholeAccountReconciliation) (latest : AttemptObservationRow)
    (certificate : ExecutionCertificate) (requestedStatus : String)
    (positionGreeks : List PositionGreekObservation) (now : Int) (lockId : Uuid) :
    Except Failure (Database × Option ExecutionCertificate) := do
  let provenance : Provenance :=
    ⟨evaluated.reconciliationId, evaluated.reconciliationHash, latest.observationHash⟩
  raiseIf (!provenanceFits certificate provenance) (.blocked "CERTIFICATE_RECONCILIATION_MISMATCH")
  match reconcileActualExposure evaluated.sweep.finalPositions positionGreeks now with
  | .error (.blocked _) =>
      latchedFinalization db rows.intent.accountRole "RECONCILIATION_MISMATCH" now lockId
  | .error failure => .error failure
  | .ok actualExposure => do
      let certificate ← certificateWith certificate provenance actualExposure
      let intent ← intentFromRow db rows.intent
      let (normalized, hasFill) ← validateFinalization intent (attemptsFromRows rows.attempts)
        certificate (derivedReconciliation actualExposure) requestedStatus now
      let db ← writeFinalization settings db rows evaluated latest normalized hasFill
        requestedStatus now lockId
      return (db, some normalized)

/-- Reconcile the account with an expectation, and finalize where that is safe. -/
def reconcileFinalization (settings : RepositorySettings) (db : Database)
    (rows : FinalizationRows) (sweep : SweepObservation) (expectation : ReconciliationExpectation)
    (certificate : ExecutionCertificate) (requestedStatus : String)
    (positionGreeks : List PositionGreekObservation) (now : Int) (lockId : Uuid) :
    Except Failure (Database × Option ExecutionCertificate) := do
  let evaluated ← WholeAccountReconciliation.evaluate sweep expectation now
  let db ← db.addReconciliation (reconciliationRow evaluated)
  let latest ← require rows.observations.getLast? .missing
  raiseIf (sweep.retrievalStartedAt < latest.observedAt)
    (.blocked "FINAL_RECONCILIATION_PRECEDES_OBSERVATION")
  match unsafeReason evaluated with
  | some reason => latchedFinalization db rows.intent.accountRole reason now lockId
  | none =>
      certifyFinalization settings db rows evaluated latest certificate requestedStatus
        positionGreeks now lockId

def finalizeExecutionAuthorized (settings : RepositorySettings) (db : Database)
    (certificate : ExecutionCertificate) (sweep : SweepObservation) (requestedStatus : String)
    (claim : ExecutionIntent) (positionGreeks : List PositionGreekObservation) (now : Int)
    (lockId : Uuid) : Except Failure (Database × Option ExecutionCertificate) :=
  conflictAs "CERTIFICATE_IMMUTABLE" do
    let rows ← readFinalization db claim now
    match finalReconciliationExpectationFromRows rows.intent rows.state rows.attempts
      rows.observations rows.latestPermit (some sweep.activities) with
    | .ok expectation =>
        reconcileFinalization settings db rows sweep expectation certificate requestedStatus
          positionGreeks now lockId
    | .error failure =>
        if isEvidenceFailure failure then
          latchedFinalization db rows.intent.accountRole "RECONCILIATION_MISMATCH" now lockId
        else .error failure

end AlphaDecay
