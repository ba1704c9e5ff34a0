import AlphaDecay.Persistence.Expectation
import AlphaDecay.Persistence.Origin

/-!
# Preparing a broker mutation

A preparation reconciles the whole account and issues the permit of one submission, replacement or
cancel. A sweep that does not match what is expected locks the account instead. Everything happens
in one transaction: it returns the new database, or raises and leaves the database as it was.
-/

namespace AlphaDecay

open Foundation Table

/-! ## Settings -/

/-- The settings of a repository. All times are positive. -/
structure RepositorySettings where
  permitTtl : Int
  retryablePermitTtl : Int
  networkCallHorizon : Int
  entryLimits : Option EntryBudgetLimits
  permitTtl_pos : 0 < permitTtl
  retryablePermitTtl_pos : 0 < retryablePermitTtl
  networkCallHorizon_pos : 0 < networkCallHorizon

/-- Build settings. Permits that can be retried live as long as the others by default. -/
def RepositorySettings.make (permitTtl : Int) (retryablePermitTtl : Option Int)
    (networkCallHorizon : Int) (entryLimits : Option EntryBudgetLimits) :
    Except Failure RepositorySettings :=
  if h : 0 < permitTtl ∧ 0 < retryablePermitTtl.getD permitTtl ∧ 0 < networkCallHorizon then
    .ok {
      permitTtl
      retryablePermitTtl := retryablePermitTtl.getD permitTtl
      networkCallHorizon
      entryLimits
      permitTtl_pos := h.1
      retryablePermitTtl_pos := h.2.1
      networkCallHorizon_pos := h.2.2 }
  else .error (.value "BROKER_PERMIT_TTL_INVALID")

/-- How long a permit of a mutation lives. -/
def RepositorySettings.ttl (settings : RepositorySettings) : ReconciliationPurpose → Int
  | .replace | .cancel => settings.retryablePermitTtl
  | _ => settings.permitTtl

/-! ## Locks -/

def latchAccount (reason : String) (lockedAt : Int) (lockId : Uuid) (account : AccountRoleRow) :
    AccountRoleRow :=
  { account with
    executionLocked := true
    executionLockReason := some reason
    executionLockedAt := some lockedAt
    executionLockGeneration := account.executionLockGeneration + 1
    executionLockId := some lockId
    recoveryPending := false }

/-- An account with the equity that was observed. -/
def withEquity (equity : Decimal) (account : AccountRoleRow) : AccountRoleRow :=
  { account with equity }

/-- A violated constraint is reported as a conflict. -/
def conflictAs {α : Type} (code : String) : Except Failure α → Except Failure α
  | .error .integrity => .error (.blocked code)
  | result => result

@[simp] theorem conflictAs_ok {α : Type} {code : String} {result : Except Failure α} {value : α} :
    conflictAs code result = .ok value ↔ result = .ok value := by
  unfold conflictAs
  split <;> simp

/-- The code of an `ExecutionBlocked` that is caught. -/
def caughtCode : Except Failure Unit → Except Failure (Option String)
  | .ok () => .ok none
  | .error (.blocked code) => .ok (some code)
  | .error failure => .error failure

/-- Activities that do not explain a fill lock the account. -/
def isEvidenceFailure (failure : Failure) : Bool :=
  failure == .blocked "ATTEMPT_ACTIVITY_EVIDENCE_MISMATCH" ||
    failure == .blocked "KNOWN_ACTIVITY_MISSING"

/-- Why a reconciliation locks the account. -/
def unsafeReason (evaluated : WholeAccountReconciliation) : Option String :=
  if evaluated.safe then none
  else if evaluated.blockCodes.contains .assignmentSuspected then some "ASSIGNMENT_SUSPECTED"
  else some "RECONCILIATION_MISMATCH"

/-- The entry of an intent, drawn on an account and its budget. -/
def proposedEntryOf (intent : ExecutionIntentRow) (account : AccountRoleRow)
    (budget : CompetitionEntryBudgetRow) : ProposedEntry where
  policyHash := intent.policyHash
  equity := account.equity
  entriesUsed := budget.entriesUsed
  lifetimeRisk := budget.grossApprovedRisk
  proposedRisk := intent.approvedMaxLoss
  proposedQuantity := intent.quantity

/-! ## Rows that a preparation reads -/

/-- Everything that a preparation reads of an intent. -/
structure PreparationRows where
  intent : ExecutionIntentRow
  account : AccountRoleRow
  budget : CompetitionEntryBudgetRow
  claimToken : Uuid
  state : AccountReconciliationStateRow
  attempts : List OrderAttemptRow
  permits : List BrokerMutationPermit
  observations : List AttemptObservationRow

/-- Require that the submission account has a clean baseline. -/
def requireSubmissionBaseline (db : Database) (role : AccountRole) : Except Failure Unit :=
  raiseIf (role == .submission && (db.baseline role).all fun row => row.contaminated)
    (.blocked "SUBMISSION_BASELINE_INVALID")

/-- Read the rows of an intent that a caller has claimed and that is authorized at a time. -/
def readPreparation [Digest] (db : Database) (claim : ExecutionIntent) (start : Int) :
    Except Failure PreparationRows := do
  let intent ← require (db.intent claim.intentId) .key
  let account ← require (db.account intent.accountRole) (.blocked "ACCOUNT_NOT_REGISTERED")
  let budget ← require (db.budget intent.accountRole) (.blocked "ACCOUNT_NOT_REGISTERED")
  verifyClaimFence intent account claim
  let claimToken ← require intent.claimToken (.blocked "CLAIM_FENCE_MISMATCH")
  raiseIf account.executionLocked (.blocked "ACCOUNT_EXECUTION_LOCKED")
  let value ← intentFromRow db intent
  validateOrigin db value start
  requireSubmissionBaseline db intent.accountRole
  let state ← require (db.latestState intent.accountRole) (.blocked "RECONCILIATION_STATE_REQUIRED")
  return {
    intent
    account
    budget
    claimToken
    state
    attempts := db.attemptsOf intent.intentId
    permits := db.permitsOf intent.intentId
    observations := db.observationsOf intent.intentId }

/-! ## The attempt that is requested -/

/-- A replacement authorizes the prepared attempt of its ordinal again. -/
def isReauthorization (attempts : List OrderAttemptRow) (ordinal : Int) : Bool :=
  attempts.getLast?.any fun row => row.ordinal == ordinal && row.state == .prepared

/-- A replacement as it is timed: a new one by the repository, one that is authorized again as
its caller timed it. -/
def timedReplacement [Digest] (rows : PreparationRows) (attempt : OrderAttempt) (now : Int) :
    Except Failure OrderAttempt :=
  if isReauthorization rows.attempts attempt.ordinal then .ok attempt
  else replacementWithTiming rows.intent attempt now

def requestedAttempt [Digest] (rows : PreparationRows) (purpose : ReconciliationPurpose)
    (attempt : OrderAttempt) (now : Int) : Except Failure OrderAttempt :=
  if purpose = .replace then do
    validateReplacementAttempt rows.intent rows.attempts attempt none
    let timed ← timedReplacement rows attempt now
    validateReplacementAttempt rows.intent rows.attempts timed (some now)
    validateReplacementDue rows.attempts rows.permits timed
    return timed
  else return attempt

/-! ## What a permit follows -/

/-- What the permit of a mutation follows, and what its issue does to the rows before it. -/
structure Issuance where
  predecessorPermitId : Option Uuid
  target : Option OrderAttemptRow := none
  expired : List Uuid := []
  refreshed : Option Uuid := none
  created : Option (Option Uuid) := none

/-- Require that a permit is a prepared generation that has expired. -/
def requireExpiredGeneration (permit : BrokerMutationPermit) (now : Int) (requestHash : String) :
    Except Failure Unit := do
  raiseIf (permit.requestHash != requestHash) (.blocked "BROKER_PERMIT_REQUEST_MISMATCH")
  raiseIf (permit.state != .prepared) (.blocked "BROKER_PERMIT_REAUTHORIZATION_NOT_PROVEN")
  raiseIf (now < permit.expiresAt) (.blocked "BROKER_PERMIT_NOT_EXPIRED")

/-- Require that a hard cancel may supersede the permit of a prepared replacement. -/
def requireSupersedable (permit initialPermit : BrokerMutationPermit) (now : Int) :
    Except Failure Unit := do
  raiseIf (permit.mutationKind != .replace || permit.state != .prepared ||
    permit.dispatchNonce.isSome || permit.dispatchAcquiredAt.isSome ||
    permit.consumedAt.isSome || permit.outcomeHash.isSome)
    (.blocked "BROKER_PERMIT_REAUTHORIZATION_NOT_PROVEN")
  let dispatchAcquiredAt ←
    require initialPermit.dispatchAcquiredAt (.blocked "INITIAL_DISPATCH_TIME_MISSING")
  raiseIf (now - dispatchAcquiredAt < cancelDue) (.blocked "REPLACEMENT_CANCEL_NOT_DUE")

/-- The time from which nothing more is heard of the dispatch of a permit. -/
def horizonEnd (permit : BrokerMutationPermit) (dispatchAcquiredAt networkCallHorizon : Int) :
    Int :=
  max permit.expiresAt (dispatchAcquiredAt + networkCallHorizon)

/-- A lookup after the horizon shows the target of a cancel as it is on record, still open. -/
def showsOpenTarget (latest : AttemptObservationRow) (expected : OrderAttempt)
    (notBefore : Int) : Bool :=
  latest.source == .targetedLookup && latest.observedAttempt == some expected &&
  expected.state.isMutationEligible && notBefore ≤ latest.observedAt

/-- Require that a consumed cancel left its target open. -/
def verifyConsumedCancelRetry (permit : BrokerMutationPermit) (target : OrderAttemptRow)
    (attempts : List OrderAttemptRow) (observations : List AttemptObservationRow)
    (networkCallHorizon : Int) : Except Failure Unit := do
  let unproven := .blocked "CANCEL_PERMIT_REAUTHORIZATION_NOT_PROVEN"
  let dispatchAcquiredAt ← require permit.dispatchAcquiredAt unproven
  raiseIf permit.consumedAt.isNone unproven
  let latest ←
    require (observations.filter fun row => row.permitId == permit.permitId).getLast? unproven
  raiseIf (!showsOpenTarget latest (attemptFromRow target attempts)
    (horizonEnd permit dispatchAcquiredAt networkCallHorizon)) unproven

/-- The permit of a submission is the first one, or follows a generation that expired. -/
def submitIssuance (rows : PreparationRows) (attempt : OrderAttempt)
    (prior : Option BrokerMutationPermit) (requestHash : String) (now : Int) :
    Except Failure Issuance :=
  match rows.attempts.head? with
  | some first => do
      raiseIf (rows.attempts.length != 1 || attemptFromRow first rows.attempts != attempt)
        (.blocked "SUBMIT_ATTEMPT_ALREADY_EXISTS")
      let generation ← require prior (.blocked "ATTEMPT_PERMIT_MISSING")
      requireExpiredGeneration generation now requestHash
      return {
        predecessorPermitId := some generation.permitId
        expired := [generation.permitId] }
  | none => do
      raiseIf prior.isSome (.blocked "SUBMIT_PERMIT_ALREADY_EXISTS")
      return { predecessorPermitId := none, created := some none }

/-- The permit of a replacement that is authorized again follows a generation that expired. -/
def reauthorizeIssuance (rows : PreparationRows) (last : OrderAttemptRow)
    (prior : Option BrokerMutationPermit) (now : Int) : Except Failure Issuance := do
  let generation ← require prior (.blocked "REPLACE_PERMIT_MISSING")
  let target ← require rows.attempts.dropLast.getLast? (.blocked "REPLACE_PERMIT_MISSING")
  requireExpiredGeneration generation now generation.requestHash
  return {
    predecessorPermitId := some generation.permitId
    target := some target
    expired := [generation.permitId]
    refreshed := some last.attemptId }

/-- The permit of a new replacement follows the one that created the attempt it replaces. -/
def replaceIssuance (rows : PreparationRows) (last : OrderAttemptRow) (attempt : OrderAttempt)
    (prior : Option BrokerMutationPermit) : Except Failure Issuance := do
  raiseIf (attempt.ordinal != rows.attempts.length) (.blocked "REPLACE_ORDINAL_INVALID")
  let targetPermit ← creationPermit last rows.permits
  raiseIf (targetPermit.state != .consumed) (.blocked "PREDECESSOR_PERMIT_UNRESOLVED")
  raiseIf prior.isSome (.blocked "REPLACE_PERMIT_ALREADY_EXISTS")
  return {
    predecessorPermitId := some targetPermit.permitId
    target := some last
    created := some (some last.attemptId) }

/-- The attempt that a cancel is aimed at, and the permit of a prepared replacement of it that the
cancel supersedes. -/
def hardCancelTarget (rows : PreparationRows) (now : Int) :
    Except Failure (OrderAttemptRow × Option BrokerMutationPermit) := do
  let last ← require rows.attempts.getLast? (.blocked "CANCEL_TARGET_NOT_FOUND")
  match preparedReplacement rows.attempts with
  | some (predecessor, replacement) => do
      let stale ← creationPermit replacement rows.permits
      let first ← require rows.attempts.head? (.blocked "CANCEL_TARGET_NOT_FOUND")
      let initialPermit ← creationPermit first rows.permits
      requireSupersedable stale initialPermit now
      return (predecessor, some stale)
  | none => return (last, none)

/-- Require that the newest generation of a cancel may be followed by another. -/
def requireCancelRetry (settings : RepositorySettings) (rows : PreparationRows)
    (target : OrderAttemptRow) (generation : BrokerMutationPermit) (requestHash : String)
    (now : Int) : Except Failure Unit :=
  match generation.state with
  | .prepared => requireExpiredGeneration generation now requestHash
  | .consumed => verifyConsumedCancelRetry generation target rows.attempts rows.observations
      settings.networkCallHorizon
  | _ => .error (.blocked "CANCEL_PERMIT_REAUTHORIZATION_NOT_PROVEN")

def preparedId (permit : BrokerMutationPermit) : List Uuid :=
  if permit.state = .prepared then [permit.permitId] else []

/-- The permit of a cancel supersedes a prepared replacement and follows a generation that expired
or left its target open. -/
def cancelIssuance (settings : RepositorySettings) (rows : PreparationRows)
    (prior : Option BrokerMutationPermit) (requestHash : String) (now : Int) :
    Except Failure Issuance := do
  let (target, stale) ← hardCancelTarget rows now
  let targetPermit ← creationPermit target rows.permits
  raiseIf (targetPermit.state != .consumed) (.blocked "PREDECESSOR_PERMIT_UNRESOLVED")
  let superseded := stale.toList.map fun permit => permit.permitId
  match prior with
  | some generation => do
      requireCancelRetry settings rows target generation requestHash now
      return {
        predecessorPermitId := some generation.permitId
        target := some target
        expired := superseded ++ preparedId generation }
  | none => return {
      predecessorPermitId := some ((stale.getD targetPermit).permitId)
      target := some target
      expired := superseded }

/-- A replacement without a row is refused, and one that is prepared is authorized again. -/
def replacementIssuance (rows : PreparationRows) (attempt : OrderAttempt)
    (prior : Option BrokerMutationPermit) (now : Int) : Except Failure Issuance := do
  let last ← require rows.attempts.getLast? (.blocked "REPLACE_ORDINAL_INVALID")
  if last.ordinal = attempt.ordinal ∧ last.state = .prepared then
    reauthorizeIssuance rows last prior now
  else replaceIssuance rows last attempt prior

/-- What the permit of a mutation follows. -/
def issuanceOf (settings : RepositorySettings) (rows : PreparationRows)
    (purpose : ReconciliationPurpose) (attempt : OrderAttempt)
    (prior : Option BrokerMutationPermit) (requestHash : String) (now : Int) :
    Except Failure Issuance :=
  match purpose with
  | .submit => submitIssuance rows attempt prior requestHash now
  | .replace => replacementIssuance rows attempt prior now
  | .cancel => cancelIssuance settings rows prior requestHash now
  | .baselineInitialization =>
      .error (.blocked "BASELINE_INITIALIZATION_IS_NOT_BROKER_MUTATION")

/-! ## Issuing a permit -/

/-- The newest permit of a mutation of an attempt. -/
def priorGeneration (rows : PreparationRows) (purpose : ReconciliationPurpose) (ordinal : Int) :
    Option BrokerMutationPermit :=
  (rows.permits.filter fun permit => permit.mutationKind == purpose &&
    permit.attemptOrdinal == ordinal).getLast?

/-- The generation after the newest one. -/
def nextGeneration (prior : Option BrokerMutationPermit) : Int :=
  match prior with
  | some permit => permit.generation + 1
  | none => 1

def issuedPermit [Digest] (settings : RepositorySettings) (rows : PreparationRows)
    (evaluated : WholeAccountReconciliation) (attempt : OrderAttempt) (issuance : Issuance)
    (now : Int) : BrokerMutationPermit :=
  let purpose := evaluated.expectation.purpose
  let generation := nextGeneration (priorGeneration rows purpose attempt.ordinal)
  { permitId := Digest.uuid5
      ("alphadecay:broker-permit:" ++ evaluated.reconciliationHash ++ ":" ++
        intText generation.toNat)
    reconciliationId := evaluated.reconciliationId
    intentId := rows.intent.intentId
    intentDigest := rows.intent.intentDigest
    claimToken := rows.claimToken
    claimGeneration := rows.intent.claimGeneration
    executionEpoch := rows.intent.executionEpoch
    mutationKind := purpose
    attemptOrdinal := attempt.ordinal
    generation
    predecessorPermitId := issuance.predecessorPermitId
    requestHash := evaluated.expectation.requestHash
    targetClientOrderId := issuance.target.map fun row => row.clientOrderId
    targetProviderOrderId := issuance.target.bind fun row => row.providerOrderId
    issuedAt := now
    expiresAt := now + settings.ttl purpose
    state := .prepared
    limitPrice := some (attempt.limitPrice.getD rows.intent.minimumLimit)
    quoteHash := attempt.quoteHash
    quoteSourceTimestamps := attempt.quoteSourceTimestamps
    quoteRetrievedAt := attempt.quoteRetrievedAt
    timingAuthorityAt := attempt.timingAuthorityAt
    priorRequestHash := attempt.priorRequestHash }

/-- The row of a new attempt. -/
def createdRow [Digest] (attempt : OrderAttempt) (permitId : Uuid)
    (replacesAttemptId : Option Uuid) : OrderAttemptRow where
  attemptId := attemptIdOf attempt.intentId attempt.ordinal
  brokerPermitId := some permitId
  intentId := attempt.intentId
  ordinal := attempt.ordinal
  clientOrderId := attempt.clientOrderId
  providerOrderId := attempt.providerOrderId
  state := attempt.state
  requestHash := attempt.requestHash
  limitPrice := attempt.limitPrice
  quoteHash := attempt.quoteHash
  quoteSourceTimestamps := attempt.quoteSourceTimestamps
  quoteRetrievedAt := attempt.quoteRetrievedAt
  timingAuthorityAt := attempt.timingAuthorityAt
  priorRequestHash := attempt.priorRequestHash
  replacesAttemptId
  filledQuantity := attempt.filledQuantity
  quantity := attempt.quantity
  fillCashFlow := attempt.fillCashFlow

def expirePermit (now : Int) (permit : BrokerMutationPermit) : BrokerMutationPermit :=
  { permit with state := .expired, consumedAt := some now }

/-- A prepared replacement with the material of a new one. -/
def refreshPreparedReplacement (attempt : OrderAttempt) (row : OrderAttemptRow) :
    OrderAttemptRow :=
  { row with
    requestHash := attempt.requestHash
    limitPrice := attempt.limitPrice
    quoteHash := attempt.quoteHash
    quoteSourceTimestamps := attempt.quoteSourceTimestamps
    quoteRetrievedAt := attempt.quoteRetrievedAt
    timingAuthorityAt := attempt.timingAuthorityAt
    priorRequestHash := attempt.priorRequestHash }

/-- Refresh the prepared replacement that is authorized again. -/
def refreshAttempt (db : Database) (attempt : OrderAttempt) :
    Option Uuid → Except Failure Database
  | some attemptId => db.changeAttempt attemptId (refreshPreparedReplacement attempt)
  | none => .ok db

def createAttempt [Digest] (db : Database) (attempt : OrderAttempt) (permitId : Uuid) :
    Option (Option Uuid) → Except Failure Database
  | some replacesId => db.addAttempt (createdRow attempt permitId replacesId)
  | none => .ok db

/-- Write what the issue of a permit does: expired permits, a refreshed attempt, the permit and a
new attempt. -/
def writeIssuance [Digest] (db : Database) (attempt : OrderAttempt) (issuance : Issuance)
    (permit : BrokerMutationPermit) (now : Int) : Except Failure Database := do
  let db ← db.changePermits issuance.expired (expirePermit now)
  let db ← refreshAttempt db attempt issuance.refreshed
  let db ← db.addPermit permit
  createAttempt db attempt permit.permitId issuance.created

/-! ## The transaction -/

variable [Digest]

/-- Why a safe preparation locks the account: an entry that no longer fits the limits. -/
def entryLimitReason (settings : RepositorySettings) (rows : PreparationRows)
    (purpose : ReconciliationPurpose) (equity : Decimal) : Except Failure (Option String) :=
  if rows.intent.action = .entry ∧ purpose = .submit then
    caughtCode (validateEntryLimits settings.entryLimits
      (proposedEntryOf rows.intent (withEquity equity rows.account) rows.budget))
  else .ok none

/-- Lock the account of an intent and return the reconciliation without a permit. -/
def latchedPreparation (db : Database) (role : AccountRole) (reason : String) (now : Int)
    (lockId : Uuid) (reconciliation : WholeAccountReconciliation) :
    Except Failure (Database × BrokerMutationPreparation) := do
  let db ← db.changeAccount role (latchAccount reason now lockId)
  return (db, { reconciliation, permit := none, attempt := none })

/-- Issue the permit of a mutation after a safe reconciliation. -/
def issuePreparation (settings : RepositorySettings) (db : Database) (rows : PreparationRows)
    (attempt : OrderAttempt) (evaluated : WholeAccountReconciliation) (now : Int) :
    Except Failure (Database × BrokerMutationPreparation) := do
  let purpose := evaluated.expectation.purpose
  let issuance ← issuanceOf settings rows purpose attempt
    (priorGeneration rows purpose attempt.ordinal) evaluated.expectation.requestHash now
  let permit := issuedPermit settings rows evaluated attempt issuance now
  let db ← writeIssuance db attempt issuance permit now
  return (db, { reconciliation := evaluated, permit := some permit, attempt := some attempt })

/-- Reconcile the account with an expectation, and issue the permit where that is safe. -/
def reconcilePreparation (settings : RepositorySettings) (db : Database) (rows : PreparationRows)
    (attempt : OrderAttempt) (sweep : SweepObservation) (expectation : ReconciliationExpectation)
    (now : Int) (lockId : Uuid) : Except Failure (Database × BrokerMutationPreparation) := do
  let evaluated ← WholeAccountReconciliation.evaluate sweep expectation now
  let db ← db.addReconciliation (reconciliationRow evaluated)
  match unsafeReason evaluated with
  | some reason => latchedPreparation db rows.intent.accountRole reason now lockId evaluated
  | none => do
      let reason ← entryLimitReason settings rows expectation.purpose sweep.finalAccount.equity
      match reason with
      | some reason => latchedPreparation db rows.intent.accountRole reason now lockId evaluated
      | none => issuePreparation settings db rows attempt evaluated now

/-- Prepare a broker mutation. The clock is read before the origin of the intent is checked, and
again once every row has been read. -/
def prepareBrokerMutation (settings : RepositorySettings) (db : Database)
    (reconciliation : WholeAccountReconciliation) (attempt : OrderAttempt)
    (claim : ExecutionIntent) (start now : Int) (lockId : Uuid) :
    Except Failure (Database × BrokerMutationPreparation) :=
  conflictAs "BROKER_MUTATION_PREPARATION_CONFLICT" do
    let rows ← readPreparation db claim start
    let purpose := reconciliation.expectation.purpose
    let sweep := reconciliation.sweep
    let attempt ← requestedAttempt rows purpose attempt now
    let db ← db.changeAccount rows.intent.accountRole (withEquity sweep.finalAccount.equity)
    match reconciliationExpectationFromRows rows.intent rows.state purpose attempt rows.attempts
      (some sweep.activities) with
    | .ok expectation =>
        reconcilePreparation settings db rows attempt sweep expectation now lockId
    | .error failure =>
        if isEvidenceFailure failure then
          latchedPreparation db rows.intent.accountRole "RECONCILIATION_MISMATCH" now lockId
            reconciliation
        else .error failure

end AlphaDecay
