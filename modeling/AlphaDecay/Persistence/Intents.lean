import AlphaDecay.Persistence.Mutation

/-!
# Accounts and intents

Accounts are registered with a budget, the submission account gets a baseline and from it its
first reconciliation state, and intents are approved, claimed and released.
-/

namespace AlphaDecay

open Foundation Table

/-! ## Accounts -/

/-- Register an account, or update the equity of a registered one. -/
def registerAccount (db : Database) (role : AccountRole) (fingerprint : String)
    (equity : Decimal) : Except Failure Database := do
  ensureExecutableRole role
  match db.account role with
  | some row => do
      raiseIf (row.accountFingerprint != fingerprint) (.blocked "ACCOUNT_FINGERPRINT_MISMATCH")
      db.changeAccount role (withEquity equity)
  | none => do
      raiseIf (db.accounts.rows.any fun row => row.accountFingerprint == fingerprint)
        (.blocked "ACCOUNT_FINGERPRINT_ROLE_MISMATCH")
      let accounts ← require
        (db.accounts.insert { role, accountFingerprint := fingerprint, equity }) .integrity
      let budgets ← require (db.budgets.insert { accountRole := role }) .integrity
      return { db with accounts, budgets }

/-- Let the owner switch the autonomy of an account. -/
def setAutonomousEnabled (db : Database) (role : AccountRole) (enabled : Bool) (actor : Actor) :
    Except Failure Database := do
  ensureExecutableRole role
  raiseIf (actor != .owner) (.blocked "SCHEDULER_CANNOT_ENABLE_AUTONOMY")
  raiseIf (db.account role).isNone (.blocked "ACCOUNT_NOT_REGISTERED")
  db.changeAccount role fun row => { row with autonomousEnabled := enabled }

def captureBaseline [Digest] (db : Database) (role : AccountRole) (baseline : SubmissionBaseline) :
    Except Failure Database := do
  ensureExecutableRole role
  let account ← require (db.account role) (.blocked "BASELINE_ACCOUNT_MISMATCH")
  raiseIf (role != .submission || account.accountFingerprint != baseline.accountFingerprint)
    (.blocked "BASELINE_ACCOUNT_MISMATCH")
  raiseIf (baseline.equity != Decimal.ofInt 100000) (.blocked "BASELINE_EQUITY_INVALID")
  raiseIf (db.baseline role).isSome (.blocked "BASELINE_ALREADY_CAPTURED")
  let baselines ← require (db.baselines.insert {
    baselineId := Digest.uuid5
      ("alphadecay:baseline:" ++ role.text ++ ":" ++ baseline.accountFingerprint)
    accountRole := role
    accountFingerprint := baseline.accountFingerprint
    equity := baseline.equity
    capturedAt := baseline.capturedAt
    positionsHash := baseline.positionsHash
    ordersHash := baseline.ordersHash
    activitiesHash := baseline.activitiesHash }) .integrity
  return { db with baselines }

/-- The activities that adjust the balance of an account from outside. -/
def accountAdjustments : List String :=
  ["RESET", "DEPOSIT", "WITHDRAWAL", "TRANSFER", "JOURNAL", "UNKNOWN_CASH"]

/-- Mark the baseline of an account whose balance was adjusted from outside. -/
def observeAccountAdjustment (db : Database) (role : AccountRole) (activity : String) :
    Except Failure Database := do
  ensureExecutableRole role
  if accountAdjustments.contains activity then do
    let baselines ← require (db.baselines.update (fun row => row.accountRole == role)
      fun row => { row with contaminated := true }) .integrity
    return { db with baselines }
  else return db

/-! ## The first reconciliation state -/

/-- A sweep shows an account with its initial funding and nothing else. -/
def isCleanSweep (account : AccountRoleRow) (baseline : SubmissionBaselineRow)
    (sweep : SweepObservation) : Bool :=
  account.accountFingerprint == baseline.accountFingerprint &&
  sweep.finalAccount.accountFingerprint == account.accountFingerprint &&
  sweep.firstAccount.accountFingerprint == account.accountFingerprint &&
  sweep.firstPositions.isEmpty && sweep.finalPositions.isEmpty &&
  sweep.firstOpenOrders.isEmpty && sweep.finalOpenOrders.isEmpty &&
  match sweep.activities with
  | [funding] => funding.activityType == .initialFunding && funding.symbol.isNone &&
      sameDecimal funding.signedQuantity (some baseline.equity) &&
      funding.occurredAt ≤ baseline.capturedAt
  | _ => false

section Initialize

variable [Digest]

/-- The hash that stands where an expectation has no intent. -/
def noHash : String :=
  String.ofList (List.replicate 64 '0')

/-- The expectation of the first state. -/
def initialExpectation (account : AccountRoleRow) (baseline : SubmissionBaselineRow)
    (sweep : SweepObservation) : Except Failure ReconciliationExpectation :=
  ReconciliationExpectation.fromRepositoryState {
    purpose := .baselineInitialization
    accountRole := .submission
    accountFingerprint := account.accountFingerprint
    expectedCash := baseline.equity
    baselineCapturedAt := baseline.capturedAt
    expectedPositions := []
    expectedOpenOrders := []
    knownActivities := sweep.activities
    resolvedActivityHashes := []
    requiredActivityWindowStart := baseline.capturedAt
    requiredActivityCompleteThrough := baseline.capturedAt
    intentId := Digest.uuid5 "alphadecay:submission-state-anchor"
    intentDigest := noHash
    attemptOrdinal := 0
    requestHash := noHash }

/-- The first state of the submission account. -/
def initialState (account : AccountRoleRow) (baseline : SubmissionBaselineRow)
    (sweep : SweepObservation) (now : Int) : Except Failure AccountReconciliationState :=
  AccountReconciliationState.fromRepositoryState {
    accountRole := .submission
    accountFingerprint := account.accountFingerprint
    baselineCapturedAt := baseline.capturedAt
    acceptedAt := now
    expectedCash := baseline.equity
    expectedPositions := []
    expectedOpenOrders := []
    knownActivities := sweep.activities
    activityCompleteThrough := baseline.capturedAt }

/-- Append the first reconciliation state of the submission account, from a clean sweep. -/
def initializeReconciliationState (db : Database) (sweep : SweepObservation) (now : Int) :
    Except Failure (Database × AccountReconciliationState) := do
  raiseIf (sweep.finalAccount.role != .submission) (.blocked "RECONCILIATION_STATE_ROLE_INVALID")
  let account ← require (db.account .submission) (.blocked "SUBMISSION_BASELINE_REQUIRED")
  let baseline ← require (db.baseline .submission) (.blocked "SUBMISSION_BASELINE_REQUIRED")
  raiseIf baseline.contaminated (.blocked "SUBMISSION_BASELINE_CONTAMINATED")
  raiseIf (db.latestState .submission).isSome (.blocked "RECONCILIATION_STATE_ALREADY_INITIALIZED")
  raiseIf (!isCleanSweep account baseline sweep) (.blocked "RECONCILIATION_STATE_NOT_CLEAN")
  let expectation ← initialExpectation account baseline sweep
  let evaluated ← WholeAccountReconciliation.evaluate sweep expectation now
  raiseIf (!evaluated.safe) (.blocked "RECONCILIATION_STATE_UNSAFE")
  let state ← initialState account baseline sweep now
  let db ← db.addState {
    toAccountReconciliationStateFields := state.toAccountReconciliationStateFields
    stateId := state.stateId
    sequence := 1
    baselineId := baseline.baselineId
    stateHash := state.stateHash }
  return (db, state)

/-! ## Approval -/

def approvedRow (intentId : Uuid) (role : AccountRole) (envelope : OrderEnvelope) :
    ExecutionIntentRow where
  intentId
  accountRole := role
  intentDigest := intentDigest envelope
  action := envelope.action
  policyHash := envelope.policyHash
  eventKey := envelope.eventKey
  tradingDay := envelope.tradingDay
  entryApprovalId :=
    if envelope.action = .entry then some envelope.authorizationCertificateId else none
  assessmentCertificateId :=
    if envelope.action = .entry then none else some envelope.authorizationCertificateId
  fingerprint := envelope.positionOrBookFingerprint
  envelopeHash := orderEnvelopeHash envelope
  envelope
  legs := envelope.legs
  quantity := envelope.quantity
  minimumLimit := envelope.minimumLimit
  maximumLimit := envelope.maximumLimit
  approvedMaxLoss := envelope.approvedMaxLoss
  marketSessionId := envelope.marketSessionId
  quotedRelativeSpread := envelope.quotedRelativeSpread
  maximumRelativeSpread := envelope.maximumRelativeSpread
  incrementalDebit := envelope.incrementalDebit
  maximumIncrementalDebit := envelope.maximumIncrementalDebit
  state := .approved

/-- The intent that was approved with the same digest before, where it is the same intent. -/
def sameIntent (db : Database) (row : ExecutionIntentRow) (role : AccountRole)
    (envelope : OrderEnvelope) (failure : Failure) : Except Failure
    (Database × ExecutionIntent) := do
  let intent ← intentFromRow db row
  raiseIf (intent.accountRole != role || intent.envelope != envelope) failure
  return (db, intent)

/-- Insert an intent that was not approved before. -/
def approveNew (db : Database) (intentId : Uuid) (role : AccountRole) (envelope : OrderEnvelope) :
    Except Failure (Database × ExecutionIntent) := do
  raiseIf (db.intent intentId).isSome (.blocked "INTENT_ID_ALREADY_USED")
  raiseIf (!(db.account role).any fun account =>
    account.accountFingerprint == envelope.accountFingerprint)
    (.blocked "ACCOUNT_FINGERPRINT_MISMATCH")
  let row := approvedRow intentId role envelope
  let db ← db.addIntent row
  let intent ← intentFromRow db row
  return (db, intent)

/-- Approve an intent. The approval of an intent that exists returns it. -/
def approveIntent (db : Database) (intentId : Uuid) (role : AccountRole)
    (envelope : OrderEnvelope) : Except Failure (Database × ExecutionIntent) := do
  ensureExecutableRole role
  match lookup ExecutionIntentRow.intentDigest (intentDigest envelope) db.intents.rows with
  | some row => sameIntent db row role envelope (.blocked "INTENT_DIGEST_COLLISION")
  | none =>
      -- After a conflict the digest is looked up again; nothing was written in between.
      conflictAs "INTENT_UNIQUENESS_CONFLICT" (approveNew db intentId role envelope)

/-! ## Claims -/

/-- Require that an actor may execute an intent of an account. -/
def requireActor (action : ExecutionAction) (actor : Actor) (account : AccountRoleRow) :
    Except Failure Unit :=
  if action = .entry then do
    raiseIf (actor == .owner) (.blocked "OWNER_ENTRY_FORBIDDEN")
    raiseIf (!account.autonomousEnabled) (.blocked "AUTONOMOUS_DISABLED")
  else raiseIf (actor == .scheduler && !account.autonomousEnabled) (.blocked "AUTONOMOUS_DISABLED")

/-- Require that the baseline of an account allows an entry. -/
def requireEntryBaseline (db : Database) (role : AccountRole) : Except Failure Unit :=
  if role = .submission then do
    let baseline ← require (db.baseline role) (.blocked "SUBMISSION_BASELINE_REQUIRED")
    raiseIf baseline.contaminated (.blocked "SUBMISSION_BASELINE_CONTAMINATED")
  else return ()

def claimedEntryOf (intent : ExecutionIntent) (account : AccountRoleRow)
    (budget : CompetitionEntryBudgetRow) : ProposedEntry where
  policyHash := intent.envelope.policyHash
  equity := account.equity
  entriesUsed := budget.entriesUsed
  lifetimeRisk := budget.grossApprovedRisk
  proposedRisk := intent.envelope.approvedMaxLoss
  proposedQuantity := intent.envelope.quantity

def reserveEntry (settings : RepositorySettings) (db : Database) (intent : ExecutionIntent)
    (account : AccountRoleRow) (budget : CompetitionEntryBudgetRow) : Except Failure Database := do
  requireEntryBaseline db intent.accountRole
  raiseIf budget.reservedIntentId.isSome (.blocked "ENTRY_RESERVATION_ACTIVE")
  validateEntryLimits settings.entryLimits (claimedEntryOf intent account budget)
  db.changeBudget intent.accountRole fun row => { row with
    reservedIntentId := some intent.intentId
    reservedRisk := intent.envelope.approvedMaxLoss }

def reserveIfEntry (settings : RepositorySettings) (db : Database) (intent : ExecutionIntent)
    (account : AccountRoleRow) (budget : CompetitionEntryBudgetRow) : Except Failure Database :=
  if intent.envelope.action = .entry then reserveEntry settings db intent account budget
  else .ok db

/-- How long a claim lasts without a sign of life. -/
def claimLease : Int :=
  Calendar.seconds 30

def claimedRow (actor : Actor) (account : AccountRoleRow) (now : Int) (token : Uuid)
    (row : ExecutionIntentRow) : ExecutionIntentRow :=
  { row with
    state := .claimed
    claimedBy := some actor
    claimedAt := some now
    claimToken := some token
    claimGeneration := account.claimGeneration + 1
    executionEpoch := account.executionEpoch
    heartbeatAt := some now
    leaseExpiresAt := some (now + claimLease) }

/-- Claim an approved intent for execution. -/
def claimIntent (settings : RepositorySettings) (db : Database) (intentId : Uuid) (actor : Actor)
    (role : AccountRole) (fingerprint : String) (now : Int) (token : Uuid) :
    Except Failure (Database × ExecutionIntent) := do
  let row ← require (db.intent intentId) .key
  raiseIf (row.accountRole != role) (.blocked "ACCOUNT_ROLE_MISMATCH")
  let account ← require (db.account role) (.blocked "ACCOUNT_FINGERPRINT_MISMATCH")
  raiseIf (account.accountFingerprint != fingerprint) (.blocked "ACCOUNT_FINGERPRINT_MISMATCH")
  let budget ← require (db.budget role) (.blocked "ACCOUNT_NOT_REGISTERED")
  raiseIf account.executionLocked (.blocked "ACCOUNT_EXECUTION_LOCKED")
  raiseIf (row.state != .approved) (.blocked "INTENT_ALREADY_CLAIMED")
  raiseIf (db.intents.rows.any fun other => other.accountRole == role && other.state == .claimed)
    (.blocked "ACCOUNT_EXECUTION_LEASE_ACTIVE")
  let intent ← intentFromRow db row
  requireActor intent.envelope.action actor account
  validateOrigin db intent now
  let db ← reserveIfEntry settings db intent account budget
  let db ← db.changeAccount role fun account =>
    { account with claimGeneration := account.claimGeneration + 1 }
  let db ← db.changeIntent intentId (claimedRow actor account now token)
  let claimed ← intentFromRow db (claimedRow actor account now token row)
  return (db, claimed)

end Initialize

/-- A budget without the reservation of an intent. -/
def releaseReservation (intentId : Uuid) (budget : CompetitionEntryBudgetRow) :
    CompetitionEntryBudgetRow :=
  if budget.reservedIntentId = some intentId then
    { budget with reservedIntentId := none, reservedRisk := Decimal.ofInt 0 }
  else budget

def terminalRow (row : ExecutionIntentRow) : ExecutionIntentRow :=
  { row with state := .terminal }

/-- Release the claim of an intent without attempts. -/
def releaseUnsubmittedClaim (db : Database) (intentId : Uuid) : Except Failure Database := do
  let row ← require (db.intent intentId) .key
  raiseIf (row.state != .claimed || !(db.attemptsOf intentId).isEmpty)
    (.blocked "CLAIM_NOT_UNSUBMITTED")
  let db ← db.changeBudget row.accountRole (releaseReservation intentId)
  db.changeIntent intentId terminalRow

/-- A claim of a role that ran out before anything was submitted. -/
def isExpiredUnsubmitted (db : Database) (role : AccountRole) (now : Int)
    (row : ExecutionIntentRow) : Bool :=
  row.accountRole == role && row.state == .claimed &&
  (row.leaseExpiresAt.any fun expiresAt => expiresAt ≤ now) &&
  !db.attempts.rows.any fun attempt => attempt.intentId == row.intentId

/-- End the claims of a role that ran out before anything was submitted. -/
def expireUnsubmittedClaims (db : Database) (role : AccountRole) (now : Int) :
    Except Failure (Database × List Uuid) := do
  ensureExecutableRole role
  let rows := orderBy (fun row : ExecutionIntentRow => row.intentId.toNat)
    (db.intents.rows.filter (isExpiredUnsubmitted db role now))
  let db ← db.changeBudget role fun budget =>
    rows.foldl (fun budget row => releaseReservation row.intentId budget) budget
  let intents ← require (db.intents.update (isExpiredUnsubmitted db role now) terminalRow)
    .integrity
  return ({ db with intents }, rows.map fun row => row.intentId)

/-- Restore the reservation of a claimed entry. -/
def recoverReservation (db : Database) (row : ExecutionIntentRow) : Except Failure Database := do
  raiseIf (db.budget row.accountRole).isNone (.blocked "ENTRY_BUDGET_MISSING")
  db.changeBudget row.accountRole fun budget => { budget with
    reservedIntentId := some row.intentId
    reservedRisk := row.approvedMaxLoss }

/-- Restore the reservations of all claimed entries without a fill. -/
def recoverEntryReservations (db : Database) : Except Failure Database :=
  (db.intents.rows.filter fun row => row.action == .entry && row.state == .claimed &&
    !row.firstFillConsumed).foldlM recoverReservation db

end AlphaDecay
