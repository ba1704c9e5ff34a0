import AlphaDecay.Foundation.Action
import AlphaDecay.Foundation.DecimalRounding
import AlphaDecay.Persistence.EntryBudget

/-!
# The repository in memory, write by write

The operations of the repository as they run: they read its dictionaries, check, and write one
dictionary after the other, and what was written before something raises stays written. A date-time
has a last instant here, so that the end of a lease may overflow.
-/

namespace AlphaDecay.InMemoryExecutionRepository

open Foundation Foundation.Action Memory

abbrev Operation (Value : Type) := Action Store Failure Value

/-! ## Accounts -/

/-- Register an account, or update the equity of a registered one. -/
def registerAccount (role : AccountRole) (fingerprint : String) (equity : Decimal) :
    Operation Unit := do
  check (ensureExecutableRole role)
  let store ← read
  let current := store.accounts.get role
  check (raiseIf (current.any fun account => account.fingerprint != fingerprint)
    (.blocked "ACCOUNT_FINGERPRINT_MISMATCH"))
  check (raiseIf (store.accounts.entries.any fun (registered, account) =>
    registered != role && account.fingerprint == fingerprint)
    (.blocked "ACCOUNT_FINGERPRINT_ALREADY_REGISTERED"))
  write fun store => { store with
    accounts := store.accounts.set role (match current with
      | some account => { account with equity }
      | none => { role, fingerprint, equity, autonomousEnabled := false }) }
  write fun store => { store with
    budgets := match store.budgets.get role with
      | some _ => store.budgets
      | none => store.budgets.set role {} }

/-- Let the owner switch the autonomy of an account. -/
def setAutonomousEnabled (role : AccountRole) (enabled : Bool) (actor : Actor) :
    Operation Unit := do
  check (ensureExecutableRole role)
  check (raiseIf (actor != .owner) (.blocked "SCHEDULER_CANNOT_ENABLE_AUTONOMY"))
  let store ← read
  let account ← check (require (store.accounts.get role) .key)
  write fun store => { store with
    accounts := store.accounts.set role { account with autonomousEnabled := enabled } }

def captureBaseline (role : AccountRole) (baseline : SubmissionBaseline) :
    Operation SubmissionBaseline := do
  check (ensureExecutableRole role)
  let store ← read
  check (raiseIf (store.baselines.get role).isSome (.blocked "BASELINE_ALREADY_CAPTURED"))
  let account ← check (require (store.accounts.get role) (.blocked "BASELINE_ACCOUNT_MISMATCH"))
  check (raiseIf (role != .submission || account.fingerprint != baseline.accountFingerprint)
    (.blocked "BASELINE_ACCOUNT_MISMATCH"))
  check (raiseIf (baseline.equity != Decimal.ofInt 100000) (.blocked "BASELINE_EQUITY_INVALID"))
  write fun store => { store with
    baselines := store.baselines.set role { baseline with clean := true } }
  return { baseline with clean := true }

/-- Mark an account whose balance was adjusted from outside. -/
def observeAccountAdjustment (role : AccountRole) (activity : String) : Operation Unit := do
  check (ensureExecutableRole role)
  if ["RESET", "DEPOSIT", "WITHDRAWAL", "TRANSFER", "JOURNAL", "UNKNOWN_CASH"].contains activity
  then write fun store => { store with contaminated := role :: store.contaminated }
  else pure ()

/-- The return of an account since its baseline, in percent. -/
def normalizedReturn (role : AccountRole) (currentEquity : Decimal) :
    Operation (Option Decimal) := do
  check (ensureExecutableRole role)
  let store ← read
  match store.baselines.get role with
  | none => return none
  | some baseline =>
      if store.contaminated.contains role then return none
      else do
        let gain ← check (require ((currentEquity - baseline.equity).div baseline.equity)
          .arithmetic)
        return some (gain * .ofInt 100)

/-! ## Authorizations -/

def addAssessmentCertificate (certificate : AssessmentCertificate) : Operation Unit := do
  check (ensureExecutableRole certificate.accountRole)
  let store ← read
  check (raiseIf (store.assessmentCertificates.get certificate.certificateId).isSome
    (.blocked "CERTIFICATE_IMMUTABLE"))
  check (raiseIf (store.entryApprovals.get certificate.certificateId).isSome
    (.blocked "AUTHORIZATION_ID_COLLISION"))
  check (raiseIf (store.assessmentIds.get certificate.assessmentId).isSome
    (.blocked "ASSESSMENT_ALREADY_CERTIFIED"))
  write fun store => { store with
    assessmentCertificates :=
      store.assessmentCertificates.set certificate.certificateId certificate }
  write fun store => { store with
    assessmentIds := store.assessmentIds.set certificate.assessmentId certificate.certificateId }

def addEntryApproval (approval : EntryApprovalAuthorization) : Operation Unit := do
  check (ensureExecutableRole approval.accountRole)
  let store ← read
  check (raiseIf (store.entryApprovals.get approval.approvalId).isSome
    (.blocked "AUTHORIZATION_IMMUTABLE"))
  check (raiseIf (store.assessmentCertificates.get approval.approvalId).isSome
    (.blocked "AUTHORIZATION_ID_COLLISION"))
  write fun store => { store with
    entryApprovals := store.entryApprovals.set approval.approvalId approval }

/-! ## Intents -/

variable [Digest]

/-- Approve a new intent of a registered account. -/
def approveNew (intentId : Uuid) (role : AccountRole) (envelope : OrderEnvelope) :
    Operation ExecutionIntent := do
  let digest := intentDigest envelope
  let store ← read
  check (raiseIf (store.intents.get intentId).isSome (.blocked "INTENT_ID_ALREADY_USED"))
  check (requireEntrySlot role envelope store)
  let account ← check (require (store.accounts.get role) (.blocked "ACCOUNT_FINGERPRINT_MISMATCH"))
  check (raiseIf (account.fingerprint != envelope.accountFingerprint)
    (.blocked "ACCOUNT_FINGERPRINT_MISMATCH"))
  let intent : ExecutionIntent :=
    { intentId, accountRole := role, envelope, digest, state := .approved }
  write fun store => { store with intents := store.intents.set intentId intent }
  write fun store => { store with digestIds := store.digestIds.set digest intentId }
  write fun store => { store with
    eventDays := if envelope.action = .entry then
        (role, envelope.eventKey, envelope.tradingDay) :: store.eventDays
      else store.eventDays }
  write fun store => { store with attempts := store.attempts.set intentId [] }
  return intent

/-- Approve an intent. Approving the same envelope again changes nothing. -/
def approveIntent (intentId : Uuid) (role : AccountRole) (envelope : OrderEnvelope) :
    Operation ExecutionIntent := do
  check (ensureExecutableRole role)
  let store ← read
  match store.digestIds.get (intentDigest envelope) with
  | some existingId => do
      let existing ← check (require (store.intents.get existingId) .key)
      check (raiseIf (existing.accountRole != role || existing.envelope != envelope)
        (.blocked "INTENT_DIGEST_COLLISION"))
      return existing
  | none => approveNew intentId role envelope

def reserveEntry (limits : Option EntryBudgetLimits) (intent : ExecutionIntent)
    (account : AccountState) : Operation Unit := do
  let store ← read
  let budget ← check (require (store.budgets.get intent.accountRole) .key)
  check (requireCleanBaseline intent.accountRole store)
  check (raiseIf budget.reservedIntentId.isSome (.blocked "ENTRY_RESERVATION_ACTIVE"))
  check (validateEntryLimits limits
    (proposedEntry intent account budget intent.envelope.approvedMaxLoss))
  write fun store => { store with budgets := store.budgets.set intent.accountRole { budget with
    reservedIntentId := some intent.intentId
    reservedRisk := intent.envelope.approvedMaxLoss } }

/-- Require the actor that an action needs, and reserve the budget of an entry. -/
def authorizeClaim (limits : Option EntryBudgetLimits) (actor : Actor) (intent : ExecutionIntent)
    (account : AccountState) : Operation Unit :=
  if intent.envelope.action = .entry then do
    check (raiseIf (actor == .owner) (.blocked "OWNER_ENTRY_FORBIDDEN"))
    check (raiseIf (!account.autonomousEnabled) (.blocked "AUTONOMOUS_DISABLED"))
    reserveEntry limits intent account
  else
    check (raiseIf (actor == .scheduler && !account.autonomousEnabled)
      (.blocked "AUTONOMOUS_DISABLED"))

/-- When the lease of a claim ends. Past the last instant of the calendar the sum overflows. -/
def leaseEnd (now : Int) : Except Failure Int := do
  raiseIf (!decide (Calendar.InRange (now + Calendar.seconds 30))) .arithmetic
  return now + Calendar.seconds 30

/-- Claim an approved intent for execution. The budget is written before the lease is computed. -/
def claimIntent (limits : Option EntryBudgetLimits) (now : Int) (token : Uuid) (intentId : Uuid)
    (actor : Actor) (accountRole : AccountRole) (accountFingerprint : String) :
    Operation ExecutionIntent := do
  let store ← read
  let intent ← check (require (store.intents.get intentId) .key)
  check (raiseIf (intent.accountRole != accountRole) (.blocked "ACCOUNT_ROLE_MISMATCH"))
  check (ensureExecutableRole intent.accountRole)
  let account ← check (require (store.accounts.get intent.accountRole) .key)
  check (raiseIf (account.fingerprint != accountFingerprint)
    (.blocked "ACCOUNT_FINGERPRINT_MISMATCH"))
  check (raiseIf account.executionLocked (.blocked "ACCOUNT_EXECUTION_LOCKED"))
  check (raiseIf (intent.state != .approved) (.blocked "INTENT_ALREADY_CLAIMED"))
  check (raiseIf (store.intents.values.any fun other =>
    other.accountRole == intent.accountRole && other.state == .claimed)
    (.blocked "ACCOUNT_EXECUTION_LEASE_ACTIVE"))
  check (requireAuthorizationOrigin intent now store)
  authorizeClaim limits actor intent account
  let leaseExpiresAt ← check (leaseEnd now)
  let claimed := { Memory.claimed intent actor account now token with
    leaseExpiresAt := some leaseExpiresAt }
  write fun store => { store with
    accounts := store.accounts.set intent.accountRole
      { account with claimGeneration := account.claimGeneration + 1 } }
  write fun store => { store with intents := store.intents.set intentId claimed }
  return claimed

/-- Give up a claim for which no attempt was made. -/
def releaseUnsubmittedClaim (intentId : Uuid) : Operation Unit := do
  let store ← read
  let intent ← check (require (store.intents.get intentId) .key)
  let attempts ← check (require (store.attempts.get intentId) .key)
  check (raiseIf (intent.state != .claimed || !attempts.isEmpty)
    (.blocked "CLAIM_NOT_UNSUBMITTED"))
  let budget ← check (require (store.budgets.get intent.accountRole) .key)
  write fun store => { store with
    budgets := store.budgets.set intent.accountRole (Memory.releaseReservation intentId budget) }
  write fun store => { store with
    intents := store.intents.set intentId { intent with state := .terminal } }

/-! ## Attempts -/

/-- Add the next attempt of a claimed intent. -/
def addAttempt (attempt : OrderAttempt) : Operation Unit := do
  let store ← read
  check (requireOpenClaim attempt.intentId store)
  let attempts ← check (require (store.attempts.get attempt.intentId) .key)
  check (raiseIf (attempt.ordinal != attempts.length || attempt.ordinal > 3)
    (.blocked "ATTEMPT_ORDINAL_INVALID"))
  check (raiseIf (attempt.replacesClientOrderId !=
    attempts.getLast?.map fun last => last.clientOrderId)
    (.blocked "ATTEMPT_REPLACEMENT_LINEAGE_INVALID"))
  write fun store => { store with
    attempts := store.attempts.set attempt.intentId (attempts ++ [attempt]) }

/-- Replace the last attempt of a claimed intent by a new observation of it. -/
def replaceAttempt (attempt : OrderAttempt) : Operation Unit := do
  let store ← read
  check (requireOpenClaim attempt.intentId store)
  let attempts ← check (require (store.attempts.get attempt.intentId) .key)
  let existing ← check (require attempts.getLast? (.blocked "ATTEMPT_NOT_FOUND"))
  check (raiseIf (existing.ordinal != attempt.ordinal) (.blocked "ATTEMPT_NOT_FOUND"))
  check (raiseIf (attempt.clientOrderId != existing.clientOrderId ||
    attempt.requestHash != existing.requestHash ||
    attempt.replacesClientOrderId != existing.replacesClientOrderId ||
    attempt.intentId != existing.intentId) (.blocked "ATTEMPT_IMMUTABLE_FIELDS_MISMATCH"))
  check (validateAttemptObservation existing attempt)
  write fun store => { store with
    attempts := store.attempts.set attempt.intentId (attempts.dropLast ++ [attempt]) }

/-! ## Finalization -/

def finalizeExecution (limits : Option EntryBudgetLimits) (now : Int)
    (certificate : ExecutionCertificate) (reconciliation : Reconciliation)
    (requestedStatus : String) : Operation ExecutionCertificate := do
  let store ← read
  check (raiseIf (store.certificates.get certificate.certificateId).isSome
    (.blocked "CERTIFICATE_IMMUTABLE"))
  check (raiseIf (store.intentCertificateIds.get certificate.intentId).isSome
    (.blocked "INTENT_ALREADY_CERTIFIED"))
  let intent ← check (require (store.intents.get certificate.intentId) .key)
  check (ensureExecutableRole intent.accountRole)
  let attempts ← check (require (store.attempts.get intent.intentId) .key)
  let (normalized, hasFill) ← check (validateFinalization intent attempts certificate
    reconciliation requestedStatus now)
  let lockReason :=
    if hasFill && requestedStatus.startsWith "PARTIAL_" then some "UNMANAGED_PARTIAL_EXPOSURE"
    else executionLockReason reconciliation
  let account ← check (require (store.accounts.get intent.accountRole) .key)
  let budget ← check (require (store.budgets.get intent.accountRole) .key)
  let charged ← check (finalizeBudget limits intent account budget hasFill)
  write fun store => { store with budgets := store.budgets.set intent.accountRole charged }
  write fun store => { store with
    accounts := store.accounts.set intent.accountRole (lockAccount account lockReason now) }
  write fun store => { store with
    certificates := store.certificates.set normalized.certificateId normalized }
  write fun store => { store with
    intentCertificateIds :=
      store.intentCertificateIds.set certificate.intentId certificate.certificateId }
  write fun store => { store with
    intents := store.intents.set certificate.intentId { intent with
      state := .terminal, firstFillConsumed := intent.firstFillConsumed || hasFill } }
  return normalized

/-- Reserve the budget of one claimed entry again. -/
def recoverReservation (intent : ExecutionIntent) : Operation Unit :=
  if intent.envelope.action = .entry ∧ intent.state = .claimed ∧ intent.firstFillConsumed = false
  then do
    let store ← read
    let budget ← check (require (store.budgets.get intent.accountRole) .key)
    write fun store => { store with budgets := store.budgets.set intent.accountRole { budget with
      reservedIntentId := some intent.intentId
      reservedRisk := intent.envelope.approvedMaxLoss } }
  else pure ()

/-- Reserve the budget of every claimed entry again, one after the other. -/
def recoverReservations : List ExecutionIntent → Operation Unit
  | [] => pure ()
  | intent :: rest => do
      recoverReservation intent
      recoverReservations rest

/-- Reserve the budget of every claimed entry again, after a restart. -/
def recoverEntryReservations : Operation Unit := do
  let store ← read
  recoverReservations store.intents.values

/-! ## Reads -/

structure AccountExecutionLock where
  locked : Bool
  reason : Option String := none
  lockedAt : Option Int := none
deriving DecidableEq, Repr

def attemptsFor (intentId : Uuid) : Operation (List OrderAttempt) := do
  let store ← read
  check (require (store.attempts.get intentId) .key)

def getExecutionCertificate (certificateId : Uuid) : Operation ExecutionCertificate := do
  let store ← read
  check (require (store.certificates.get certificateId) .key)

def getAssessmentCertificate (certificateId : Uuid) : Operation AssessmentCertificate := do
  let store ← read
  check (require (store.assessmentCertificates.get certificateId) .key)

def getEntryBudget (role : AccountRole) : Operation EntryBudget := do
  check (ensureExecutableRole role)
  let store ← read
  check (require (store.budgets.get role) .key)

/-- Whether an account is locked, why and since when. -/
def getExecutionLock (role : AccountRole) : Operation AccountExecutionLock := do
  check (ensureExecutableRole role)
  let store ← read
  let account ← check (require (store.accounts.get role) .key)
  return {
    locked := account.executionLocked
    reason := account.executionLockReason
    lockedAt := account.executionLockedAt }

def getIntent (intentId : Uuid) : Operation ExecutionIntent := do
  let store ← read
  let intent ← check (require (store.intents.get intentId) .key)
  check (ensureExecutableRole intent.accountRole)
  return intent

/-! ## Calls -/

/-- A call of any operation: one that may write, or a read. -/
inductive Request where
  | call (call : Memory.Call)
  | normalizedReturn (role : AccountRole) (currentEquity : Decimal)
  | attemptsFor (intentId : Uuid)
  | getExecutionCertificate (certificateId : Uuid)
  | getAssessmentCertificate (certificateId : Uuid)
  | getEntryBudget (role : AccountRole)
  | getExecutionLock (role : AccountRole)
  | getIntent (intentId : Uuid)

/-- Run an operation that may write, and drop what it returns. -/
def performCall (limits : Option EntryBudgetLimits) : Memory.Call → Operation Unit
  | .registerAccount role fingerprint equity => registerAccount role fingerprint equity
  | .setAutonomousEnabled role enabled actor => setAutonomousEnabled role enabled actor
  | .captureBaseline role baseline => do let _ ← captureBaseline role baseline
  | .observeAccountAdjustment role activity => observeAccountAdjustment role activity
  | .addAssessmentCertificate certificate => addAssessmentCertificate certificate
  | .addEntryApproval approval => addEntryApproval approval
  | .approveIntent intentId role envelope => do let _ ← approveIntent intentId role envelope
  | .claimIntent now token intentId actor role fingerprint => do
      let _ ← claimIntent limits now token intentId actor role fingerprint
  | .releaseUnsubmittedClaim intentId => releaseUnsubmittedClaim intentId
  | .addAttempt attempt => addAttempt attempt
  | .replaceAttempt attempt => replaceAttempt attempt
  | .finalizeExecution now certificate reconciliation requestedStatus => do
      let _ ← finalizeExecution limits now certificate reconciliation requestedStatus
  | .recoverEntryReservations => recoverEntryReservations

/-- Run an operation, and drop what it returns. -/
def perform (limits : Option EntryBudgetLimits) : Request → Operation Unit
  | .call call => performCall limits call
  | .normalizedReturn role currentEquity => do let _ ← normalizedReturn role currentEquity
  | .attemptsFor intentId => do let _ ← attemptsFor intentId
  | .getExecutionCertificate certificateId => do let _ ← getExecutionCertificate certificateId
  | .getAssessmentCertificate certificateId => do let _ ← getAssessmentCertificate certificateId
  | .getEntryBudget role => do let _ ← getEntryBudget role
  | .getExecutionLock role => do let _ ← getExecutionLock role
  | .getIntent intentId => do let _ ← getIntent intentId

/-- The repository as it runs: it starts empty, and a call leaves what its operation leaves,
whether it returns or raises. -/
def inMemory (limits : Option EntryBudgetLimits) : System Store Request where
  initial store := store = {}
  step store request next := next = (perform limits request store).2

end AlphaDecay.InMemoryExecutionRepository
