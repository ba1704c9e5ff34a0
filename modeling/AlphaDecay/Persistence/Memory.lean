import AlphaDecay.Foundation.Transition
import AlphaDecay.Persistence.Checks

/-!
# The repository in memory

The repository that keeps accounts, budgets, intents, attempts and certificates in dictionaries
under one lock. Every operation is atomic: it returns the new store, or raises and leaves the
store as it was.
-/

namespace AlphaDecay.Memory

open Foundation

structure AccountState where
  role : AccountRole
  fingerprint : String
  equity : Decimal
  autonomousEnabled : Bool
  executionLocked : Bool := false
  executionLockReason : Option String := none
  executionLockedAt : Option Int := none
  executionEpoch : Int := 0
  claimGeneration : Int := 0

structure EntryBudget where
  entriesUsed : Int := 0
  grossApprovedRisk : Decimal := Decimal.ofInt 0
  reservedIntentId : Option Uuid := none
  reservedRisk : Decimal := Decimal.ofInt 0
deriving DecidableEq, Repr

/-- Everything the repository keeps. -/
structure Store where
  accounts : Dict AccountRole AccountState := Dict.empty
  baselines : Dict AccountRole SubmissionBaseline := Dict.empty
  contaminated : List AccountRole := []
  budgets : Dict AccountRole EntryBudget := Dict.empty
  eventDays : List (AccountRole × String × Calendar.Date) := []
  intents : Dict Uuid ExecutionIntent := Dict.empty
  digestIds : Dict String Uuid := Dict.empty
  attempts : Dict Uuid (List OrderAttempt) := Dict.empty
  entryApprovals : Dict Uuid EntryApprovalAuthorization := Dict.empty
  assessmentCertificates : Dict Uuid AssessmentCertificate := Dict.empty
  assessmentIds : Dict Uuid Uuid := Dict.empty
  certificates : Dict Uuid ExecutionCertificate := Dict.empty
  intentCertificateIds : Dict Uuid Uuid := Dict.empty

/-! ## Accounts -/

/-- Register an account, or update the equity of a registered one. -/
def registerAccount (role : AccountRole) (fingerprint : String) (equity : Decimal)
    (store : Store) : Except Failure Store := do
  ensureExecutableRole role
  let current := store.accounts.get role
  raiseIf (current.any fun account => account.fingerprint != fingerprint)
    (.blocked "ACCOUNT_FINGERPRINT_MISMATCH")
  raiseIf (store.accounts.entries.any fun (registered, account) =>
    registered != role && account.fingerprint == fingerprint)
    (.blocked "ACCOUNT_FINGERPRINT_ALREADY_REGISTERED")
  let account := match current with
    | some account => { account with equity }
    | none => { role, fingerprint, equity, autonomousEnabled := false }
  return { store with
    accounts := store.accounts.set role account
    budgets := match store.budgets.get role with
      | some _ => store.budgets
      | none => store.budgets.set role {} }

/-- Let the owner switch the autonomy of an account. -/
def setAutonomousEnabled (role : AccountRole) (enabled : Bool) (actor : Actor) (store : Store) :
    Except Failure Store := do
  ensureExecutableRole role
  raiseIf (actor != .owner) (.blocked "SCHEDULER_CANNOT_ENABLE_AUTONOMY")
  let account ← require (store.accounts.get role) .key
  return { store with
    accounts := store.accounts.set role { account with autonomousEnabled := enabled } }

def captureBaseline (role : AccountRole) (baseline : SubmissionBaseline) (store : Store) :
    Except Failure Store := do
  ensureExecutableRole role
  raiseIf (store.baselines.get role).isSome (.blocked "BASELINE_ALREADY_CAPTURED")
  let account ← require (store.accounts.get role) (.blocked "BASELINE_ACCOUNT_MISMATCH")
  raiseIf (role != .submission || account.fingerprint != baseline.accountFingerprint)
    (.blocked "BASELINE_ACCOUNT_MISMATCH")
  raiseIf (baseline.equity != Decimal.ofInt 100000) (.blocked "BASELINE_EQUITY_INVALID")
  return { store with baselines := store.baselines.set role { baseline with clean := true } }

/-- Mark an account whose balance was adjusted from outside. -/
def observeAccountAdjustment (role : AccountRole) (activity : String) (store : Store) :
    Except Failure Store := do
  ensureExecutableRole role
  if ["RESET", "DEPOSIT", "WITHDRAWAL", "TRANSFER", "JOURNAL", "UNKNOWN_CASH"].contains activity
  then return { store with contaminated := role :: store.contaminated }
  else return store

/-! ## Authorizations -/

def addAssessmentCertificate (certificate : AssessmentCertificate) (store : Store) :
    Except Failure Store := do
  ensureExecutableRole certificate.accountRole
  raiseIf (store.assessmentCertificates.get certificate.certificateId).isSome
    (.blocked "CERTIFICATE_IMMUTABLE")
  raiseIf (store.entryApprovals.get certificate.certificateId).isSome
    (.blocked "AUTHORIZATION_ID_COLLISION")
  raiseIf (store.assessmentIds.get certificate.assessmentId).isSome
    (.blocked "ASSESSMENT_ALREADY_CERTIFIED")
  return { store with
    assessmentCertificates :=
      store.assessmentCertificates.set certificate.certificateId certificate
    assessmentIds := store.assessmentIds.set certificate.assessmentId certificate.certificateId }

def addEntryApproval (approval : EntryApprovalAuthorization) (store : Store) :
    Except Failure Store := do
  ensureExecutableRole approval.accountRole
  raiseIf (store.entryApprovals.get approval.approvalId).isSome
    (.blocked "AUTHORIZATION_IMMUTABLE")
  raiseIf (store.assessmentCertificates.get approval.approvalId).isSome
    (.blocked "AUTHORIZATION_ID_COLLISION")
  return { store with entryApprovals := store.entryApprovals.set approval.approvalId approval }

variable [Digest]

/-- Require that the authorization of an entry covers an intent. -/
def requireEntryOrigin (intent : ExecutionIntent) (now : Int) (store : Store) :
    Except Failure Unit := do
  let authorizationId := intent.envelope.authorizationCertificateId
  raiseIf (store.assessmentCertificates.get authorizationId).isSome
    (.blocked "AUTHORIZATION_ACTION_MISMATCH")
  let approval ← require (store.entryApprovals.get authorizationId)
    (.blocked "AUTHORIZATION_ORIGIN_NOT_FOUND")
  validateAuthorization intent {
    accountRole := approval.accountRole
    policyHash := approval.policyHash
    fingerprint := approval.bookFingerprint
    envelopeHash := approval.envelopeHash
    approvedMaxLoss := approval.approvedMaxLoss
    quantity := approval.quantity
    valid := approval.valid
    validFrom := approval.validFrom
    expiresAt := approval.expiresAt } now

/-- Require that the assessment behind a close or a roll covers an intent. -/
def requireAssessmentOrigin (intent : ExecutionIntent) (now : Int) (store : Store) :
    Except Failure Unit := do
  let authorizationId := intent.envelope.authorizationCertificateId
  raiseIf (store.entryApprovals.get authorizationId).isSome
    (.blocked "AUTHORIZATION_ACTION_MISMATCH")
  let certificate ← require (store.assessmentCertificates.get authorizationId)
    (.blocked "AUTHORIZATION_ORIGIN_NOT_FOUND")
  raiseIf (certificate.action != intent.envelope.action) (.blocked "AUTHORIZATION_ACTION_MISMATCH")
  validateAuthorization intent {
    accountRole := certificate.accountRole
    policyHash := certificate.policyHash
    fingerprint := certificate.positionFingerprint
    envelopeHash := certificate.envelopeHash
    approvedMaxLoss := certificate.approvedMaxLoss
    quantity := certificate.quantity
    valid := certificate.valid
    validFrom := certificate.createdAt
    expiresAt := certificate.expiresAt } now

/-- Require that an intent has an authorization that covers it. -/
def requireAuthorizationOrigin (intent : ExecutionIntent) (now : Int) (store : Store) :
    Except Failure Unit :=
  if intent.envelope.action = .entry then requireEntryOrigin intent now store
  else requireAssessmentOrigin intent now store

/-! ## Intents -/

/-- An intent of a role that opens a position. -/
def isEntryOf (role : AccountRole) (intent : ExecutionIntent) : Bool :=
  intent.accountRole == role && intent.envelope.action == .entry

/-- Require that a role may have one more entry on an event and a day. -/
def requireEntrySlot (role : AccountRole) (envelope : OrderEnvelope) (store : Store) :
    Except Failure Unit :=
  if envelope.action = .entry then do
    raiseIf (store.eventDays.contains (role, envelope.eventKey, envelope.tradingDay))
      (.blocked "EVENT_DAY_ALREADY_USED")
    raiseIf (store.intents.values.any fun intent =>
      isEntryOf role intent && intent.state != .terminal) (.blocked "ENTRY_INTENT_ACTIVE")
  else .ok ()

def addApproved (intentId : Uuid) (role : AccountRole) (envelope : OrderEnvelope)
    (store : Store) : Store :=
  let digest := intentDigest envelope
  { store with
    intents := store.intents.set intentId {
      intentId, accountRole := role, envelope, digest, state := .approved }
    digestIds := store.digestIds.set digest intentId
    eventDays := if envelope.action = .entry then
        (role, envelope.eventKey, envelope.tradingDay) :: store.eventDays
      else store.eventDays
    attempts := store.attempts.set intentId [] }

/-- Approve a new intent of a registered account. -/
def approveNew (intentId : Uuid) (role : AccountRole) (envelope : OrderEnvelope)
    (store : Store) : Except Failure Store := do
  raiseIf (store.intents.get intentId).isSome (.blocked "INTENT_ID_ALREADY_USED")
  requireEntrySlot role envelope store
  let account ← require (store.accounts.get role) (.blocked "ACCOUNT_FINGERPRINT_MISMATCH")
  raiseIf (account.fingerprint != envelope.accountFingerprint)
    (.blocked "ACCOUNT_FINGERPRINT_MISMATCH")
  return addApproved intentId role envelope store

/-- Approve an intent. Approving the same envelope again changes nothing. -/
def approveIntent (intentId : Uuid) (role : AccountRole) (envelope : OrderEnvelope)
    (store : Store) : Except Failure Store := do
  ensureExecutableRole role
  match store.digestIds.get (intentDigest envelope) with
  | some existingId =>
      let existing ← require (store.intents.get existingId) .key
      raiseIf (existing.accountRole != role || existing.envelope != envelope)
        (.blocked "INTENT_DIGEST_COLLISION")
      return store
  | none => approveNew intentId role envelope store

/-- Require the baseline that an entry of the submission account needs. -/
def requireCleanBaseline (role : AccountRole) (store : Store) : Except Failure Unit :=
  if role = .submission then do
    raiseIf (store.baselines.get role).isNone (.blocked "SUBMISSION_BASELINE_REQUIRED")
    raiseIf (store.contaminated.contains role) (.blocked "SUBMISSION_BASELINE_CONTAMINATED")
  else .ok ()

/-- The entry of an intent, as the limits see it. -/
def proposedEntry (intent : ExecutionIntent) (account : AccountState) (budget : EntryBudget)
    (proposedRisk : Decimal) : ProposedEntry where
  policyHash := intent.envelope.policyHash
  equity := account.equity
  entriesUsed := budget.entriesUsed
  lifetimeRisk := budget.grossApprovedRisk
  proposedRisk := proposedRisk
  proposedQuantity := intent.envelope.quantity

def reserveEntry (limits : Option EntryBudgetLimits) (intent : ExecutionIntent)
    (account : AccountState) (store : Store) : Except Failure Store := do
  let budget ← require (store.budgets.get intent.accountRole) .key
  requireCleanBaseline intent.accountRole store
  raiseIf budget.reservedIntentId.isSome (.blocked "ENTRY_RESERVATION_ACTIVE")
  validateEntryLimits limits
    (proposedEntry intent account budget intent.envelope.approvedMaxLoss)
  return { store with budgets := store.budgets.set intent.accountRole { budget with
    reservedIntentId := some intent.intentId
    reservedRisk := intent.envelope.approvedMaxLoss } }

/-- Require the actor that an action needs, and reserve the budget of an entry. -/
def authorizeClaim (limits : Option EntryBudgetLimits) (actor : Actor) (intent : ExecutionIntent)
    (account : AccountState) (store : Store) : Except Failure Store :=
  if intent.envelope.action = .entry then do
    raiseIf (actor == .owner) (.blocked "OWNER_ENTRY_FORBIDDEN")
    raiseIf (!account.autonomousEnabled) (.blocked "AUTONOMOUS_DISABLED")
    reserveEntry limits intent account store
  else do
    raiseIf (actor == .scheduler && !account.autonomousEnabled) (.blocked "AUTONOMOUS_DISABLED")
    return store

/-- The intent after it is claimed. -/
def claimed (intent : ExecutionIntent) (actor : Actor) (account : AccountState) (now : Int)
    (token : Uuid) : ExecutionIntent :=
  { intent with
    state := .claimed
    claimedBy := some actor
    claimedAt := some now
    claimToken := some token
    claimGeneration := account.claimGeneration + 1
    executionEpoch := account.executionEpoch
    heartbeatAt := some now
    leaseExpiresAt := some (now + Calendar.seconds 30) }

/-- Claim an approved intent for execution. -/
def claimIntent (limits : Option EntryBudgetLimits) (now : Int) (token : Uuid) (intentId : Uuid)
    (actor : Actor) (accountRole : AccountRole) (accountFingerprint : String) (store : Store) :
    Except Failure Store := do
  let intent ← require (store.intents.get intentId) .key
  raiseIf (intent.accountRole != accountRole) (.blocked "ACCOUNT_ROLE_MISMATCH")
  ensureExecutableRole intent.accountRole
  let account ← require (store.accounts.get intent.accountRole) .key
  raiseIf (account.fingerprint != accountFingerprint) (.blocked "ACCOUNT_FINGERPRINT_MISMATCH")
  raiseIf account.executionLocked (.blocked "ACCOUNT_EXECUTION_LOCKED")
  raiseIf (intent.state != .approved) (.blocked "INTENT_ALREADY_CLAIMED")
  raiseIf (store.intents.values.any fun other =>
    other.accountRole == intent.accountRole && other.state == .claimed)
    (.blocked "ACCOUNT_EXECUTION_LEASE_ACTIVE")
  requireAuthorizationOrigin intent now store
  let store ← authorizeClaim limits actor intent account store
  return { store with
    accounts := store.accounts.set intent.accountRole
      { account with claimGeneration := account.claimGeneration + 1 }
    intents := store.intents.set intentId (claimed intent actor account now token) }

/-- The budget without the reservation of an intent. -/
def releaseReservation (intentId : Uuid) (budget : EntryBudget) : EntryBudget :=
  if budget.reservedIntentId = some intentId then
    { budget with reservedIntentId := none, reservedRisk := Decimal.ofInt 0 }
  else budget

/-- Give up a claim for which no attempt was made. -/
def releaseUnsubmittedClaim (intentId : Uuid) (store : Store) : Except Failure Store := do
  let intent ← require (store.intents.get intentId) .key
  let attempts ← require (store.attempts.get intentId) .key
  raiseIf (intent.state != .claimed || !attempts.isEmpty) (.blocked "CLAIM_NOT_UNSUBMITTED")
  let budget ← require (store.budgets.get intent.accountRole) .key
  return { store with
    budgets := store.budgets.set intent.accountRole (releaseReservation intentId budget)
    intents := store.intents.set intentId { intent with state := .terminal } }

/-- The claimed intent of an attempt on an unlocked account. -/
def requireOpenClaim (intentId : Uuid) (store : Store) : Except Failure Unit := do
  let intent ← require (store.intents.get intentId) .key
  ensureExecutableRole intent.accountRole
  let account ← require (store.accounts.get intent.accountRole) .key
  raiseIf account.executionLocked (.blocked "ACCOUNT_EXECUTION_LOCKED")
  raiseIf (intent.state != .claimed) (.blocked "INTENT_NOT_CLAIMED")

/-- Add the next attempt of a claimed intent. -/
def addAttempt (attempt : OrderAttempt) (store : Store) : Except Failure Store := do
  requireOpenClaim attempt.intentId store
  let attempts ← require (store.attempts.get attempt.intentId) .key
  raiseIf (attempt.ordinal != attempts.length || attempt.ordinal > 3)
    (.blocked "ATTEMPT_ORDINAL_INVALID")
  raiseIf (attempt.replacesClientOrderId != attempts.getLast?.map fun last => last.clientOrderId)
    (.blocked "ATTEMPT_REPLACEMENT_LINEAGE_INVALID")
  return { store with attempts := store.attempts.set attempt.intentId (attempts ++ [attempt]) }

/-- Replace the last attempt of a claimed intent by a new observation of it. -/
def replaceAttempt (attempt : OrderAttempt) (store : Store) : Except Failure Store := do
  requireOpenClaim attempt.intentId store
  let attempts ← require (store.attempts.get attempt.intentId) .key
  let existing ← require attempts.getLast? (.blocked "ATTEMPT_NOT_FOUND")
  raiseIf (existing.ordinal != attempt.ordinal) (.blocked "ATTEMPT_NOT_FOUND")
  raiseIf (attempt.clientOrderId != existing.clientOrderId ||
    attempt.requestHash != existing.requestHash ||
    attempt.replacesClientOrderId != existing.replacesClientOrderId ||
    attempt.intentId != existing.intentId) (.blocked "ATTEMPT_IMMUTABLE_FIELDS_MISMATCH")
  validateAttemptObservation existing attempt
  return { store with
    attempts := store.attempts.set attempt.intentId (attempts.dropLast ++ [attempt]) }

/-! ## Finalization -/

/-- The account after a finalization that has a reason to lock it. -/
def lockAccount (account : AccountState) (reason : Option String) (now : Int) : AccountState :=
  if reason.isSome && !account.executionLocked then
    { account with
      executionLocked := true, executionLockReason := reason, executionLockedAt := some now }
  else account

/-- The budget after an entry was finalized: a fill is charged, and the reservation ends. -/
def chargeEntry (limits : Option EntryBudgetLimits) (intent : ExecutionIntent)
    (account : AccountState) (budget : EntryBudget) (hasFill : Bool) :
    Except Failure EntryBudget := do
  raiseIf (budget.reservedIntentId != some intent.intentId) (.blocked "ENTRY_RESERVATION_MISSING")
  raiseIf (budget.reservedRisk != intent.envelope.approvedMaxLoss)
    (.blocked "ENTRY_RESERVATION_RISK_MISMATCH")
  if hasFill then do
    validateEntryLimits limits (proposedEntry intent account budget budget.reservedRisk)
    return {
      entriesUsed := budget.entriesUsed + 1
      grossApprovedRisk := budget.grossApprovedRisk + budget.reservedRisk }
  else return { budget with reservedIntentId := none, reservedRisk := Decimal.ofInt 0 }

/-- The budget of a role after an intent was finalized. Only entries draw on it. -/
def finalizeBudget (limits : Option EntryBudgetLimits) (intent : ExecutionIntent)
    (account : AccountState) (budget : EntryBudget) (hasFill : Bool) :
    Except Failure EntryBudget :=
  if intent.envelope.action = .entry then chargeEntry limits intent account budget hasFill
  else .ok budget

def finalizeExecution (limits : Option EntryBudgetLimits) (now : Int)
    (certificate : ExecutionCertificate) (reconciliation : Reconciliation)
    (requestedStatus : String) (store : Store) : Except Failure Store := do
  raiseIf (store.certificates.get certificate.certificateId).isSome
    (.blocked "CERTIFICATE_IMMUTABLE")
  raiseIf (store.intentCertificateIds.get certificate.intentId).isSome
    (.blocked "INTENT_ALREADY_CERTIFIED")
  let intent ← require (store.intents.get certificate.intentId) .key
  ensureExecutableRole intent.accountRole
  let attempts ← require (store.attempts.get intent.intentId) .key
  let (normalized, hasFill) ←
    validateFinalization intent attempts certificate reconciliation requestedStatus now
  let lockReason :=
    if hasFill && requestedStatus.startsWith "PARTIAL_" then some "UNMANAGED_PARTIAL_EXPOSURE"
    else executionLockReason reconciliation
  let account ← require (store.accounts.get intent.accountRole) .key
  let budget ← require (store.budgets.get intent.accountRole) .key
  let charged ← finalizeBudget limits intent account budget hasFill
  return { store with
    budgets := store.budgets.set intent.accountRole charged
    accounts := store.accounts.set intent.accountRole (lockAccount account lockReason now)
    certificates := store.certificates.set normalized.certificateId normalized
    intentCertificateIds :=
      store.intentCertificateIds.set certificate.intentId certificate.certificateId
    intents := store.intents.set certificate.intentId { intent with
      state := .terminal, firstFillConsumed := intent.firstFillConsumed || hasFill } }

/-- Reserve the budget of one claimed entry again. -/
def recoverReservation (store : Store) (intent : ExecutionIntent) : Except Failure Store :=
  if intent.envelope.action = .entry ∧ intent.state = .claimed ∧ intent.firstFillConsumed = false
  then do
    let budget ← require (store.budgets.get intent.accountRole) .key
    return { store with budgets := store.budgets.set intent.accountRole { budget with
      reservedIntentId := some intent.intentId
      reservedRisk := intent.envelope.approvedMaxLoss } }
  else .ok store

/-- Reserve the budget of every claimed entry again, after a restart. -/
def recoverEntryReservations (store : Store) : Except Failure Store :=
  store.intents.values.foldlM recoverReservation store

/-! ## Runs -/

/-- A call of the repository, with the time and the token it draws. -/
inductive Call where
  | registerAccount (role : AccountRole) (fingerprint : String) (equity : Decimal)
  | setAutonomousEnabled (role : AccountRole) (enabled : Bool) (actor : Actor)
  | captureBaseline (role : AccountRole) (baseline : SubmissionBaseline)
  | observeAccountAdjustment (role : AccountRole) (activity : String)
  | addAssessmentCertificate (certificate : AssessmentCertificate)
  | addEntryApproval (approval : EntryApprovalAuthorization)
  | approveIntent (intentId : Uuid) (role : AccountRole) (envelope : OrderEnvelope)
  | claimIntent (now : Int) (token : Uuid) (intentId : Uuid) (actor : Actor)
      (role : AccountRole) (fingerprint : String)
  | releaseUnsubmittedClaim (intentId : Uuid)
  | addAttempt (attempt : OrderAttempt)
  | replaceAttempt (attempt : OrderAttempt)
  | finalizeExecution (now : Int) (certificate : ExecutionCertificate)
      (reconciliation : Reconciliation) (requestedStatus : String)
  | recoverEntryReservations

/-- What a call does to the store. -/
def apply (limits : Option EntryBudgetLimits) : Call → Store → Except Failure Store
  | .registerAccount role fingerprint equity => registerAccount role fingerprint equity
  | .setAutonomousEnabled role enabled actor => setAutonomousEnabled role enabled actor
  | .captureBaseline role baseline => captureBaseline role baseline
  | .observeAccountAdjustment role activity => observeAccountAdjustment role activity
  | .addAssessmentCertificate certificate => addAssessmentCertificate certificate
  | .addEntryApproval approval => addEntryApproval approval
  | .approveIntent intentId role envelope => approveIntent intentId role envelope
  | .claimIntent now token intentId actor role fingerprint =>
      claimIntent limits now token intentId actor role fingerprint
  | .releaseUnsubmittedClaim intentId => releaseUnsubmittedClaim intentId
  | .addAttempt attempt => addAttempt attempt
  | .replaceAttempt attempt => replaceAttempt attempt
  | .finalizeExecution now certificate reconciliation requestedStatus =>
      finalizeExecution limits now certificate reconciliation requestedStatus
  | .recoverEntryReservations => recoverEntryReservations

/-- The repository with fixed limits: it starts empty, and a call that raises changes nothing. -/
def repository (limits : Option EntryBudgetLimits) : System Store Call where
  initial store := store = {}
  step store call next :=
    apply limits call store = .ok next ∨
      (∃ failure, apply limits call store = .error failure) ∧ next = store

end AlphaDecay.Memory
