import AlphaDecay.Execution.Permits
import AlphaDecay.Foundation.Table
import AlphaDecay.Persistence.Codec

/-!
# The database

The tables of the repository with the constraints that the database enforces on them. Columns that
hold a JSON document are typed by the value that the document encodes, except the two payloads of
a reconciliation, which nothing reads while an order is executed. A transaction reads and writes a
`Database`; a write that violates a constraint raises an integrity failure.
-/

namespace AlphaDecay

open Foundation Table

/-! ## Accounts -/

/-- An account with its execution lock and the fences of its claims. -/
structure AccountRoleRow where
  role : AccountRole
  accountFingerprint : String
  equity : Decimal
  autonomousEnabled : Bool := false
  executionLocked : Bool := false
  executionLockReason : Option String := none
  executionLockedAt : Option Int := none
  executionLockId : Option Uuid := none
  executionLockGeneration : Int := 0
  recoveryPending : Bool := false
  executionEpoch : Int := 0
  claimGeneration : Int := 0

/-- The reasons for which an account can be locked. -/
def executionLockReasons : List String :=
  ["ASSIGNMENT_SUSPECTED", "RECONCILIATION_MISMATCH", "ENTRY_EQUITY_FLOOR",
    "ENTRY_OPEN_POSITION_LIMIT", "ENTRY_LIMITS_REQUIRED", "ENTRY_POLICY_AUTHORITY_MISMATCH",
    "ENTRY_COUNT_EXHAUSTED", "ENTRY_POSITION_RISK_EXHAUSTED", "ENTRY_RISK_EXHAUSTED",
    "ENTRY_QUANTITY_EXHAUSTED", "BROKER_TRANSITION_STALLED", "UNMANAGED_PARTIAL_EXPOSURE"]

/-- The constraints of `account_roles`. -/
def accountSchema : Schema AccountRoleRow where
  check row := row.role != .replay &&
    (if row.executionLocked then
      row.executionLockReason.any executionLockReasons.contains &&
        row.executionLockedAt.isSome && row.executionLockId.isSome &&
        0 < row.executionLockGeneration
    else row.executionLockReason.isNone && row.executionLockedAt.isNone &&
      row.executionLockId.isNone && !row.recoveryPending) &&
    (0 ≤ row.executionEpoch ∧ 0 ≤ row.claimGeneration)
  clash left right := left.role == right.role ||
    left.accountFingerprint == right.accountFingerprint ||
    clashOn AccountRoleRow.executionLockId left right

structure SubmissionBaselineRow where
  baselineId : Uuid
  accountRole : AccountRole
  accountFingerprint : String
  equity : Decimal
  capturedAt : Int
  positionsHash : String
  ordersHash : String
  activitiesHash : String
  contaminated : Bool := false

/-- The constraints of `submission_baselines`. -/
def baselineSchema : Schema SubmissionBaselineRow where
  check _ := true
  clash left right := left.baselineId == right.baselineId || left.accountRole == right.accountRole

structure CompetitionEntryBudgetRow where
  accountRole : AccountRole
  entriesUsed : Int := 0
  grossApprovedRisk : Decimal := Decimal.ofInt 0
  reservedIntentId : Option Uuid := none
  reservedRisk : Decimal := Decimal.ofInt 0

/-- The constraints of `competition_entry_budget`. -/
def budgetSchema : Schema CompetitionEntryBudgetRow where
  check row := (0 ≤ row.entriesUsed ∧ row.entriesUsed ≤ maxStructuralLifetimeEntries) &&
    (Decimal.ofInt 0 ≤ row.grossApprovedRisk ∧
      row.grossApprovedRisk ≤ maxStructuralLifetimeRisk) &&
    Decimal.ofInt 0 ≤ row.reservedRisk
  clash left right := left.accountRole == right.accountRole

structure AccountReconciliationStateRow extends AccountReconciliationStateFields where
  stateId : Uuid
  sequence : Int
  baselineId : Uuid
  predecessorStateId : Option Uuid := none
  authorityReconciliationId : Option Uuid := none
  authorityPermitId : Option Uuid := none
  authorityObservationId : Option Uuid := none
  authorityPermitRequestHash : Option String := none
  stateHash : String

/-- The constraints of `account_reconciliation_states`. -/
def stateSchema : Schema AccountReconciliationStateRow where
  check row := 0 < row.sequence &&
    (if row.sequence = 1 then row.authorityPermitId.isNone &&
      row.authorityObservationId.isNone && row.authorityPermitRequestHash.isNone
    else row.authorityPermitId.isSome && row.authorityObservationId.isSome &&
      row.authorityPermitRequestHash.any fun hash => hash.toList.length == 64)
  clash left right := left.stateId == right.stateId ||
    (left.accountRole == right.accountRole && left.sequence == right.sequence) ||
    clashOn AccountReconciliationStateRow.predecessorStateId left right ||
    clashOn AccountReconciliationStateRow.authorityReconciliationId left right ||
    clashOn AccountReconciliationStateRow.authorityPermitId left right ||
    clashOn AccountReconciliationStateRow.authorityObservationId left right ||
    left.stateHash == right.stateHash

/-- The constraints of `whole_account_reconciliations`. -/
def reconciliationSchema : Schema WholeAccountReconciliationRow where
  check row := (ReconciliationPurpose.ofText row.purpose).isSome &&
    (0 ≤ row.attemptOrdinal ∧ row.attemptOrdinal ≤ 3)
  clash left right := left.reconciliationId == right.reconciliationId ||
    left.reconciliationHash == right.reconciliationHash

/-! ## Permits -/

/-- The slot of a permit: the mutation of one attempt of one intent. -/
structure Slot where
  intentId : Uuid
  mutationKind : ReconciliationPurpose
  attemptOrdinal : Int
deriving DecidableEq

def BrokerMutationPermit.slot (permit : BrokerMutationPermit) : Slot :=
  ⟨permit.intentId, permit.mutationKind, permit.attemptOrdinal⟩

/-- The columns that a permit has filled in its state. -/
def BrokerMutationPermit.fieldsFit (permit : BrokerMutationPermit) : Bool :=
  match permit.state with
  | .prepared => permit.dispatchNonce.isNone && permit.dispatchAcquiredAt.isNone &&
      permit.consumedAt.isNone && permit.outcomeHash.isNone
  | .dispatching | .lookupOnly => permit.dispatchNonce.isSome &&
      permit.dispatchAcquiredAt.isSome && permit.consumedAt.isNone && permit.outcomeHash.isNone
  | .consumed => permit.dispatchNonce.isSome && permit.dispatchAcquiredAt.isSome &&
      permit.consumedAt.isSome && permit.outcomeHash.isSome
  | .expired => permit.dispatchNonce.isNone && permit.dispatchAcquiredAt.isNone &&
      permit.consumedAt.isSome && permit.outcomeHash.isNone

/-- The quotes behind a replacement are all there or all missing. -/
def quoteAuthorityFits (quoteHash : Option String) (quoteSourceTimestamps : List Int)
    (quoteRetrievedAt timingAuthorityAt : Option Int) (priorRequestHash : Option String) : Bool :=
  match quoteHash with
  | none => quoteSourceTimestamps.isEmpty && quoteRetrievedAt.isNone &&
      timingAuthorityAt.isNone && priorRequestHash.isNone
  | some hash => isHash hash && !quoteSourceTimestamps.isEmpty && quoteRetrievedAt.isSome &&
      timingAuthorityAt.isSome && priorRequestHash.any isHash

def BrokerMutationPermit.slotGeneration (permit : BrokerMutationPermit) : Slot × Int :=
  (permit.slot, permit.generation)

/-- The slot of a permit that may still lead to a mutation. -/
def BrokerMutationPermit.activeSlot (permit : BrokerMutationPermit) : Option Slot :=
  if permit.state.isActive then some permit.slot else none

/-- The constraints of `broker_mutation_permits`. -/
def permitSchema : Schema BrokerMutationPermit where
  check permit := permit.mutationKind != .baselineInitialization &&
    (0 ≤ permit.attemptOrdinal ∧ permit.attemptOrdinal ≤ 3) && 0 < permit.generation &&
    permit.issuedAt < permit.expiresAt && permit.fieldsFit && permit.limitPrice.isSome &&
    quoteAuthorityFits permit.quoteHash permit.quoteSourceTimestamps permit.quoteRetrievedAt
      permit.timingAuthorityAt permit.priorRequestHash
  clash left right := left.permitId == right.permitId ||
    left.reconciliationId == right.reconciliationId ||
    clashOn BrokerMutationPermit.predecessorPermitId left right ||
    clashOn BrokerMutationPermit.dispatchNonce left right ||
    left.slotGeneration == right.slotGeneration ||
    clashOn BrokerMutationPermit.activeSlot left right

/-! ## Attempts and observations -/

structure OrderAttemptRow where
  attemptId : Uuid
  brokerPermitId : Option Uuid
  intentId : Uuid
  ordinal : Int
  clientOrderId : String
  providerOrderId : Option String
  state : AttemptState
  requestHash : String
  limitPrice : Option Decimal
  quoteHash : Option String
  quoteSourceTimestamps : List Int
  quoteRetrievedAt : Option Int
  timingAuthorityAt : Option Int
  priorRequestHash : Option String
  replacesAttemptId : Option Uuid
  filledQuantity : Int
  quantity : Int
  fillCashFlow : Option Decimal

/-- The constraints of `order_attempts`. -/
def attemptSchema : Schema OrderAttemptRow where
  check row := (0 ≤ row.ordinal ∧ row.ordinal ≤ 3) &&
    (0 ≤ row.quantity ∧ row.quantity ≤ maxStructuralOptionQuantity) &&
    (0 ≤ row.filledQuantity ∧ row.filledQuantity ≤ row.quantity) &&
    (row.quoteHash.isNone || 0 < row.ordinal) &&
    quoteAuthorityFits row.quoteHash row.quoteSourceTimestamps row.quoteRetrievedAt
      row.timingAuthorityAt row.priorRequestHash
  clash left right := left.attemptId == right.attemptId ||
    clashOn OrderAttemptRow.brokerPermitId left right ||
    (left.intentId == right.intentId && left.ordinal == right.ordinal) ||
    left.clientOrderId == right.clientOrderId ||
    clashOn OrderAttemptRow.providerOrderId left right

structure AttemptObservationRow extends AttemptObservation where
  attemptId : Uuid

/-- The constraints of `attempt_observations`. -/
def observationSchema : Schema AttemptObservationRow where
  check row := 0 < row.sequence && (0 ≤ row.attemptOrdinal ∧ row.attemptOrdinal ≤ 3)
  clash left right := left.observationId == right.observationId ||
    (left.intentId == right.intentId && left.sequence == right.sequence) ||
    left.observationHash == right.observationHash

/-! ## Intents and certificates -/

/-- An execution intent: its envelope, the columns that repeat parts of it, and its claim. -/
structure ExecutionIntentRow where
  intentId : Uuid
  accountRole : AccountRole
  intentDigest : String
  action : ExecutionAction
  policyHash : String
  eventKey : String
  tradingDay : Calendar.Date
  entryApprovalId : Option Uuid
  assessmentCertificateId : Option Uuid
  fingerprint : String
  envelopeHash : String
  envelope : OrderEnvelope
  legs : List OrderLegIntent
  quantity : Int
  minimumLimit : Decimal
  maximumLimit : Decimal
  approvedMaxLoss : Decimal
  marketSessionId : Option Uuid
  quotedRelativeSpread : Option Decimal
  maximumRelativeSpread : Option Decimal
  incrementalDebit : Option Decimal
  maximumIncrementalDebit : Option Decimal
  state : IntentState
  claimedBy : Option Actor := none
  claimedAt : Option Int := none
  claimToken : Option Uuid := none
  claimGeneration : Int := 0
  executionEpoch : Int := 0
  heartbeatAt : Option Int := none
  leaseExpiresAt : Option Int := none
  firstFillConsumed : Bool := false

/-- A claimed intent has the whole fence of its claim. -/
def ExecutionIntentRow.claimFits (row : ExecutionIntentRow) : Bool :=
  match row.state, row.claimToken, row.claimedAt, row.heartbeatAt, row.leaseExpiresAt with
  | .claimed, some _, some claimedAt, some heartbeatAt, some leaseExpiresAt =>
      0 < row.claimGeneration && claimedAt ≤ heartbeatAt && heartbeatAt < leaseExpiresAt
  | .claimed, _, _, _, _ => false
  | _, _, _, _, _ => true

/-- The authority of a roll is there exactly for a roll. -/
def ExecutionIntentRow.rollAuthorityFits (row : ExecutionIntentRow) : Bool :=
  if row.action = .roll then
    row.marketSessionId.isSome &&
    (row.quotedRelativeSpread.any fun quoted => Decimal.ofInt 0 ≤ quoted &&
      row.maximumRelativeSpread.any fun maximum => quoted ≤ maximum &&
        maximum < Decimal.ofInt 1) &&
    row.incrementalDebit.any fun debit => Decimal.ofInt 0 ≤ debit &&
      row.maximumIncrementalDebit.any fun maximum => debit ≤ maximum &&
        maximum ≤ row.approvedMaxLoss
  else row.marketSessionId.isNone && row.quotedRelativeSpread.isNone &&
    row.maximumRelativeSpread.isNone && row.incrementalDebit.isNone &&
    row.maximumIncrementalDebit.isNone

def ExecutionIntentRow.lease (row : ExecutionIntentRow) : Option AccountRole :=
  if row.state = .claimed then some row.accountRole else none

/-- The role of an entry that is not finished. -/
def ExecutionIntentRow.openEntry (row : ExecutionIntentRow) : Option AccountRole :=
  if row.action = .entry ∧ row.state ≠ .terminal then some row.accountRole else none

/-- The position and session of a roll. -/
def ExecutionIntentRow.rollSession (row : ExecutionIntentRow) :
    Option (AccountRole × String × Uuid) :=
  if row.action = .roll then
    row.marketSessionId.map fun session => (row.accountRole, row.fingerprint, session)
  else none

/-- The constraints of `execution_intents`. -/
def intentSchema : Schema ExecutionIntentRow where
  check row := (if row.action = .entry then
      row.entryApprovalId.isSome && row.assessmentCertificateId.isNone
    else row.entryApprovalId.isNone && row.assessmentCertificateId.isSome) &&
    (1 ≤ row.quantity ∧ row.quantity ≤ maxStructuralOptionQuantity) &&
    row.minimumLimit ≤ row.maximumLimit &&
    (Decimal.ofInt 0 < row.approvedMaxLoss ∧
      row.approvedMaxLoss ≤ maxStructuralApprovedRisk) &&
    row.rollAuthorityFits && (0 ≤ row.claimGeneration ∧ 0 ≤ row.executionEpoch) && row.claimFits
  clash left right := left.intentId == right.intentId ||
    left.intentDigest == right.intentDigest ||
    clashOn ExecutionIntentRow.claimToken left right ||
    clashOn ExecutionIntentRow.lease left right ||
    clashOn ExecutionIntentRow.openEntry left right ||
    clashOn ExecutionIntentRow.rollSession left right

/-- The constraints of `execution_certificates`. -/
def certificateSchema : Schema ExecutionCertificate where
  check _ := true
  clash left right := left.certificateId == right.certificateId ||
    left.intentId == right.intentId ||
    clashOn (fun row : ExecutionCertificate => row.reconciliationId) left right ||
    clashOn (fun row : ExecutionCertificate => row.reconciliationHash) left right ||
    clashOn (fun row : ExecutionCertificate => row.lastObservationHash) left right

/-! ## Origins of authorizations -/

structure EntryApprovalCertificateRow extends EntryApprovalAuthorization where
  agentDecisionId : Option Uuid := none

structure AssessmentCertificateRow extends AssessmentCertificate where
  agentDecisionId : Option Uuid := none

structure AgentInputSnapshotRow where
  snapshotId : Uuid
  thesisVersionId : Option Uuid
  accountRole : AccountRole
  accountFingerprint : String
  decisionKind : String
  decisionBoundary : Int
  observedAt : Int
  normalizedPayload : Json
  inputHash : String

/-- A decision of the agent. The lineage of an experiment is the document that enters its hash. -/
structure AgentDecisionRow where
  decisionId : Uuid
  thesisVersionId : Option Uuid
  originTickId : Uuid
  inputSnapshotId : Uuid
  accountRole : AccountRole
  accountFingerprint : String
  decisionKind : String
  outcome : String
  reasonCode : String
  policyHash : String
  experimentLineage : Option Json := none
  resultPayload : Json
  resultHash : String
  autonomyAuthorized : Bool

structure AgentTickRow where
  tickId : Uuid
  decisionId : Option Uuid
  accountRole : AccountRole
  accountFingerprint : String

structure ThesisVersionRow where
  thesisVersionId : Uuid
  accountRole : AccountRole
  policyHash : String

structure ManagedLifecyclePositionRow where
  managedPositionId : Uuid
  accountRole : AccountRole
  accountFingerprint : String
  thesisVersionId : Uuid
  currentSnapshotId : Option Uuid
  activePositionFingerprint : String
  closedAt : Option Int

structure ManagedPositionSnapshotRow where
  snapshotId : Uuid
  managedPositionId : Uuid
  positionFingerprint : String

/-- The tables behind authorizations, which other services write. -/
structure Origins where
  entryApprovals : List EntryApprovalCertificateRow := []
  assessments : List AssessmentCertificateRow := []
  snapshots : List AgentInputSnapshotRow := []
  decisions : List AgentDecisionRow := []
  ticks : List AgentTickRow := []
  theses : List ThesisVersionRow := []
  managedPositions : List ManagedLifecyclePositionRow := []
  positionSnapshots : List ManagedPositionSnapshotRow := []

/-! ## Tables together -/

structure Database where
  accounts : Checked accountSchema := .empty
  baselines : Checked baselineSchema := .empty
  budgets : Checked budgetSchema := .empty
  states : Checked stateSchema := .empty
  reconciliations : Checked reconciliationSchema := .empty
  permits : Checked permitSchema := .empty
  attempts : Checked attemptSchema := .empty
  observations : Checked observationSchema := .empty
  intents : Checked intentSchema := .empty
  certificates : Checked certificateSchema := .empty
  origins : Origins := {}

namespace Database

def account (db : Database) (role : AccountRole) : Option AccountRoleRow :=
  lookup AccountRoleRow.role role db.accounts.rows

def baseline (db : Database) (role : AccountRole) : Option SubmissionBaselineRow :=
  lookup SubmissionBaselineRow.accountRole role db.baselines.rows

def budget (db : Database) (role : AccountRole) : Option CompetitionEntryBudgetRow :=
  lookup CompetitionEntryBudgetRow.accountRole role db.budgets.rows

def intent (db : Database) (intentId : Uuid) : Option ExecutionIntentRow :=
  lookup ExecutionIntentRow.intentId intentId db.intents.rows

def permit (db : Database) (permitId : Uuid) : Option BrokerMutationPermit :=
  lookup BrokerMutationPermit.permitId permitId db.permits.rows

/-- The key under which permits are read. -/
def permitOrder (permit : BrokerMutationPermit) : List Int :=
  [permit.attemptOrdinal, permit.generation, permit.permitId.toNat]

/-- The key under which attempts are read. -/
def attemptOrder (row : OrderAttemptRow) : List Int :=
  [row.ordinal, row.attemptId.toNat]

/-- The key under which observations are read. -/
def observationOrder (row : AttemptObservationRow) : List Int :=
  [row.sequence, row.observationId.toNat]

/-- The permits of an intent by ordinal, generation and id. -/
def permitsOf (db : Database) (intentId : Uuid) : List BrokerMutationPermit :=
  orderBy permitOrder (db.permits.rows.filter fun permit => permit.intentId == intentId)

def attemptsOf (db : Database) (intentId : Uuid) : List OrderAttemptRow :=
  orderBy attemptOrder (db.attempts.rows.filter fun row => row.intentId == intentId)

def observationsOf (db : Database) (intentId : Uuid) : List AttemptObservationRow :=
  orderBy observationOrder (db.observations.rows.filter fun row => row.intentId == intentId)

@[simp] theorem mem_permitsOf {db : Database} {intentId : Uuid} {permit : BrokerMutationPermit} :
    permit ∈ db.permitsOf intentId ↔ permit ∈ db.permits.rows ∧ permit.intentId = intentId := by
  simp [permitsOf]

@[simp] theorem mem_attemptsOf {db : Database} {intentId : Uuid} {row : OrderAttemptRow} :
    row ∈ db.attemptsOf intentId ↔ row ∈ db.attempts.rows ∧ row.intentId = intentId := by
  simp [attemptsOf]

def latestState (db : Database) (role : AccountRole) : Option AccountReconciliationStateRow :=
  (orderBy (fun row : AccountReconciliationStateRow => row.sequence)
    (db.states.rows.filter fun row => row.accountRole == role)).getLast?

/-! ## Writes -/

def changeAccount (db : Database) (role : AccountRole)
    (change : AccountRoleRow → AccountRoleRow) : Except Failure Database := do
  let accounts ← require (db.accounts.update (fun row => row.role == role) change) .integrity
  return { db with accounts }

def changeBudget (db : Database) (role : AccountRole)
    (change : CompetitionEntryBudgetRow → CompetitionEntryBudgetRow) :
    Except Failure Database := do
  let budgets ← require (db.budgets.update (fun row => row.accountRole == role) change) .integrity
  return { db with budgets }

def changeIntent (db : Database) (intentId : Uuid)
    (change : ExecutionIntentRow → ExecutionIntentRow) : Except Failure Database := do
  let intents ← require (db.intents.update (fun row => row.intentId == intentId) change) .integrity
  return { db with intents }

def changeAttempt (db : Database) (attemptId : Uuid) (change : OrderAttemptRow → OrderAttemptRow) :
    Except Failure Database := do
  let attempts ←
    require (db.attempts.update (fun row => row.attemptId == attemptId) change) .integrity
  return { db with attempts }

def changePermits (db : Database) (permitIds : List Uuid)
    (change : BrokerMutationPermit → BrokerMutationPermit) : Except Failure Database := do
  let permits ←
    require (db.permits.update (fun row => permitIds.contains row.permitId) change) .integrity
  return { db with permits }

def addReconciliation (db : Database) (row : WholeAccountReconciliationRow) :
    Except Failure Database := do
  let reconciliations ← require (db.reconciliations.insert row) .integrity
  return { db with reconciliations }

def addPermit (db : Database) (row : BrokerMutationPermit) : Except Failure Database := do
  let permits ← require (db.permits.insert row) .integrity
  return { db with permits }

def addAttempt (db : Database) (row : OrderAttemptRow) : Except Failure Database := do
  let attempts ← require (db.attempts.insert row) .integrity
  return { db with attempts }

def addObservation (db : Database) (row : AttemptObservationRow) : Except Failure Database := do
  let observations ← require (db.observations.insert row) .integrity
  return { db with observations }

def addIntent (db : Database) (row : ExecutionIntentRow) : Except Failure Database := do
  let intents ← require (db.intents.insert row) .integrity
  return { db with intents }

def addState (db : Database) (row : AccountReconciliationStateRow) :
    Except Failure Database := do
  let states ← require (db.states.insert row) .integrity
  return { db with states }

def addCertificate (db : Database) (row : ExecutionCertificate) : Except Failure Database := do
  let certificates ← require (db.certificates.insert row) .integrity
  return { db with certificates }

end Database

end AlphaDecay
