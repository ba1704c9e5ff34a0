import AlphaDecay.Persistence.Repository

/-!
# The tables of the agent

The tables that the agent repository writes: ticks, the inputs and decisions recorded for them, and
the authorizations of orders that come from a decision. They stand next to the tables of the
execution repository, which sees them only as the origins of its authorizations.
-/

namespace AlphaDecay.Agent

open Foundation Table

/-! ## Rows -/

/-- The experiment that a decision belongs to. -/
structure ExperimentExecutionLineage where
  experimentId : Uuid
  sourceDefinitionHash : String
  protocolHash : String
deriving DecidableEq, Repr

/-- The document of a lineage. -/
def ExperimentExecutionLineage.material (lineage : ExperimentExecutionLineage) : Json :=
  .object [
    ("experiment_id", .text lineage.experimentId.toText),
    ("source_definition_hash", .text lineage.sourceDefinitionHash),
    ("protocol_hash", .text lineage.protocolHash)]

/-- A tick is reserved first and completed once. -/
inductive TickStatus where
  | reserved
  | completed
deriving DecidableEq, Repr

structure TickRow extends AgentTickRow where
  tickKey : String
  tickBoundary : Int
  actor : Actor
  status : TickStatus := .reserved
  reservationToken : Uuid
  terminalCode : Option String := none
  executionCertificateId : Option Uuid := none
  proofHash : Option String := none
  createdAt : Int
  completedAt : Option Int := none

/-- The end of a tick is there exactly when the tick is completed. -/
def TickRow.completionFits (row : TickRow) : Bool :=
  match row.status with
  | .reserved => row.terminalCode.isNone && row.proofHash.isNone && row.completedAt.isNone
  | .completed => row.terminalCode.isSome && row.proofHash.isSome &&
      row.completedAt.any fun completedAt => row.createdAt ≤ completedAt

/-- The account and key under which a tick is reserved. -/
def TickRow.key (row : TickRow) : AccountRole × String :=
  (row.accountRole, row.tickKey)

/-- The constraints of `agent_ticks`. -/
def tickSchema : Schema TickRow where
  check row := row.completionFits && isHash row.accountFingerprint &&
    row.proofHash.all isHash
  clash left right := left.tickId == right.tickId || left.key == right.key ||
    left.reservationToken == right.reservationToken

/-- The constraints of `agent_input_snapshots`. -/
def snapshotSchema : Schema AgentInputSnapshotRow where
  check row := (row.decisionKind == "OPPORTUNITY" || row.decisionKind == "ASSESSMENT") &&
    row.decisionBoundary ≤ row.observedAt && isHash row.accountFingerprint && isHash row.inputHash
  clash left right := left.snapshotId == right.snapshotId || left.inputHash == right.inputHash

structure DecisionRow where
  decisionId : Uuid
  thesisVersionId : Option Uuid
  originTickId : Uuid
  inputSnapshotId : Uuid
  accountRole : AccountRole
  accountFingerprint : String
  decisionKind : String
  outcome : String
  reasonCode : String
  policyHash : String
  experimentLineage : Option ExperimentExecutionLineage
  resultPayload : Json
  resultHash : String
  autonomyAuthorized : Bool
  decisionBoundary : Int
  createdAt : Int

/-- The outcomes by which a failure is noted without a decision of the policy. -/
def nonPolicyOutcomes (decisionKind : String) : List String :=
  if decisionKind = "OPPORTUNITY" then ["OPPORTUNITY_DECISION_PENDING", "PROVIDER_FAILURE_NO_TRADE"]
  else if decisionKind = "ASSESSMENT" then ["PROVIDER_FAILURE_NO_ACTION"]
  else []

/-- The outcome of a decision of a kind only notes a failure. -/
def isNonPolicyAudit (decisionKind outcome : String) : Bool :=
  (nonPolicyOutcomes decisionKind).contains outcome

/-- The boundary at which a decision of the policy is made. Failures of any kind are left out. -/
def DecisionRow.policyBoundary (row : DecisionRow) : Option (AccountRole × String × Int) :=
  if ["OPPORTUNITY_DECISION_PENDING", "PROVIDER_FAILURE_NO_TRADE",
    "PROVIDER_FAILURE_NO_ACTION"].contains row.outcome then none
  else some (row.accountRole, row.decisionKind, row.decisionBoundary)

/-- A decision on an opportunity of the submission account that opens nothing, or has a thesis. -/
def DecisionRow.submissionLineageFits (row : DecisionRow) : Bool :=
  !(row.accountRole == .submission && row.decisionKind == "OPPORTUNITY") ||
  (row.outcome == "NO_TRADE" && row.reasonCode == "CALIBRATION_BINDING_NO_TRADE" &&
    !row.autonomyAuthorized) ||
  (["NO_TRADE", "OPPORTUNITY_DECISION_PENDING", "PROVIDER_FAILURE_NO_TRADE"].contains
    row.outcome && !row.autonomyAuthorized) ||
  row.thesisVersionId.isSome

/-- The constraints of `agent_decisions`. -/
def decisionSchema : Schema DecisionRow where
  check row := (row.decisionKind == "OPPORTUNITY" || row.decisionKind == "ASSESSMENT") &&
    row.submissionLineageFits && isHash row.accountFingerprint && isHash row.policyHash &&
    isHash row.resultHash
  clash left right := left.decisionId == right.decisionId ||
    left.inputSnapshotId == right.inputSnapshotId || left.resultHash == right.resultHash ||
    clashOn DecisionRow.policyBoundary left right

structure ApprovalRow extends EntryApprovalCertificateRow where
  experimentLineage : Option ExperimentExecutionLineage := none

/-- The constraints of `entry_approval_certificates`. -/
def approvalSchema : Schema ApprovalRow where
  check row := Decimal.ofInt 0 < row.approvedMaxLoss &&
    (1 ≤ row.quantity ∧ row.quantity ≤ maxStructuralOptionQuantity) &&
    row.validFrom < row.expiresAt && (row.experimentLineage.isNone || row.agentDecisionId.isSome)
  clash left right := left.approvalId == right.approvalId ||
    clashOn (fun row : ApprovalRow => row.agentDecisionId) left right

structure AssessmentRow extends AssessmentCertificateRow where
  experimentLineage : Option ExperimentExecutionLineage := none

/-- The constraints of `assessment_certificates`. -/
def assessmentSchema : Schema AssessmentRow where
  check row := row.action != .entry && Decimal.ofInt 0 < row.approvedMaxLoss &&
    (1 ≤ row.quantity ∧ row.quantity ≤ maxStructuralOptionQuantity) &&
    row.createdAt < row.expiresAt && (row.experimentLineage.isNone || row.agentDecisionId.isSome)
  clash left right := left.certificateId == right.certificateId ||
    left.assessmentId == right.assessmentId ||
    clashOn (fun row : AssessmentRow => row.agentDecisionId) left right

/-- The use of an observation of a position as the input of a decision. -/
structure BindingRow where
  bindingId : Uuid
  manifestId : Uuid
  agentInputSnapshotId : Uuid

/-- The constraints of `lifecycle_observation_bindings`. -/
def bindingSchema : Schema BindingRow where
  check _ := true
  clash left right := left.bindingId == right.bindingId || left.manifestId == right.manifestId ||
    left.agentInputSnapshotId == right.agentInputSnapshotId

/-! ## What other services write -/

structure ThesisRow extends ThesisVersionRow where
  frozenAt : Int

structure CompiledExperimentVersionRow where
  experimentId : Uuid
  sourceDefinitionHash : String
  protocolHash : String

structure PositionRow extends ManagedLifecyclePositionRow where
  experimentLineage : Option ExperimentExecutionLineage := none

structure LifecycleObservationManifestRow where
  manifestId : Uuid
  manifestHash : String
  agentInputSnapshotId : Option Uuid
  managedPositionId : Uuid
  reconciliationId : Option Uuid

/-- The tables that the agent reads and other services write. -/
structure Surroundings where
  theses : List ThesisRow := []
  experiments : List CompiledExperimentVersionRow := []
  positions : List PositionRow := []
  positionSnapshots : List ManagedPositionSnapshotRow := []
  manifests : List LifecycleObservationManifestRow := []

/-! ## Tables together -/

/-- The tables of the agent next to those of the execution repository. -/
structure Store where
  execution : Database := {}
  ticks : Checked tickSchema := .empty
  snapshots : Checked snapshotSchema := .empty
  decisions : Checked decisionSchema := .empty
  approvals : Checked approvalSchema := .empty
  assessments : Checked assessmentSchema := .empty
  bindings : Checked bindingSchema := .empty
  surroundings : Surroundings := {}

/-- A decision as the execution repository reads it. -/
def DecisionRow.origin (row : DecisionRow) : AgentDecisionRow where
  decisionId := row.decisionId
  thesisVersionId := row.thesisVersionId
  originTickId := row.originTickId
  inputSnapshotId := row.inputSnapshotId
  accountRole := row.accountRole
  accountFingerprint := row.accountFingerprint
  decisionKind := row.decisionKind
  outcome := row.outcome
  reasonCode := row.reasonCode
  policyHash := row.policyHash
  experimentLineage := row.experimentLineage.map ExperimentExecutionLineage.material
  resultPayload := row.resultPayload
  resultHash := row.resultHash
  autonomyAuthorized := row.autonomyAuthorized

namespace Store

/-- The origins that the execution repository reads. -/
def origins (store : Store) : Origins where
  entryApprovals := store.approvals.rows.map ApprovalRow.toEntryApprovalCertificateRow
  assessments := store.assessments.rows.map AssessmentRow.toAssessmentCertificateRow
  snapshots := store.snapshots.rows
  decisions := store.decisions.rows.map DecisionRow.origin
  ticks := store.ticks.rows.map TickRow.toAgentTickRow
  theses := store.surroundings.theses.map ThesisRow.toThesisVersionRow
  managedPositions := store.surroundings.positions.map PositionRow.toManagedLifecyclePositionRow
  positionSnapshots := store.surroundings.positionSnapshots

/-- The database of the execution repository. -/
def database (store : Store) : Database :=
  { store.execution with origins := store.origins }

def tick (store : Store) (tickId : Uuid) : Option TickRow :=
  lookup (fun row : TickRow => row.tickId) tickId store.ticks.rows

def decision (store : Store) (decisionId : Uuid) : Option DecisionRow :=
  lookup DecisionRow.decisionId decisionId store.decisions.rows

/-- The decision that was made on an input. -/
def decisionOf (store : Store) (snapshotId : Uuid) : Option DecisionRow :=
  lookup DecisionRow.inputSnapshotId snapshotId store.decisions.rows

def approval (store : Store) (approvalId : Uuid) : Option ApprovalRow :=
  lookup (fun row : ApprovalRow => row.approvalId) approvalId store.approvals.rows

def assessment (store : Store) (certificateId : Uuid) : Option AssessmentRow :=
  lookup (fun row : AssessmentRow => row.certificateId) certificateId store.assessments.rows

def thesis (store : Store) (thesisVersionId : Uuid) : Option ThesisRow :=
  lookup (fun row : ThesisRow => row.thesisVersionId) thesisVersionId store.surroundings.theses

def openPosition (store : Store) (role : AccountRole) : Option PositionRow :=
  store.surroundings.positions.find? fun row => row.accountRole == role && row.closedAt.isNone

def decisionIntentId (store : Store) (decisionId : Uuid) : Option Uuid :=
  match store.approvals.rows.find? fun row => row.agentDecisionId == some decisionId with
  | some approval => (store.execution.intents.rows.find? fun row =>
      row.entryApprovalId == some approval.approvalId).map fun row => row.intentId
  | none =>
      match store.assessments.rows.find? fun row => row.agentDecisionId == some decisionId with
      | some assessment => (store.execution.intents.rows.find? fun row =>
          row.assessmentCertificateId == some assessment.certificateId).map fun row => row.intentId
      | none => none

end Store

end AlphaDecay.Agent
