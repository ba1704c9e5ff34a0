import AlphaDecay.Persistence.Checks
import AlphaDecay.Persistence.Database

/-!
# The origin of an intent

How an intent is read from its row, the fence that a claim holds, and the check that the
authorization of an intent comes from a decision of the agent that still stands.
-/

namespace AlphaDecay

open Foundation Table

/-! ## Intents -/

section

variable [Digest]

/-- The columns of an intent repeat what its envelope holds. -/
def ExecutionIntentRow.matchesEnvelope (row : ExecutionIntentRow) (account : AccountRoleRow) :
    Bool :=
  let envelope := row.envelope
  row.entryApprovalId.or row.assessmentCertificateId ==
    some envelope.authorizationCertificateId &&
  envelope.accountFingerprint == account.accountFingerprint && envelope.action == row.action &&
  envelope.policyHash == row.policyHash &&
  envelope.positionOrBookFingerprint == row.fingerprint && envelope.eventKey == row.eventKey &&
  envelope.tradingDay == row.tradingDay && envelope.quantity == row.quantity &&
  envelope.minimumLimit == row.minimumLimit && envelope.maximumLimit == row.maximumLimit &&
  envelope.approvedMaxLoss == row.approvedMaxLoss &&
  envelope.marketSessionId == row.marketSessionId &&
  sameDecimal envelope.quotedRelativeSpread row.quotedRelativeSpread &&
  sameDecimal envelope.maximumRelativeSpread row.maximumRelativeSpread &&
  sameDecimal envelope.incrementalDebit row.incrementalDebit &&
  sameDecimal envelope.maximumIncrementalDebit row.maximumIncrementalDebit &&
  envelope.legs == row.legs && orderEnvelopeHash envelope == row.envelopeHash &&
  AlphaDecay.intentDigest envelope == row.intentDigest

def intentFromRow (db : Database) (row : ExecutionIntentRow) : Except Failure ExecutionIntent := do
  let account ← require (db.account row.accountRole) (.blocked "ACCOUNT_NOT_REGISTERED")
  raiseIf (!row.matchesEnvelope account) (.blocked "PERSISTED_INTENT_CORRUPT")
  return {
    intentId := row.intentId
    accountRole := row.accountRole
    envelope := row.envelope
    digest := row.intentDigest
    state := row.state
    claimedBy := row.claimedBy
    claimedAt := row.claimedAt
    firstFillConsumed := row.firstFillConsumed
    claimToken := row.claimToken
    claimGeneration := row.claimGeneration
    executionEpoch := row.executionEpoch
    heartbeatAt := row.heartbeatAt
    leaseExpiresAt := row.leaseExpiresAt }

end

/-- Require that the caller holds the claim of an intent. -/
def verifyClaimFence (intent : ExecutionIntentRow) (account : AccountRoleRow)
    (claim : ExecutionIntent) : Except Failure Unit :=
  raiseIf (intent.state != .claimed || intent.intentDigest != claim.digest ||
    intent.claimToken.isNone || intent.claimToken != claim.claimToken ||
    intent.claimGeneration != claim.claimGeneration ||
    intent.executionEpoch != claim.executionEpoch ||
    account.claimGeneration != claim.claimGeneration ||
    account.executionEpoch != claim.executionEpoch) (.blocked "CLAIM_FENCE_MISMATCH")

/-! ## Decisions of the agent -/

/-- The document whose hash identifies the input of a decision. -/
def agentInputMaterial (snapshot : AgentInputSnapshotRow) : Json :=
  .object [
    ("domain", .text "alphadecay.agent-input.v1"),
    ("account_role", .text snapshot.accountRole.text),
    ("account_fingerprint", .text snapshot.accountFingerprint),
    ("decision_kind", .text snapshot.decisionKind),
    ("decision_boundary", .text (Calendar.isoformat snapshot.decisionBoundary)),
    ("observed_at", .text (Calendar.isoformat snapshot.observedAt)),
    ("normalized_input", snapshot.normalizedPayload),
    ("thesis_version_id", Json.ofOptional (fun id => .text (Uuid.toText id))
      snapshot.thesisVersionId)]

/-- The document whose hash identifies the result of a decision that authorizes an intent. -/
def agentResultMaterial (snapshot : AgentInputSnapshotRow) (decision : AgentDecisionRow)
    (intent : ExecutionIntent) : Json :=
  .object ([
    ("domain", .text "alphadecay.agent-decision.v1"),
    ("input_hash", .text snapshot.inputHash),
    ("outcome", .text decision.outcome),
    ("reason_code", .text decision.reasonCode),
    ("policy_hash", .text decision.policyHash),
    ("thesis_version_id", Json.ofOptional (fun id => .text (Uuid.toText id))
      decision.thesisVersionId),
    ("result_payload", decision.resultPayload),
    ("authorization_id", .text intent.envelope.authorizationCertificateId.toText),
    ("intent_id", .text intent.intentId.toText),
    ("intent_digest", .text intent.digest),
    ("autonomy_authorized", .bool true)]
    ++ (decision.experimentLineage.toList.map fun lineage => ("experiment_lineage", lineage)))

/-- The kind and the outcomes of the decisions that authorize an action. -/
def authorizingOutcomes : ExecutionAction → String × List String
  | .entry => ("OPPORTUNITY", ["ENTRY_APPROVED"])
  | .roll => ("ASSESSMENT", ["ROLL_APPROVED"])
  | .close => ("ASSESSMENT", ["CLOSE_APPROVED", "CLOSE_RISK_ONLY"])

/-- What grants an intent, and the decision and thesis it rests on. -/
structure AuthorizationOrigin where
  values : AuthorizationValues
  agentDecisionId : Option Uuid
  thesisVersionId : Uuid

def entryOrigin (row : EntryApprovalCertificateRow) : AuthorizationOrigin where
  values := {
    accountRole := row.accountRole
    policyHash := row.policyHash
    fingerprint := row.bookFingerprint
    envelopeHash := row.envelopeHash
    approvedMaxLoss := row.approvedMaxLoss
    quantity := row.quantity
    valid := row.valid
    validFrom := row.validFrom
    expiresAt := row.expiresAt }
  agentDecisionId := row.agentDecisionId
  thesisVersionId := row.thesisVersionId

/-- The origin of a close or a roll. -/
def assessmentOrigin (row : AssessmentCertificateRow) : AuthorizationOrigin where
  values := {
    accountRole := row.accountRole
    policyHash := row.policyHash
    fingerprint := row.positionFingerprint
    envelopeHash := row.envelopeHash
    approvedMaxLoss := row.approvedMaxLoss
    quantity := row.quantity
    valid := row.valid
    validFrom := row.createdAt
    expiresAt := row.expiresAt }
  agentDecisionId := row.agentDecisionId
  thesisVersionId := row.thesisVersionId

def authorizationOrigin (origins : Origins) (envelope : OrderEnvelope) :
    Except Failure AuthorizationOrigin :=
  let authorizationId := envelope.authorizationCertificateId
  if envelope.action = .entry then do
    let row ← require
      (lookup (fun row : EntryApprovalCertificateRow => row.approvalId) authorizationId
        origins.entryApprovals) (.blocked "AUTHORIZATION_ORIGIN_NOT_FOUND")
    return entryOrigin row
  else do
    let row ← require
      (lookup (fun row : AssessmentCertificateRow => row.certificateId) authorizationId
        origins.assessments) (.blocked "AUTHORIZATION_ORIGIN_NOT_FOUND")
    raiseIf (row.action != envelope.action) (.blocked "AUTHORIZATION_ACTION_MISMATCH")
    return assessmentOrigin row

/-- A decision, with its input, its thesis and its tick, authorizes an intent. -/
def decisionAuthorizes [Digest] (intent : ExecutionIntent) (thesisVersionId : Uuid)
    (decision : AgentDecisionRow) (snapshot : AgentInputSnapshotRow) (thesis : ThesisVersionRow)
    (tick : AgentTickRow) : Bool :=
  let envelope := intent.envelope
  let (kind, outcomes) := authorizingOutcomes envelope.action
  decision.autonomyAuthorized && decision.thesisVersionId == some thesisVersionId &&
  snapshot.thesisVersionId == some thesisVersionId &&
  decision.accountRole == intent.accountRole && snapshot.accountRole == intent.accountRole &&
  thesis.accountRole == intent.accountRole &&
  decision.accountFingerprint == envelope.accountFingerprint &&
  snapshot.accountFingerprint == envelope.accountFingerprint &&
  decision.policyHash == envelope.policyHash && thesis.policyHash == envelope.policyHash &&
  decision.inputSnapshotId == snapshot.snapshotId &&
  tick.decisionId == some decision.decisionId && tick.accountRole == intent.accountRole &&
  tick.accountFingerprint == envelope.accountFingerprint &&
  snapshot.inputHash == Digest.agentHash (agentInputMaterial snapshot) &&
  decision.resultHash == Digest.agentHash (agentResultMaterial snapshot decision intent) &&
  decision.decisionKind == kind && outcomes.contains decision.outcome

/-- Require that an authorization comes from a decision that authorizes its intent. -/
def requireDecisionOrigin [Digest] (origins : Origins) (intent : ExecutionIntent)
    (origin : AuthorizationOrigin) : Except Failure Unit := do
  let mismatch := .blocked "AUTHORIZATION_DECISION_ORIGIN_MISMATCH"
  let decisionId ← require origin.agentDecisionId mismatch
  let decision ← require (lookup AgentDecisionRow.decisionId decisionId origins.decisions) mismatch
  let snapshot ← require
    (lookup AgentInputSnapshotRow.snapshotId decision.inputSnapshotId origins.snapshots) mismatch
  let thesis ← require
    (lookup ThesisVersionRow.thesisVersionId origin.thesisVersionId origins.theses) mismatch
  let tick ← require (lookup AgentTickRow.tickId decision.originTickId origins.ticks) mismatch
  raiseIf (!decisionAuthorizes intent origin.thesisVersionId decision snapshot thesis tick) mismatch

/-- A snapshot is the current one of a managed position that an intent may change. -/
def snapshotIsCurrent (envelope : OrderEnvelope) (thesisVersionId : Uuid)
    (managed : ManagedLifecyclePositionRow) (current : ManagedPositionSnapshotRow) : Bool :=
  managed.accountFingerprint == envelope.accountFingerprint &&
  managed.thesisVersionId == thesisVersionId &&
  managed.activePositionFingerprint == envelope.positionOrBookFingerprint &&
  current.managedPositionId == managed.managedPositionId &&
  current.positionFingerprint == managed.activePositionFingerprint

/-- Require that a close or a roll changes the position under management. -/
def requireLifecyclePosition (origins : Origins) (intent : ExecutionIntent)
    (thesisVersionId : Uuid) : Except Failure Unit := do
  let mismatch := .blocked "LIFECYCLE_POSITION_ORIGIN_MISMATCH"
  let managed ← require (origins.managedPositions.find? fun row =>
    row.accountRole == intent.accountRole && row.closedAt.isNone) mismatch
  let snapshotId ← require managed.currentSnapshotId mismatch
  let current ← require
    (lookup ManagedPositionSnapshotRow.snapshotId snapshotId origins.positionSnapshots) mismatch
  raiseIf (!snapshotIsCurrent intent.envelope thesisVersionId managed current) mismatch

/-- Require that an intent is authorized at a time. -/
def validateOrigin [Digest] (db : Database) (intent : ExecutionIntent) (now : Int) :
    Except Failure Unit := do
  let origin ← authorizationOrigin db.origins intent.envelope
  requireDecisionOrigin db.origins intent origin
  if intent.envelope.action ≠ .entry then
    requireLifecyclePosition db.origins intent origin.thesisVersionId
  validateAuthorization intent origin.values now

end AlphaDecay
