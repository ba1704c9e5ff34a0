import AlphaDecay.Agent.Store

/-!
# The agent repository

The three transactions that carry a run of the agent: a tick is reserved, the decision of the run is
recorded for it, together with the order that the decision authorizes, and the tick is completed.
Each is atomic and reads the clock of the database once.
-/

namespace AlphaDecay.Agent

open Foundation Table

/-! ## What the transactions return -/

/-- A tick as the repository returns it. Only the call that reserves it gets its token. -/
structure PersistedAgentTick where
  tickId : Uuid
  accountRole : AccountRole
  accountFingerprint : String
  tickKey : String
  tickBoundary : Int
  actor : Actor
  accepted : Bool
  reservationToken : Option Uuid
  completed : Bool
  terminalCode : Option String
  decisionId : Option Uuid
  executionCertificateId : Option Uuid
  proofHash : Option String
  createdAt : Int
  completedAt : Option Int
deriving DecidableEq, Repr

structure PersistedAgentDecision where
  snapshot : AgentInputSnapshotRow
  decision : DecisionRow
  intentId : Option Uuid

def tickFromRow (row : TickRow) (accepted includeReservation : Bool) : PersistedAgentTick where
  tickId := row.tickId
  accountRole := row.accountRole
  accountFingerprint := row.accountFingerprint
  tickKey := row.tickKey
  tickBoundary := row.tickBoundary
  actor := row.actor
  accepted
  reservationToken := if includeReservation then some row.reservationToken else none
  completed := row.status == .completed
  terminalCode := row.terminalCode
  decisionId := row.decisionId
  executionCertificateId := row.executionCertificateId
  proofHash := row.proofHash
  createdAt := row.createdAt
  completedAt := row.completedAt

def decisionFromRows (store : Store) (snapshot : AgentInputSnapshotRow) (decision : DecisionRow) :
    Except Failure PersistedAgentDecision := do
  raiseIf (snapshot.thesisVersionId != decision.thesisVersionId)
    (.runtime "AGENT_DECISION_THESIS_MISMATCH")
  return { snapshot, decision, intentId := store.decisionIntentId decision.decisionId }

/-! ## Reserving a tick -/

structure Reservation where
  accountRole : AccountRole
  accountFingerprint : String
  actor : Actor
  trustedAt : Int
  tickKey : String

/-- The tick that was reserved under a key before. -/
def existingTick (row : TickRow) (reservation : Reservation) :
    Except Failure PersistedAgentTick := do
  raiseIf (row.accountFingerprint != reservation.accountFingerprint ||
    row.actor != reservation.actor || row.tickBoundary != reservation.trustedAt)
    (.blocked "AGENT_TICK_CONFLICT")
  return tickFromRow row false false

def Reservation.key (reservation : Reservation) : AccountRole × String :=
  (reservation.accountRole, reservation.tickKey)

variable [Digest]

/-- The row of a new tick. -/
def Reservation.row (reservation : Reservation) (now : Int) (token : Uuid) : TickRow where
  tickId := Digest.uuid5
    ("alphadecay:agent-tick:" ++ reservation.accountRole.text ++ ":" ++ reservation.tickKey)
  decisionId := none
  accountRole := reservation.accountRole
  accountFingerprint := reservation.accountFingerprint
  tickKey := reservation.tickKey
  tickBoundary := reservation.trustedAt
  actor := reservation.actor
  reservationToken := token
  createdAt := now

/-- Insert a new tick, and return it with its token. -/
def reserveNew (store : Store) (reservation : Reservation) (now : Int) (token : Uuid) :
    Except Failure (Store × PersistedAgentTick) := do
  raiseIf (!(store.execution.account reservation.accountRole).any fun account =>
    account.accountFingerprint == reservation.accountFingerprint)
    (.blocked "AGENT_TICK_ACCOUNT_MISMATCH")
  raiseIf (now < reservation.trustedAt) (.blocked "AGENT_TICK_FROM_FUTURE")
  let row := reservation.row now token
  -- A violated constraint is looked up again; nothing was written in between.
  let ticks ← require (store.ticks.insert row) .integrity
  return ({ store with ticks }, tickFromRow row true true)

/-- Reserve a tick under its key, unless it was reserved before. -/
def reserveTick (store : Store) (reservation : Reservation) (now : Int) (token : Uuid) :
    Except Failure (Store × PersistedAgentTick) := do
  raiseIf (reservation.accountRole == .replay) (.blocked "AGENT_TICK_ROLE_INVALID")
  raiseIf (!(1 ≤ reservation.tickKey.toList.length ∧ reservation.tickKey.toList.length ≤ 128))
    (.blocked "AGENT_TICK_INVALID")
  match store.ticks.rows.find? fun row => row.key == reservation.key with
  | some row => (store, ·) <$> existingTick row reservation
  | none => reserveNew store reservation now token

/-! ## Recording a decision -/

/-- What authorizes an order: the approval of an entry, or the assessment behind a close or roll. -/
inductive Grant where
  | entry (approval : EntryApprovalAuthorization)
  | assessment (certificate : AssessmentCertificate)

structure Authorization where
  grant : Grant
  experimentLineage : Option ExperimentExecutionLineage := none

def Authorization.id (authorization : Authorization) : Uuid :=
  match authorization.grant with
  | .entry approval => approval.approvalId
  | .assessment certificate => certificate.certificateId

def Authorization.thesisVersionId (authorization : Authorization) : Uuid :=
  match authorization.grant with
  | .entry approval => approval.thesisVersionId
  | .assessment certificate => certificate.thesisVersionId

def Authorization.accountRole (authorization : Authorization) : AccountRole :=
  match authorization.grant with
  | .entry approval => approval.accountRole
  | .assessment certificate => certificate.accountRole

structure DecisionRequest where
  accountRole : AccountRole
  accountFingerprint : String
  decisionKind : String
  decisionBoundary : Int
  observedAt : Int
  normalizedInput : Json
  outcome : String
  reasonCode : String
  policyHash : String
  resultPayload : Json
  experimentLineage : Option ExperimentExecutionLineage := none
  thesisVersionId : Option Uuid := none
  authorization : Option Authorization := none
  envelope : Option OrderEnvelope := none
  intentId : Option Uuid := none
  lifecycleManifestId : Option Uuid := none
  tickId : Uuid
  reservationToken : Uuid

/-- A document that is an object. -/
def isObject : Json → Bool
  | .object _ => true
  | _ => false

/-- The text that a document is written as inside other text, where it may be a hash. -/
def written : Json → String
  | .text value => value
  | .number value => if value < 0 then "" else intText value.toNat
  | _ => ""

def holdsHash (name : String) (document : Json) : Bool :=
  isHash ((document.field name).elim "" written)

/-- Both documents of a request hold a typed value. -/
def DecisionRequest.isTyped (request : DecisionRequest) : Bool :=
  (request.normalizedInput.field "typed").any isObject &&
  (request.resultPayload.field "typed").any isObject

/-- Require that a decision on an opportunity of the submission account, which authorizes nothing,
opens nothing. -/
def requireSubmissionOpportunity (request : DecisionRequest) : Except Failure Unit := do
  let calibrationNoTrade := request.outcome == "NO_TRADE" &&
    request.reasonCode == "CALIBRATION_BINDING_NO_TRADE"
  let providerFailure := (request.outcome == "OPPORTUNITY_DECISION_PENDING" ||
    request.outcome == "PROVIDER_FAILURE_NO_TRADE") && request.reasonCode == request.outcome &&
    request.isTyped
  let policyNoTrade := request.outcome == "NO_TRADE" &&
    request.reasonCode != "CALIBRATION_BINDING_NO_TRADE" && request.isTyped
  raiseIf (!(calibrationNoTrade || providerFailure || policyNoTrade))
    (.blocked "SUBMISSION_CALIBRATION_NO_TRADE_REQUIRED")
  raiseIf (calibrationNoTrade && !(holdsHash "machine_binding_hash" request.normalizedInput &&
    holdsHash "calibration_hash" request.normalizedInput))
    (.blocked "SUBMISSION_CALIBRATION_BINDING_INVALID")

/-- Require that a grant fits the decision it comes from and the envelope it authorizes. -/
def requireGrant (request : DecisionRequest) (envelope : OrderEnvelope) :
    Grant → Except Failure Unit
  | .entry approval => do
      raiseIf (request.decisionKind != "OPPORTUNITY" || request.outcome != "ENTRY_APPROVED" ||
        envelope.action != .entry) (.blocked "ENTRY_AUTHORIZATION_KIND_MISMATCH")
      raiseIf (envelope.authorizationCertificateId != approval.approvalId)
        (.blocked "AUTHORIZATION_ID_MISMATCH")
  | .assessment certificate => do
      let expected := match envelope.action with
        | .close => ["CLOSE_APPROVED", "CLOSE_RISK_ONLY"]
        | .roll => ["ROLL_APPROVED"]
        | .entry => []
      raiseIf (request.decisionKind != "ASSESSMENT" || envelope.action != certificate.action ||
        !expected.contains request.outcome) (.blocked "ASSESSMENT_AUTHORIZATION_KIND_MISMATCH")
      raiseIf (envelope.authorizationCertificateId != certificate.certificateId)
        (.blocked "AUTHORIZATION_ID_MISMATCH")

/-- Require that an authorization fits the decision it comes from. -/
def requireAuthorization (request : DecisionRequest) (authorization : Authorization)
    (envelope : OrderEnvelope) : Except Failure Unit := do
  raiseIf request.thesisVersionId.isNone (.blocked "AGENT_THESIS_AUTHORITY_REQUIRED")
  raiseIf (some authorization.thesisVersionId != request.thesisVersionId)
    (.blocked "AUTHORIZATION_THESIS_MISMATCH")
  raiseIf (authorization.accountRole != request.accountRole)
    (.blocked "AUTHORIZATION_ACCOUNT_ROLE_MISMATCH")
  raiseIf (authorization.experimentLineage != request.experimentLineage)
    (.blocked "EXPERIMENT_EXECUTION_LINEAGE_MISMATCH")
  raiseIf (envelope.accountFingerprint != request.accountFingerprint)
    (.blocked "AUTHORIZATION_ACCOUNT_MISMATCH")
  requireGrant request envelope authorization.grant

/-- The authorization, envelope and intent id of a request are all there or all missing. -/
def DecisionRequest.supplied (request : DecisionRequest) : Bool :=
  request.authorization.isSome && request.envelope.isSome && request.intentId.isSome

/-- The check of a request before any table is read. -/
def validateDecisionValues (serverAutonomyEnabled : Bool) (request : DecisionRequest) :
    Except Failure Unit := do
  raiseIf (request.accountRole == .replay) (.blocked "AGENT_DECISION_ROLE_INVALID")
  raiseIf (!isHash request.accountFingerprint || !isHash request.policyHash)
    (.blocked "AGENT_DECISION_HASH_INVALID")
  raiseIf (request.decisionKind != "OPPORTUNITY" && request.decisionKind != "ASSESSMENT")
    (.blocked "AGENT_DECISION_KIND_INVALID")
  raiseIf (request.observedAt < request.decisionBoundary) (.blocked "AGENT_INPUT_BEFORE_BOUNDARY")
  raiseIf (request.outcome.isEmpty || request.reasonCode.isEmpty)
    (.blocked "AGENT_DECISION_RESULT_INVALID")
  raiseIf ((request.authorization.isSome || request.envelope.isSome || request.intentId.isSome) &&
    !request.supplied) (.blocked "AGENT_AUTHORITY_INCOMPLETE")
  raiseIf (request.authorization.isSome && !serverAutonomyEnabled)
    (.blocked "AGENT_AUTHORITY_SERVER_GATE_DISABLED")
  if request.accountRole = .submission ∧ request.decisionKind = "OPPORTUNITY" ∧
      request.supplied = false then
    requireSubmissionOpportunity request
  match request.authorization, request.envelope with
  | some authorization, some envelope => requireAuthorization request authorization envelope
  | _, _ => .ok ()

/-! ### The rows of a decision -/

/-- The input of a request. Its hash is over everything but the hash and the id. -/
def DecisionRequest.input (request : DecisionRequest) : AgentInputSnapshotRow :=
  let row : AgentInputSnapshotRow := {
    snapshotId := Uuid.ofNat 0
    thesisVersionId := request.thesisVersionId
    accountRole := request.accountRole
    accountFingerprint := request.accountFingerprint
    decisionKind := request.decisionKind
    decisionBoundary := request.decisionBoundary
    observedAt := request.observedAt
    normalizedPayload := request.normalizedInput
    inputHash := "" }
  let inputHash := Digest.agentHash (agentInputMaterial row)
  { row with
    snapshotId := Digest.uuid5 ("alphadecay:agent-input:" ++ inputHash)
    inputHash }

/-- A UUID that may be missing, as a document. -/
def idDocument (id : Option Uuid) : Json :=
  Json.ofOptional (fun id => .text (Uuid.toText id)) id

/-- The document whose hash identifies the result of a decision. -/
def agentResultMaterial (request : DecisionRequest) (inputHash : String) : Json :=
  .object ([
    ("domain", .text "alphadecay.agent-decision.v1"),
    ("input_hash", .text inputHash),
    ("outcome", .text request.outcome),
    ("reason_code", .text request.reasonCode),
    ("policy_hash", .text request.policyHash),
    ("thesis_version_id", idDocument request.thesisVersionId),
    ("result_payload", request.resultPayload),
    ("authorization_id", idDocument (request.authorization.map Authorization.id)),
    ("intent_id", idDocument request.intentId),
    ("intent_digest", Json.ofOptional (fun envelope => .text (intentDigest envelope))
      request.envelope),
    ("autonomy_authorized", .bool request.authorization.isSome)]
    ++ (request.experimentLineage.toList.map fun lineage =>
      ("experiment_lineage", lineage.material)))

def DecisionRequest.resultHash (request : DecisionRequest) : String :=
  Digest.agentHash (agentResultMaterial request request.input.inputHash)

def DecisionRequest.decision (request : DecisionRequest) (now : Int) : DecisionRow where
  decisionId := Digest.uuid5 ("alphadecay:agent-decision:" ++ request.resultHash)
  thesisVersionId := request.thesisVersionId
  originTickId := request.tickId
  inputSnapshotId := request.input.snapshotId
  accountRole := request.accountRole
  accountFingerprint := request.accountFingerprint
  decisionKind := request.decisionKind
  outcome := request.outcome
  reasonCode := request.reasonCode
  policyHash := request.policyHash
  experimentLineage := request.experimentLineage
  resultPayload := request.resultPayload
  resultHash := request.resultHash
  autonomyAuthorized := request.authorization.isSome
  decisionBoundary := request.decisionBoundary
  createdAt := now

omit [Digest] in
/-- Require that a request names the observation of a position that it was made on. -/
def requireManifest (request : DecisionRequest) : Except Failure Unit :=
  match request.lifecycleManifestId with
  | none => .ok ()
  | some manifestId => raiseIf (request.decisionKind != "ASSESSMENT" ||
      (request.normalizedInput.field "acquisition_manifest_id").bind Json.asText !=
        some manifestId.toText ||
      !holdsHash "acquisition_manifest_hash" request.normalizedInput)
      (.blocked "LIFECYCLE_INPUT_BINDING_INVALID")

omit [Digest] in
/-- Require that the account of a request is registered, and that its input is not from the
future. -/
def requireDecisionAccount (store : Store) (request : DecisionRequest) (now : Int) :
    Except Failure AccountRoleRow := do
  let account ← require ((store.execution.account request.accountRole).filter fun account =>
    account.accountFingerprint == request.accountFingerprint)
    (.blocked "AGENT_DECISION_ACCOUNT_MISMATCH")
  raiseIf (now < request.observedAt) (.blocked "AGENT_INPUT_FROM_FUTURE")
  return account

omit [Digest] in
/-- Require that the thesis of a request was frozen at a time that fits the decision. -/
def requireThesis (store : Store) (request : DecisionRequest) (now : Int) :
    Except Failure Unit :=
  match request.thesisVersionId with
  | none => .ok ()
  | some thesisVersionId => do
      let thesis ← require (store.thesis thesisVersionId) (.blocked "THESIS_AUTHORITY_MISMATCH")
      raiseIf (thesis.accountRole != request.accountRole ||
        thesis.policyHash != request.policyHash) (.blocked "THESIS_AUTHORITY_MISMATCH")
      let invalidTime :=
        if request.decisionKind = "OPPORTUNITY" then thesis.frozenAt < request.decisionBoundary
        else request.decisionBoundary < thesis.frozenAt
      raiseIf (invalidTime || request.observedAt < thesis.frozenAt || now < thesis.frozenAt)
        (.blocked "AGENT_DECISION_THESIS_AUTHORITY_INVALID")

omit [Digest] in
def requireExperiment (store : Store) (request : DecisionRequest) : Except Failure Unit :=
  match request.experimentLineage with
  | none => .ok ()
  | some lineage => raiseIf (!(lookup CompiledExperimentVersionRow.experimentId
      lineage.experimentId store.surroundings.experiments).any fun compiled =>
      compiled.sourceDefinitionHash == lineage.sourceDefinitionHash &&
      compiled.protocolHash == lineage.protocolHash)
      (.blocked "EXPERIMENT_EXECUTION_LINEAGE_INVALID")

omit [Digest] in
def requireReservedTick (store : Store) (request : DecisionRequest) : Except Failure TickRow :=
  require ((store.tick request.tickId).filter fun tick =>
    tick.reservationToken == request.reservationToken && tick.status == .reserved &&
    tick.accountRole == request.accountRole &&
    tick.accountFingerprint == request.accountFingerprint)
    (.blocked "AGENT_DECISION_TICK_MISMATCH")

omit [Digest] in
/-- Require that an authorization comes from the scheduler, for an account that may execute. -/
def requireAuthority (request : DecisionRequest) (account : AccountRoleRow) (tick : TickRow) :
    Except Failure Unit :=
  if request.authorization.isSome then do
    raiseIf (tick.actor != .scheduler) (.blocked "AGENT_AUTHORITY_SCHEDULER_REQUIRED")
    raiseIf (account.executionLocked || account.recoveryPending)
      (.blocked "AGENT_AUTHORITY_ACCOUNT_LATCHED")
    raiseIf (!account.autonomousEnabled) (.blocked "AGENT_AUTHORITY_AUTONOMY_DISABLED")
  else .ok ()

/-! ### Decisions that were recorded before -/

/-- What the inputs of a boundary show: the decision on the same input, or all decisions. -/
inductive Recorded where
  | same (snapshot : AgentInputSnapshotRow) (decision : DecisionRow)
  | others (decisions : List DecisionRow)

omit [Digest] in
/-- Look for an input with a hash among the inputs of a boundary. -/
def recordedAmong (store : Store) (inputHash : String) :
    List AgentInputSnapshotRow → Except Failure Recorded
  | [] => .ok (.others [])
  | snapshot :: rest => do
      let decision ← require (store.decisionOf snapshot.snapshotId)
        (.blocked "AGENT_DECISION_LINEAGE_INCOMPLETE")
      if snapshot.inputHash = inputHash then return .same snapshot decision
      else
        let recorded ← recordedAmong store inputHash rest
        match recorded with
        | .same snapshot decision => return .same snapshot decision
        | .others decisions => return .others (decision :: decisions)

omit [Digest] in
def boundaryInputs (store : Store) (request : DecisionRequest) : List AgentInputSnapshotRow :=
  orderBy (fun row : AgentInputSnapshotRow => row.snapshotId.toNat)
    (store.snapshots.rows.filter fun row => row.accountRole == request.accountRole &&
      row.decisionKind == request.decisionKind && row.decisionBoundary == request.decisionBoundary)

/-! ### Writes -/

omit [Digest] in
/-- The manifest of an observation may be the input of a decision. -/
def manifestFits (store : Store) (manifestId : Uuid) (snapshot : AgentInputSnapshotRow) : Bool :=
  (lookup LifecycleObservationManifestRow.manifestId manifestId
    store.surroundings.manifests).any fun manifest =>
  (lookup (fun row : PositionRow => row.managedPositionId) manifest.managedPositionId
    store.surroundings.positions).any fun position =>
  manifest.agentInputSnapshotId.isNone && manifest.reconciliationId.isNone &&
  snapshot.decisionKind == "ASSESSMENT" && snapshot.accountRole != .replay &&
  snapshot.accountRole == position.accountRole &&
  snapshot.accountFingerprint == position.accountFingerprint &&
  snapshot.thesisVersionId == some position.thesisVersionId &&
  (snapshot.normalizedPayload.field "acquisition_manifest_id").bind Json.asText ==
    some manifestId.toText &&
  (snapshot.normalizedPayload.field "acquisition_manifest_hash").bind Json.asText ==
    some manifest.manifestHash

/-- Bind an observation of a position to the input that was made of it. -/
def bindLifecycleInput (store : Store) (manifestId : Uuid) (snapshot : AgentInputSnapshotRow) :
    Except Failure Store :=
  match store.bindings.rows.find? fun row => row.manifestId == manifestId ||
    row.agentInputSnapshotId == snapshot.snapshotId with
  | some existing => do
      raiseIf (existing.manifestId != manifestId ||
        existing.agentInputSnapshotId != snapshot.snapshotId)
        (.blocked "LIFECYCLE_INPUT_BINDING_CONFLICT")
      return store
  | none => do
      raiseIf (!manifestFits store manifestId snapshot) (.blocked "LIFECYCLE_INPUT_BINDING_INVALID")
      let bindings ← require (store.bindings.insert {
        bindingId := Digest.uuid5 ("alphadecay:lifecycle-binding:" ++ manifestId.toText ++ ":" ++
          snapshot.snapshotId.toText)
        manifestId
        agentInputSnapshotId := snapshot.snapshotId }) .integrity
      return { store with bindings }

/-- Bind the observation of a request, where it has one. -/
def bindInput (store : Store) (request : DecisionRequest) (snapshot : AgentInputSnapshotRow) :
    Except Failure Store :=
  match request.lifecycleManifestId with
  | none => .ok store
  | some manifestId => bindLifecycleInput store manifestId snapshot

omit [Digest] in
def setTickDecision (store : Store) (tickId decisionId : Uuid) : Except Failure Store := do
  let ticks ← require (store.ticks.update (fun row => row.tickId == tickId)
    fun row => { row with decisionId := some decisionId }) .integrity
  return { store with ticks }

/-- Return a decision that was recorded before on the same input. -/
def recordSame (store : Store) (request : DecisionRequest) (tick : TickRow)
    (snapshot : AgentInputSnapshotRow) (decision : DecisionRow) :
    Except Failure (Store × PersistedAgentDecision) := do
  raiseIf (decision.resultHash != request.resultHash) (.blocked "AGENT_DECISION_CONFLICT")
  raiseIf (!(tick.decisionId.isNone || tick.decisionId == some decision.decisionId))
    (.blocked "AGENT_TICK_DECISION_CONFLICT")
  let store ← bindInput store request snapshot
  let store ← setTickDecision store tick.tickId decision.decisionId
  let result ← decisionFromRows store snapshot decision
  return (store, result)

/-- Store the grant of an order. -/
def addGrant (store : Store) (decisionId : Uuid) (authorization : Authorization) :
    Except Failure Store :=
  match authorization.grant with
  | .entry approval => do
      let approvals ← require (store.approvals.insert {
        toEntryApprovalAuthorization := approval
        agentDecisionId := some decisionId
        experimentLineage := authorization.experimentLineage }) .integrity
      return { store with approvals }
  | .assessment certificate => do
      let assessments ← require (store.assessments.insert {
        toAssessmentCertificate := certificate
        agentDecisionId := some decisionId
        experimentLineage := authorization.experimentLineage }) .integrity
      return { store with assessments }

/-- What a grant allows. -/
def Grant.values : Grant → AuthorizationValues
  | .entry approval => {
      accountRole := approval.accountRole
      policyHash := approval.policyHash
      fingerprint := approval.bookFingerprint
      envelopeHash := approval.envelopeHash
      approvedMaxLoss := approval.approvedMaxLoss
      quantity := approval.quantity
      valid := approval.valid
      validFrom := approval.validFrom
      expiresAt := approval.expiresAt }
  | .assessment certificate => {
      accountRole := certificate.accountRole
      policyHash := certificate.policyHash
      fingerprint := certificate.positionFingerprint
      envelopeHash := certificate.envelopeHash
      approvedMaxLoss := certificate.approvedMaxLoss
      quantity := certificate.quantity
      valid := certificate.valid
      validFrom := certificate.createdAt
      expiresAt := certificate.expiresAt }

omit [Digest] in
/-- Require that a close or a roll changes the open position of the account, and that the position
was not rolled in the session before. -/
def requirePosition (store : Store) (role : AccountRole) (authorization : Authorization)
    (envelope : OrderEnvelope) : Except Failure Unit :=
  match authorization.grant with
  | .entry _ => .ok ()
  | .assessment certificate => do
      raiseIf (!(store.openPosition role).any fun position =>
        position.accountFingerprint == envelope.accountFingerprint &&
        position.thesisVersionId == certificate.thesisVersionId &&
        position.activePositionFingerprint == certificate.positionFingerprint &&
        position.experimentLineage == authorization.experimentLineage)
        (.blocked "LIFECYCLE_POSITION_AUTHORITY_MISMATCH")
      raiseIf (envelope.action == .roll && store.execution.intents.rows.any fun row =>
        row.accountRole == role && row.action == .roll &&
        row.fingerprint == envelope.positionOrBookFingerprint &&
        row.marketSessionId == envelope.marketSessionId) (.blocked "ROLL_SESSION_ALREADY_USED")

/-- Require that the decision and thesis of an authorization belong to the account and policy of
its envelope. -/
def requireThesisAuthority (store : Store) (request : DecisionRequest)
    (authorization : Authorization) (envelope : OrderEnvelope) : Except Failure Unit := do
  let thesis ← require (store.thesis authorization.thesisVersionId)
    (.blocked "THESIS_AUTHORITY_MISMATCH")
  raiseIf (request.thesisVersionId != some authorization.thesisVersionId ||
    request.accountFingerprint != envelope.accountFingerprint ||
    thesis.accountRole != request.accountRole || request.policyHash != envelope.policyHash ||
    thesis.policyHash != envelope.policyHash ||
    request.experimentLineage != authorization.experimentLineage)
    (.blocked "THESIS_AUTHORITY_MISMATCH")

/-- Store the order that a decision authorizes. -/
def addAuthorizedIntent (store : Store) (request : DecisionRequest) (decisionId : Uuid)
    (authorization : Authorization) (envelope : OrderEnvelope) (intentId : Uuid) (now : Int) :
    Except Failure Store := do
  requireThesisAuthority store request authorization envelope
  requirePosition store request.accountRole authorization envelope
  validateAuthorization {
    intentId, accountRole := request.accountRole, envelope, digest := intentDigest envelope
    state := .approved } authorization.grant.values now
  let store ← addGrant store decisionId authorization
  let execution ← store.execution.addIntent (approvedRow intentId request.accountRole envelope)
  return { store with execution }

/-- Store the order of a request, where it has one. -/
def addIntent (store : Store) (request : DecisionRequest) (decisionId : Uuid) (now : Int) :
    Except Failure Store :=
  match request.authorization, request.envelope, request.intentId with
  | some authorization, some envelope, some intentId =>
      addAuthorizedIntent store request decisionId authorization envelope intentId now
  | _, _, _ => .ok store

def recordNew (store : Store) (request : DecisionRequest) (tick : TickRow)
    (decisions : List DecisionRow) (now : Int) :
    Except Failure (Store × PersistedAgentDecision) := do
  raiseIf (!isNonPolicyAudit request.decisionKind request.outcome && decisions.any fun decision =>
    !isNonPolicyAudit decision.decisionKind decision.outcome)
    (.blocked "AGENT_INPUT_BOUNDARY_CONFLICT")
  let snapshots ← require (store.snapshots.insert request.input) .integrity
  let inserted ← require (store.decisions.insert (request.decision now)) .integrity
  let store := { store with snapshots, decisions := inserted }
  let store ← setTickDecision store tick.tickId (request.decision now).decisionId
  let store ← addIntent store request (request.decision now).decisionId now
  let store ← bindInput store request request.input
  let result ← decisionFromRows store request.input (request.decision now)
  return (store, result)

/-- Record the decision of a run for its tick, with the order that it authorizes. -/
def recordDecision (serverAutonomyEnabled : Bool) (store : Store) (request : DecisionRequest)
    (now : Int) : Except Failure (Store × PersistedAgentDecision) := do
  validateDecisionValues serverAutonomyEnabled request
  requireManifest request
  let account ← requireDecisionAccount store request now
  requireThesis store request now
  requireExperiment store request
  let tick ← requireReservedTick store request
  requireAuthority request account tick
  let recorded ← recordedAmong store request.input.inputHash (boundaryInputs store request)
  match recorded with
  | .same snapshot decision => recordSame store request tick snapshot decision
  | .others decisions => recordNew store request tick decisions now

/-! ## Completing a tick -/

structure Completion where
  tickId : Uuid
  reservationToken : Uuid
  terminalCode : String
  decisionId : Option Uuid
  executionCertificateId : Option Uuid
deriving DecidableEq, Repr

/-- The codes of a filled order whose position could not be taken under management. -/
def materializationFailures : List String :=
  ["ENTRY_FILLED_MATERIALIZATION_FAILED", "LIFECYCLE_FILLED_MATERIALIZATION_FAILED"]

/-- The codes that only an execution with a certificate ends with. -/
def certificateCodes : List String :=
  ["FILLED", "REJECTED", "CANCELED", "EXPIRED", "REPLACED", "PARTIAL_CANCELED_RECONCILED",
    "PARTIAL_EXPIRED_RECONCILED", "PARTIAL_REPLACED_RECONCILED"] ++ materializationFailures

/-- The codes that a tick with an authorized order may end with without a certificate. -/
def uncertifiedCodes : List String :=
  ["EXECUTION_BLOCKED", "APPROVED_INTENT_MISMATCH", "ENTRY_APPROVED_WITHOUT_INTENT",
    "ACTION_APPROVED_WITHOUT_INTENT", "ENTRY_MATERIALIZATION_PREPARATION_FAILED"]

omit [Digest] in
/-- A certificate names the authorization of its intent, which comes from a decision. -/
def originMatches (store : Store) (certificate : ExecutionCertificate)
    (intent : ExecutionIntentRow) (decisionId : Uuid) : Bool :=
  match intent.entryApprovalId with
  | some approvalId => (store.approval approvalId).any fun approval =>
      approval.agentDecisionId == some decisionId && intent.action == .entry &&
      certificate.entryApprovalId == some approvalId &&
      certificate.assessmentCertificateId.isNone
  | none => (intent.assessmentCertificateId.bind store.assessment).any fun assessment =>
      assessment.agentDecisionId == some decisionId && intent.action != .entry &&
      assessment.action == intent.action && certificate.entryApprovalId.isNone &&
      certificate.assessmentCertificateId == intent.assessmentCertificateId

omit [Digest] in
/-- A certificate is the end of the order that a decision authorized, with a terminal code. -/
def certificateMatchesDecision (store : Store) (certificateId decisionId : Uuid)
    (terminalCode : String) : Bool :=
  let failed := materializationFailures.contains terminalCode
  (lookup (fun row : ExecutionCertificate => row.certificateId) certificateId
    store.execution.certificates.rows).any fun certificate =>
  certificate.executionStatus == (if failed then "FILLED" else terminalCode) &&
  (store.execution.intent certificate.intentId).any fun intent =>
  originMatches store certificate intent decisionId &&
  (!failed ||
    (terminalCode == "ENTRY_FILLED_MATERIALIZATION_FAILED" && intent.action == .entry) ||
    (terminalCode == "LIFECYCLE_FILLED_MATERIALIZATION_FAILED" && intent.action != .entry))

omit [Digest] in
/-- Require that a terminal code comes with the certificate that it needs, and no other. -/
def requireCertificate (store : Store) (decisionId : Uuid) (terminalCode : String) :
    Option Uuid → Except Failure Unit
  | some certificateId => do
      raiseIf (!certificateMatchesDecision store certificateId decisionId terminalCode)
        (.blocked "AGENT_TICK_CERTIFICATE_MISMATCH")
      raiseIf (store.decisionIntentId decisionId).isNone
        (.blocked "AGENT_TICK_CERTIFICATE_UNAUTHORIZED")
  | none => do
      raiseIf (certificateCodes.contains terminalCode) (.blocked "AGENT_TICK_CERTIFICATE_REQUIRED")
      raiseIf ((store.decisionIntentId decisionId).isSome &&
        !uncertifiedCodes.contains terminalCode) (.blocked "AGENT_TICK_CERTIFICATE_REQUIRED")

def tickProofHash (row : TickRow) (completion : Completion) (resultHash : String) : String :=
  Digest.agentHash (.object [
    ("domain", .text "alphadecay.agent-tick-proof.v1"),
    ("tick_id", .text completion.tickId.toText),
    ("account_role", .text row.accountRole.text),
    ("account_fingerprint", .text row.accountFingerprint),
    ("tick_key", .text row.tickKey),
    ("tick_boundary", .text (Calendar.isoformat row.tickBoundary)),
    ("actor", .text row.actor.text),
    ("terminal_code", .text completion.terminalCode),
    ("decision_id", idDocument completion.decisionId),
    ("decision_result_hash", .text resultHash),
    ("execution_certificate_id", idDocument completion.executionCertificateId)])

/-- Everything that the completion of a tick checks. -/
structure CompletionRows where
  row : TickRow
  proofHash : String

def checkCompletion (store : Store) (completion : Completion) : Except Failure CompletionRows := do
  raiseIf completion.terminalCode.isEmpty (.blocked "AGENT_TICK_COMPLETION_INVALID")
  let row ← require ((store.tick completion.tickId).filter fun row =>
    row.reservationToken == completion.reservationToken)
    (.blocked "AGENT_TICK_RESERVATION_MISMATCH")
  let decisionId ← require row.decisionId (.blocked "AGENT_TICK_DECISION_MISMATCH")
  raiseIf (completion.decisionId != some decisionId) (.blocked "AGENT_TICK_DECISION_MISMATCH")
  let decision ← require ((store.decision decisionId).filter fun decision =>
    decision.accountRole == row.accountRole) (.blocked "AGENT_TICK_DECISION_MISMATCH")
  requireCertificate store decisionId completion.terminalCode completion.executionCertificateId
  return { row, proofHash := tickProofHash row completion decision.resultHash }

/-- A completed tick was completed in the same way. -/
def sameCompletion (row : TickRow) (completion : Completion) (proofHash : String) : Bool :=
  row.terminalCode == some completion.terminalCode && row.decisionId == completion.decisionId &&
  row.executionCertificateId == completion.executionCertificateId &&
  row.proofHash == some proofHash

def completedRow (completion : Completion) (proofHash : String) (now : Int) (row : TickRow) :
    TickRow :=
  { row with
    status := .completed
    terminalCode := some completion.terminalCode
    executionCertificateId := completion.executionCertificateId
    proofHash := some proofHash
    completedAt := some now }

/-- Complete a tick, unless it is completed already. -/
def completeTick (store : Store) (completion : Completion) (now : Int) :
    Except Failure (Store × PersistedAgentTick) := do
  let rows ← checkCompletion store completion
  if rows.row.status = .completed then do
    raiseIf (!sameCompletion rows.row completion rows.proofHash)
      (.blocked "AGENT_TICK_COMPLETION_CONFLICT")
    return (store, tickFromRow rows.row false false)
  else do
    let ticks ← require (store.ticks.update (fun row => row.tickId == completion.tickId)
      (completedRow completion rows.proofHash now)) .integrity
    return ({ store with ticks },
      tickFromRow (completedRow completion rows.proofHash now rows.row) false false)

/-! ## The system -/

/-- A call: of the agent repository, of the execution repository, or of another service. -/
inductive Call where
  | reserveTick (reservation : Reservation)
  | recordDecision (request : DecisionRequest)
  | completeTick (completion : Completion)
  | execution (call : AlphaDecay.Call)
  | surroundings (surroundings : Surroundings)

/-- A transaction: a call, the times its clock shows first and last, and the identifier it draws. -/
structure Transaction where
  call : Call
  start : Int
  now : Int
  fresh : Uuid

/-- What a transaction returns of a tick or a decision. -/
inductive Response where
  | tick (tick : PersistedAgentTick)
  | decision (decision : PersistedAgentDecision)
  | none

/-- The calls of the execution repository that write what the agent owns. -/
def writesAgent : AlphaDecay.Call → Bool
  | .changeOrigins _ => true
  | .addAuthorizedIntent _ _ _ => true
  | _ => false

/-- Run a transaction of the execution repository next to the tables of the agent. -/
def runExecution (settings : RepositorySettings) (transaction : AlphaDecay.Transaction)
    (store : Store) : Except Failure Store := do
  raiseIf (writesAgent transaction.call) (.value "AGENT_TABLES_RESERVED")
  let execution ← AlphaDecay.run settings transaction store.database
  return { store with execution }

/-- Run a transaction, or say what it raises. -/
def run (settings : RepositorySettings) (serverAutonomyEnabled : Bool) (transaction : Transaction)
    (store : Store) : Except Failure (Store × Response) :=
  let { call, start, now, fresh } := transaction
  match call with
  | .reserveTick reservation =>
      (fun (store, tick) => (store, .tick tick)) <$> reserveTick store reservation now fresh
  | .recordDecision request => (fun (store, decision) => (store, .decision decision)) <$>
      recordDecision serverAutonomyEnabled store request now
  | .completeTick completion =>
      (fun (store, tick) => (store, .tick tick)) <$> completeTick store completion now
  | .execution call => (fun store => (store, .none)) <$>
      runExecution settings { call, start, now, fresh } store
  | .surroundings surroundings => .ok ({ store with surroundings }, .none)

/-- The tables after a transaction. A transaction that raises leaves them as they were. -/
def execute (settings : RepositorySettings) (serverAutonomyEnabled : Bool)
    (transaction : Transaction) (store : Store) : Store :=
  match run settings serverAutonomyEnabled transaction store with
  | .ok (after, _) => after
  | .error _ => store

/-- The tables, and the last time that the clock of the database showed. -/
structure World where
  store : Store
  clock : Int

/-- A transaction reads a clock that does not go back. -/
structure Transaction.Timed (transaction : Transaction) (clock : Int) : Prop where
  start_ge : clock ≤ transaction.start
  now_ge : transaction.start ≤ transaction.now

/-- The repositories together: they start without rows, and their steps are transactions. -/
def repository (settings : RepositorySettings) (serverAutonomyEnabled : Bool) :
    System World Transaction where
  initial world := world.store = {}
  step world transaction next :=
    transaction.Timed world.clock ∧
      next = {
        store := execute settings serverAutonomyEnabled transaction world.store
        clock := transaction.now }

end AlphaDecay.Agent
