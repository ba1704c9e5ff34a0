import AlphaDecay.Agent.Repository
import AlphaDecay.Lifecycle.CloseOrder

/-!
# The later checks of a lifecycle proposal

A proposal is built from the context of a position and checked twice again: the agent compares it
with the assessment that it evaluates itself, and the repository compares it with the decision that
it records. `proposal_passes` says that a proposal passes both checks until its authorization
expires, for a close as for a roll.
-/

namespace AlphaDecay.Lifecycle

open Foundation
open Agent (Authorization DecisionRequest)

/-! ## What a tick acquires -/

structure AgentTick where
  tickId : Uuid
  reservationToken : Uuid
  authority : ObservedPaperAccountAuthority
  actor : Actor
  trustedAt : Int

structure RollSelection where
  candidate : RollCandidate
  observation : LifecycleRollObservation

/-- What a tick finds out about a position before it is assessed. The manifest is the document of
everything that was acquired. -/
structure LifecycleFindings where
  actualExposure : GreekExposure
  thesisStatus : ThesisStatus
  evidenceState : EvidenceState
  scores : ScoreInput
  hardGates : HardGateInput
  rollSelection : Option RollSelection
  manifest : Json

/-- What a tick acquires of a position. -/
structure LifecycleAcquisition where
  values : AssessmentInput
  thesisVersionId : Uuid
  proposal : Option AuthorizationIntentProposal

section Acquired

variable [Digest]

/-- The values of the assessment of a tick. -/
def lifecycleValues (context : RetainedLifecycleContext) (tickId : Uuid)
    (findings : LifecycleFindings) : AssessmentInput :=
  let manifestHash := Digest.authorityHash findings.manifest
  { assessmentId := Digest.uuid5 ("alphadecay:lifecycle-assessment:" ++ tickId.toText)
    runId := tickId
    policyHash := context.policyHash
    quality := .complete
    actualExposure := some findings.actualExposure
    thesisStatus := findings.thesisStatus
    evidenceState := findings.evidenceState
    scores := some findings.scores
    hardGates := findings.hardGates
    rollCandidate := findings.rollSelection.map fun selection => selection.candidate
    acquisitionManifestId :=
      some (Digest.uuid5 ("alphadecay:lifecycle-acquisition:" ++ manifestHash))
    acquisitionManifestHash := some manifestHash }

def acquireLifecycle (context : RetainedLifecycleContext)
    (observation : LifecycleProviderObservation) (findings : LifecycleFindings) (tickId : Uuid)
    (trustedAt : Int) : Except Failure LifecycleAcquisition := do
  let values := lifecycleValues context tickId findings
  let proposal ← lifecycleProposal context observation values
    (findings.rollSelection.map fun selection => selection.observation) trustedAt
  return { values, thesisVersionId := context.thesisVersionId, proposal }

/-! ## The check of the agent -/

omit [Digest] in
/-- Nothing has claimed an intent. -/
def intentIsUnclaimed (intent : ExecutionIntent) : Bool :=
  intent.claimedBy.isNone && intent.claimedAt.isNone && !intent.firstFillConsumed
    && intent.claimToken.isNone && intent.claimGeneration == 0 && intent.executionEpoch == 0
    && intent.heartbeatAt.isNone && intent.leaseExpiresAt.isNone

omit [Digest] in
/-- The alternatives of an assessment that are eligible for an action. -/
def eligibleAlternatives (result : PolicyResult) (action : ExecutionAction) : List Alternative :=
  result.response.alternatives.filter fun alternative =>
    alternative.eligible && alternative.action.text == action.text

/-- A proposal is that of the assessment that the agent evaluates. -/
def validLifecycleProposal (tick : AgentTick) (result : PolicyResult)
    (acquisition : LifecycleAcquisition) (proposal : AuthorizationIntentProposal) : Bool :=
  let authorization := proposal.authorization
  let intent := proposal.intent
  let envelope := intent.envelope
  match result.executionDecision.proposedAction with
  | none => false
  | some expectedAction =>
      match eligibleAlternatives result expectedAction with
      | [alternative] =>
          authorization.thesisVersionId == acquisition.thesisVersionId
            && intent.state == .approved && intent.digest == intentDigest envelope
            && intentIsUnclaimed intent && intent.accountRole == tick.authority.role
            && envelope.action == expectedAction && authorization.action == expectedAction
            && authorization.assessmentId == result.response.assessmentId
            && authorization.expectedAfterExposure == alternative.expectedExposure
            && envelope.authorizationCertificateId == authorization.certificateId
            && envelope.accountFingerprint == tick.authority.accountFingerprint
            && envelope.positionOrBookFingerprint == authorization.positionFingerprint
            && envelope.policyHash == result.response.policyHash
            && result.response.policyHash == authorization.policyHash
            && envelope.quantity == authorization.quantity
            && envelope.approvedMaxLoss == authorization.approvedMaxLoss
            && authorization.accountRole == tick.authority.role && authorization.valid
            && authorization.envelopeHash == orderEnvelopeHash envelope
            && decide (authorization.createdAt ≤ tick.trustedAt ∧
              tick.trustedAt < authorization.expiresAt)
      | _ => false

/-- The proposal that a run keeps: a valid one, of a decision that approves an order, for the
scheduler of an autonomous account. -/
def keptProposal (serverAutonomyEnabled : Bool) (tick : AgentTick) (result : PolicyResult)
    (acquisition : LifecycleAcquisition) : Option AuthorizationIntentProposal :=
  if result.executionDecision.proposedAction.isSome && tick.actor == .scheduler
      && serverAutonomyEnabled && tick.authority.persistentAutonomyEnabled then
    acquisition.proposal.filter (validLifecycleProposal tick result acquisition)
  else none

end Acquired

/-! ## The record of a decision -/

/-- A certificate, as the repository takes it. -/
def LifecycleCertificate.authorization (certificate : LifecycleCertificate) : Authorization where
  grant := .assessment certificate.toAssessmentCertificate
  experimentLineage := certificate.experimentLineage

/-- The members that the input of a decision has beside its values: the manifest that they were
acquired with. -/
def manifestMembers (values : AssessmentInput) :
    Except Failure (List (String × Json) × Option Uuid) :=
  match values.acquisitionManifestId, values.acquisitionManifestHash with
  | none, none => .ok ([], none)
  | some manifestId, some manifestHash => .ok ([
      ("acquisition_manifest_id", .text manifestId.toText),
      ("acquisition_manifest_hash", .text manifestHash)], some manifestId)
  | _, _ => .error (.value "LIFECYCLE_INPUT_BINDING_REQUIRED")

/-- What a tick records of an assessment, with the proposal that was kept. The documents are those
of the encoded values and of the encoded decision. -/
def lifecycleRequest (tick : AgentTick) (acquisition : LifecycleAcquisition)
    (result : PolicyResult) (proposal : Option AuthorizationIntentProposal)
    (typedValues typedDecision : Json) : Except Failure DecisionRequest := do
  let manifest ← manifestMembers acquisition.values
  return {
    accountRole := tick.authority.role
    accountFingerprint := tick.authority.accountFingerprint
    decisionKind := "ASSESSMENT"
    decisionBoundary := tick.trustedAt
    observedAt := tick.trustedAt
    normalizedInput := .object (("typed", typedValues) :: manifest.1)
    outcome := result.executionDecision.text
    reasonCode := result.response.rationaleCode
    policyHash := result.response.policyHash
    resultPayload := .object [("typed", typedDecision)]
    thesisVersionId := some acquisition.thesisVersionId
    authorization := proposal.map fun proposal => proposal.authorization.authorization
    envelope := proposal.map fun proposal => proposal.intent.envelope
    intentId := proposal.map fun proposal => proposal.intent.intentId
    lifecycleManifestId := manifest.2
    tickId := tick.tickId
    reservationToken := tick.reservationToken }

/-! ## How a proposal is built -/

section

variable [Digest]
variable {context : RetainedLifecycleContext} {values : AssessmentInput} {tick : AgentTick}
  {acquisition : LifecycleAcquisition} {result : PolicyResult}
  {proposal : AuthorizationIntentProposal}
variable {parsed : ParsedVertical} {findings : LifecycleFindings} {request : DecisionRequest}

structure Proposed (context : RetainedLifecycleContext) (values : AssessmentInput)
    (trustedAt : Int) (result : PolicyResult) (proposal : AuthorizationIntentProposal) where
  action : ExecutionAction
  expected : Option GreekExposure
  envelope : OrderEnvelope
  expiresAt : Int
  session : AlpacaMarketSession
  legs : List OrderLegIntent
  bounds : LimitBounds
  decided : result.executionDecision.proposedAction = some action
  exposure : eligibleExposure result = .ok expected
  fields : envelope.toOrderEnvelopeFields =
    proposedEnvelope context session values action legs bounds
  live : trustedAt < expiresAt
  built : proposal = proposalOf context values action expected envelope trustedAt expiresAt

/-- Every proposal is built so. -/
theorem lifecycleProposal_proposed {observation : LifecycleProviderObservation}
    {selectedRoll : Option LifecycleRollObservation} {trustedAt : Int}
    (h : lifecycleProposal context observation values selectedRoll trustedAt = .ok (some proposal))
    (hresult : evaluateAssessment values = .ok result) :
    Nonempty (Proposed context values trustedAt result proposal) := by
  rw [lifecycleProposal, hresult, ok_bind] at h
  cases hdecided : result.executionDecision.proposedAction with
  | none =>
      rw [hdecided] at h
      cases h
  | some action =>
      rw [hdecided] at h
      have hmapped : some <$> proposeAction context observation values selectedRoll trustedAt
        result action = .ok (some proposal) := h
      clear h
      obtain ⟨built, h, hsome⟩ := map_ok.mp hmapped
      obtain rfl := Option.some.inj hsome
      obtain ⟨expected, hexposure, h⟩ := bind_ok.mp h
      obtain ⟨package, -, h⟩ := bind_ok.mp h
      obtain ⟨bounds, -, h⟩ := bind_ok.mp h
      obtain ⟨envelope, hmake, h⟩ := bind_ok.mp h
      obtain ⟨hlive, h⟩ := check_bind_ok.mp h
      obtain rfl := Except.ok.inj h
      obtain ⟨hvalid, rfl⟩ := build_ok.mp hmake
      rw [raiseIf_ok, decide_eq_false_iff_not, not_le] at hlive
      exact ⟨⟨action, expected, _, _, _, _, _, hdecided, hexposure, rfl, hlive, rfl⟩⟩

omit [Digest] in
/-- The one alternative that is eligible for an approved action, with the exposure it expects. -/
theorem eligibleAlternatives_proposed {action : ExecutionAction}
    (h : evaluateAssessment values = .ok result)
    (hdecided : result.executionDecision.proposedAction = some action) :
    ∃ alternative, eligibleAlternatives result action = [alternative] ∧
      eligibleExposure result = .ok alternative.expectedExposure := by
  obtain ⟨verdict, hanswers⟩ := evaluateAssessment_answers h
  obtain ⟨haction, -⟩ := verdict_action hanswers.decided
  rw [hanswers.decision] at hdecided
  have htext : verdict.action.text = action.text ∧ verdict.action ≠ .noAction := by
    rw [haction]
    cases hdecision : verdict.decision <;> rw [hdecision] at hdecided <;> cases hdecided <;>
      exact ⟨rfl, by decide⟩
  obtain ⟨alternative, heligible, htaken⟩ : ∃ alternative,
      ((alternativesOf values verdict).filter fun item => item.eligible) = [alternative] ∧
        alternative.action = verdict.action :=
    ⟨_, eligible_alternatives htext.2, rfl⟩
  refine ⟨alternative, ?_, ?_⟩
  · have hsame : (alternative.action.text == action.text) = true := by
      rw [htaken, htext.1, beq_self_eq_true]
    have hcomm : (fun item : Alternative => item.eligible && item.action.text == action.text) =
        fun item => item.action.text == action.text && item.eligible :=
      funext fun _ => Bool.and_comm _ _
    rw [eligibleAlternatives, hanswers.alternatives, hcomm, ← List.filter_filter, heligible]
    simp only [List.filter_cons, hsame, if_true, List.filter_nil]
  · rw [eligibleExposure, hanswers.alternatives, heligible]

omit [Digest] in
/-- An exposure equals itself. -/
theorem exposure_beq_self (exposure : Option GreekExposure) : (exposure == exposure) = true := by
  cases exposure with
  | none => rfl
  | some exposure =>
      show (exposure.delta == exposure.delta && exposure.gamma == exposure.gamma &&
        exposure.thetaPerDay == exposure.thetaPerDay &&
        exposure.vegaPerIvPoint == exposure.vegaPerIvPoint) = true
      simp only [Decimal.beq_self, Bool.and_self]

/-! ## Both checks pass -/

/-- The proposal of a tick is valid for the assessment that the agent evaluates. -/
theorem Proposed.valid (haccepted : AcceptedContext context tick.authority parsed)
    (hvalues : acquisition.values = lifecycleValues context tick.tickId findings)
    (hthesis : acquisition.thesisVersionId = context.thesisVersionId)
    (hresult : evaluateAssessment acquisition.values = .ok result)
    (h : Proposed context acquisition.values tick.trustedAt result proposal) :
    validLifecycleProposal tick result acquisition proposal = true := by
  obtain ⟨action, expected, envelope, expiresAt, session, legs, bounds, hdecided, hexposure,
    hfields, hlive, rfl⟩ := h
  obtain ⟨verdict, hanswers⟩ := evaluateAssessment_answers hresult
  obtain ⟨alternative, halternatives, hexpected⟩ := eligibleAlternatives_proposed hresult hdecided
  obtain rfl : expected = alternative.expectedExposure :=
    Except.ok.inj (hexposure.symm.trans hexpected)
  have hpolicy : result.response.policyHash = context.policyHash := by
    rw [hanswers.policyHash, hvalues]
    rfl
  have hassessment := hanswers.assessmentId
  unfold validLifecycleProposal
  dsimp only
  rw [hdecided]
  dsimp only
  rw [halternatives]
  dsimp only [proposalOf]
  rw [hfields, hpolicy, hassessment, hthesis]
  simp [proposedEnvelope, intentIsUnclaimed, haccepted.role, haccepted.fingerprint,
    exposure_beq_self, hlive]

/-- A valid proposal is kept by the scheduler of an autonomous account. -/
theorem keptProposal_of_valid (hproposal : acquisition.proposal = some proposal)
    (hdecided : result.executionDecision.proposedAction.isSome = true)
    (hvalid : validLifecycleProposal tick result acquisition proposal = true)
    (hscheduler : tick.actor = .scheduler)
    (hautonomous : tick.authority.persistentAutonomyEnabled = true) :
    keptProposal true tick result acquisition = some proposal := by
  rw [keptProposal, hdecided, hscheduler, hautonomous, hproposal]
  simp only [beq_self_eq_true, Bool.and_self, if_true, Option.filter_some, hvalid]

/-- The intent that the repository stores of a proposal. -/
def recordedIntent (tick : AgentTick) (proposal : AuthorizationIntentProposal) :
    ExecutionIntent where
  intentId := proposal.intent.intentId
  accountRole := tick.authority.role
  envelope := proposal.intent.envelope
  digest := intentDigest proposal.intent.envelope
  state := .approved

structure Recordable (tick : AgentTick) (acquisition : LifecycleAcquisition)
    (proposal : AuthorizationIntentProposal) (request : DecisionRequest) : Prop where
  values : Agent.validateDecisionValues true request = .ok ()
  manifest : Agent.requireManifest request = .ok ()
  thesis : ∀ (store : Agent.Store) (thesis : Agent.ThesisRow),
    store.thesis acquisition.thesisVersionId = some thesis →
    thesis.accountRole = tick.authority.role → thesis.policyHash = request.policyHash →
    Agent.requireThesisAuthority store request proposal.authorization.authorization
      proposal.intent.envelope = .ok ()
  authorization : ∀ now, tick.trustedAt ≤ now → now < proposal.authorization.expiresAt →
    validateAuthorization (recordedIntent tick proposal)
      proposal.authorization.authorization.grant.values now = .ok ()
  row : ∀ decisionId : Uuid, Agent.assessmentSchema.check {
    toAssessmentCertificate := proposal.authorization.toAssessmentCertificate
    agentDecisionId := some decisionId
    experimentLineage := proposal.authorization.experimentLineage } = true

omit [Digest] in
/-- An envelope that was built names some contracts within the limit, at some risk. -/
theorem envelope_bounds (envelope : OrderEnvelope) :
    (1 ≤ envelope.quantity ∧ envelope.quantity ≤ maxStructuralOptionQuantity) ∧
      Decimal.ofInt 0 < envelope.approvedMaxLoss := by
  obtain ⟨fields, hvalid⟩ := envelope
  obtain ⟨hstructure, hvalid⟩ := check_bind_ok.mp hvalid
  obtain ⟨-, hvalid⟩ := check_bind_ok.mp hvalid
  obtain ⟨hrisk, -⟩ := check_bind_ok.mp hvalid
  rw [raiseIf_ok, Bool.or_eq_false_iff, Bool.not_eq_false', decide_eq_true_eq] at hstructure
  rw [raiseIf_ok, Bool.not_eq_false', decide_eq_true_eq] at hrisk
  exact ⟨hstructure.2, hrisk.1⟩

structure RequestOf (tick : AgentTick) (acquisition : LifecycleAcquisition) (result : PolicyResult)
    (proposal : AuthorizationIntentProposal) (request : DecisionRequest) : Prop where
  role : request.accountRole = tick.authority.role
  fingerprint : request.accountFingerprint = tick.authority.accountFingerprint
  kind : request.decisionKind = "ASSESSMENT"
  times : request.observedAt = request.decisionBoundary
  outcome : request.outcome = result.executionDecision.text
  reason : request.reasonCode = result.response.rationaleCode
  policy : request.policyHash = result.response.policyHash
  lineage : request.experimentLineage = none
  thesis : request.thesisVersionId = some acquisition.thesisVersionId
  authorization : request.authorization = some proposal.authorization.authorization
  envelope : request.envelope = some proposal.intent.envelope
  intentId : request.intentId = some proposal.intent.intentId

/-- The values of a tick are recorded with the manifest they were acquired with. -/
theorem lifecycleRequest_recorded
    (hvalues : acquisition.values = lifecycleValues context tick.tickId findings)
    (result : PolicyResult) (proposal : AuthorizationIntentProposal)
    (typedValues typedDecision : Json) :
    ∃ request, lifecycleRequest tick acquisition result (some proposal) typedValues
        typedDecision = .ok request ∧ RequestOf tick acquisition result proposal request ∧
      Agent.requireManifest request = .ok () := by
  let manifestHash := Digest.authorityHash findings.manifest
  let manifestId := Digest.uuid5 ("alphadecay:lifecycle-acquisition:" ++ manifestHash)
  have hmembers : manifestMembers acquisition.values = .ok ([
      ("acquisition_manifest_id", .text manifestId.toText),
      ("acquisition_manifest_hash", .text manifestHash)], some manifestId) := by
    rw [hvalues]
    rfl
  refine ⟨_, by rw [lifecycleRequest, hmembers]; rfl,
    ⟨rfl, rfl, rfl, rfl, rfl, rfl, rfl, rfl, rfl, rfl, rfl, rfl⟩, ?_⟩
  have hid : Json.field "acquisition_manifest_id" (.object (("typed", typedValues) :: [
      ("acquisition_manifest_id", .text manifestId.toText),
      ("acquisition_manifest_hash", .text manifestHash)])) = some (.text manifestId.toText) := by
    rw [Json.field, Json.member, if_neg (by decide), Json.member, if_pos rfl]
  have hhash : Json.field "acquisition_manifest_hash" (.object (("typed", typedValues) :: [
      ("acquisition_manifest_id", .text manifestId.toText),
      ("acquisition_manifest_hash", .text manifestHash)])) = some (.text manifestHash) := by
    rw [Json.field, Json.member, if_neg (by decide), Json.member, if_neg (by decide), Json.member,
      if_pos rfl]
  rw [Agent.requireManifest]
  dsimp only
  rw [raiseIf_ok, hid, Agent.holdsHash, hhash, bne_self_eq_false, Bool.false_or,
    Bool.or_eq_false_iff]
  refine ⟨bne_self_eq_false _, ?_⟩
  rw [Bool.not_eq_false']
  exact Digest.authorityHash_isHash _

structure Bound (context : RetainedLifecycleContext) (tick : AgentTick)
    (acquisition : LifecycleAcquisition) (result : PolicyResult)
    (proposal : AuthorizationIntentProposal) : Prop where
  thesis : proposal.authorization.thesisVersionId = acquisition.thesisVersionId
  role : proposal.authorization.accountRole = tick.authority.role
  lineage : proposal.authorization.experimentLineage = none
  account : proposal.intent.envelope.accountFingerprint = tick.authority.accountFingerprint
  policy : proposal.intent.envelope.policyHash = result.response.policyHash
  hashed : isHash result.response.policyHash = true
  certificate : proposal.intent.envelope.authorizationCertificateId =
    proposal.authorization.certificateId
  action : proposal.intent.envelope.action = proposal.authorization.action
  decided : result.executionDecision.proposedAction = some proposal.authorization.action
  reason : result.response.rationaleCode ≠ ""

/-- A proposal is bound to its context and its decision. -/
theorem Proposed.bound (haccepted : AcceptedContext context tick.authority parsed)
    (hvalues : acquisition.values = lifecycleValues context tick.tickId findings)
    (hthesis : acquisition.thesisVersionId = context.thesisVersionId)
    (hresult : evaluateAssessment acquisition.values = .ok result)
    (h : Proposed context acquisition.values tick.trustedAt result proposal) :
    Bound context tick acquisition result proposal := by
  obtain ⟨action, expected, envelope, expiresAt, session, legs, bounds, hdecided, hexposure,
    hfields, hlive, rfl⟩ := h
  obtain ⟨verdict, hanswers⟩ := evaluateAssessment_answers hresult
  have hpolicy : result.response.policyHash = context.policyHash := by
    rw [hanswers.policyHash, hvalues]
    rfl
  refine ⟨hthesis.symm, haccepted.role, rfl, ?_, ?_, hpolicy ▸ haccepted.policy, ?_, ?_, hdecided,
    ?_⟩
  · show envelope.accountFingerprint = _
    rw [hfields, ← haccepted.fingerprint]
    rfl
  · show envelope.policyHash = _
    rw [hfields, hpolicy]
    rfl
  · show envelope.authorizationCertificateId = _
    rw [hfields]
    rfl
  · show envelope.action = _
    rw [hfields]
    rfl
  · rw [hanswers.rationale]
    refine (verdict_action hanswers.decided).2 fun hnone => ?_
    rw [hanswers.decision, hnone] at hdecided
    cases hdecided

omit [Digest] in
theorem Bound.requireAuthorization (h : Bound context tick acquisition result proposal)
    (hrequest : RequestOf tick acquisition result proposal request) :
    Agent.requireAuthorization request proposal.authorization.authorization
      proposal.intent.envelope = .ok () := by
  have hdecided := h.decided
  have hthesis : proposal.authorization.authorization.thesisVersionId =
      proposal.authorization.thesisVersionId := rfl
  have hrole : proposal.authorization.authorization.accountRole =
      proposal.authorization.accountRole := rfl
  have hlineage : proposal.authorization.authorization.experimentLineage =
      proposal.authorization.experimentLineage := rfl
  have hgrant : Agent.requireGrant request proposal.intent.envelope
      proposal.authorization.authorization.grant = .ok () := by
    show Agent.requireGrant request proposal.intent.envelope (.assessment _) = .ok ()
    simp only [Agent.requireGrant, check_bind_ok, raiseIf_ok, h.action, h.certificate,
      hrequest.kind, hrequest.outcome, bne_self_eq_false, Bool.false_or, Bool.not_eq_false',
      and_true]
    -- each approved decision is an outcome that its action expects
    cases hdecision : result.executionDecision <;> rw [hdecision] at hdecided
    case noAction => cases hdecided
    case holdCertified => cases hdecided
    all_goals
      rw [← Option.some.inj hdecided]
      rfl
  rw [Agent.requireAuthorization, hthesis, hrole, hlineage, hgrant, hrequest.thesis, hrequest.role,
    hrequest.lineage, hrequest.fingerprint, h.thesis, h.role, h.lineage, h.account]
  simp

omit [Digest] in
theorem Bound.validateDecisionValues (h : Bound context tick acquisition result proposal)
    (hrequest : RequestOf tick acquisition result proposal request) :
    Agent.validateDecisionValues true request = .ok () := by
  have hauthority := tick.authority.valid
  rw [ObservedPaperAccountFields.postInit, raiseIf_ok, Bool.or_eq_false_iff, Bool.or_eq_false_iff,
    Bool.not_eq_false', beq_eq_false_iff_ne] at hauthority
  have htext : request.outcome.isEmpty = false := by
    rw [hrequest.outcome]
    cases result.executionDecision <;> rfl
  have hreason : request.reasonCode.isEmpty = false := by
    rw [hrequest.reason, ← Bool.not_eq_true, String.isEmpty_iff]
    exact h.reason
  have hauthorized := h.requireAuthorization hrequest
  rw [Agent.validateDecisionValues, hrequest.role, hrequest.fingerprint, hrequest.policy,
    hrequest.kind, hrequest.times, htext, hreason, hrequest.authorization, hrequest.envelope,
    hrequest.intentId]
  simp only [beq_eq_false_iff_ne.mpr hauthority.1.1, hauthority.2, h.hashed,
    Agent.DecisionRequest.supplied,
    hrequest.authorization, hrequest.envelope, hrequest.intentId]
  simpa using hauthorized

omit [Digest] in
/-- The thesis of a bound proposal has authority over its envelope where it is stored for the
account and the policy. -/
theorem Bound.requireThesisAuthority (h : Bound context tick acquisition result proposal)
    (hrequest : RequestOf tick acquisition result proposal request) {store : Agent.Store}
    {thesis : Agent.ThesisRow} (hstored : store.thesis acquisition.thesisVersionId = some thesis)
    (hrole : thesis.accountRole = tick.authority.role)
    (hpolicy : thesis.policyHash = request.policyHash) :
    Agent.requireThesisAuthority store request proposal.authorization.authorization
      proposal.intent.envelope = .ok () := by
  have hthesis : proposal.authorization.authorization.thesisVersionId =
      acquisition.thesisVersionId := h.thesis
  have hlineage : proposal.authorization.authorization.experimentLineage = none := h.lineage
  rw [Agent.requireThesisAuthority, hthesis, hlineage, hstored, require_some, ok_bind,
    hrequest.thesis, hrequest.fingerprint, hrequest.lineage, h.account, hrole, hrequest.role,
    hpolicy, hrequest.policy, h.policy]
  simp

/-- The authorization of a proposal covers its intent until it expires. -/
theorem Proposed.validateAuthorization (haccepted : AcceptedContext context tick.authority parsed)
    (h : Proposed context values tick.trustedAt result proposal) {now : Int}
    (hfrom : tick.trustedAt ≤ now) (hbefore : now < proposal.authorization.expiresAt) :
    validateAuthorization (recordedIntent tick proposal)
      proposal.authorization.authorization.grant.values now = .ok () := by
  obtain ⟨action, expected, envelope, expiresAt, session, legs, bounds, -, -, hfields, -, rfl⟩ := h
  have hpolicy : envelope.policyHash = context.policyHash := by rw [hfields]; rfl
  have hposition : envelope.positionOrBookFingerprint = context.positionFingerprint := by
    rw [hfields]; rfl
  have hrisk : envelope.approvedMaxLoss = context.approvedMaxLoss := by rw [hfields]; rfl
  have hquantity : envelope.quantity = contracts context.expectedPositions := by rw [hfields]; rfl
  have hsame : (context.approvedMaxLoss != context.approvedMaxLoss) = false := by
    rw [bne, Decimal.beq_self]
    rfl
  have hbefore : now < expiresAt := hbefore
  simp [AlphaDecay.validateAuthorization, recordedIntent, LifecycleCertificate.authorization,
    Agent.Grant.values, proposalOf, hpolicy, hposition, hrisk, hquantity, haccepted.role, hsame,
    hfrom, hbefore]

/-- The certificate of a proposal satisfies the constraints of its table. -/
theorem Proposed.row_fits {trustedAt : Int} (h : Proposed context values trustedAt result proposal)
    (decisionId : Uuid) :
    Agent.assessmentSchema.check {
      toAssessmentCertificate := proposal.authorization.toAssessmentCertificate
      agentDecisionId := some decisionId
      experimentLineage := proposal.authorization.experimentLineage } = true := by
  obtain ⟨action, expected, envelope, expiresAt, session, legs, bounds, hdecided, -, hfields, hlive,
    rfl⟩ := h
  obtain ⟨hcontracts, hrisk⟩ := envelope_bounds envelope
  have hquantity : envelope.quantity = contracts context.expectedPositions := by rw [hfields]; rfl
  have hloss : envelope.approvedMaxLoss = context.approvedMaxLoss := by rw [hfields]; rfl
  have haction : action ≠ .entry := by
    rintro rfl
    cases hdecision : result.executionDecision <;> rw [hdecision] at hdecided <;> cases hdecided
  rw [hquantity] at hcontracts
  rw [hloss] at hrisk
  simp [Agent.assessmentSchema, proposalOf, hcontracts, hrisk, haction, hlive]

end

section Rehearsed

attribute [local instance] Policy.zeroDigest

def rehearsedTick : AgentTick where
  tickId := Uuid.ofNat 6
  reservationToken := Uuid.ofNat 7
  authority := rehearsedAuthority
  actor := .scheduler
  trustedAt := rehearsedAt

/-- The rehearsed findings: the contest ends, so the position has to be closed. -/
def rehearsedFindings : LifecycleFindings where
  actualExposure := ⟨.ofInt 10, .ofInt 0, .ofInt (-1), .ofInt 5⟩
  thesisStatus := .intact
  evidenceState := .noChange
  scores := {
    evidenceDrift := .ofInt 0
    delta := .ofInt 10
    deltaLow := .ofInt 0
    deltaHigh := .ofInt 50
    vega := .ofInt 5
    vegaLow := .ofInt 0
    vegaHigh := .ofInt 20
    thetaPerDay := .ofInt (-1)
    maxDailyTheta := .ofInt 5
    dte := 14
    minimumDte := 7
    maximumDte := 60
    horizonFraction := cents 50
    volatilityView := .neutral
    entryAtmIv := cents 25
    currentAtmIv := cents 25
    liquidationPnl := .ofInt 0
    approvedMaxLoss := .ofInt 100 }
  hardGates := { contestEndWindow := true }
  rollSelection := none
  manifest := .null

end Rehearsed

end AlphaDecay.Lifecycle
