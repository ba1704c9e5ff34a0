import AlphaDecay.Agent.Effects

/-!
# The lineage of decisions

A decision stands next to the input that it was made on, a boundary has one decision of the policy,
and a grant belongs to a decision of the policy and has its order. Every transaction keeps this,
because a new decision of the policy is refused where its boundary has one already.
-/

namespace AlphaDecay.Agent

open Foundation Table

variable {settings : RepositorySettings} {serverAutonomyEnabled : Bool} {store after : Store}

/-! ## Boundaries -/

/-- The account, kind and time that a decision is made for. -/
def DecisionRow.boundary (row : DecisionRow) : AccountRole × String × Int :=
  (row.accountRole, row.decisionKind, row.decisionBoundary)

/-- The account, kind and time that an input belongs to. -/
def inputBoundary (row : AgentInputSnapshotRow) : AccountRole × String × Int :=
  (row.accountRole, row.decisionKind, row.decisionBoundary)

/-- The account, kind and time that a request is made for. -/
def DecisionRequest.boundary (request : DecisionRequest) : AccountRole × String × Int :=
  (request.accountRole, request.decisionKind, request.decisionBoundary)

/-- A decision only notes a failure. -/
def DecisionRow.isAudit (row : DecisionRow) : Bool :=
  isNonPolicyAudit row.decisionKind row.outcome

variable {request : DecisionRequest} {envelope : OrderEnvelope} {authorization : Authorization}
  {decisions : List DecisionRow}

variable {inputs : List AgentInputSnapshotRow}

/-- Among the inputs of a boundary none has the hash of a new request, and all their decisions were
looked at. -/
theorem recordedAmong_others {inputHash : String}
    (h : recordedAmong store inputHash inputs = .ok (.others decisions)) :
    ∀ input ∈ inputs, input.inputHash ≠ inputHash ∧
      ∃ decision ∈ decisions, store.decisionOf input.snapshotId = some decision := by
  induction inputs generalizing decisions with
  | nil => exact fun input hinput => absurd hinput List.not_mem_nil
  | cons snapshot rest ih =>
      simp only [recordedAmong, require_bind_ok] at h
      obtain ⟨decision, hdecision, h⟩ := h
      split at h
      · cases h
      · rename_i hhash
        obtain ⟨recorded, hrecorded, h⟩ := bind_ok.mp h
        cases recorded with
        | same snapshot decision => cases h
        | others others =>
            cases h
            intro input hinput
            rcases List.mem_cons.mp hinput with rfl | hrest
            · exact ⟨hhash, decision, List.mem_cons_self, hdecision⟩
            · obtain ⟨hother, found, hfound, hsome⟩ := ih hrecorded input hrest
              exact ⟨hother, found, List.mem_cons_of_mem decision hfound, hsome⟩

/-- The decision that is found for an input is recorded, and the input has the hash looked for. -/
theorem recordedAmong_same {inputHash : String} {snapshot : AgentInputSnapshotRow}
    {decision : DecisionRow}
    (h : recordedAmong store inputHash inputs = .ok (.same snapshot decision)) :
    decision ∈ store.decisions.rows ∧ snapshot ∈ inputs ∧ snapshot.inputHash = inputHash := by
  induction inputs with
  | nil => cases h
  | cons input rest ih =>
      simp only [recordedAmong, require_bind_ok] at h
      obtain ⟨found, hfound, h⟩ := h
      split at h
      · rename_i hhash
        cases h
        exact ⟨(lookup_some hfound).1, List.mem_cons_self, hhash⟩
      · obtain ⟨recorded, hrecorded, h⟩ := bind_ok.mp h
        cases recorded with
        | same other others =>
            cases h
            obtain ⟨hmem, hrest, hhash⟩ := ih hrecorded
            exact ⟨hmem, List.mem_cons_of_mem input hrest, hhash⟩
        | others others => cases h

theorem mem_boundaryInputs {input : AgentInputSnapshotRow} :
    input ∈ boundaryInputs store request ↔
      input ∈ store.snapshots.rows ∧ inputBoundary input = request.boundary := by
  simp only [boundaryInputs, mem_orderBy, List.mem_filter, Bool.and_eq_true, beq_iff_eq,
    inputBoundary, DecisionRequest.boundary, Prod.mk.injEq, and_assoc]

theorem decisionOf_eq {row : DecisionRow} (hmem : row ∈ store.decisions.rows) :
    store.decisionOf row.inputSnapshotId = some row := by
  refine lookup_of_mem (store.decisions.unique fun left right hclash => ?_) hmem
  simp only [decisionSchema, Bool.or_eq_false_iff, beq_eq_false_iff_ne, ne_eq] at hclash
  simp [clashOn, hclash.1.1.2]

variable [Digest]

/-! ## The lineage of decisions -/

/-- What holds of the tables of the agent in every state: a decision has its input, a boundary has
one decision of the policy, and a grant belongs to a decision of the policy and has an order. -/
structure Lineage (store : Store) : Prop where
  inputs : ∀ decision ∈ store.decisions.rows, ∃ input ∈ store.snapshots.rows,
    input.snapshotId = decision.inputSnapshotId ∧ inputBoundary input = decision.boundary
  policy : ∀ left ∈ store.decisions.rows, ∀ right ∈ store.decisions.rows,
    left.boundary = right.boundary → left.isAudit = false → right.isAudit = false → left = right
  approvals : ∀ row ∈ store.approvals.rows, ∃ intent, store.execution.intents.rows.find?
    (fun intent => intent.entryApprovalId == some row.approvalId) = some intent
  assessments : ∀ row ∈ store.assessments.rows, ∃ intent, store.execution.intents.rows.find?
    (fun intent => intent.assessmentCertificateId == some row.certificateId) = some intent
  ticks : ∀ tick ∈ store.ticks.rows, ∀ decisionId, tick.decisionId = some decisionId →
    ∃ decision ∈ store.decisions.rows, decision.decisionId = decisionId

/-- A decision of the policy that is recorded finds no other one at its boundary. -/
theorem FirstRecord.policy_free {tick : TickRow} {now : Int} (hlineage : Lineage store)
    (h : FirstRecord serverAutonomyEnabled store request tick decisions now after)
    (hpolicy : isNonPolicyAudit request.decisionKind request.outcome = false) :
    ∀ decision ∈ store.decisions.rows, decision.boundary = request.boundary →
      decision.isAudit = true := by
  intro decision hdecision hboundary
  obtain ⟨input, hinput, hid, hinputBoundary⟩ := hlineage.inputs decision hdecision
  have hamong : input ∈ boundaryInputs store request :=
    mem_boundaryInputs.mpr ⟨hinput, hinputBoundary.trans hboundary⟩
  obtain ⟨-, found, hfound, hsome⟩ := recordedAmong_others h.recorded input hamong
  rw [hid, decisionOf_eq hdecision] at hsome
  cases hsome
  rcases h.policy with haudit | haudits
  · rw [haudit] at hpolicy
    cases hpolicy
  · exact haudits decision hfound

omit [Digest] in
/-- An order fits the decision that it comes from. -/
theorem requireAuthorization_of_values
    (hvalues : validateDecisionValues serverAutonomyEnabled request = .ok ())
    (hauthorization : request.authorization = some authorization)
    (henvelope : request.envelope = some envelope) :
    requireAuthorization request authorization envelope = .ok () := by
  simp only [validateDecisionValues, check_bind_ok] at hvalues
  obtain ⟨-, -, -, -, -, -, -, hvalues⟩ := hvalues
  split at hvalues
  · simp only [check_bind_ok, hauthorization, henvelope] at hvalues
    exact hvalues.2
  · simp only [hauthorization, henvelope] at hvalues
    exact hvalues

omit [Digest] in
/-- The grant of an order fits the decision that it comes from. -/
theorem requireGrant_of_values
    (hvalues : validateDecisionValues serverAutonomyEnabled request = .ok ())
    (hauthorization : request.authorization = some authorization)
    (henvelope : request.envelope = some envelope) :
    requireGrant request envelope authorization.grant = .ok () := by
  have hrequired := requireAuthorization_of_values hvalues hauthorization henvelope
  simp only [requireAuthorization, check_bind_ok] at hrequired
  exact hrequired.2.2.2.2.2

omit [Digest] in
/-- The order of an approval is an entry that names it. -/
theorem requireGrant_entry {approval : EntryApprovalAuthorization}
    (hvalues : validateDecisionValues serverAutonomyEnabled request = .ok ())
    (hauthorization : request.authorization = some authorization)
    (henvelope : request.envelope = some envelope)
    (hentry : authorization.grant = .entry approval) :
    envelope.action = .entry ∧ envelope.authorizationCertificateId = approval.approvalId := by
  have hgrant := requireGrant_of_values hvalues hauthorization henvelope
  rw [hentry] at hgrant
  simp only [requireGrant, check_bind_ok, raiseIf_ok, Bool.or_eq_false_iff,
    bne_eq_false_iff_eq] at hgrant
  exact ⟨hgrant.1.2, hgrant.2⟩

omit [Digest] in
/-- The order of an assessment is a close or a roll that names it. -/
theorem requireGrant_assessment {certificate : AssessmentCertificate}
    (hvalues : validateDecisionValues serverAutonomyEnabled request = .ok ())
    (hauthorization : request.authorization = some authorization)
    (henvelope : request.envelope = some envelope)
    (hassessment : authorization.grant = .assessment certificate) :
    envelope.action ≠ .entry ∧ envelope.authorizationCertificateId = certificate.certificateId := by
  have hgrant := requireGrant_of_values hvalues hauthorization henvelope
  rw [hassessment] at hgrant
  simp only [requireGrant, check_bind_ok, raiseIf_ok, Bool.or_eq_false_iff,
    bne_eq_false_iff_eq, Bool.not_eq_false', List.contains_iff_mem] at hgrant
  refine ⟨fun haction => ?_, hgrant.2⟩
  rw [haction] at hgrant
  exact absurd hgrant.1.2 List.not_mem_nil

omit [Digest] in
/-- A request with an order makes a decision of the policy. -/
theorem policy_of_grant (hvalues : validateDecisionValues serverAutonomyEnabled request = .ok ())
    (hauthorization : request.authorization = some authorization)
    (henvelope : request.envelope = some envelope) :
    isNonPolicyAudit request.decisionKind request.outcome = false := by
  have hgrant := requireGrant_of_values hvalues hauthorization henvelope
  unfold requireGrant at hgrant
  split at hgrant
  · simp only [check_bind_ok, raiseIf_ok, Bool.or_eq_false_iff, bne_eq_false_iff_eq] at hgrant
    rw [hgrant.1.1.1, hgrant.1.1.2]
    rfl
  · simp only [check_bind_ok, raiseIf_ok, Bool.or_eq_false_iff, bne_eq_false_iff_eq,
      Bool.not_eq_false', List.contains_iff_mem] at hgrant
    obtain ⟨⟨⟨hkind, -⟩, houtcome⟩, -⟩ := hgrant
    rw [hkind]
    cases haction : envelope.action with
    | entry =>
        rw [haction] at houtcome
        exact absurd houtcome List.not_mem_nil
    | close =>
        rw [haction] at houtcome
        rcases List.mem_cons.mp houtcome with hclose | hclose
        · rw [hclose]
          rfl
        · rw [List.mem_singleton.mp hclose]
          rfl
    | roll =>
        rw [haction] at houtcome
        rw [List.mem_singleton.mp houtcome]
        rfl

omit [Digest] in
/-- Grants keep their orders while the tables grow. -/
theorem Lineage.grants_grow (hlineage : Lineage store) (hgrows : Grows store after) :
    (∀ row ∈ store.approvals.rows, ∃ intent, after.execution.intents.rows.find?
      (fun intent => intent.entryApprovalId == some row.approvalId) = some intent) ∧
    ∀ row ∈ store.assessments.rows, ∃ intent, after.execution.intents.rows.find?
      (fun intent => intent.assessmentCertificateId == some row.certificateId) = some intent := by
  constructor
  · intro row hrow
    obtain ⟨intent, hfind⟩ := hlineage.approvals row hrow
    obtain ⟨kept, hkept, -⟩ := hgrows.intents.find?
      (fun old new h => by rw [h.entryApprovalId]) hfind
    exact ⟨kept, hkept⟩
  · intro row hrow
    obtain ⟨intent, hfind⟩ := hlineage.assessments row hrow
    obtain ⟨kept, hkept, -⟩ := hgrows.intents.find?
      (fun old new h => by rw [h.assessmentCertificateId]) hfind
    exact ⟨kept, hkept⟩

omit [Digest] in
/-- A row that meets a condition after others is found, or an earlier one is. -/
theorem find?_append_single {Row : Type} {rows : List Row} {condition : Row → Bool} {row : Row}
    (h : condition row = true) : ∃ found, (rows ++ [row]).find? condition = some found := by
  cases hfind : (rows ++ [row]).find? condition with
  | none =>
      have hnot := List.find?_eq_none.mp hfind row
        (List.mem_append_right rows (List.mem_singleton_self row))
      exact absurd h hnot
  | some found => exact ⟨found, rfl⟩

/-- The order of a request is the one that its grant names. -/
theorem OrderAdded.grants_ordered {decisionId : Uuid} {now : Int}
    (hvalues : validateDecisionValues serverAutonomyEnabled request = .ok ())
    (h : OrderAdded store request decisionId now after) :
    (∀ row ∈ after.approvals.rows, row ∉ store.approvals.rows →
      ∃ intent, after.execution.intents.rows.find?
        (fun intent => intent.entryApprovalId == some row.approvalId) = some intent) ∧
    ∀ row ∈ after.assessments.rows, row ∉ store.assessments.rows →
      ∃ intent, after.execution.intents.rows.find?
        (fun intent => intent.assessmentCertificateId == some row.certificateId) = some intent := by
  cases h with
  | nothing supplied execution approvals assessments =>
      rw [approvals, assessments]
      exact ⟨fun row hrow hnew => absurd hrow hnew, fun row hrow hnew => absurd hrow hnew⟩
  | @entry authorization envelope intentId approval authorized grant approvals assessments
      execution =>
      rw [assessments, approvals]
      refine ⟨fun row hrow hnew => ?_, fun row hrow hnew => absurd hrow hnew⟩
      rcases List.mem_append.mp hrow with hold | hadded
      · exact absurd hold hnew
      rw [List.mem_singleton.mp hadded, Database.addIntent_rows execution]
      obtain ⟨haction, hid⟩ := requireGrant_entry hvalues authorized.authorization_eq
        authorized.envelope_eq grant
      refine find?_append_single ?_
      show (if envelope.action = .entry then some envelope.authorizationCertificateId else none) ==
        some approval.approvalId
      rw [if_pos haction, hid]
      exact beq_self_eq_true _
  | @assessment authorization envelope intentId certificate authorized grant approvals assessments
      execution =>
      rw [assessments, approvals]
      refine ⟨fun row hrow hnew => absurd hrow hnew, fun row hrow hnew => ?_⟩
      rcases List.mem_append.mp hrow with hold | hadded
      · exact absurd hold hnew
      rw [List.mem_singleton.mp hadded, Database.addIntent_rows execution]
      obtain ⟨haction, hid⟩ := requireGrant_assessment hvalues authorized.authorization_eq
        authorized.envelope_eq grant
      refine find?_append_single ?_
      show (if envelope.action = .entry then none else some envelope.authorizationCertificateId) ==
        some certificate.certificateId
      rw [if_neg haction, hid]
      exact beq_self_eq_true _

theorem FirstRecord.lineage {tick : TickRow} {now : Int} (hlineage : Lineage store)
    (hgrows : Grows store after)
    (h : FirstRecord serverAutonomyEnabled store request tick decisions now after) :
    Lineage after := by
  have hsnapshots := Checked.rows_insert h.snapshots
  have hdecisions := Checked.rows_insert h.decisions
  obtain ⟨holdApprovals, holdAssessments⟩ := hlineage.grants_grow hgrows
  obtain ⟨hnewApprovals, hnewAssessments⟩ := h.order.grants_ordered h.checked.values
  refine ⟨?_, ?_, fun row hrow => ?_, fun row hrow => ?_, ?_⟩
  · intro decision hdecision
    rw [hdecisions] at hdecision
    rw [hsnapshots]
    rcases List.mem_append.mp hdecision with hold | hnew
    · obtain ⟨input, hinput, hid⟩ := hlineage.inputs decision hold
      exact ⟨input, List.mem_append_left _ hinput, hid⟩
    · rw [List.mem_singleton.mp hnew]
      exact ⟨request.input, List.mem_append_right _ (List.mem_singleton_self _), rfl, rfl⟩
  · have hfree : ∀ old ∈ store.decisions.rows, old.boundary = (request.decision now).boundary →
        (request.decision now).isAudit = false → old.isAudit = true :=
      fun old hold hboundary hpolicy => h.policy_free hlineage hpolicy old hold hboundary
    intro left hleft right hright hboundary hleftPolicy hrightPolicy
    rw [hdecisions] at hleft hright
    rcases List.mem_append.mp hleft with hleft | hleft <;>
      rcases List.mem_append.mp hright with hright | hright
    · exact hlineage.policy left hleft right hright hboundary hleftPolicy hrightPolicy
    · rw [List.mem_singleton.mp hright] at hboundary hrightPolicy
      rw [hfree left hleft hboundary hrightPolicy] at hleftPolicy
      cases hleftPolicy
    · rw [List.mem_singleton.mp hleft] at hboundary hleftPolicy
      rw [hfree right hright hboundary.symm hleftPolicy] at hrightPolicy
      cases hrightPolicy
    · rw [List.mem_singleton.mp hleft, List.mem_singleton.mp hright]
  · by_cases hold : row ∈ store.approvals.rows
    · exact holdApprovals row hold
    · exact hnewApprovals row hrow hold
  · by_cases hold : row ∈ store.assessments.rows
    · exact holdAssessments row hold
    · exact hnewAssessments row hrow hold
  · intro row hrow decisionId hdecision
    rw [h.ticks] at hrow
    obtain ⟨old, hold, hrow⟩ := mem_modify.mp hrow
    rw [hrow] at hdecision
    rw [hdecisions]
    split at hdecision
    · exact ⟨request.decision now, List.mem_append_right _ (List.mem_singleton_self _),
        Option.some.inj hdecision⟩
    · obtain ⟨decision, hmem, hid⟩ := hlineage.ticks old hold decisionId hdecision
      exact ⟨decision, List.mem_append_left _ hmem, hid⟩

/-- Every transaction keeps the lineage of decisions. -/
theorem Effect.lineage {transaction : Transaction} (hlineage : Lineage store)
    (h : Effect settings serverAutonomyEnabled store transaction after) : Lineage after := by
  have hgrows := h.grows
  obtain ⟨happrovals, hassessments⟩ := hlineage.grants_grow hgrows
  cases h with
  | unchanged h =>
      rw [h]
      exact hlineage
  | @reserved reservation call frame =>
      obtain ⟨ticks, hinsert, h⟩ := frame
      rw [h]
      refine { hlineage with ticks := fun row hrow decisionId hdecision => ?_ }
      have hrows : row ∈ ticks.rows := hrow
      rw [Checked.rows_insert hinsert] at hrows
      rcases List.mem_append.mp hrows with hold | hnew
      · exact hlineage.ticks row hold decisionId hdecision
      · rw [List.mem_singleton.mp hnew] at hdecision
        cases hdecision
  | recorded call h => exact h.lineage hlineage hgrows
  | @repeated request tick snapshot decision call h =>
      obtain ⟨bindings, ticks, hafter, hrows⟩ := h.frame
      have hrecorded := (recordedAmong_same h.recorded).1
      rw [hafter]
      refine { hlineage with ticks := fun row hrow decisionId hdecision => ?_ }
      have hmem : row ∈ ticks.rows := hrow
      rw [hrows] at hmem
      obtain ⟨old, hold, heq⟩ := mem_modify.mp hmem
      rw [heq] at hdecision
      split at hdecision
      · exact ⟨decision, hrecorded, Option.some.inj hdecision⟩
      · exact hlineage.ticks old hold decisionId hdecision
  | completed call checked reserved frame =>
      obtain ⟨ticks, hafter, hrows⟩ := frame
      rw [hafter]
      refine { hlineage with ticks := fun row hrow decisionId hdecision => ?_ }
      have hmem : row ∈ ticks.rows := hrow
      rw [hrows] at hmem
      obtain ⟨old, hold, heq⟩ := mem_modify.mp hmem
      refine hlineage.ticks old hold decisionId ?_
      rw [heq] at hdecision
      split at hdecision
      · exact hdecision
      · exact hdecision
  | executed execution others h =>
      obtain ⟨db, hrun, h⟩ := h
      have hkept : after.approvals = store.approvals ∧ after.assessments = store.assessments := by
        rw [h]
        exact ⟨rfl, rfl⟩
      rw [← hkept.1] at happrovals
      rw [← hkept.2] at hassessments
      refine ⟨?_, ?_, happrovals, hassessments, ?_⟩
      · rw [h]
        exact hlineage.inputs
      · rw [h]
        exact hlineage.policy
      · rw [h]
        exact hlineage.ticks
  | surroundings call h =>
      rw [h]
      exact { hlineage with }

end AlphaDecay.Agent
