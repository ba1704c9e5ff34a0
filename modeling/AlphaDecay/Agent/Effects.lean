import AlphaDecay.Agent.Repository
import AlphaDecay.Persistence.IntentSteps

/-!
# What the agent repository writes

`run_effect` says once what each transaction does to the tables: a tick is reserved, a decision is
recorded for it for the first time or again, it is completed, or the tables of the agent stay as
they are while the execution repository or another service writes its own. The invariants of the
agent follow from these cases, and none of them unfolds a transaction again.

The second half connects the agent to the execution repository: seen through `Store.database`,
every run of the agent is a run of that repository, so that everything that holds in its reachable
states holds under the agent.
-/

namespace AlphaDecay.Agent

open Foundation Table

variable {settings : RepositorySettings} {serverAutonomyEnabled : Bool} {store middle after : Store}

variable [Digest]
variable {Row : Type} {result : PersistedAgentDecision}

variable {row : Row} {rows : List Row} {snapshot : AgentInputSnapshotRow}
  {decisions : List DecisionRow}

/-! ## Orders -/

def approvalRow (decisionId : Uuid) (authorization : Authorization)
    (approval : EntryApprovalAuthorization) : ApprovalRow where
  toEntryApprovalAuthorization := approval
  agentDecisionId := some decisionId
  experimentLineage := authorization.experimentLineage

def assessmentRow (decisionId : Uuid) (authorization : Authorization)
    (certificate : AssessmentCertificate) : AssessmentRow where
  toAssessmentCertificate := certificate
  agentDecisionId := some decisionId
  experimentLineage := authorization.experimentLineage

/-- Everything that is checked of an order before it is stored. -/
structure OrderAuthorized (store : Store) (request : DecisionRequest)
    (authorization : Authorization) (envelope : OrderEnvelope) (intentId : Uuid) (now : Int) :
    Prop where
  authorization_eq : request.authorization = some authorization
  envelope_eq : request.envelope = some envelope
  intentId_eq : request.intentId = some intentId
  thesis : requireThesisAuthority store request authorization envelope = .ok ()
  position : requirePosition store request.accountRole authorization envelope = .ok ()
  valid : validateAuthorization {
    intentId, accountRole := request.accountRole, envelope, digest := intentDigest envelope
    state := .approved } authorization.grant.values now = .ok ()

/-- What the order of a request adds to the tables. -/
inductive OrderAdded (store : Store) (request : DecisionRequest) (decisionId : Uuid) (now : Int)
    (after : Store) : Prop where
  | nothing (supplied : request.supplied = false) (execution : after.execution = store.execution)
      (approvals : after.approvals = store.approvals)
      (assessments : after.assessments = store.assessments)
  | entry {authorization : Authorization} {envelope : OrderEnvelope} {intentId : Uuid}
      {approval : EntryApprovalAuthorization}
      (authorized : OrderAuthorized store request authorization envelope intentId now)
      (grant : authorization.grant = .entry approval)
      (approvals : after.approvals.rows = store.approvals.rows ++
        [approvalRow decisionId authorization approval])
      (assessments : after.assessments = store.assessments)
      (execution : store.execution.addIntent
        (approvedRow intentId request.accountRole envelope) = .ok after.execution)
  | assessment {authorization : Authorization} {envelope : OrderEnvelope} {intentId : Uuid}
      {certificate : AssessmentCertificate}
      (authorized : OrderAuthorized store request authorization envelope intentId now)
      (grant : authorization.grant = .assessment certificate)
      (approvals : after.approvals = store.approvals)
      (assessments : after.assessments.rows = store.assessments.rows ++
        [assessmentRow decisionId authorization certificate])
      (execution : store.execution.addIntent
        (approvedRow intentId request.accountRole envelope) = .ok after.execution)

/-- The tables that the order of a request leaves alone. -/
structure OrderFrame (store after : Store) : Prop where
  ticks : after.ticks = store.ticks
  snapshots : after.snapshots = store.snapshots
  decisions : after.decisions = store.decisions
  bindings : after.bindings = store.bindings
  surroundings : after.surroundings = store.surroundings

variable {request : DecisionRequest} {now : Int} {decisionId : Uuid} {tick : TickRow}

/-- The order of a request is stored with its grant, or there is none. -/
theorem addIntent_added (h : addIntent store request decisionId now = .ok after) :
    OrderAdded store request decisionId now after ∧ OrderFrame store after := by
  unfold addIntent at h
  split at h
  · rename_i authorization envelope intentId hauthorization henvelope hintentId
    simp only [addAuthorizedIntent, check_bind_ok] at h
    obtain ⟨hthesis, hposition, hvalid, h⟩ := h
    obtain ⟨granted, hgrant, h⟩ := bind_ok.mp h
    obtain ⟨execution, hadd, h⟩ := bind_ok.mp h
    have hauthorized : OrderAuthorized store request authorization envelope intentId now :=
      ⟨hauthorization, henvelope, hintentId, hthesis, hposition, hvalid⟩
    cases h
    unfold addGrant at hgrant
    split at hgrant
    · rename_i approval hentry
      simp only [require_bind_ok] at hgrant
      obtain ⟨approvals, hinsert, hgrant⟩ := hgrant
      cases hgrant
      exact ⟨.entry hauthorized hentry (Checked.rows_insert hinsert) rfl hadd,
        ⟨rfl, rfl, rfl, rfl, rfl⟩⟩
    · rename_i certificate hassessment
      simp only [require_bind_ok] at hgrant
      obtain ⟨assessments, hinsert, hgrant⟩ := hgrant
      cases hgrant
      exact ⟨.assessment hauthorized hassessment rfl (Checked.rows_insert hinsert) hadd,
        ⟨rfl, rfl, rfl, rfl, rfl⟩⟩
  · rename_i hmissing
    cases h
    refine ⟨.nothing ?_ rfl rfl rfl, ⟨rfl, rfl, rfl, rfl, rfl⟩⟩
    cases hauthorization : request.authorization with
    | none => simp [DecisionRequest.supplied, hauthorization]
    | some authorization =>
        cases henvelope : request.envelope with
        | none => simp [DecisionRequest.supplied, henvelope]
        | some envelope =>
            cases hintentId : request.intentId with
            | none => simp [DecisionRequest.supplied, hintentId]
            | some intentId =>
                exact absurd hintentId (hmissing _ _ _ hauthorization henvelope)

/-! ## Bindings and ticks -/

/-- A binding changes no other table. -/
theorem bindInput_frame (h : bindInput store request snapshot = .ok after) :
    ∃ bindings, after = { store with bindings } := by
  unfold bindInput at h
  split at h
  · cases h
    exact ⟨store.bindings, rfl⟩
  · unfold bindLifecycleInput at h
    split at h
    · simp only [check_bind_ok] at h
      cases h.2
      exact ⟨store.bindings, rfl⟩
    · simp only [check_bind_ok, require_bind_ok] at h
      obtain ⟨-, bindings, -, h⟩ := h
      cases h
      exact ⟨bindings, rfl⟩

def withDecision (tickId decisionId : Uuid) : List TickRow → List TickRow :=
  modify (fun row => row.tickId == tickId) fun row => { row with decisionId := some decisionId }

omit [Digest] in
/-- Setting the decision of a tick changes no other table. -/
theorem setTickDecision_frame {tickId : Uuid}
    (h : setTickDecision store tickId decisionId = .ok after) :
    ∃ ticks, after = { store with ticks } ∧
      ticks.rows = withDecision tickId decisionId store.ticks.rows := by
  simp only [setTickDecision, require_bind_ok] at h
  obtain ⟨ticks, hupdate, h⟩ := h
  cases h
  exact ⟨ticks, rfl, Checked.rows_update hupdate⟩

/-! ## Decisions -/

/-- Everything that `recordDecision` checks before it looks at earlier decisions. -/
structure RequestChecked (serverAutonomyEnabled : Bool) (store : Store) (request : DecisionRequest)
    (tick : TickRow) (now : Int) : Prop where
  values : validateDecisionValues serverAutonomyEnabled request = .ok ()
  manifest : requireManifest request = .ok ()
  thesis : requireThesis store request now = .ok ()
  experiment : requireExperiment store request = .ok ()
  tick_eq : requireReservedTick store request = .ok tick
  account : ∃ account, requireDecisionAccount store request now = .ok account ∧
    requireAuthority request account tick = .ok ()

structure FirstRecord (serverAutonomyEnabled : Bool) (store : Store) (request : DecisionRequest)
    (tick : TickRow) (decisions : List DecisionRow) (now : Int) (after : Store) : Prop where
  checked : RequestChecked serverAutonomyEnabled store request tick now
  recorded : recordedAmong store request.input.inputHash (boundaryInputs store request) =
    .ok (.others decisions)
  policy : isNonPolicyAudit request.decisionKind request.outcome = true ∨
    ∀ decision ∈ decisions, isNonPolicyAudit decision.decisionKind decision.outcome = true
  snapshots : store.snapshots.insert request.input = some after.snapshots
  decisions : store.decisions.insert (request.decision now) = some after.decisions
  ticks : after.ticks.rows =
    withDecision tick.tickId (request.decision now).decisionId store.ticks.rows
  order : OrderAdded store request (request.decision now).decisionId now after
  surroundings : after.surroundings = store.surroundings

structure RepeatedRecord (serverAutonomyEnabled : Bool) (store : Store) (request : DecisionRequest)
    (tick : TickRow) (snapshot : AgentInputSnapshotRow) (decision : DecisionRow) (now : Int)
    (after : Store) : Prop where
  checked : RequestChecked serverAutonomyEnabled store request tick now
  recorded : recordedAmong store request.input.inputHash (boundaryInputs store request) =
    .ok (.same snapshot decision)
  result : decision.resultHash = request.resultHash
  tick_decision : tick.decisionId = none ∨ tick.decisionId = some decision.decisionId
  frame : ∃ bindings ticks, after = { store with bindings, ticks } ∧
    ticks.rows = withDecision tick.tickId decision.decisionId store.ticks.rows

theorem recordNew_first (hchecked : RequestChecked serverAutonomyEnabled store request tick now)
    (hrecorded : recordedAmong store request.input.inputHash (boundaryInputs store request) =
      .ok (.others decisions))
    (h : recordNew store request tick decisions now = .ok (after, result)) :
    FirstRecord serverAutonomyEnabled store request tick decisions now after := by
  simp only [recordNew, check_bind_ok, require_bind_ok, raiseIf_ok] at h
  obtain ⟨hpolicy, snapshots, hsnapshots, inserted, hdecisions, h⟩ := h
  obtain ⟨ticked, hticked, h⟩ := bind_ok.mp h
  obtain ⟨ordered, hordered, h⟩ := bind_ok.mp h
  obtain ⟨bound, hbound, h⟩ := bind_ok.mp h
  obtain ⟨persisted, -, h⟩ := bind_ok.mp h
  cases h
  obtain ⟨ticks, hticks, hrows⟩ := setTickDecision_frame hticked
  obtain ⟨horder, hframe⟩ := addIntent_added hordered
  obtain ⟨bindings, hbindings⟩ := bindInput_frame hbound
  rw [hticks] at horder hframe
  have hpolicy' : isNonPolicyAudit request.decisionKind request.outcome = true ∨
      ∀ decision ∈ decisions, isNonPolicyAudit decision.decisionKind decision.outcome = true := by
    cases haudit : isNonPolicyAudit request.decisionKind request.outcome with
    | true => exact .inl rfl
    | false => exact .inr (by simpa [haudit] using hpolicy)
  rw [hbindings]
  exact {
    checked := hchecked
    recorded := hrecorded
    policy := hpolicy'
    snapshots := by rw [hsnapshots]; exact congrArg some hframe.snapshots.symm
    decisions := by rw [hdecisions]; exact congrArg some hframe.decisions.symm
    ticks := by
      show ordered.ticks.rows = _
      rw [hframe.ticks]
      exact hrows
    order := by
      cases horder with
      | nothing supplied execution approvals assessments =>
          exact .nothing supplied execution approvals assessments
      | entry authorized grant approvals assessments execution =>
          exact .entry ⟨authorized.1, authorized.2, authorized.3, authorized.4, authorized.5,
            authorized.6⟩ grant approvals assessments execution
      | assessment authorized grant approvals assessments execution =>
          exact .assessment ⟨authorized.1, authorized.2, authorized.3, authorized.4, authorized.5,
            authorized.6⟩ grant approvals assessments execution
    surroundings := hframe.surroundings }

/-- A decision on a recorded input is recorded again. -/
theorem recordSame_repeated {decision : DecisionRow}
    (hchecked : RequestChecked serverAutonomyEnabled store request tick now)
    (hrecorded : recordedAmong store request.input.inputHash (boundaryInputs store request) =
      .ok (.same snapshot decision))
    (h : recordSame store request tick snapshot decision = .ok (after, result)) :
    RepeatedRecord serverAutonomyEnabled store request tick snapshot decision now after := by
  simp only [recordSame, check_bind_ok, raiseIf_ok, bne_eq_false_iff_eq, Bool.not_eq_false',
    Bool.or_eq_true, Option.isNone_iff_eq_none, beq_iff_eq] at h
  obtain ⟨hresult, htick, h⟩ := h
  obtain ⟨bound, hbound, h⟩ := bind_ok.mp h
  obtain ⟨ticked, hticked, h⟩ := bind_ok.mp h
  obtain ⟨persisted, -, h⟩ := bind_ok.mp h
  cases h
  obtain ⟨bindings, hbindings⟩ := bindInput_frame hbound
  obtain ⟨ticks, hticks, hrows⟩ := setTickDecision_frame hticked
  refine ⟨hchecked, hrecorded, hresult, htick, bindings, ticks, ?_, ?_⟩
  · rw [hticks, hbindings]
  · rw [hrows, hbindings]

/-- A decision that is recorded is new, or was recorded on the same input before. -/
theorem recordDecision_record
    (h : recordDecision serverAutonomyEnabled store request now = .ok (after, result)) :
    (∃ tick decisions,
      FirstRecord serverAutonomyEnabled store request tick decisions now after) ∨
    ∃ tick snapshot decision,
      RepeatedRecord serverAutonomyEnabled store request tick snapshot decision now after := by
  simp only [recordDecision, check_bind_ok] at h
  obtain ⟨hvalues, hmanifest, h⟩ := h
  obtain ⟨account, haccount, h⟩ := bind_ok.mp h
  simp only [check_bind_ok] at h
  obtain ⟨hthesis, hexperiment, h⟩ := h
  obtain ⟨tick, htick, h⟩ := bind_ok.mp h
  simp only [check_bind_ok] at h
  obtain ⟨hauthority, h⟩ := h
  obtain ⟨recorded, hrecorded, h⟩ := bind_ok.mp h
  have hchecked : RequestChecked serverAutonomyEnabled store request tick now :=
    ⟨hvalues, hmanifest, hthesis, hexperiment, htick, account, haccount, hauthority⟩
  cases recorded with
  | same snapshot decision =>
      exact .inr ⟨tick, snapshot, decision, recordSame_repeated hchecked hrecorded h⟩
  | others decisions => exact .inl ⟨tick, decisions, recordNew_first hchecked hrecorded h⟩

/-! ## Transactions -/

/-- What a transaction does to the tables. -/
inductive Effect (settings : RepositorySettings) (serverAutonomyEnabled : Bool) (store : Store)
    (transaction : Transaction) (after : Store) : Prop where
  | unchanged (h : after = store)
  | reserved {reservation : Reservation} (call : transaction.call = .reserveTick reservation)
      (frame : ∃ ticks, store.ticks.insert
        (reservation.row transaction.now transaction.fresh) = some ticks ∧
        after = { store with ticks })
  | recorded {request : DecisionRequest} {tick : TickRow} {decisions : List DecisionRow}
      (call : transaction.call = .recordDecision request)
      (h : FirstRecord serverAutonomyEnabled store request tick decisions transaction.now after)
  | repeated {request : DecisionRequest} {tick : TickRow} {snapshot : AgentInputSnapshotRow}
      {decision : DecisionRow} (call : transaction.call = .recordDecision request)
      (h : RepeatedRecord serverAutonomyEnabled store request tick snapshot decision
        transaction.now after)
  | completed {completion : Completion} {rows : CompletionRows}
      (call : transaction.call = .completeTick completion)
      (checked : checkCompletion store completion = .ok rows)
      (reserved : rows.row.status ≠ .completed)
      (frame : ∃ ticks, after = { store with ticks } ∧
        ticks.rows = modify (fun row => row.tickId == completion.tickId)
          (completedRow completion rows.proofHash transaction.now) store.ticks.rows)
  | executed {call : AlphaDecay.Call} (execution : transaction.call = .execution call)
      (others : writesAgent call = false)
      (h : ∃ db, AlphaDecay.run settings
        { call, start := transaction.start, now := transaction.now, fresh := transaction.fresh }
        store.database = .ok db ∧ after = { store with execution := db })
  | surroundings {surroundings : Surroundings}
      (call : transaction.call = .surroundings surroundings)
      (h : after = { store with surroundings })

/-- A transaction that commits has one of the effects. -/
theorem run_effect {transaction : Transaction} {response : Response}
    (h : run settings serverAutonomyEnabled transaction store = .ok (after, response)) :
    Effect settings serverAutonomyEnabled store transaction after := by
  obtain ⟨call, start, now, fresh⟩ := transaction
  cases call with
  | reserveTick reservation =>
      obtain ⟨⟨reserved, tick⟩, hresult, h⟩ := map_ok.mp h
      cases h
      simp only [reserveTick, check_bind_ok] at hresult
      obtain ⟨-, -, hresult⟩ := hresult
      split at hresult
      · obtain ⟨existing, -, hresult⟩ := map_ok.mp hresult
        cases hresult
        exact .unchanged rfl
      · simp only [reserveNew, check_bind_ok, require_bind_ok] at hresult
        obtain ⟨-, -, ticks, hinsert, hresult⟩ := hresult
        cases hresult
        exact .reserved rfl ⟨ticks, hinsert, rfl⟩
  | recordDecision request =>
      obtain ⟨⟨recorded, decision⟩, hresult, h⟩ := map_ok.mp h
      cases h
      rcases recordDecision_record hresult with ⟨tick, decisions, hfirst⟩ |
        ⟨tick, snapshot, existing, hrepeated⟩
      · exact .recorded rfl hfirst
      · exact .repeated rfl hrepeated
  | completeTick completion =>
      obtain ⟨⟨completed, tick⟩, hresult, h⟩ := map_ok.mp h
      cases h
      obtain ⟨rows, hrows, hresult⟩ := bind_ok.mp hresult
      split at hresult
      · simp only [check_bind_ok] at hresult
        cases hresult.2
        exact .unchanged rfl
      · rename_i hopen
        simp only [require_bind_ok] at hresult
        obtain ⟨ticks, hupdate, hresult⟩ := hresult
        cases hresult
        exact .completed rfl hrows hopen ⟨ticks, rfl, Checked.rows_update hupdate⟩
  | execution call =>
      obtain ⟨executed, hresult, h⟩ := map_ok.mp h
      cases h
      simp only [runExecution, check_bind_ok, raiseIf_ok] at hresult
      obtain ⟨hothers, hresult⟩ := hresult
      obtain ⟨db, hrun, hresult⟩ := bind_ok.mp hresult
      cases hresult
      exact .executed rfl hothers ⟨db, hrun, rfl⟩
  | surroundings surroundings =>
      cases h
      exact .surroundings rfl rfl

/-- Every transaction has one of the effects. One that raises changes nothing. -/
theorem execute_effect (transaction : Transaction) :
    Effect settings serverAutonomyEnabled store transaction
      (execute settings serverAutonomyEnabled transaction store) := by
  unfold execute
  split
  · rename_i h
    exact run_effect h
  · exact .unchanged rfl

/-! ## Completions -/

structure CompletionChecked (store : Store) (completion : Completion) (rows : CompletionRows)
    (decision : DecisionRow) : Prop where
  terminalCode : completion.terminalCode.isEmpty = false
  tick : store.tick completion.tickId = some rows.row
  token : rows.row.reservationToken = completion.reservationToken
  row_decision : rows.row.decisionId = some decision.decisionId
  decisionId : completion.decisionId = some decision.decisionId
  decision_eq : store.decision decision.decisionId = some decision
  accountRole : decision.accountRole = rows.row.accountRole
  certificate : requireCertificate store decision.decisionId completion.terminalCode
    completion.executionCertificateId = .ok ()
  proofHash : rows.proofHash = tickProofHash rows.row completion decision.resultHash

/-- A completion passes its checks exactly when all of this holds. -/
theorem checkCompletion_iff {completion : Completion} {rows : CompletionRows} :
    checkCompletion store completion = .ok rows ↔
      ∃ decision, CompletionChecked store completion rows decision := by
  obtain ⟨row, proofHash⟩ := rows
  constructor
  · intro h
    simp only [checkCompletion, check_bind_ok, require_bind_ok, raiseIf_ok,
      Option.filter_eq_some_iff, beq_iff_eq, bne_eq_false_iff_eq] at h
    obtain ⟨hcode, found, ⟨htick, htoken⟩, decisionId, hrowDecision, hdecisionId, decision,
      ⟨hdecision, hrole⟩, hcertificate, h⟩ := h
    cases h
    obtain ⟨-, hid⟩ := lookup_some hdecision
    subst hid
    exact ⟨decision, hcode, htick, htoken, hrowDecision, hdecisionId, hdecision, hrole,
      hcertificate, rfl⟩
  · rintro ⟨decision, h⟩
    simp only [checkCompletion, check_bind_ok, require_bind_ok, raiseIf_ok,
      Option.filter_eq_some_iff, beq_iff_eq, bne_eq_false_iff_eq]
    refine ⟨h.terminalCode, row, ⟨h.tick, h.token⟩, decision.decisionId, h.row_decision,
      h.decisionId, decision, ⟨h.decision_eq, h.accountRole⟩, h.certificate, ?_⟩
    have hproof : proofHash = tickProofHash row completion decision.resultHash := h.proofHash
    rw [hproof]
    rfl

/-! ## What is never lost -/

/-- What a tick keeps: all of it once it is completed, and everything but its decision before. -/
structure TickKept (old new : TickRow) : Prop where
  tickId : new.tickId = old.tickId
  accountRole : new.accountRole = old.accountRole
  tickKey : new.tickKey = old.tickKey
  reservationToken : new.reservationToken = old.reservationToken
  completed : old.status = .completed → new = old

omit [Digest] in
theorem TickKept.refl (row : TickRow) : TickKept row row :=
  ⟨rfl, rfl, rfl, rfl, fun _ => rfl⟩

/-- Ticks stay, keep what ticks keep, and others follow. -/
def TicksGrow (rows after : List TickRow) : Prop :=
  ∃ change added, after = rows.map change ++ added ∧ ∀ row ∈ rows, TickKept row (change row)

/-- The rows of a table stay, and others follow. -/
def Appends {Row : Type} (rows after : List Row) : Prop :=
  ∃ added, after = rows ++ added

/-- Grants stay, and those that follow belong to decisions that were not recorded before. -/
def GrantsAppend {Row : Type} (decisionOf : Row → Option Uuid) (store : Store)
    (rows after : List Row) : Prop :=
  ∃ added, after = rows ++ added ∧ ∀ row ∈ added, ∀ decision ∈ store.decisions.rows,
    decisionOf row ≠ some decision.decisionId

/-- The tables of the agent only grow, and no grant is added for a decision that is recorded. -/
structure Grows (store after : Store) : Prop where
  ticks : TicksGrow store.ticks.rows after.ticks.rows
  snapshots : Appends store.snapshots.rows after.snapshots.rows
  decisions : Appends store.decisions.rows after.decisions.rows
  approvals : GrantsAppend (fun row : ApprovalRow => row.agentDecisionId) store
    store.approvals.rows after.approvals.rows
  assessments : GrantsAppend (fun row : AssessmentRow => row.agentDecisionId) store
    store.assessments.rows after.assessments.rows
  intents : IntentsGrow store.execution after.execution
  certificates : Appends store.execution.certificates.rows after.execution.certificates.rows

omit [Digest] in
theorem Appends.refl (rows : List Row) : Appends rows rows :=
  ⟨[], (List.append_nil rows).symm⟩

omit [Digest] in
theorem GrantsAppend.refl (decisionOf : Row → Option Uuid) (store : Store) (rows : List Row) :
    GrantsAppend decisionOf store rows rows :=
  ⟨[], (List.append_nil rows).symm, fun _ hrow => absurd hrow List.not_mem_nil⟩

omit [Digest] in
/-- A grant is appended for a decision that was not recorded before. -/
theorem GrantsAppend.single {decisionOf : Row → Option Uuid} {after : List Row}
    (h : after = rows ++ [row]) (hrow : decisionOf row = some decisionId)
    (hfresh : ∀ decision ∈ store.decisions.rows, decision.decisionId ≠ decisionId) :
    GrantsAppend decisionOf store rows after := by
  refine ⟨[row], h, fun added hadded decision hdecision hsome => ?_⟩
  rw [List.mem_singleton.mp hadded, hrow] at hsome
  exact hfresh decision hdecision (Option.some.inj hsome).symm

omit [Digest] in
theorem Appends.insert {schema : Schema Row} {table inserted : Checked schema}
    (h : table.insert row = some inserted) : Appends table.rows inserted.rows :=
  ⟨[row], Checked.rows_insert h⟩

omit [Digest] in
/-- A row that is found stays the one that is found. -/
theorem Appends.find? {after : List Row} {condition : Row → Bool} (h : Appends rows after)
    (hfind : rows.find? condition = some row) : after.find? condition = some row := by
  obtain ⟨added, hrows⟩ := h
  rw [hrows, List.find?_append, hfind]
  rfl

omit [Digest] in
theorem Appends.mem {after : List Row} (h : Appends rows after) (hmem : row ∈ rows) :
    row ∈ after := by
  obtain ⟨added, hrows⟩ := h
  rw [hrows]
  exact List.mem_append_left added hmem

omit [Digest] in
/-- Ticks that are changed grow when the change keeps what ticks keep. -/
theorem TicksGrow.modified {rows after : List TickRow} {condition : TickRow → Bool}
    {change : TickRow → TickRow} (h : after = modify condition change rows)
    (hkept : ∀ row ∈ rows, condition row = true → TickKept row (change row)) :
    TicksGrow rows after := by
  refine ⟨fun row => if condition row then change row else row, [], ?_, fun row hrow => ?_⟩
  · rw [List.append_nil]
    exact h
  · show TickKept row (if condition row then change row else row)
    split
    · rename_i hcondition
      exact hkept row hrow hcondition
    · exact .refl row

omit [Digest] in
theorem Grows.refl (store : Store) : Grows store store :=
  ⟨⟨id, [], by rw [List.map_id, List.append_nil], fun row _ => .refl row⟩, .refl _, .refl _,
    .refl _ _ _, .refl _ _ _, .of_eq rfl, .refl _⟩

omit [Digest] in
theorem requireReservedTick_ok (h : requireReservedTick store request = .ok tick) :
    store.tick request.tickId = some tick ∧
      tick.reservationToken = request.reservationToken ∧ tick.status = .reserved := by
  simp only [requireReservedTick, require_ok, Option.filter_eq_some_iff, Bool.and_eq_true,
    beq_iff_eq] at h
  exact ⟨h.1, h.2.1.1.1, h.2.1.1.2⟩

omit [Digest] in
theorem tick_eq {row : TickRow} {tickId : Uuid} (hmem : row ∈ store.ticks.rows)
    (hid : row.tickId = tickId) : store.tick tickId = some row := by
  subst hid
  refine lookup_of_mem (store.ticks.unique fun left right hclash => ?_) hmem
  simp only [tickSchema, Bool.or_eq_false_iff, beq_eq_false_iff_ne, ne_eq] at hclash
  simp [clashOn, hclash.1.1]

omit [Digest] in
/-- A tick that has got its decision was reserved, and stays so. -/
theorem withDecision_kept {row : TickRow} (htick : requireReservedTick store request = .ok tick)
    (hrow : row ∈ store.ticks.rows) (hid : (row.tickId == tick.tickId) = true) :
    TickKept row { row with decisionId := some decisionId } := by
  obtain ⟨hfound, -, hreserved⟩ := requireReservedTick_ok htick
  obtain ⟨hmem, -⟩ := lookup_some hfound
  have hsame : row = tick := Option.some.inj
    ((tick_eq hrow (beq_iff_eq.mp hid)).symm.trans (tick_eq hmem rfl))
  refine ⟨rfl, rfl, rfl, rfl, fun hcompleted => ?_⟩
  rw [hsame, hreserved] at hcompleted
  cases hcompleted

/-- The order of a request leaves recorded decisions without new grants. -/
theorem OrderAdded.grants (h : OrderAdded store request decisionId now after)
    (hfresh : ∀ decision ∈ store.decisions.rows, decision.decisionId ≠ decisionId) :
    GrantsAppend (fun row : ApprovalRow => row.agentDecisionId) store
      store.approvals.rows after.approvals.rows ∧
    GrantsAppend (fun row : AssessmentRow => row.agentDecisionId) store
      store.assessments.rows after.assessments.rows ∧
    IntentsGrow store.execution after.execution ∧
    Appends store.execution.certificates.rows after.execution.certificates.rows := by
  have hintent : ∀ {row}, store.execution.addIntent row = .ok after.execution →
      IntentsGrow store.execution after.execution ∧
      Appends store.execution.certificates.rows after.execution.certificates.rows := by
    intro row hadd
    have hwrites : WritesOnly [.intents] store.execution after.execution :=
      Database.addIntent_writes hadd rfl
    have hcertificates : after.execution.certificates = store.execution.certificates :=
      hwrites .certificates rfl
    refine ⟨⟨id, [row], ?_, IntentKept.refl⟩, ?_⟩
    · rw [Database.addIntent_rows hadd, List.map_id]
    · rw [hcertificates]
      exact .refl _
  cases h with
  | nothing supplied execution approvals assessments =>
      rw [execution, approvals, assessments]
      exact ⟨.refl _ _ _, .refl _ _ _, .of_eq rfl, .refl _⟩
  | entry authorized grant approvals assessments execution =>
      rw [assessments]
      exact ⟨.single approvals rfl hfresh, .refl _ _ _, hintent execution⟩
  | assessment authorized grant approvals assessments execution =>
      rw [approvals]
      exact ⟨.refl _ _ _, .single assessments rfl hfresh, hintent execution⟩

theorem FirstRecord.fresh
    (h : FirstRecord serverAutonomyEnabled store request tick decisions now after) :
    ∀ decision ∈ store.decisions.rows, decision.decisionId ≠ (request.decision now).decisionId := by
  intro decision hdecision
  have hclash := Checked.clash_insert h.decisions decision hdecision
  simp only [decisionSchema, Bool.or_eq_false_iff, beq_eq_false_iff_ne, ne_eq] at hclash
  exact hclash.1.1.1

theorem Effect.grows {transaction : Transaction}
    (h : Effect settings serverAutonomyEnabled store transaction after) : Grows store after := by
  have hrefl := Grows.refl store
  cases h with
  | unchanged h =>
      rw [h]
      exact hrefl
  | reserved call frame =>
      obtain ⟨ticks, hinsert, h⟩ := frame
      have hticks : TicksGrow store.ticks.rows ticks.rows :=
        ⟨id, _, by rw [List.map_id]; exact Checked.rows_insert hinsert, fun row _ => .refl row⟩
      rw [h]
      exact { hrefl with ticks := hticks }
  | recorded call h =>
      obtain ⟨happrovals, hassessments, hintents, hcertificates⟩ := h.order.grants h.fresh
      have hticks : TicksGrow store.ticks.rows after.ticks.rows :=
        .modified h.ticks fun row hrow hid => withDecision_kept h.checked.tick_eq hrow hid
      exact ⟨hticks, .insert h.snapshots, .insert h.decisions, happrovals, hassessments, hintents,
        hcertificates⟩
  | repeated call h =>
      obtain ⟨bindings, ticks, hafter, hrows⟩ := h.frame
      have hticks : TicksGrow store.ticks.rows ticks.rows :=
        .modified hrows fun row hrow hid => withDecision_kept h.checked.tick_eq hrow hid
      rw [hafter]
      exact { hrefl with ticks := hticks }
  | @completed completion rows call checked reserved frame =>
      obtain ⟨ticks, hafter, hrows⟩ := frame
      obtain ⟨decision, hchecked⟩ := checkCompletion_iff.mp checked
      have hticks : TicksGrow store.ticks.rows ticks.rows := by
        refine .modified hrows fun row hrow hid => ⟨rfl, rfl, rfl, rfl, fun hcompleted => ?_⟩
        have hsame : rows.row = row := Option.some.inj
          (hchecked.tick.symm.trans (tick_eq hrow (beq_iff_eq.mp hid)))
        exact absurd (hsame ▸ hcompleted) reserved
      rw [hafter]
      exact { hrefl with ticks := hticks }
  | executed execution others h =>
      obtain ⟨db, hrun, h⟩ := h
      have hintents : IntentsGrow store.execution db := (run_intents hrun).grow
      obtain ⟨added, hadded⟩ := run_certificates hrun
      have hcertificates : Appends store.execution.certificates.rows db.certificates.rows :=
        ⟨added, hadded⟩
      rw [h]
      exact { hrefl with
        intents := hintents
        certificates := hcertificates }
  | surroundings call h =>
      rw [h]
      exact { hrefl with }

/-! ## The execution repository under the agent -/

end AlphaDecay.Agent
