import AlphaDecay.Persistence.Effects

/-!
# Where reconciliation states come from

The reconciliation states of an account are opened by a clean sweep and continued by finalizations.
`Opening` and `Settlement` collect what such a transaction checked and what it wrote, and
`run_states` says that every other transaction leaves the states alone. The results about chains of
states rest on it and never open a transaction.
-/

namespace AlphaDecay

open Foundation Table

variable [Digest] {settings : RepositorySettings} {db after : Database} {role : AccountRole}
  {start now : Int} {fresh : Uuid}
variable {certificate : ExecutionCertificate} {sweep : SweepObservation} {requestedStatus : String}
  {transaction : Transaction}

variable {result : Option ExecutionCertificate} {complete : ExecutionCertificate}

/-! ## What opens and continues a chain of states -/

/-- Everything that is known of the first reconciliation state of the submission account. -/
structure Opening (db after : Database) (baseline : SubmissionBaselineRow)
    (sweep : SweepObservation) (row : AccountReconciliationStateRow) : Prop where
  baseline_mem : baseline ∈ db.baselines.rows
  unopened : db.latestState .submission = none
  resolved_known : ∀ hash ∈ row.resolvedActivityHashes,
    hash ∈ activityHashes row.knownActivities
  role : row.accountRole = .submission
  sequence : row.sequence = 1
  baselineId : row.baselineId = baseline.baselineId
  capturedAt : row.baselineCapturedAt = baseline.capturedAt
  cash : row.expectedCash = baseline.equity
  positions : row.expectedPositions = []
  orders : row.expectedOpenOrders = []
  known : row.knownActivities = sweep.activities
  resolved : row.resolvedActivityHashes = []
  funding : ∃ funding, sweep.activities = [funding] ∧ funding.activityType = .initialFunding
  stateRows : after.states.rows = db.states.rows ++ [row]
  writes : WritesOnly [.states] db after

def finalizationTables : List TableName :=
  [.accounts, .budgets, .states, .reconciliations, .intents, .certificates]

/-- Everything that is known of a finalization with a certificate. -/
structure Settlement (settings : RepositorySettings) (db after : Database)
    (claim : ExecutionIntent) (sweep : SweepObservation) (requestedStatus : String) (now : Int)
    (lockId : Uuid) (rows : FinalizationRows) (evaluated : WholeAccountReconciliation)
    (latest : AttemptObservationRow) (permit : BrokerMutationPermit)
    (state : AccountReconciliationState) (complete certificate : ExecutionCertificate)
    (hasFill : Bool) : Prop where
  read : readFinalization db claim now = .ok rows
  expected : finalReconciliationExpectationFromRows rows.intent rows.state rows.attempts
    rows.observations rows.latestPermit (some sweep.activities) = .ok evaluated.expectation
  sweep_eq : evaluated.sweep = sweep
  accepted : evaluated.acceptedAt = now
  safe : evaluated.safe = true
  latest_read : rows.observations.getLast? = some latest
  follows : latest.observedAt ≤ sweep.retrievalStartedAt
  permit_read : rows.latestPermit = some permit
  valid : ∃ intent exposure, intentFromRow db rows.intent = .ok intent ∧
    validateFinalization intent (attemptsFromRows rows.attempts) complete
      (derivedReconciliation exposure) requestedStatus now = .ok (certificate, hasFill)
  provenance : certificate.reconciliationId = some evaluated.reconciliationId ∧
    certificate.reconciliationHash = some evaluated.reconciliationHash ∧
    certificate.lastObservationHash = some latest.observationHash
  next : nextState rows evaluated now = .ok state
  charge : ∃ budget consumed, applyBudgetFinalization settings.entryLimits rows.intent rows.budget
      (finalizedAccount hasFill requestedStatus now lockId rows.account) hasFill =
        .ok (budget, consumed) ∧
    after.budgets.rows = modify (fun row => row.accountRole == rows.intent.accountRole)
      (fun _ => budget) db.budgets.rows ∧
    after.intents.rows = modify (fun row => row.intentId == rows.intent.intentId)
      (fun row => { row with state := .terminal, firstFillConsumed := consumed }) db.intents.rows
  stateRows : after.states.rows =
    db.states.rows ++ [nextStateRow rows evaluated permit latest state]
  certificateRows : after.certificates.rows = db.certificates.rows ++ [certificate]
  writes : WritesOnly finalizationTables db after

/-! ## The first state -/

omit [Digest] in
/-- A clean sweep shows the funding of the account alone. -/
theorem isCleanSweep_funding {account : AccountRoleRow} {baseline : SubmissionBaselineRow}
    (h : isCleanSweep account baseline sweep = true) :
    ∃ funding, sweep.activities = [funding] ∧ funding.activityType = .initialFunding := by
  unfold isCleanSweep at h
  obtain ⟨-, h⟩ := Bool.and_eq_true_iff.mp h
  split at h
  · rename_i funding hactivities
    simp only [Bool.and_eq_true, beq_iff_eq] at h
    exact ⟨funding, hactivities, h.1.1.1⟩
  · cases h

/-- The first reconciliation state opens the chain. -/
theorem initializeReconciliationState_opening {state : AccountReconciliationState}
    (h : initializeReconciliationState db sweep now = .ok (after, state)) :
    ∃ baseline row, Opening db after baseline sweep row := by
  simp only [initializeReconciliationState, check_bind_ok, require_bind_ok, raiseIf_ok,
    Bool.not_eq_false'] at h
  obtain ⟨-, account, -, baseline, hbaseline, -, hunopened, hclean, h⟩ := h
  obtain ⟨expectation, -, h⟩ := bind_ok.mp h
  obtain ⟨evaluated, -, h⟩ := bind_ok.mp h
  simp only [check_bind_ok] at h
  obtain ⟨-, h⟩ := h
  obtain ⟨opened, hopened, h⟩ := bind_ok.mp h
  obtain ⟨middle, hadd, h⟩ := bind_ok.mp h
  cases h
  unfold initialState at hopened
  obtain ⟨hvalid, hbuilt⟩ := build_ok.mp hopened
  obtain ⟨hrows, hwrites⟩ := Database.addState_rows hadd
  refine ⟨baseline, _, {
    baseline_mem := (lookup_some hbaseline).1
    unopened := Option.not_isSome_iff_eq_none.mp (by simpa using hunopened)
    resolved_known := ?_
    role := ?_
    sequence := rfl
    baselineId := rfl
    capturedAt := ?_
    cash := ?_
    positions := ?_
    orders := ?_
    known := ?_
    resolved := ?_
    funding := isCleanSweep_funding hclean
    stateRows := hrows
    writes := hwrites }⟩
  all_goals rw [← hbuilt]
  intro hash hhash
  cases hhash

/-! ## Finalizations -/

omit [Digest] in
/-- A finalization that locks the account stores no certificate. -/
theorem latchedFinalization_result {reason : String}
    (h : latchedFinalization db role reason now fresh = .ok (after, result)) :
    result = none ∧ WritesOnly [.accounts] db after := by
  unfold latchedFinalization at h
  obtain ⟨locked, hlocked, h⟩ := bind_ok.mp h
  cases h
  exact ⟨rfl, Database.changeAccount_writes hlocked rfl⟩

/-- What the write of a finalization appends. -/
theorem writeFinalization_rows {rows : FinalizationRows} {evaluated : WholeAccountReconciliation}
    {latest : AttemptObservationRow} {hasFill : Bool}
    (h : writeFinalization settings db rows evaluated latest certificate hasFill requestedStatus now
      fresh = .ok after) :
    ∃ budget consumed state permit,
      applyBudgetFinalization settings.entryLimits rows.intent rows.budget
        (finalizedAccount hasFill requestedStatus now fresh rows.account) hasFill =
          .ok (budget, consumed) ∧
      after.budgets.rows = modify (fun row => row.accountRole == rows.intent.accountRole)
        (fun _ => budget) db.budgets.rows ∧
      after.intents.rows = modify (fun row => row.intentId == rows.intent.intentId)
        (fun row => { row with state := .terminal, firstFillConsumed := consumed })
        db.intents.rows ∧
      nextState rows evaluated now = .ok state ∧ rows.latestPermit = some permit ∧
      after.states.rows = db.states.rows ++ [nextStateRow rows evaluated permit latest state] ∧
      after.certificates.rows = db.certificates.rows ++ [certificate] ∧
      WritesOnly finalizationTables db after := by
  unfold writeFinalization at h
  obtain ⟨⟨budget, consumed⟩, hcharge, h⟩ := bind_ok.mp h
  obtain ⟨locked, hlocked, h⟩ := bind_ok.mp h
  obtain ⟨charged, hcharged, h⟩ := bind_ok.mp h
  obtain ⟨state, hstate, h⟩ := bind_ok.mp h
  simp only [require_bind_ok] at h
  obtain ⟨permit, hpermit, h⟩ := h
  obtain ⟨ended, hended, h⟩ := bind_ok.mp h
  obtain ⟨moved, hmoved, hadded⟩ := bind_ok.mp h
  obtain ⟨hstates, hmovedWrites⟩ := Database.addState_rows hmoved
  obtain ⟨hcertificates, haddedWrites⟩ := Database.addCertificate_rows hadded
  have hbooks : WritesOnly [.accounts, .budgets, .intents] db ended :=
    ((Database.changeAccount_writes hlocked rfl).trans
      (Database.changeBudget_writes hcharged rfl)).trans
      (Database.changeIntent_writes hended rfl)
  refine ⟨budget, consumed, state, permit, hcharge, ?_, ?_, hstate, hpermit, ?_, ?_, ?_⟩
  · have hchanged : WritesOnly [.intents] charged ended :=
      Database.changeIntent_writes hended rfl
    have hafter : after.budgets = charged.budgets :=
      ((hchanged .budgets rfl).trans (hmovedWrites .budgets rfl)).trans
        (haddedWrites .budgets rfl)
    have hbefore : WritesOnly [.accounts] db locked := Database.changeAccount_writes hlocked rfl
    rw [hafter, ← show locked.budgets = db.budgets from hbefore .budgets rfl]
    exact Database.changeBudget_rows hcharged
  · have hafter : after.intents = ended.intents :=
      (hmovedWrites .intents rfl).trans (haddedWrites .intents rfl)
    have hbefore : WritesOnly [.accounts, .budgets] db charged :=
      (Database.changeAccount_writes hlocked rfl).trans (Database.changeBudget_writes hcharged rfl)
    rw [hafter, ← show charged.intents = db.intents from hbefore .intents rfl]
    exact Database.changeIntent_rows hended
  · have hkept : ended.states = db.states := hbooks .states rfl
    have hlast : after.states = moved.states := haddedWrites .states rfl
    rw [hlast, hstates, hkept]
  · have hkept : ended.certificates = db.certificates := hbooks .certificates rfl
    have hlast : moved.certificates = ended.certificates := hmovedWrites .certificates rfl
    rw [hcertificates, hlast, hkept]
  · exact ((hbooks.mono rfl).trans (hmovedWrites.mono rfl)).trans
      (haddedWrites.mono rfl)

theorem intentFromRow_congr (h : after.accounts = db.accounts) (row : ExecutionIntentRow) :
    intentFromRow after row = intentFromRow db row := by
  simp only [intentFromRow, Database.account, h]

omit [Digest] in
/-- A certificate with a provenance carries it. -/
theorem certificateWith_provenance {provenance : Provenance} {actualExposure : Option GreekExposure}
    (h : certificateWith certificate provenance actualExposure = .ok complete) :
    complete.reconciliationId = some provenance.reconciliationId ∧
      complete.reconciliationHash = some provenance.reconciliationHash ∧
      complete.lastObservationHash = some provenance.lastObservationHash := by
  unfold certificateWith at h
  obtain ⟨hvalid, rfl⟩ := build_ok.mp h
  exact ⟨rfl, rfl, rfl⟩

/-- A certificate that passes the check of a finalization is stored with its provenance. -/
theorem validateFinalization_provenance {intent : ExecutionIntent} {attempts : List OrderAttempt}
    {reconciliation : Reconciliation} {trustedNow : Int} {hasFill : Bool}
    (h : validateFinalization intent attempts complete reconciliation requestedStatus
      trustedNow = .ok (certificate, hasFill)) :
    certificate.reconciliationId = complete.reconciliationId ∧
      certificate.reconciliationHash = complete.reconciliationHash ∧
      certificate.lastObservationHash = complete.lastObservationHash := by
  simp only [validateFinalization, check_bind_ok, require_bind_ok] at h
  obtain ⟨-, -, last, -, -, -, -, -, -, -, -, -, -, -, h⟩ := h
  cases h
  exact ⟨rfl, rfl, rfl⟩

/-- A finalization without a certificate leaves the states alone, and one with a certificate is a
settlement. -/
theorem finalizeExecutionAuthorized_settlement {claim : ExecutionIntent}
    {positionGreeks : List PositionGreekObservation}
    (h : finalizeExecutionAuthorized settings db certificate sweep requestedStatus claim
      positionGreeks now fresh = .ok (after, result)) :
    result = none ∧ WritesOnly [.accounts, .reconciliations] db after ∨
      ∃ stored rows evaluated latest permit state complete hasFill, result = some stored ∧
        Settlement settings db after claim sweep requestedStatus now fresh rows evaluated latest
          permit state complete stored hasFill := by
  simp only [finalizeExecutionAuthorized, conflictAs_ok] at h
  obtain ⟨rows, hread, h⟩ := bind_ok.mp h
  split at h
  · rename_i expectation hexpected
    unfold reconcileFinalization at h
    obtain ⟨evaluated, hevaluated, h⟩ := bind_ok.mp h
    obtain ⟨reconciled, hreconciled, h⟩ := bind_ok.mp h
    obtain ⟨hsweep, hexpectation, haccepted⟩ := WholeAccountReconciliation.evaluate_ok hevaluated
    have honly : WritesOnly [.reconciliations] db reconciled :=
      Database.addReconciliation_writes hreconciled rfl
    have hreconcile : WritesOnly [.accounts, .reconciliations] db reconciled :=
      honly.mono rfl
    simp only [require_bind_ok, check_bind_ok, raiseIf_ok, decide_eq_false_iff_not, not_lt] at h
    obtain ⟨latest, hlatest, hfollows, h⟩ := h
    split at h
    · obtain ⟨hnone, hwrites⟩ := latchedFinalization_result h
      exact .inl ⟨hnone, hreconcile.trans (hwrites.mono rfl)⟩
    · rename_i hsafe
      simp only [certifyFinalization, check_bind_ok] at h
      obtain ⟨-, h⟩ := h
      split at h
      · obtain ⟨hnone, hwrites⟩ := latchedFinalization_result h
        exact .inl ⟨hnone, hreconcile.trans (hwrites.mono rfl)⟩
      · cases h
      · rename_i exposure hexposure
        obtain ⟨complete, hcomplete, h⟩ := bind_ok.mp h
        obtain ⟨intent, hintent, h⟩ := bind_ok.mp h
        obtain ⟨⟨stored, hasFill⟩, hvalid, h⟩ := bind_ok.mp h
        obtain ⟨written, hwritten, h⟩ := bind_ok.mp h
        cases h
        obtain ⟨budget, consumed, state, permit, hcharge, hbudgets, hintents, hnext, hpermit,
          hstates, hcertificates, hwrites⟩ := writeFinalization_rows hwritten
        have hbudgetsKept : reconciled.budgets = db.budgets := hreconcile .budgets rfl
        have hintentsKept : reconciled.intents = db.intents := hreconcile .intents rfl
        have hstatesKept : reconciled.states = db.states := hreconcile .states rfl
        have hcertificatesKept : reconciled.certificates = db.certificates :=
          hreconcile .certificates rfl
        obtain ⟨hid, hhash, hobservation⟩ := certificateWith_provenance hcomplete
        obtain ⟨hid', hhash', hobservation'⟩ := validateFinalization_provenance hvalid
        refine .inr ⟨stored, rows, evaluated, latest, permit, state, complete, hasFill, rfl, {
          read := hread
          expected := by rw [hexpectation, hexpected]
          sweep_eq := hsweep
          accepted := haccepted
          safe := ?_
          latest_read := hlatest
          follows := hfollows
          permit_read := hpermit
          valid := ⟨intent, exposure, ?_, hvalid⟩
          provenance := ⟨hid'.trans hid, hhash'.trans hhash, hobservation'.trans hobservation⟩
          next := hnext
          charge := by
            rw [hbudgetsKept] at hbudgets
            rw [hintentsKept] at hintents
            exact ⟨budget, consumed, hcharge, hbudgets, hintents⟩
          stateRows := by rw [hstates, hstatesKept]
          certificateRows := by rw [hcertificates, hcertificatesKept]
          writes := (hreconcile.mono rfl).trans hwrites }⟩
        · unfold unsafeReason at hsafe
          split at hsafe
          · assumption
          · split at hsafe <;> cases hsafe
        · rw [← hintent]
          exact (intentFromRow_congr (honly .accounts rfl) rows.intent).symm
  · split at h
    · obtain ⟨hnone, hwrites⟩ := latchedFinalization_result h
      exact .inl ⟨hnone, hwrites.mono rfl⟩
    · cases h

/-! ## Transactions -/

/-- What a transaction does to the reconciliation states. -/
inductive StateStep (settings : RepositorySettings) (db : Database) (transaction : Transaction)
    (after : Database) : Prop where
  | kept (states : after.states = db.states) (certificates : after.certificates = db.certificates)
  | opened {baseline : SubmissionBaselineRow} {sweep : SweepObservation}
      {row : AccountReconciliationStateRow} (h : Opening db after baseline sweep row)
  | settled {certificate : ExecutionCertificate} {sweep : SweepObservation}
      {requestedStatus : String} {claim : ExecutionIntent}
      {positionGreeks : List PositionGreekObservation} {rows : FinalizationRows}
      {evaluated : WholeAccountReconciliation} {latest : AttemptObservationRow}
      {permit : BrokerMutationPermit} {state : AccountReconciliationState}
      {complete stored : ExecutionCertificate} {hasFill : Bool}
      (hcall : transaction.call = .finalizeExecutionAuthorized certificate sweep requestedStatus
        claim positionGreeks)
      (hresult : finalizeExecutionAuthorized settings db certificate sweep requestedStatus claim
        positionGreeks transaction.now transaction.fresh = .ok (after, some stored))
      (h : Settlement settings db after claim sweep requestedStatus transaction.now
        transaction.fresh rows evaluated latest permit state complete stored hasFill)

theorem StateStep.of_writes {names : List TableName} (h : WritesOnly names db after)
    (hstates : names.contains .states = false)
    (hcertificates : names.contains .certificates = false) :
    StateStep settings db transaction after :=
  .kept (h .states hstates) (h .certificates hcertificates)

def Call.tables : Call → List TableName
  | .registerAccount .. => [.accounts, .budgets]
  | .setAutonomousEnabled .. | .targetedLookupAuthority .. => [.accounts]
  | .captureBaseline .. | .observeAccountAdjustment .. => [.baselines]
  | .initializeReconciliationState .. => [.states]
  | .approveIntent .. | .addAuthorizedIntent .. => [.intents]
  | .claimIntent .. => [.accounts, .budgets, .intents]
  | .releaseUnsubmittedClaim .. | .expireUnsubmittedClaims .. => [.budgets, .intents]
  | .recoverEntryReservations => [.budgets]
  | .prepareBrokerMutation .. => preparationTables
  | .acquireBrokerDispatch .. | .markBrokerDispatchAmbiguous .. | .recordAttemptObservation ..
  | .recordAttemptLookupFailure .. | .recordAttemptAbsence .. => dispatchTables
  | .finalizeExecutionAuthorized .. => finalizationTables
  | .changeOrigins .. => [.origins]

/-- A transaction that commits writes the tables of its call only. -/
theorem run_writes (h : run settings transaction db = .ok after) :
    WritesOnly transaction.call.tables db after := by
  obtain ⟨call, start, now, fresh⟩ := transaction
  cases call with
  | registerAccount role fingerprint equity => exact registerAccount_writes h
  | setAutonomousEnabled role enabled actor => exact setAutonomousEnabled_writes h
  | captureBaseline role baseline => exact captureBaseline_writes h
  | observeAccountAdjustment role activity => exact observeAccountAdjustment_writes h
  | initializeReconciliationState sweep =>
      obtain ⟨state, h⟩ := fst_map_ok h
      obtain ⟨baseline, row, hopening⟩ := initializeReconciliationState_opening h
      exact hopening.writes
  | approveIntent intentId role envelope =>
      obtain ⟨intent, h⟩ := fst_map_ok h
      exact approveIntent_writes h
  | claimIntent intentId actor role fingerprint =>
      obtain ⟨intent, h⟩ := fst_map_ok h
      exact claimIntent_writes h
  | releaseUnsubmittedClaim intentId => exact releaseUnsubmittedClaim_writes h
  | expireUnsubmittedClaims role =>
      obtain ⟨ids, h⟩ := fst_map_ok h
      exact expireUnsubmittedClaims_writes h
  | recoverEntryReservations => exact recoverReservations_writes h
  | prepareBrokerMutation reconciliation attempt claim =>
      obtain ⟨preparation, h⟩ := fst_map_ok h
      exact prepareBrokerMutation_writes h
  | acquireBrokerDispatch permitId claim =>
      obtain ⟨permit, h⟩ := fst_map_ok h
      exact acquireBrokerDispatch_writes h
  | markBrokerDispatchAmbiguous permitId nonce claim =>
      obtain ⟨permit, h⟩ := fst_map_ok h
      exact markBrokerDispatchAmbiguous_writes h
  | recordAttemptObservation permitId observed source claim nonce =>
      obtain ⟨observation, h⟩ := fst_map_ok h
      exact recordAttemptObservation_writes h
  | recordAttemptLookupFailure permitId claim =>
      obtain ⟨result, h⟩ := fst_map_ok h
      exact recordAttemptLookupFailure_writes h
  | recordAttemptAbsence permitId source claim =>
      obtain ⟨result, h⟩ := fst_map_ok h
      exact recordAttemptAbsence_writes h
  | targetedLookupAuthority claim =>
      obtain ⟨authority, h⟩ := fst_map_ok h
      exact targetedLookupAuthority_writes h
  | finalizeExecutionAuthorized certificate sweep requestedStatus claim positionGreeks =>
      obtain ⟨result, h⟩ := fst_map_ok h
      rcases finalizeExecutionAuthorized_settlement h with ⟨-, hwrites⟩ |
        ⟨stored, rows, evaluated, latest, permit, state, complete, hasFill, -, hsettled⟩
      · exact hwrites.mono rfl
      · exact hsettled.writes
  | changeOrigins origins =>
      cases h
      intro name hother
      cases name
      case origins => cases hother
      all_goals rfl
  | addAuthorizedIntent intentId role envelope => exact Database.addIntent_writes h rfl

/-- A transaction that commits opens the chain of states, continues it, or leaves it alone. -/
theorem run_states (h : run settings transaction db = .ok after) :
    StateStep settings db transaction after := by
  have hwrites := run_writes h
  obtain ⟨call, start, now, fresh⟩ := transaction
  cases call with
  | initializeReconciliationState sweep =>
      obtain ⟨state, h⟩ := fst_map_ok h
      obtain ⟨baseline, row, hopening⟩ := initializeReconciliationState_opening h
      exact .opened hopening
  | finalizeExecutionAuthorized certificate sweep requestedStatus claim positionGreeks =>
      obtain ⟨result, h⟩ := fst_map_ok h
      rcases finalizeExecutionAuthorized_settlement h with ⟨-, hwrites⟩ |
        ⟨stored, rows, evaluated, latest, permit, state, complete, hasFill, rfl, hsettled⟩
      · exact .of_writes hwrites rfl rfl
      · exact .settled rfl h hsettled
  | _ => exact .of_writes hwrites rfl rfl

end AlphaDecay
