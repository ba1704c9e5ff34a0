import AlphaDecay.Persistence.AttemptLife
import AlphaDecay.Persistence.StateSteps

/-!
# The chain of reconciliation states

The submission account is the only one with reconciliation states. They are numbered from one
without a gap, every state but the first follows the one before it, and the latest state is the
last row. The baseline of the account stays, with the equity that it was captured with.
-/

namespace AlphaDecay

open Foundation Table

variable {settings : RepositorySettings} {db after : Database}

/-! ## Baselines -/

/-- Every baseline stays, with its id, its time and its equity. -/
def KeepsBaselines (db after : Database) : Prop :=
  ∀ baseline ∈ db.baselines.rows, ∃ kept ∈ after.baselines.rows,
    kept.baselineId = baseline.baselineId ∧ kept.equity = baseline.equity ∧
      kept.capturedAt = baseline.capturedAt

/-- Every baseline has the equity that a baseline must have. -/
def BaselinesFunded (db : Database) : Prop :=
  ∀ baseline ∈ db.baselines.rows, baseline.equity.value = 100000

theorem KeepsBaselines.of_eq (h : after.baselines = db.baselines) : KeepsBaselines db after :=
  fun baseline hbaseline => ⟨baseline, h ▸ hbaseline, rfl, rfl, rfl⟩

theorem BaselinesFunded.of_eq (h : BaselinesFunded db) (heq : after.baselines = db.baselines) :
    BaselinesFunded after :=
  fun baseline hbaseline => h baseline (heq ▸ hbaseline)

/-- The mark of an adjustment keeps the baselines. -/
theorem observeAccountAdjustment_baselines {role : AccountRole} {activity : String}
    (h : observeAccountAdjustment db role activity = .ok after) :
    KeepsBaselines db after ∧ (BaselinesFunded db → BaselinesFunded after) := by
  simp only [observeAccountAdjustment, check_bind_ok] at h
  obtain ⟨-, h⟩ := h
  split at h
  · simp only [require_bind_ok] at h
    obtain ⟨baselines, hupdate, h⟩ := h
    cases h
    have hrows := Checked.rows_update hupdate
    constructor
    · intro baseline hbaseline
      show ∃ kept ∈ baselines.rows, _
      rw [hrows]
      cases hcondition : baseline.accountRole == role with
      | true => exact ⟨_, change_mem_modify hbaseline hcondition, rfl, rfl, rfl⟩
      | false => exact ⟨_, mem_modify_of_not hbaseline hcondition, rfl, rfl, rfl⟩
    · intro hfunded baseline hbaseline
      change baseline ∈ baselines.rows at hbaseline
      rw [hrows] at hbaseline
      obtain ⟨old, hold, rfl⟩ := mem_modify.mp hbaseline
      split
      · exact hfunded old hold
      · exact hfunded old hold
  · cases h
    exact ⟨.of_eq rfl, id⟩

variable [Digest]
variable {rows : FinalizationRows}

variable {evaluated : WholeAccountReconciliation} {state : AccountReconciliationState}

/-- The capture of a baseline adds a funded one. -/
theorem captureBaseline_baselines {role : AccountRole} {baseline : SubmissionBaseline}
    (h : captureBaseline db role baseline = .ok after) :
    KeepsBaselines db after ∧ (BaselinesFunded db → BaselinesFunded after) := by
  simp only [captureBaseline, check_bind_ok, require_bind_ok, raiseIf_ok, bne,
    Bool.not_eq_false'] at h
  obtain ⟨-, account, -, -, hequity, -, baselines, hinsert, h⟩ := h
  cases h
  have hrows := Checked.rows_insert hinsert
  constructor
  · intro old hold
    refine ⟨old, ?_, rfl, rfl, rfl⟩
    show old ∈ baselines.rows
    rw [hrows]
    exact List.mem_append_left _ hold
  · intro hfunded found hfound
    change found ∈ baselines.rows at hfound
    rw [hrows] at hfound
    rcases List.mem_append.mp hfound with hold | hnew
    · exact hfunded found hold
    · rw [List.mem_singleton.mp hnew]
      show baseline.equity.value = 100000
      rw [Decimal.beq_iff_value.mp hequity, Decimal.value_ofInt]
      norm_num

/-- A transaction that commits keeps the baselines and their equity. -/
theorem run_baselines {transaction : Transaction} (h : run settings transaction db = .ok after) :
    KeepsBaselines db after ∧ (BaselinesFunded db → BaselinesFunded after) := by
  have hwrites := run_writes h
  obtain ⟨call, start, now, fresh⟩ := transaction
  cases call with
  | captureBaseline role baseline => exact captureBaseline_baselines h
  | observeAccountAdjustment role activity => exact observeAccountAdjustment_baselines h
  | _ =>
      have heq : after.baselines = db.baselines := hwrites .baselines rfl
      exact ⟨.of_eq heq, fun hfunded => hfunded.of_eq heq⟩

/-! ## What a finalization reads -/

structure ReadRows (db : Database) (claim : ExecutionIntent) (rows : FinalizationRows) :
    Prop where
  intent : db.intent claim.intentId = some rows.intent
  account : db.account rows.intent.accountRole = some rows.account
  budget : db.budget rows.intent.accountRole = some rows.budget
  claimed : rows.intent.state = .claimed
  state : db.latestState rows.intent.accountRole = some rows.state
  attempts : executionAttemptRows (db.attemptsOf rows.intent.intentId)
    (db.permitsOf rows.intent.intentId) = .ok rows.attempts
  observations : rows.observations = db.observationsOf rows.intent.intentId

theorem readFinalization_rows {claim : ExecutionIntent} {now : Int}
    (h : readFinalization db claim now = .ok rows) : ReadRows db claim rows := by
  simp only [readFinalization, require_bind_ok, check_bind_ok] at h
  obtain ⟨intent, hintent, account, haccount, budget, hbudget, hfence, h⟩ := h
  obtain ⟨value, -, h⟩ := bind_ok.mp h
  simp only [check_bind_ok, require_bind_ok] at h
  obtain ⟨-, -, state, hstate, h⟩ := h
  obtain ⟨attempts, hattempts, h⟩ := bind_ok.mp h
  cases h
  have hclaimed : intent.state = .claimed := by
    simp only [verifyClaimFence, raiseIf_ok, Bool.or_eq_false_iff, bne_eq_false_iff_eq] at hfence
    exact hfence.1.1.1.1.1.1.1
  exact {
    intent := hintent
    account := haccount
    budget := hbudget
    claimed := hclaimed
    state := hstate
    attempts := hattempts
    observations := rfl }

/-! ## The chain -/

/-- The reconciliation states are the chain of the submission account. -/
structure StatesSound (db : Database) : Prop where
  role : ∀ row ∈ db.states.rows, row.accountRole = .submission
  sequence : ∀ (n : Nat) row, db.states.rows[n]? = some row → row.sequence = n + 1
  baseline : ∀ row ∈ db.states.rows, ∃ baseline ∈ db.baselines.rows,
    row.baselineId = baseline.baselineId ∧ row.baselineCapturedAt = baseline.capturedAt
  funded : BaselinesFunded db

omit [Digest] in
/-- The latest state is the last row. -/
theorem StatesSound.latestState (hsound : StatesSound db) {role : AccountRole}
    {state : AccountReconciliationStateRow} (h : db.latestState role = some state) :
    db.states.rows.getLast? = some state := by
  have hmem := List.mem_of_getLast? h
  rw [mem_orderBy, List.mem_filter] at hmem
  have hrole : role = .submission :=
    (beq_iff_eq.mp hmem.2).symm.trans (hsound.role state hmem.1)
  have hfilter : (db.states.rows.filter fun row => row.accountRole == role) = db.states.rows := by
    rw [List.filter_eq_self]
    intro row hrow
    rw [hsound.role row hrow, hrole]
    rfl
  unfold Database.latestState at h
  rw [hfilter] at h
  have hnodup : db.states.rows.Pairwise fun left right => left.sequence < right.sequence := by
    rw [List.pairwise_iff_getElem]
    intro i j hi hj hlt
    have hfirst := hsound.sequence i _ (List.getElem?_eq_getElem hi)
    have hsecond := hsound.sequence j _ (List.getElem?_eq_getElem hj)
    omega
  have hsorted : orderBy (fun row : AccountReconciliationStateRow => row.sequence)
      db.states.rows = db.states.rows := orderBy_eq_self (hnodup.imp fun hlt => le_of_lt hlt)
  rwa [hsorted] at h

omit [Digest] in
/-- Without a latest state there are no states. -/
theorem StatesSound.unopened (hsound : StatesSound db) (h : db.latestState .submission = none) :
    db.states.rows = [] := by
  rw [List.eq_nil_iff_forall_not_mem]
  intro row hrow
  have hmem : row ∈ orderBy (fun row : AccountReconciliationStateRow => row.sequence)
      (db.states.rows.filter fun row => row.accountRole == .submission) := by
    rw [mem_orderBy, List.mem_filter, hsound.role row hrow]
    exact ⟨hrow, rfl⟩
  rw [Database.latestState, List.getLast?_eq_none_iff] at h
  rw [h] at hmem
  cases hmem

/-- A finalization continues the last state of the chain. -/
theorem Settlement.last {claim : ExecutionIntent} {sweep : SweepObservation}
    {requestedStatus : String} {now : Int} {lockId : Uuid} {latest : AttemptObservationRow}
    {permit : BrokerMutationPermit} {complete certificate : ExecutionCertificate} {hasFill : Bool}
    (h : Settlement settings db after claim sweep requestedStatus now lockId rows evaluated latest
      permit state complete certificate hasFill) (hsound : StatesSound db) :
    ∃ before, db.states.rows = before ++ [rows.state] ∧
      rows.state.sequence = before.length + 1 := by
  obtain ⟨before, hrows⟩ :=
    List.getLast?_eq_some_iff.mp (hsound.latestState (readFinalization_rows h.read).state)
  refine ⟨before, hrows, hsound.sequence before.length rows.state ?_⟩
  rw [hrows]
  simp

omit [Digest] in
/-- The fields of the state after a finalization. -/
theorem nextState_fields {now : Int} (h : nextState rows evaluated now = .ok state) :
    state.accountRole = rows.intent.accountRole ∧
      state.baselineCapturedAt = rows.state.baselineCapturedAt ∧
      state.expectedCash = evaluated.expectation.expectedCash ∧
      state.expectedPositions = evaluated.expectation.expectedPositions ∧
      state.expectedOpenOrders = evaluated.expectation.expectedOpenOrders ∧
      state.knownActivities = evaluated.sweep.activities ∧
      state.resolvedActivityHashes = evaluated.expectation.resolvedActivityHashes := by
  unfold nextState at h
  obtain ⟨hvalid, rfl⟩ := build_ok.mp h
  exact ⟨rfl, rfl, rfl, rfl, rfl, rfl, rfl⟩

/-- A transaction opens the chain of states, continues it, or leaves it alone, also when it
raises. -/
theorem execute_states (transaction : Transaction) (db : Database) :
    StateStep settings db transaction (execute settings transaction db) ∧
      KeepsBaselines db (execute settings transaction db) ∧
      (BaselinesFunded db → BaselinesFunded (execute settings transaction db)) := by
  unfold execute
  split
  · rename_i after hrun
    exact ⟨run_states hrun, run_baselines hrun⟩
  · exact ⟨.kept rfl rfl, .of_eq rfl, id⟩

omit [Digest] in
/-- The rows of a list with one more row are those of the list and that row. -/
theorem getElem?_append_one {α : Type} {items : List α} {item found : α} {n : Nat}
    (h : (items ++ [item])[n]? = some found) :
    items[n]? = some found ∨ n = items.length ∧ found = item := by
  rcases Nat.lt_trichotomy n items.length with hlt | heq | hgt
  · rw [List.getElem?_append_left hlt] at h
    exact .inl h
  · rw [heq, List.getElem?_concat_length] at h
    exact .inr ⟨heq, (Option.some.inj h).symm⟩
  · rw [List.getElem?_eq_none (by rw [List.length_append, List.length_singleton]; omega)] at h
    cases h

omit [Digest] in
/-- A row that is appended stands at the length of the rows before it. -/
theorem sequence_append {before : List AccountReconciliationStateRow}
    {row : AccountReconciliationStateRow}
    (hbefore : ∀ (n : Nat) found, before[n]? = some found → found.sequence = n + 1)
    (hrow : row.sequence = before.length + 1) (n : Nat) (found : AccountReconciliationStateRow)
    (h : (before ++ [row])[n]? = some found) : found.sequence = n + 1 := by
  rcases getElem?_append_one h with hold | ⟨hn, rfl⟩
  · exact hbefore n found hold
  · rw [hrow, hn]

/-- A transaction keeps the chain of states. -/
theorem StatesSound.step (hsound : StatesSound db) {transaction : Transaction}
    (hstep : StateStep settings db transaction after) (hbaselines : KeepsBaselines db after)
    (hfunded : BaselinesFunded after) : StatesSound after := by
  have hbaseline : ∀ row ∈ db.states.rows, ∃ baseline ∈ after.baselines.rows,
      row.baselineId = baseline.baselineId ∧ row.baselineCapturedAt = baseline.capturedAt := by
    intro row hrow
    obtain ⟨baseline, hmem, hid, hcaptured⟩ := hsound.baseline row hrow
    obtain ⟨kept, hkept, hsame, -, hsameTime⟩ := hbaselines baseline hmem
    exact ⟨kept, hkept, hid.trans hsame.symm, hcaptured.trans hsameTime.symm⟩
  cases hstep with
  | kept hstates _ =>
      exact {
        role := fun row hrow => hsound.role row (hstates ▸ hrow)
        sequence := fun n row hrow => hsound.sequence n row (hstates ▸ hrow)
        baseline := fun row hrow => hbaseline row (hstates ▸ hrow)
        funded := hfunded }
  | @opened baseline sweep row hopening =>
      have hempty := hsound.unopened hopening.unopened
      obtain ⟨kept, hkept, hsame, -, hsameTime⟩ := hbaselines baseline hopening.baseline_mem
      have hrows := hopening.stateRows
      rw [hempty, List.nil_append] at hrows
      refine {
        role := ?_
        sequence := ?_
        baseline := ?_
        funded := hfunded }
      · intro found hfound
        rw [hrows, List.mem_singleton] at hfound
        rw [hfound, hopening.role]
      · intro n found hfound
        rw [hrows, List.getElem?_singleton] at hfound
        split at hfound
        · rename_i hzero
          cases hfound
          rw [hzero, hopening.sequence]
          rfl
        · cases hfound
      · intro found hfound
        rw [hrows, List.mem_singleton] at hfound
        rw [hfound]
        exact ⟨kept, hkept, hopening.baselineId.trans hsame.symm,
          hopening.capturedAt.trans hsameTime.symm⟩
  | @settled certificate sweep requestedStatus claim positionGreeks rows evaluated latest permit
      state complete stored hasFill hcall hresult hsettled =>
      obtain ⟨before, hrows, hsequence⟩ := hsettled.last hsound
      obtain ⟨hrole, hcaptured, -⟩ := nextState_fields hsettled.next
      have hlast : rows.state ∈ db.states.rows := by
        rw [hrows]
        exact List.mem_append_right _ (List.mem_singleton_self _)
      have hintent : rows.intent.accountRole = .submission := by
        have hread := List.mem_of_getLast? (readFinalization_rows hsettled.read).state
        rw [mem_orderBy, List.mem_filter] at hread
        exact (beq_iff_eq.mp hread.2).symm.trans (hsound.role rows.state hlast)
      have happended := hsettled.stateRows
      refine {
        role := ?_
        sequence := ?_
        baseline := ?_
        funded := hfunded }
      · intro found hfound
        rw [happended] at hfound
        rcases List.mem_append.mp hfound with hold | hnew
        · exact hsound.role found hold
        · rw [List.mem_singleton.mp hnew]
          exact hrole.trans hintent
      · rw [happended]
        refine sequence_append hsound.sequence ?_
        show rows.state.sequence + 1 = _
        rw [hsequence, hrows]
        simp
      · intro found hfound
        rw [happended] at hfound
        rcases List.mem_append.mp hfound with hold | hnew
        · exact hbaseline found hold
        · obtain ⟨baseline, hmem, hid, htime⟩ := hbaseline rows.state hlast
          rw [List.mem_singleton.mp hnew]
          exact ⟨baseline, hmem, hid, hcaptured.trans htime⟩

/-- The reconciliation states are a chain in every state that the repository reaches. -/
theorem statesSound_of_reachable {world : World} (h : (repository settings).Reachable world) :
    StatesSound world.db := by
  refine h.invariant (P := fun world => StatesSound world.db) ?_ ?_
  · intro world hempty
    have hstates : world.db.states.rows = [] := by
      rw [show world.db = {} from hempty]
      rfl
    have hbaselines : world.db.baselines.rows = [] := by
      rw [show world.db = {} from hempty]
      rfl
    constructor <;> simp [hstates, hbaselines, BaselinesFunded]
  · intro world transaction next hsound hstep
    obtain ⟨-, rfl⟩ := hstep
    obtain ⟨hstates, hbaselines, hfunded⟩ := execute_states transaction world.db
    exact hsound.step hstates hbaselines (hfunded hsound.funded)

/-! ## What a finalization expects -/

/-- Everything that is known of the expectation of a finalization: it continues the last state by
the fill of the last attempt. -/
structure FinalExpectation (rows : FinalizationRows) (candidates : List ActivityItem)
    (expectation : ReconciliationExpectation) (last : OrderAttemptRow) : Prop where
  last_read : rows.attempts.getLast? = some last
  finalizable : last.state.satisfies BrokerOrderState.isFinalizable = true
  role : expectation.accountRole = rows.intent.accountRole
  cash : expectation.expectedCash =
    rows.state.expectedCash + fillCash (attemptFromRow last rows.attempts)
  positions : positionsAfterFill rows.intent rows.state (attemptFromRow last rows.attempts) =
    .ok expectation.expectedPositions
  orders : expectation.expectedOpenOrders = rows.state.expectedOpenOrders
  window : expectation.requiredActivityWindowStart = rows.state.baselineCapturedAt
  bound : boundCandidates rows.intent rows.state (attemptFromRow last rows.attempts) candidates
    (0 < last.filledQuantity) =
      .ok ⟨expectation.knownActivities, expectation.resolvedActivityHashes⟩

/-- What the expectation of a finalization is made of. -/
theorem finalExpectation_facts {candidates : List ActivityItem}
    {expectation : ReconciliationExpectation}
    (h : finalReconciliationExpectationFromRows rows.intent rows.state rows.attempts
      rows.observations rows.latestPermit (some candidates) = .ok expectation) :
    ∃ last, FinalExpectation rows candidates expectation last := by
  simp only [finalReconciliationExpectationFromRows, require_bind_ok, check_bind_ok, raiseIf_ok,
    Bool.not_eq_false'] at h
  obtain ⟨last, hlast, latest, -, permit, -, -, -, hfinalizable, h⟩ := h
  obtain ⟨positions, hpositions, h⟩ := bind_ok.mp h
  obtain ⟨activities, hactivities, h⟩ := bind_ok.mp h
  obtain ⟨hvalid, rfl⟩ := build_ok.mp h
  exact ⟨last, {
    last_read := hlast
    finalizable := hfinalizable
    role := rfl
    cash := rfl
    positions := hpositions
    orders := rfl
    window := rfl
    bound := hactivities }⟩

end AlphaDecay
