import AlphaDecay.Persistence.Ledger

/-!
# Fees

The expected cash of an account is its baseline with the fills that were finalized, and nothing in
it follows the fees that the account has paid. `fees_explained` says exactly when a sweep whose cash
is lower by the fees that it shows raises no account adjustment: as long as all the fees together
stay below the tolerated drag. `fees_adjusted` shows an account with two small fees that does not.
-/

namespace AlphaDecay

open Foundation Table

/-! ## The fees of a sweep -/

/-- The exact total of the fees among some activities. An activity does not carry its amount, so the
amounts that the broker posted are given. -/
def feesShown (amountOf : ActivityItem → Decimal) (activities : List ActivityItem) : Decimal :=
  (activities.filter fun item => item.activityType == .fee).foldl
    (fun sum item => sum.exactAdd (amountOf item)) (Decimal.ofInt 0)

/-- Fees that together stay within the drag that is tolerated. -/
def withinFeeDrag (fees : Decimal) : Bool :=
  decide (Decimal.ofInt 0 ≤ fees ∧ fees.round ≤ maxUnreportedFeeDrag)

/-- Both reads of the account show the cash that is left of an amount after the fees of the sweep.
-/
def PaysFees (amountOf : ActivityItem → Decimal) (cash : Decimal) (sweep : SweepObservation) :
    Prop :=
  ∀ observed ∈ sweep.accounts,
    observed.cash.value = cash.value - (feesShown amountOf sweep.activities).value

/-- An adjustment among some activities carries the hash of a known activity that is no adjustment
and not resolved. -/
def reusesHash (state : AccountReconciliationStateRow) (activities : List ActivityItem) : Bool :=
  activities.any fun item => item.activityType.isAccountAdjustment &&
    !state.resolvedActivityHashes.contains item.activityIdHash &&
    state.knownActivities.any fun known => known.activityIdHash == item.activityIdHash &&
      !known.activityType.isAccountAdjustment

/-- Cash that trails an amount by some fees is within the tolerance when the fees are. -/
theorem cashWithinFeeTolerance_iff {observed expected fees : Decimal}
    (h : observed.value = expected.value - fees.value) :
    cashWithinFeeTolerance observed expected = withinFeeDrag fees := by
  obtain ⟨exact, hvalue, hround⟩ := Decimal.value_sub expected observed
  have hexact : exact.value = fees.value := by
    rw [hvalue, h]
    ring
  have hrounded : (expected - observed).value = fees.round.value := by
    rw [hround]
    exact Decimal.value_round_congr hexact
  have hnonneg : (Decimal.ofInt 0).value ≤ fees.round.value ↔
      (Decimal.ofInt 0).value ≤ fees.value := by
    rw [value_zero]
    exact Decimal.value_round_nonneg
  rw [cashWithinFeeTolerance, withinFeeDrag, decide_eq_decide]
  simp only [Decimal.le_iff_value]
  rw [hrounded, hnonneg]

/-! ## What the rows expect -/

section

variable [Digest]

/-- An expectation that the repository builds from its rows for the activities of a sweep, with the
state that it continues and the cash flow of the fill that it adds. -/
inductive RowsExpect (db : Database) (activities : List ActivityItem)
    (state : AccountReconciliationStateRow) :
    List Decimal → ReconciliationExpectation → Prop where
  | submission {intent : ExecutionIntentRow} {attempt : OrderAttempt}
      {expectation : ReconciliationExpectation}
      (hstate : db.latestState intent.accountRole = some state)
      (h : reconciliationExpectationFromRows intent state .submit attempt
        (db.attemptsOf intent.intentId) (some activities) = .ok expectation) :
      RowsExpect db activities state [] expectation
  | mutation {intent : ExecutionIntentRow} {purpose : ReconciliationPurpose}
      {attempt : OrderAttempt} {target : MutationTarget} {expectation : ReconciliationExpectation}
      (hstate : db.latestState intent.accountRole = some state) (hpurpose : purpose ≠ .submit)
      (htarget : mutationTarget intent state purpose attempt (db.attemptsOf intent.intentId) =
        .ok target)
      (h : reconciliationExpectationFromRows intent state purpose attempt
        (db.attemptsOf intent.intentId) (some activities) = .ok expectation) :
      RowsExpect db activities state [fillCash target.filledAttempt] expectation
  | finalization {claim : ExecutionIntent} {now : Int} {rows : FinalizationRows}
      {last : OrderAttemptRow} {expectation : ReconciliationExpectation}
      (hread : readFinalization db claim now = .ok rows) (hstate : rows.state = state)
      (hlast : rows.attempts.getLast? = some last)
      (h : finalReconciliationExpectationFromRows rows.intent rows.state rows.attempts
        rows.observations rows.latestPermit (some activities) = .ok expectation) :
      RowsExpect db activities state [fillCash (attemptFromRow last rows.attempts)] expectation

variable {db : Database} {activities : List ActivityItem} {state : AccountReconciliationStateRow}
  {fills : List Decimal} {expectation : ReconciliationExpectation}

theorem RowsExpect.latestState (h : RowsExpect db activities state fills expectation) :
    ∃ role, db.latestState role = some state := by
  cases h with
  | submission hstate h => exact ⟨_, hstate⟩
  | mutation hstate hpurpose htarget h => exact ⟨_, hstate⟩
  | finalization hread hstate hlast h =>
      have hlatest := (readFinalization_rows hread).state
      rw [hstate] at hlatest
      exact ⟨_, hlatest⟩

/-- The cash of an expectation is that of the state with the fill. -/
theorem RowsExpect.cash (h : RowsExpect db activities state fills expectation) :
    expectation.expectedCash = total state.expectedCash fills := by
  cases h with
  | submission hstate h =>
      simp only [reconciliationExpectationFromRows, check_bind_ok] at h
      obtain ⟨-, -, -, h⟩ := h
      obtain ⟨target, -, h⟩ := bind_ok.mp h
      obtain ⟨positions, -, h⟩ := bind_ok.mp h
      obtain ⟨bound, -, h⟩ := bind_ok.mp h
      obtain ⟨hvalid, rfl⟩ := build_ok.mp h
      rfl
  | mutation hstate hpurpose htarget h =>
      simp only [reconciliationExpectationFromRows, check_bind_ok] at h
      obtain ⟨-, -, -, h⟩ := h
      obtain ⟨target, hfound, h⟩ := bind_ok.mp h
      cases htarget.symm.trans hfound
      obtain ⟨positions, -, h⟩ := bind_ok.mp h
      obtain ⟨bound, -, h⟩ := bind_ok.mp h
      obtain ⟨hvalid, rfl⟩ := build_ok.mp h
      show expectedCashOf state _ _ = _
      rw [expectedCashOf, if_neg hpurpose]
      rfl
  | finalization hread hstate hlast h =>
      obtain ⟨last, hfinal⟩ := finalExpectation_facts h
      cases hlast.symm.trans hfinal.last_read
      rw [hfinal.cash, hstate]
      rfl

/-- The activities of an expectation are bound to some attempt. -/
theorem RowsExpect.bound (h : RowsExpect db activities state fills expectation) :
    ∃ intent attempt requireVisible, boundCandidates intent state attempt activities
      requireVisible =
      .ok ⟨expectation.knownActivities, expectation.resolvedActivityHashes⟩ := by
  have hmutation : ∀ {intent purpose attempt attempts},
      reconciliationExpectationFromRows intent state purpose attempt attempts (some activities) =
        .ok expectation →
      ∃ intent attempt requireVisible, boundCandidates intent state attempt activities
        requireVisible = .ok ⟨expectation.knownActivities, expectation.resolvedActivityHashes⟩ := by
    intro intent purpose attempt attempts h
    simp only [reconciliationExpectationFromRows, check_bind_ok] at h
    obtain ⟨-, -, -, h⟩ := h
    obtain ⟨target, -, h⟩ := bind_ok.mp h
    obtain ⟨positions, -, h⟩ := bind_ok.mp h
    obtain ⟨bound, hbound, h⟩ := bind_ok.mp h
    obtain ⟨hvalid, rfl⟩ := build_ok.mp h
    exact ⟨_, _, _, hbound⟩
  cases h with
  | submission hstate h => exact hmutation h
  | mutation hstate hpurpose htarget h => exact hmutation h
  | finalization hread hstate hlast h =>
      obtain ⟨last, hfinal⟩ := finalExpectation_facts h
      have hbound := hfinal.bound
      rw [hstate] at hbound
      exact ⟨_, _, _, hbound⟩

end

/-! ## Resolved activities -/

/-- A candidate is resolved when it was before, or when it is new. -/
theorem boundCandidates_resolves {intent : ExecutionIntentRow}
    {state : AccountReconciliationStateRow} {attempt : OrderAttempt}
    {candidates : List ActivityItem} {requireVisible : Bool} {bound : BoundActivities}
    (h : boundCandidates intent state attempt candidates requireVisible = .ok bound)
    {item : ActivityItem} (hitem : item ∈ candidates) :
    item.activityIdHash ∈ bound.resolved ↔
      item.activityIdHash ∈ state.resolvedActivityHashes ∨
        item.activityIdHash ∉ activityHashes state.knownActivities := by
  -- The hashes that are resolved now are those of the new candidates.
  have hfresh : ∀ (others : List ActivityItem),
      (∀ other, other ∈ others ↔ other ∈ newCandidates state.knownActivities candidates) →
      (item.activityIdHash ∈ activityHashes others ↔
        item.activityIdHash ∉ activityHashes state.knownActivities) := by
    intro others hothers
    have hnew : ∀ other, other ∈ others ↔
        other ∈ candidates ∧ other.activityIdHash ∉ activityHashes state.knownActivities := by
      intro other
      rw [hothers, newCandidates, List.mem_filter, Bool.not_eq_true', ← Bool.not_eq_true,
        List.contains_iff_mem]
    constructor
    · intro hmem
      obtain ⟨other, hother, hhash⟩ := List.mem_map.mp hmem
      rw [← hhash]
      exact ((hnew other).mp hother).2
    · intro hunknown
      exact List.mem_map_of_mem ((hnew item).mpr ⟨hitem, hunknown⟩)
  simp only [boundCandidates, check_bind_ok] at h
  obtain ⟨-, h⟩ := h
  split at h
  · rename_i hempty
    simp only [boundFees, check_bind_ok] at h
    obtain ⟨-, h⟩ := h
    have hhash := hfresh ((newCandidates state.knownActivities candidates).filter
      fun other => other.activityType == .fee) (by
        intro other
        rw [List.mem_filter, and_iff_left_iff_imp]
        intro hother
        have hfee := List.filter_eq_nil_iff.mp (List.isEmpty_iff.mp hempty) other hother
        simpa using hfee)
    cases h
    split
    · rename_i hnone
      rw [List.isEmpty_iff.mp hnone] at hhash
      have hknown : item.activityIdHash ∈ activityHashes state.knownActivities := by
        by_contra hunknown
        exact List.not_mem_nil (hhash.mpr hunknown)
      constructor
      · exact .inl
      · rintro (hresolved | hunknown)
        · exact hresolved
        · exact absurd hknown hunknown
    · rw [mem_sortedSet, List.mem_append, hhash]
  · simp only [boundTrades, check_bind_ok] at h
    obtain ⟨-, h⟩ := h
    cases h
    rw [mem_sortedSet, List.mem_append, hfresh]
    intro other
    rw [List.mem_append, List.mem_filter, List.mem_filter, ← and_or_left, and_iff_left_iff_imp]
    intro _
    cases hfee : other.activityType == .fee <;> simp [bne, hfee]

theorem mem_unresolvedActivities {sweep : SweepObservation}
    {expectation : ReconciliationExpectation} {item : ActivityItem} :
    item ∈ unresolvedActivities sweep expectation ↔
      item ∈ sweep.activities ∧ item.activityIdHash ∉ expectation.resolvedActivityHashes := by
  rw [unresolvedActivities, List.mem_filter, Bool.not_eq_true', ← Bool.not_eq_true,
    List.contains_iff_mem]

/-! ## Known adjustments are resolved -/

/-- Every adjustment that a state knows is resolved. -/
def AdjustmentsResolved (db : Database) : Prop :=
  ∀ row ∈ db.states.rows, ∀ item ∈ row.knownActivities,
    item.activityType.isAccountAdjustment = true → item.activityIdHash ∈ row.resolvedActivityHashes

section Run

variable [Digest] {settings : RepositorySettings}

variable {db : Database} {activities : List ActivityItem} {state : AccountReconciliationStateRow}
  {expectation : ReconciliationExpectation}

/-- A transaction keeps known adjustments resolved. -/
theorem AdjustmentsResolved.step {after : Database} {transaction : Transaction}
    (h : AdjustmentsResolved db) (hstep : StateStep settings db transaction after) :
    AdjustmentsResolved after := by
  cases hstep with
  | kept hstates _ =>
      intro row hrow
      exact h row (hstates ▸ hrow)
  | @opened baseline sweep row hopening =>
      obtain ⟨funding, hfunding, htype⟩ := hopening.funding
      intro found hfound
      rw [hopening.stateRows] at hfound
      rcases List.mem_append.mp hfound with hold | hnew
      · exact h found hold
      · rw [List.mem_singleton.mp hnew, hopening.known, hfunding]
        intro item hitem hadjusts
        rw [List.mem_singleton.mp hitem, htype] at hadjusts
        cases hadjusts
  | @settled certificate sweep requestedStatus claim positionGreeks rows evaluated latest permit
      state complete stored hasFill hcall hresult hsettled =>
      obtain ⟨-, -, -, -, -, hknown, hresolved⟩ := nextState_fields hsettled.next
      intro found hfound
      rw [hsettled.stateRows] at hfound
      rcases List.mem_append.mp hfound with hold | hnew
      · exact h found hold
      · rw [List.mem_singleton.mp hnew]
        intro item hitem hadjusts
        change item ∈ state.knownActivities at hitem
        show item.activityIdHash ∈ state.resolvedActivityHashes
        rw [hknown] at hitem
        rw [hresolved]
        -- A safe sweep shows no adjustment that is not resolved.
        have hsafe := WholeAccountReconciliation.safe_iff.mp hsettled.safe .accountAdjustment
        simp only [ReconciliationBlockCode.raised, Bool.or_eq_false_iff, List.any_eq_false] at hsafe
        by_contra hunresolved
        exact hsafe.2 item (mem_unresolvedActivities.mpr ⟨hitem, hunresolved⟩) hadjusts

/-- Known adjustments are resolved in every state that the repository reaches. -/
theorem adjustmentsResolved_of_reachable {world : World}
    (h : (repository settings).Reachable world) : AdjustmentsResolved world.db := by
  refine h.invariant (P := fun world => AdjustmentsResolved world.db) ?_ ?_
  · intro world hempty row hrow
    have hstates : world.db.states.rows = [] := by
      rw [show world.db = {} from hempty]
      rfl
    rw [hstates] at hrow
    cases hrow
  · intro world transaction next hresolved hstep
    obtain ⟨-, rfl⟩ := hstep
    obtain ⟨hstates, -, -⟩ := @execute_states settings _ transaction world.db
    exact hresolved.step hstates

/-! ## The law -/

omit [Digest] in
/-- An account adjustment is reported when the cash is out of the tolerance, or an adjustment is
not resolved. -/
theorem accountAdjustment_reported {value : WholeAccountReconciliation} :
    ReconciliationBlockCode.accountAdjustment ∉ value.blockCodes ↔
      (∀ observed ∈ value.sweep.accounts,
        cashWithinFeeTolerance observed.cash value.expectation.expectedCash = true) ∧
      ∀ item ∈ value.sweep.activities, item.activityType.isAccountAdjustment = true →
        item.activityIdHash ∈ value.expectation.resolvedActivityHashes := by
  rw [WholeAccountReconciliation.blockCodes, List.mem_filter, not_and]
  constructor
  · intro h
    have hraised := h (ReconciliationBlockCode.mem_all _)
    rw [Bool.not_eq_true, ReconciliationBlockCode.raised, Bool.or_eq_false_iff, List.any_eq_false,
      List.any_eq_false] at hraised
    obtain ⟨hcash, hunresolved⟩ := hraised
    constructor
    · intro observed hobserved
      simpa using hcash observed hobserved
    · intro item hitem hadjusts
      by_contra hmissing
      exact hunresolved item (mem_unresolvedActivities.mpr ⟨hitem, hmissing⟩) hadjusts
  · rintro ⟨hcash, hresolved⟩ -
    rw [Bool.not_eq_true, ReconciliationBlockCode.raised, Bool.or_eq_false_iff, List.any_eq_false,
      List.any_eq_false]
    constructor
    · intro observed hobserved
      simp [hcash observed hobserved]
    · intro item hitem hadjusts
      obtain ⟨hshown, hmissing⟩ := mem_unresolvedActivities.mp hitem
      exact hmissing (hresolved item hshown hadjusts)

theorem RowsExpect.ledgerCash {fills : List Decimal}
    (h : RowsExpect db activities state fills expectation) (hsound : StatesSound db)
    {history : List FinalizedIntent} (hledger : Ledger db history)
    {baseline : SubmissionBaselineRow} (hbaseline : baseline ∈ db.baselines.rows) :
    expectation.expectedCash.value =
      (total baseline.equity (history.flatMap FinalizedIntent.cashFlows ++ fills)).value := by
  obtain ⟨role, hlatest⟩ := h.latestState
  obtain ⟨before, hrows⟩ := List.getLast?_eq_some_iff.mp (hsound.latestState hlatest)
  have hlength : before.length = history.length := by
    rcases hledger.length with ⟨hempty, -⟩ | hlength
    · rw [hempty] at hrows
      simp at hrows
    · rw [hrows, List.length_append, List.length_singleton] at hlength
      omega
  have hlast : db.states.rows[history.length]? = some state := by
    rw [hrows, ← hlength, List.getElem?_concat_length]
  obtain ⟨found, hfound, -, hentry⟩ := hledger.entry _ _ hlast
  have hcash := hentry.cash
  rw [List.take_length] at hcash
  -- All baselines are funded with the same amount.
  have hequity : found.equity.value = baseline.equity.value := by
    rw [hsound.funded found hfound, hsound.funded baseline hbaseline]
  rw [h.cash, total_append]
  refine value_total_congr ?_ fills
  rw [hcash]
  exact value_total_congr hequity _

/-- An adjustment that the rows do not resolve is known as something else. -/
theorem RowsExpect.adjustments_resolved {fills : List Decimal}
    (h : RowsExpect db activities state fills expectation) (hsound : StatesSound db)
    (hresolved : AdjustmentsResolved db) :
    (∀ item ∈ activities, item.activityType.isAccountAdjustment = true →
      item.activityIdHash ∈ expectation.resolvedActivityHashes) ↔
      reusesHash state activities = false := by
  obtain ⟨role, hlatest⟩ := h.latestState
  have hstate : state ∈ db.states.rows := List.mem_of_getLast? (hsound.latestState hlatest)
  obtain ⟨intent, attempt, requireVisible, hbound⟩ := h.bound
  unfold reusesHash
  rw [List.any_eq_false]
  refine forall₂_congr fun item hitem => ?_
  have hresolves := boundCandidates_resolves hbound hitem
  dsimp only at hresolves
  rw [hresolves]
  simp only [Bool.and_eq_true, Bool.not_eq_true', List.any_eq_true, beq_iff_eq, not_and,
    ← Bool.not_eq_true, List.contains_iff_mem, not_exists]
  constructor
  · rintro h ⟨hadjusts, hmissing⟩ known hknown hhash hother
    rcases h hadjusts with hfound | hunknown
    · exact hmissing hfound
    · rw [← hhash] at hunknown
      exact hunknown (List.mem_map_of_mem hknown)
  · intro h hadjusts
    by_contra hneither
    push Not at hneither
    obtain ⟨hmissing, hknown⟩ := hneither
    obtain ⟨known, hmem, hhash⟩ := List.mem_map.mp hknown
    refine h ⟨hadjusts, hmissing⟩ known hmem hhash fun hknownAdjusts => ?_
    rw [← hhash] at hmissing
    exact hmissing (hresolved state hstate known hmem hknownAdjusts)

/-- In every run, for every sweep whose cash is the baseline with all fills less the fees that the
sweep shows: no account adjustment is reported exactly when these fees together stay within the
tolerated drag, and no adjustment carries the hash of an activity of another kind. -/
theorem fees_explained {first world : World} {transactions : List Transaction}
    (hfirst : (repository settings).initial first)
    (hrun : (repository settings).Run first transactions world)
    {state : AccountReconciliationStateRow} {fills : List Decimal} {sweep : SweepObservation}
    {expectation : ReconciliationExpectation} {acceptedAt : Int}
    {value : WholeAccountReconciliation}
    (hexpected : RowsExpect world.db sweep.activities state fills expectation)
    (hevaluate : WholeAccountReconciliation.evaluate sweep expectation acceptedAt = .ok value)
    {baseline : SubmissionBaselineRow} (hbaseline : baseline ∈ world.db.baselines.rows)
    {amountOf : ActivityItem → Decimal}
    (hcash : PaysFees amountOf (total baseline.equity
      ((finalizedIn settings first.db transactions).flatMap FinalizedIntent.cashFlows ++ fills))
      sweep) :
    ReconciliationBlockCode.accountAdjustment ∉ value.blockCodes ↔
      withinFeeDrag (feesShown amountOf sweep.activities) = true ∧
        reusesHash state sweep.activities = false := by
  have hreach : (repository settings).Reachable world := ⟨first, transactions, hfirst, hrun⟩
  have hsound := statesSound_of_reachable hreach
  have hexpectedCash := hexpected.ledgerCash hsound (ledger_kept hfirst hrun) hbaseline
  obtain ⟨rfl, rfl, -⟩ := WholeAccountReconciliation.evaluate_ok hevaluate
  rw [accountAdjustment_reported,
    hexpected.adjustments_resolved hsound (adjustmentsResolved_of_reachable hreach)]
  refine and_congr_left fun _ => ?_
  have htolerated : ∀ observed ∈ value.sweep.accounts,
      cashWithinFeeTolerance observed.cash value.expectation.expectedCash =
        withinFeeDrag (feesShown amountOf value.sweep.activities) := by
    intro observed hobserved
    refine cashWithinFeeTolerance_iff ?_
    rw [hcash observed hobserved, hexpectedCash]
  constructor
  · intro h
    have hfirstAccount : value.sweep.firstAccount ∈ value.sweep.accounts := List.mem_cons_self
    rw [← htolerated _ hfirstAccount]
    exact h _ hfirstAccount
  · intro h observed hobserved
    rw [htolerated observed hobserved, h]

end Run

section Rehearsed

open Rehearsal

def sixtyCents : Decimal := ⟨false, 60, -2⟩

/-- A fee that the broker posted. -/
def feeOf (digit : Char) : Except Failure ActivityItem :=
  ActivityItem.make
    { activityIdHash := hashOf digit, activityType := .fee, occurredAt := fundedAt
      symbol := none, signedQuantity := none }

/-- A sweep of an account with fees, compared with what the rows expect of a submission. -/
structure FeeReview where
  row : ExecutionIntentRow
  state : AccountReconciliationStateRow
  attempt : OrderAttempt
  sweep : SweepObservation
  expectation : ReconciliationExpectation
  value : WholeAccountReconciliation

/-- Review the submission of the entry for an account that shows some cash and fees. -/
def reviewFees (db : Database) (cash : Decimal) (digits : List Char) :
    Except Failure FeeReview := do
  let row ← require (db.intent intentId) .key
  let state ← require (db.latestState row.accountRole) .key
  let fees ← digits.mapM feeOf
  let sweep ← sweepOf (timeAt 1) (dollars 100000) cash [] [] (funding :: fees)
  let attempt ← canonicalAttemptForMutation row .submit (db.attemptsOf row.intentId)
  let expectation ← reconciliationExpectationFromRows row state .submit attempt
    (db.attemptsOf row.intentId) (some sweep.activities)
  let value ← WholeAccountReconciliation.evaluate sweep expectation (timeAt 1)
  return { row, state, attempt, sweep, expectation, value }

/-- The parts of a review. -/
theorem reviewFees_facts {db : Database} {cash : Decimal} {digits : List Char} {review : FeeReview}
    (h : reviewFees db cash digits = .ok review) :
    RowsExpect db review.sweep.activities review.state [] review.expectation ∧
      WholeAccountReconciliation.evaluate review.sweep review.expectation (timeAt 1) =
        .ok review.value := by
  simp only [reviewFees, require_bind_ok] at h
  obtain ⟨row, hrow, state, hstate, h⟩ := h
  obtain ⟨fees, -, h⟩ := bind_ok.mp h
  obtain ⟨sweep, -, h⟩ := bind_ok.mp h
  obtain ⟨attempt, -, h⟩ := bind_ok.mp h
  obtain ⟨expectation, hexpectation, h⟩ := bind_ok.mp h
  obtain ⟨value, hvalue, h⟩ := bind_ok.mp h
  cases h
  exact ⟨.submission hstate hexpectation, hvalue⟩

/-- A review of fees of sixty cents each, with the cash that is left after them, reports some block
codes. -/
def feesReviewedAs (db : Database) (cash fees : Decimal) (digits : List Char)
    (codes : List ReconciliationBlockCode) : Bool :=
  match reviewFees db cash digits with
  | .ok review => (review.sweep.accounts.all fun observed => observed.cash == cash) &&
      feesShown (fun _ => sixtyCents) review.sweep.activities == fees &&
      !reusesHash review.state review.sweep.activities && review.value.blockCodes == codes
  | .error _ => false

/-- The review of some fees, where it reports some block codes. -/
theorem exists_feeReview {db : Database} {cash fees : Decimal} {digits : List Char}
    {codes : List ReconciliationBlockCode}
    (h : feesReviewedAs db cash fees digits codes = true)
    (hpaid : cash.value = 100000 - fees.value) :
    ∃ review : FeeReview,
      RowsExpect db review.sweep.activities review.state [] review.expectation ∧
      WholeAccountReconciliation.evaluate review.sweep review.expectation (timeAt 1) =
        .ok review.value ∧
      PaysFees (fun _ => sixtyCents) (dollars 100000) review.sweep ∧
      (feesShown (fun _ => sixtyCents) review.sweep.activities).value = fees.value ∧
      reusesHash review.state review.sweep.activities = false ∧
      review.value.blockCodes = codes := by
  unfold feesReviewedAs at h
  split at h
  · rename_i review hreview
    obtain ⟨hexpected, hevaluate⟩ := reviewFees_facts hreview
    simp only [Bool.and_eq_true, List.all_eq_true, Bool.not_eq_true', beq_iff_eq] at h
    obtain ⟨⟨⟨hcash, hfees⟩, hreuses⟩, hcodes⟩ := h
    have hfees := Decimal.beq_iff_value.mp hfees
    refine ⟨review, hexpected, hevaluate, ?_, hfees, hreuses, hcodes⟩
    intro observed hobserved
    rw [Decimal.beq_iff_value.mp (hcash observed hobserved), hfees, hpaid, dollars,
      Decimal.value_ofInt]
    norm_num
  · cases h

/-- After the opening, one fee is explained and two fees are not. -/
theorem opening_fees : endsAs opening (fun last => last.db.baselines.rows.any (fun baseline =>
      baseline.equity == dollars 100000) && last.db.states.rows.length == 1 &&
    feesReviewedAs last.db ⟨false, 9999940, -2⟩ ⟨false, 60, -2⟩ ['c'] [] &&
    feesReviewedAs last.db ⟨false, 9999880, -2⟩ ⟨false, 120, -2⟩ ['c', 'd']
      [.accountAdjustment]) = true := by
  decide +kernel

structure Reviewed (digits : List Char) (codes : List ReconciliationBlockCode) where
  world : World
  transactions : List Transaction
  baseline : SubmissionBaselineRow
  review : FeeReview
  run : (repository Rehearsal.settings).Run { db := {}, clock := 0 } transactions world
  funded : baseline ∈ world.db.baselines.rows
  expected : RowsExpect world.db review.sweep.activities review.state [] review.expectation
  evaluated : WholeAccountReconciliation.evaluate review.sweep review.expectation (timeAt 1) =
    .ok review.value
  pays : PaysFees (fun _ => sixtyCents) (total baseline.equity
    ((finalizedIn Rehearsal.settings {} transactions).flatMap FinalizedIntent.cashFlows ++ []))
    review.sweep
  reported : review.value.blockCodes = codes

/-- The reviews of one fee and of two fees after the opening. -/
theorem exists_reviewed :
    (∃ reviewed : Reviewed ['c'] [], withinFeeDrag (feesShown (fun _ => sixtyCents)
        reviewed.review.sweep.activities) = true ∧
      reusesHash reviewed.review.state reviewed.review.sweep.activities = false) ∧
    Nonempty (Reviewed ['c', 'd'] [.accountAdjustment]) := by
  obtain ⟨world, hplayed, hends⟩ := exists_play opening_fees
  obtain ⟨transactions, hrun⟩ := run_of_play hplayed
  simp only [Bool.and_eq_true, beq_iff_eq, List.any_eq_true] at hends
  obtain ⟨⟨⟨⟨baseline, hbaseline, hequity⟩, hlength⟩, hone⟩, htwo⟩ := hends
  have hinitial : (repository Rehearsal.settings).initial { db := {}, clock := 0 } := rfl
  have hledger : Ledger world.db (finalizedIn Rehearsal.settings {} transactions) :=
    ledger_kept hinitial hrun
  have hnone : finalizedIn Rehearsal.settings {} transactions = [] := by
    rcases hledger.length with ⟨-, hnone⟩ | hcount
    · exact hnone
    · rw [hlength] at hcount
      exact List.length_eq_zero_iff.mp (by omega)
  have hcash : (total baseline.equity ((finalizedIn Rehearsal.settings {} transactions).flatMap
      FinalizedIntent.cashFlows ++ [])).value = (dollars 100000).value := by
    rw [hnone]
    exact Decimal.beq_iff_value.mp hequity
  have hpays : ∀ {sweep : SweepObservation},
      PaysFees (fun _ => sixtyCents) (dollars 100000) sweep →
      PaysFees (fun _ => sixtyCents) (total baseline.equity ((finalizedIn Rehearsal.settings {}
        transactions).flatMap FinalizedIntent.cashFlows ++ [])) sweep := by
    intro sweep h observed hobserved
    rw [h observed hobserved, hcash]
  constructor
  · obtain ⟨review, hexpected, hevaluated, hpaid, hfees, hreuses, hcodes⟩ :=
      exists_feeReview hone (by norm_num [Decimal.value, Decimal.significand])
    refine ⟨⟨world, transactions, baseline, review, hrun, hbaseline, hexpected, hevaluated,
      hpays hpaid, hcodes⟩, ?_, hreuses⟩
    have hrounded := Decimal.value_round_congr hfees
    have hself : (Decimal.round ⟨false, 60, -2⟩).value = (⟨false, 60, -2⟩ : Decimal).value :=
      Decimal.value_round_of_fits rfl (by show 60 < 10 ^ 28; omega)
    rw [withinFeeDrag, decide_eq_true_eq, Decimal.le_iff_value, Decimal.le_iff_value, hrounded,
      hself, hfees]
    norm_num [Decimal.value, Decimal.significand, maxUnreportedFeeDrag, Decimal.ofInt,
      Decimal.ofScaled]
  · obtain ⟨review, hexpected, hevaluated, hpaid, -, -, hcodes⟩ :=
      exists_feeReview htwo (by norm_num [Decimal.value, Decimal.significand])
    exact ⟨world, transactions, baseline, review, hrun, hbaseline, hexpected, hevaluated,
      hpays hpaid, hcodes⟩

/-- In the rehearsal one fee of sixty cents is explained. -/
theorem fees_explained_rehearsed : ∃ reviewed : Reviewed ['c'] [],
    ReconciliationBlockCode.accountAdjustment ∉ reviewed.review.value.blockCodes := by
  obtain ⟨reviewed, hwithin, hreuses⟩ := exists_reviewed.1
  have hinitial : (repository Rehearsal.settings).initial { db := {}, clock := 0 } := rfl
  exact ⟨reviewed, (fees_explained hinitial reviewed.run reviewed.expected reviewed.evaluated
    reviewed.funded reviewed.pays).mpr ⟨hwithin, hreuses⟩⟩

/-- Two fees of sixty cents, with the cash that is left after them, report an account adjustment and
nothing else. -/
theorem fees_adjusted : ∃ (world : World) (transactions : List Transaction)
    (baseline : SubmissionBaselineRow) (state : AccountReconciliationStateRow)
    (sweep : SweepObservation) (expectation : ReconciliationExpectation) (acceptedAt : Int)
    (value : WholeAccountReconciliation),
    (repository Rehearsal.settings).Run { db := {}, clock := 0 } transactions world ∧
    baseline ∈ world.db.baselines.rows ∧
    RowsExpect world.db sweep.activities state [] expectation ∧
    WholeAccountReconciliation.evaluate sweep expectation acceptedAt = .ok value ∧
    PaysFees (fun _ => sixtyCents) (total baseline.equity
      ((finalizedIn Rehearsal.settings {} transactions).flatMap FinalizedIntent.cashFlows ++ []))
      sweep ∧
    value.blockCodes = [.accountAdjustment] := by
  obtain ⟨reviewed⟩ := exists_reviewed.2
  exact ⟨reviewed.world, reviewed.transactions, reviewed.baseline, reviewed.review.state,
    reviewed.review.sweep, reviewed.review.expectation, timeAt 1, reviewed.review.value,
    reviewed.run, reviewed.funded, reviewed.expected, reviewed.evaluated, reviewed.pays,
    reviewed.reported⟩

end Rehearsed

end AlphaDecay
