import AlphaDecay.Execution.Observations

/-!
# Whole-account reconciliation

An expectation says what a sweep of an account must show, and `evaluate` compares a sweep with it.
The comparison raises block codes; it is safe when there are none. Every hash is computed from a
canonical document of the data it identifies, so an expectation or a reconciliation holds only the
data and its hashes are functions of that data.
-/

namespace AlphaDecay

open Foundation

/-- The longest age of an observation. -/
def maxSweepAge : Int :=
  Calendar.seconds 15

def maxSweepDuration : Int :=
  Calendar.seconds 15

/-- What a reconciliation is for. The first three are also the kinds of broker mutations. -/
inductive ReconciliationPurpose where
  | submit
  | replace
  | cancel
  | baselineInitialization
deriving DecidableEq, Repr

/-- The written form of a purpose. -/
def ReconciliationPurpose.text : ReconciliationPurpose → String
  | submit => "SUBMIT"
  | replace => "REPLACE"
  | cancel => "CANCEL"
  | baselineInitialization => "BASELINE_INITIALIZATION"

/-- The purpose of a written form. -/
def ReconciliationPurpose.ofText : String → Option ReconciliationPurpose
  | "SUBMIT" => some submit
  | "REPLACE" => some replace
  | "CANCEL" => some cancel
  | "BASELINE_INITIALIZATION" => some baselineInitialization
  | _ => none

@[simp] theorem ReconciliationPurpose.ofText_text (purpose : ReconciliationPurpose) :
    ofText purpose.text = some purpose := by
  cases purpose <;> rfl

/-- Why a sweep is not safe. -/
inductive ReconciliationBlockCode where
  | accountAdjustment
  | accountMismatch
  | accountNotExecutable
  | activityWatermarkUnknown
  | activityWindowIncomplete
  | assignmentSuspected
  | futureObservation
  | incompleteSweep
  | knownActivityMissing
  | staleObservation
  | unexpectedActivity
  | unexpectedInventory
  | unexpectedOpenOrder
  | unstableSweep
deriving DecidableEq, Repr

namespace ReconciliationBlockCode

/-- The written form of a block code. -/
def text : ReconciliationBlockCode → String
  | accountAdjustment => "ACCOUNT_ADJUSTMENT"
  | accountMismatch => "ACCOUNT_MISMATCH"
  | accountNotExecutable => "ACCOUNT_NOT_EXECUTABLE"
  | activityWatermarkUnknown => "ACTIVITY_WATERMARK_UNKNOWN"
  | activityWindowIncomplete => "ACTIVITY_WINDOW_INCOMPLETE"
  | assignmentSuspected => "ASSIGNMENT_SUSPECTED"
  | futureObservation => "FUTURE_OBSERVATION"
  | incompleteSweep => "INCOMPLETE_SWEEP"
  | knownActivityMissing => "KNOWN_ACTIVITY_MISSING"
  | staleObservation => "STALE_OBSERVATION"
  | unexpectedActivity => "UNEXPECTED_ACTIVITY"
  | unexpectedInventory => "UNEXPECTED_INVENTORY"
  | unexpectedOpenOrder => "UNEXPECTED_OPEN_ORDER"
  | unstableSweep => "UNSTABLE_SWEEP"

/-- The block codes in the order of their written forms. -/
def all : List ReconciliationBlockCode :=
  [accountAdjustment, accountMismatch, accountNotExecutable, activityWatermarkUnknown,
    activityWindowIncomplete, assignmentSuspected, futureObservation, incompleteSweep,
    knownActivityMissing, staleObservation, unexpectedActivity, unexpectedInventory,
    unexpectedOpenOrder, unstableSweep]

theorem mem_all (code : ReconciliationBlockCode) : code ∈ all := by
  cases code <;> decide

end ReconciliationBlockCode

/-! ## Canonical documents -/

/-- The text of a time in UTC, with a `Z` for its offset. -/
def utcText (t : Int) : String :=
  String.ofList ((Calendar.isoformat t).toList.rdrop 6 ++ ['Z'])

def canonicalNumber (value : Decimal) : Json :=
  .text (canonicalDecimal value)

/-- The canonical document of a span of time. -/
def canonicalSpan (span : Int) : Json :=
  .object [
    ("days", .number (span / Calendar.microsPerDay)),
    ("seconds", .number (span % Calendar.microsPerDay / 1000000)),
    ("microseconds", .number (span % 1000000))]

/-- The canonical document of an inventory item. -/
def canonicalInventory (item : InventoryItem) : Json :=
  .object [
    ("kind", .text item.kind.text),
    ("symbol", .text item.symbol),
    ("signed_quantity", canonicalNumber item.signedQuantity),
    ("multiplier", .number item.multiplier)]

def canonicalOpenOrderLeg (leg : OpenOrderLeg) : Json :=
  .object [("symbol", .text leg.symbol), ("intent", .text leg.intent.text),
    ("ratio", .number leg.ratio)]

def canonicalOpenOrder (order : OpenOrderItem) : Json :=
  .object [
    ("provider_order_id", .text order.providerOrderId),
    ("client_order_id", .text order.clientOrderId),
    ("state", .text order.state.text),
    ("quantity", .number order.quantity),
    ("filled_quantity", .number order.filledQuantity),
    ("replaces_client_order_id", Json.ofOptional .text order.replacesClientOrderId),
    ("replaced_by_client_order_id", Json.ofOptional .text order.replacedByClientOrderId),
    ("order_class", .text order.orderClass),
    ("legs", .array (order.legs.map canonicalOpenOrderLeg))]

/-- The canonical document of an activity. An exact time and a missing provider type are left
out. -/
def canonicalActivity (item : ActivityItem) : Json :=
  .object ([
    ("activity_id_hash", .text item.activityIdHash),
    ("activity_type", .text item.activityType.text),
    ("occurred_at", .text (utcText item.occurredAt)),
    ("symbol", Json.ofOptional .text item.symbol),
    ("signed_quantity", Json.ofOptional canonicalNumber item.signedQuantity),
    ("provider_order_id", Json.ofOptional .text item.providerOrderId),
    ("client_order_id", Json.ofOptional .text item.clientOrderId)]
    ++ (if item.timeQuality = .exactTransactionTime then []
      else [("time_quality", .text item.timeQuality.text)])
    ++ (item.providerActivityType.toList.map fun type => ("provider_activity_type", .text type)))

/-- The canonical document of an account observation. -/
def canonicalAccount (account : AccountObservation) : Json :=
  .object [
    ("role", .text account.role.text),
    ("account_fingerprint", .text account.accountFingerprint),
    ("paper", .bool account.paper),
    ("status", .text account.status),
    ("account_blocked", .bool account.accountBlocked),
    ("trading_blocked", .bool account.tradingBlocked),
    ("options_trading_blocked", .bool account.optionsTradingBlocked),
    ("equity", canonicalNumber account.equity),
    ("buying_power", canonicalNumber account.buyingPower),
    ("cash", canonicalNumber account.cash),
    ("observed_at", .text (utcText account.observedAt)),
    ("time_quality", .text account.timeQuality)]

/-- The canonical document of pagination evidence. -/
def canonicalPagination (pagination : ActivityPaginationEvidence) : Json :=
  .object [
    ("requested_start", .text (utcText pagination.requestedStart)),
    ("requested_end", .text (utcText pagination.requestedEnd)),
    ("retrieved_through", .text (utcText pagination.retrievedThrough)),
    ("established_at", .text (utcText pagination.establishedAt)),
    ("page_count", .number pagination.pageCount),
    ("terminal_page_seen", .bool pagination.terminalPageSeen),
    ("visibility_complete_through", .text (utcText pagination.visibilityCompleteThrough)),
    ("visibility_horizon", canonicalSpan pagination.visibilityHorizon)]

def canonicalPositions (positions : List InventoryItem) : Json :=
  .array (positions.map canonicalInventory)

def canonicalOpenOrders (orders : List OpenOrderItem) : Json :=
  .array (orders.map canonicalOpenOrder)

def canonicalActivities (activities : List ActivityItem) : Json :=
  .array (activities.map canonicalActivity)

def canonicalSweep (sweep : SweepObservation) : Json :=
  .object [
    ("retrieval_started_at", .text (utcText sweep.retrievalStartedAt)),
    ("retrieval_completed_at", .text (utcText sweep.retrievalCompletedAt)),
    ("activity_pagination", canonicalPagination sweep.activityPagination),
    ("first_account", canonicalAccount sweep.firstAccount),
    ("final_account", canonicalAccount sweep.finalAccount),
    ("first_positions", canonicalPositions sweep.firstPositions),
    ("final_positions", canonicalPositions sweep.finalPositions),
    ("first_open_orders", canonicalOpenOrders sweep.firstOpenOrders),
    ("final_open_orders", canonicalOpenOrders sweep.finalOpenOrders),
    ("activities", canonicalActivities sweep.activities),
    ("positions_complete", .bool sweep.positionsComplete),
    ("orders_complete", .bool sweep.ordersComplete)]

/-! ## Reconciliation states -/

def activityHashes (activities : List ActivityItem) : List String :=
  activities.map fun activity => activity.activityIdHash

structure AccountReconciliationStateFields where
  accountRole : AccountRole
  accountFingerprint : String
  baselineCapturedAt : Int
  acceptedAt : Int
  expectedCash : Decimal
  expectedPositions : List InventoryItem
  expectedOpenOrders : List OpenOrderItem
  knownActivities : List ActivityItem
  activityCompleteThrough : Int
  resolvedActivityHashes : List String := []

/-- The check made when a state is built: the resolved hashes are sorted, distinct and known. -/
def AccountReconciliationStateFields.check (state : AccountReconciliationStateFields) :
    Except Failure Unit :=
  raiseIf (!decide (state.resolvedActivityHashes.Pairwise (· < ·)) ||
    !(state.resolvedActivityHashes.all fun hash =>
      (activityHashes state.knownActivities).contains hash))
    (.value "RESOLVED_ACTIVITY_HASHES_INVALID")

structure AccountReconciliationState extends AccountReconciliationStateFields where
  valid : toAccountReconciliationStateFields.check = .ok ()

/-- Build a state, or say why it is invalid. -/
def AccountReconciliationState.fromRepositoryState (fields : AccountReconciliationStateFields) :
    Except Failure AccountReconciliationState :=
  build AccountReconciliationStateFields.check (fun fields valid => { fields with valid }) fields

/-! ## Expectations -/

structure ReconciliationExpectationFields where
  purpose : ReconciliationPurpose
  accountRole : AccountRole
  accountFingerprint : String
  expectedCash : Decimal
  baselineCapturedAt : Int
  expectedPositions : List InventoryItem
  expectedOpenOrders : List OpenOrderItem
  knownActivities : List ActivityItem
  resolvedActivityHashes : List String
  requiredActivityWindowStart : Int
  requiredActivityCompleteThrough : Int
  intentId : Uuid
  intentDigest : String
  attemptOrdinal : Int
  requestHash : String

/-- The check of one resolved hash. -/
def requireResolvedKnown (known : List String) (hash : String) : Except Failure Unit := do
  requireHash hash "ACTIVITY_HASH_INVALID"
  raiseIf (!known.contains hash) (.value "RESOLVED_ACTIVITY_NOT_KNOWN")

/-- The check made when an expectation is built. -/
def ReconciliationExpectationFields.check (expectation : ReconciliationExpectationFields) :
    Except Failure Unit := do
  raiseIf (expectation.accountRole == .replay) (.value "RECONCILIATION_EXPECTATION_INVALID")
  requireHash expectation.accountFingerprint "ACCOUNT_FINGERPRINT_INVALID"
  requireHash expectation.intentDigest "INTENT_DIGEST_INVALID"
  requireHash expectation.requestHash "REQUEST_HASH_INVALID"
  requireUtc expectation.baselineCapturedAt "BASELINE_TIME_INVALID"
  requireUtc expectation.requiredActivityWindowStart "ACTIVITY_WINDOW_INVALID"
  requireUtc expectation.requiredActivityCompleteThrough "ACTIVITY_WINDOW_INVALID"
  raiseIf (expectation.requiredActivityWindowStart != expectation.baselineCapturedAt
    || decide (expectation.requiredActivityCompleteThrough <
      expectation.requiredActivityWindowStart)
    || !decide (0 ≤ expectation.attemptOrdinal ∧ expectation.attemptOrdinal ≤ 3))
    (.value "RECONCILIATION_EXPECTATION_INVALID")
  requireCanonicalInventory expectation.expectedPositions
  requireCanonicalOrders expectation.expectedOpenOrders
  requireUniqueProviderOrders expectation.expectedOpenOrders
  requireCanonicalActivities expectation.knownActivities
  raiseIf (!decide (expectation.resolvedActivityHashes.Pairwise (· < ·)))
    (.value "ACTIVITY_HASHES_NOT_CANONICAL")
  checkEach (requireResolvedKnown (activityHashes expectation.knownActivities))
    expectation.resolvedActivityHashes

/-- What a sweep must show. -/
structure ReconciliationExpectation extends ReconciliationExpectationFields where
  valid : toReconciliationExpectationFields.check = .ok ()

/-- Equality of what expectations hold, decimals by value. -/
instance : BEq ReconciliationExpectation where
  beq a b :=
    decide (a.purpose = b.purpose ∧ a.accountRole = b.accountRole ∧
      a.accountFingerprint = b.accountFingerprint ∧
      a.baselineCapturedAt = b.baselineCapturedAt ∧
      a.expectedOpenOrders = b.expectedOpenOrders ∧
      a.resolvedActivityHashes = b.resolvedActivityHashes ∧
      a.requiredActivityWindowStart = b.requiredActivityWindowStart ∧
      a.requiredActivityCompleteThrough = b.requiredActivityCompleteThrough ∧
      a.intentId = b.intentId ∧ a.intentDigest = b.intentDigest ∧
      a.attemptOrdinal = b.attemptOrdinal ∧ a.requestHash = b.requestHash) &&
    a.expectedCash == b.expectedCash && a.expectedPositions == b.expectedPositions &&
    a.knownActivities == b.knownActivities

/-- Build an expectation, or say why it is invalid. -/
def ReconciliationExpectation.fromRepositoryState (fields : ReconciliationExpectationFields) :
    Except Failure ReconciliationExpectation :=
  build ReconciliationExpectationFields.check (fun fields valid => { fields with valid }) fields

def canonicalExpectationMembers (expectation : ReconciliationExpectation) :
    List (String × Json) := [
  ("purpose", .text expectation.purpose.text),
  ("account_role", .text expectation.accountRole.text),
  ("account_fingerprint", .text expectation.accountFingerprint),
  ("expected_cash", canonicalNumber expectation.expectedCash),
  ("baseline_captured_at", .text (utcText expectation.baselineCapturedAt)),
  ("expected_positions", canonicalPositions expectation.expectedPositions),
  ("expected_open_orders", canonicalOpenOrders expectation.expectedOpenOrders),
  ("known_activities", canonicalActivities expectation.knownActivities),
  ("resolved_activity_hashes", .array (expectation.resolvedActivityHashes.map .text)),
  ("required_activity_window_start", .text (utcText expectation.requiredActivityWindowStart)),
  ("required_activity_complete_through",
    .text (utcText expectation.requiredActivityCompleteThrough)),
  ("intent_id", .text expectation.intentId.toText),
  ("intent_digest", .text expectation.intentDigest),
  ("attempt_ordinal", .number expectation.attemptOrdinal),
  ("request_hash", .text expectation.requestHash)]

/-! ## Evaluation -/

/-- How far observed cash may trail the expected cash, for fees that have no activity yet. -/
def maxUnreportedFeeDrag : Decimal :=
  ⟨false, 100, -2⟩

/-- Observed cash trails the expected cash by a tolerated fee at most and never exceeds it. -/
def cashWithinFeeTolerance (observed expected : Decimal) : Bool :=
  decide (Decimal.ofInt 0 ≤ expected - observed ∧ expected - observed ≤ maxUnreportedFeeDrag)

/-- The part of an account that must not change between the two reads of a sweep. -/
def sameAccountMaterial (a b : AccountObservation) : Bool :=
  decide (a.role = b.role ∧ a.accountFingerprint = b.accountFingerprint ∧ a.paper = b.paper ∧
    a.status = b.status ∧ a.accountBlocked = b.accountBlocked ∧
    a.tradingBlocked = b.tradingBlocked ∧ a.optionsTradingBlocked = b.optionsTradingBlocked ∧
    a.timeQuality = b.timeQuality) && a.cash == b.cash

/-- The times at which a sweep was made and observed the account. -/
def SweepObservation.observationTimes (sweep : SweepObservation) : List Int :=
  [sweep.firstAccount.observedAt, sweep.finalAccount.observedAt, sweep.retrievalStartedAt,
    sweep.retrievalCompletedAt]

def SweepObservation.accounts (sweep : SweepObservation) : List AccountObservation :=
  [sweep.firstAccount, sweep.finalAccount]

def activityByHash (activities : List ActivityItem) : String → Option ActivityItem :=
  lastByKey (fun item => item.activityIdHash) activities

/-- The activities of a sweep that are not resolved yet. -/
def unresolvedActivities (sweep : SweepObservation) (expectation : ReconciliationExpectation) :
    List ActivityItem :=
  sweep.activities.filter fun item =>
    !expectation.resolvedActivityHashes.contains item.activityIdHash

/-- The condition under which a sweep raises each block code. -/
def ReconciliationBlockCode.raised (sweep : SweepObservation)
    (expectation : ReconciliationExpectation) (acceptedAt : Int) :
    ReconciliationBlockCode → Bool
  | .incompleteSweep => !sweep.positionsComplete || !sweep.ordersComplete
  | .activityWatermarkUnknown =>
      !sweep.activityPagination.complete ||
      decide (sweep.activityPagination.visibilityCompleteThrough <
        expectation.requiredActivityCompleteThrough) ||
      decide (sweep.activityPagination.establishedAt > acceptedAt)
  | .activityWindowIncomplete =>
      sweep.activityPagination.requestedStart != expectation.requiredActivityWindowStart
  | .staleObservation =>
      decide (sweep.retrievalCompletedAt - sweep.retrievalStartedAt > maxSweepDuration) ||
      sweep.observationTimes.any fun t =>
        decide (t ≤ acceptedAt) && decide (acceptedAt - t > maxSweepAge)
  | .futureObservation =>
      (sweep.observationTimes.any fun t => decide (t > acceptedAt)) ||
      sweep.activities.any fun item => decide (item.occurredAt > acceptedAt)
  | .unstableSweep =>
      !sameAccountMaterial sweep.firstAccount sweep.finalAccount ||
      sweep.firstPositions != sweep.finalPositions ||
      sweep.firstOpenOrders != sweep.finalOpenOrders
  | .accountMismatch =>
      sweep.accounts.any fun observed => observed.role != expectation.accountRole ||
        observed.accountFingerprint != expectation.accountFingerprint
  | .accountNotExecutable =>
      sweep.accounts.any fun observed => !observed.paper || observed.status != "ACTIVE" ||
        observed.accountBlocked || observed.tradingBlocked || observed.optionsTradingBlocked
  | .accountAdjustment =>
      (sweep.accounts.any fun observed =>
        !cashWithinFeeTolerance observed.cash expectation.expectedCash) ||
      (unresolvedActivities sweep expectation).any fun item =>
        item.activityType.isAccountAdjustment
  | .unexpectedInventory => sweep.finalPositions != expectation.expectedPositions
  | .assignmentSuspected =>
      (sweep.finalPositions != expectation.expectedPositions &&
        sweep.finalPositions.any fun item => item.kind == .equity) ||
      (unresolvedActivities sweep expectation).any fun item => item.activityType.isAssignment
  | .unexpectedOpenOrder => sweep.finalOpenOrders != expectation.expectedOpenOrders
  | .knownActivityMissing =>
      expectation.knownActivities.any fun known =>
        !activityPredatesWindow known expectation.requiredActivityWindowStart &&
        activityByHash sweep.activities known.activityIdHash != some known
  | .unexpectedActivity =>
      sweep.activities.any fun item => item.activityType != .fee &&
        !(activityHashes expectation.knownActivities).contains item.activityIdHash

/-- A sweep compared with an expectation at an accepted time. -/
structure WholeAccountReconciliation where
  expectation : ReconciliationExpectation
  sweep : SweepObservation
  acceptedAt : Int
  acceptedInRange : Calendar.InRange acceptedAt

namespace WholeAccountReconciliation

/-- Compare a sweep with an expectation. The result alone never authorizes a mutation. -/
def evaluate (sweep : SweepObservation) (expectation : ReconciliationExpectation)
    (acceptedAt : Int) : Except Failure WholeAccountReconciliation :=
  if h : Calendar.InRange acceptedAt then .ok ⟨expectation, sweep, acceptedAt, h⟩
  else .error (.value "RECONCILIATION_ACCEPTED_AT_INVALID")

/-- The block codes of a reconciliation, in the order of their written forms. -/
def blockCodes (value : WholeAccountReconciliation) : List ReconciliationBlockCode :=
  ReconciliationBlockCode.all.filter
    (ReconciliationBlockCode.raised value.sweep value.expectation value.acceptedAt)

/-- A reconciliation without block codes. -/
def safe (value : WholeAccountReconciliation) : Bool :=
  value.blockCodes.isEmpty

variable {value : WholeAccountReconciliation}

/-- What an evaluation is made of. -/
theorem evaluate_ok {sweep : SweepObservation} {expectation : ReconciliationExpectation}
    {acceptedAt : Int} (h : evaluate sweep expectation acceptedAt = .ok value) :
    value.sweep = sweep ∧ value.expectation = expectation ∧ value.acceptedAt = acceptedAt := by
  unfold evaluate at h
  split at h
  · cases h
    exact ⟨rfl, rfl, rfl⟩
  · cases h

theorem safe_iff :
    value.safe = true ↔ ∀ code : ReconciliationBlockCode,
      code.raised value.sweep value.expectation value.acceptedAt = false := by
  simp only [safe, blockCodes, List.isEmpty_iff, List.filter_eq_nil_iff, Bool.not_eq_true]
  exact ⟨fun h code => h code (ReconciliationBlockCode.mem_all code), fun h code _ => h code⟩

end WholeAccountReconciliation

/-! ## Hashes -/

variable [Digest]

def canonicalState (state : AccountReconciliationStateFields) : Json :=
  .object ([
    ("domain", .text "alphadecay.account-reconciliation-state.v1"),
    ("account_role", .text state.accountRole.text),
    ("account_fingerprint", .text state.accountFingerprint),
    ("baseline_captured_at", .text (utcText state.baselineCapturedAt)),
    ("accepted_at", .text (utcText state.acceptedAt)),
    ("expected_cash", canonicalNumber state.expectedCash),
    ("expected_positions", canonicalPositions state.expectedPositions),
    ("expected_open_orders", canonicalOpenOrders state.expectedOpenOrders),
    ("known_activities", canonicalActivities state.knownActivities),
    ("activity_complete_through", .text (utcText state.activityCompleteThrough))]
    ++ if state.resolvedActivityHashes.isEmpty then []
      else [("resolved_activity_hashes", .array (state.resolvedActivityHashes.map .text))])

def AccountReconciliationState.stateHash (state : AccountReconciliationState) : String :=
  Digest.authorityHash (canonicalState state.toAccountReconciliationStateFields)

def AccountReconciliationState.stateId (state : AccountReconciliationState) : Uuid :=
  Digest.uuid5 ("alphadecay:account-state:" ++ state.stateHash)

def ReconciliationExpectation.expectationHash (expectation : ReconciliationExpectation) : String :=
  Digest.authorityHash (.object
    (("domain", .text "alphadecay.reconciliation-expectation.v1") ::
      canonicalExpectationMembers expectation))

/-- The canonical document of an expectation, with its hash. -/
def canonicalExpectation (expectation : ReconciliationExpectation) : Json :=
  .object (canonicalExpectationMembers expectation ++
    [("expectation_hash", .text expectation.expectationHash)])

namespace WholeAccountReconciliation

def positionsManifestHash (value : WholeAccountReconciliation) : String :=
  Digest.authorityHash (canonicalPositions value.sweep.finalPositions)

/-- The hash of the open orders of a sweep. -/
def ordersManifestHash (value : WholeAccountReconciliation) : String :=
  Digest.authorityHash (canonicalOpenOrders value.sweep.finalOpenOrders)

def activitiesManifestHash (value : WholeAccountReconciliation) : String :=
  Digest.authorityHash (canonicalActivities value.sweep.activities)

def reconciliationHash (value : WholeAccountReconciliation) : String :=
  Digest.authorityHash (.object [
    ("domain", .text "alphadecay.whole-account-reconciliation.v1"),
    ("expectation", canonicalExpectation value.expectation),
    ("sweep", canonicalSweep value.sweep),
    ("accepted_at", .text (utcText value.acceptedAt)),
    ("positions_manifest_hash", .text value.positionsManifestHash),
    ("orders_manifest_hash", .text value.ordersManifestHash),
    ("activities_manifest_hash", .text value.activitiesManifestHash),
    ("block_codes", .array (value.blockCodes.map fun code => .text code.text))])

def reconciliationId (value : WholeAccountReconciliation) : Uuid :=
  Digest.uuid5 ("alphadecay:whole-account:" ++ value.reconciliationHash)

end WholeAccountReconciliation

end AlphaDecay
