import AlphaDecay.Persistence.Attempts
import AlphaDecay.Persistence.Checks

/-!
# What a sweep is expected to show

The expectation of a mutation, and of the finalization after it, is built from the last
reconciliation state of the account and from the attempt whose fill changed it: the positions move
by the filled legs, the cash by the cash flow of the fill, and the new activities must be exactly
the trades of the fill, with fees besides.
-/

namespace AlphaDecay

open Foundation Table

/-! ## Positions -/

/-- The signed quantity by which the fill of an attempt moves the position of a leg. -/
def signedChange (filledQuantity : Int) (leg : OrderLegIntent) : Decimal :=
  Decimal.ofInt (filledQuantity * leg.ratio * leg.intent.direction)

/-- Require that a leg which closes a position meets one that it can close. -/
def requireClosable (intent : PositionIntent) (current next : Decimal) : Except Failure Unit := do
  raiseIf (intent == .buyToClose && Decimal.ofInt 0 ≤ current) (.blocked "CLOSE_POSITION_MISMATCH")
  raiseIf (intent == .sellToClose && current ≤ Decimal.ofInt 0)
    (.blocked "CLOSE_POSITION_MISMATCH")
  raiseIf ((intent == .buyToClose || intent == .sellToClose) && current.abs < next.abs)
    (.blocked "CLOSE_POSITION_MISMATCH")

def quantityOf (positions : Dict String InventoryItem) (symbol : String) : Decimal :=
  ((positions.get symbol).map fun item => item.signedQuantity).getD (Decimal.ofInt 0)

/-- The positions with another quantity of a symbol. -/
def withQuantity (positions : Dict String InventoryItem) (symbol : String) (quantity : Decimal) :
    Except Failure (Dict String InventoryItem) :=
  if quantity == Decimal.ofInt 0 then .ok (positions.pop symbol)
  else do
    let item ← InventoryItem.make
      { kind := .option, symbol, signedQuantity := quantity, multiplier := 100 }
    return positions.set symbol item

/-- The positions after the fill of one leg. -/
def applyLeg (filledQuantity : Int) (positions : Dict String InventoryItem)
    (leg : OrderLegIntent) : Except Failure (Dict String InventoryItem) := do
  let current := quantityOf positions leg.symbol
  let next := current + signedChange filledQuantity leg
  requireClosable leg.intent current next
  withQuantity positions leg.symbol next

/-- Positions in their canonical order. -/
def sortedPositions (positions : Dict String InventoryItem) : List InventoryItem :=
  orderBy inventoryKey positions.values

/-- The positions of a state after the fill of an attempt. -/
def positionsAfterFill (intent : ExecutionIntentRow) (state : AccountReconciliationStateRow)
    (attempt : OrderAttempt) : Except Failure (List InventoryItem) :=
  let positions := Dict.ofList (fun item : InventoryItem => item.symbol) state.expectedPositions
  if attempt.filledQuantity = 0 then .ok (sortedPositions positions)
  else do
    raiseIf attempt.fillCashFlow.isNone (.blocked "ATTEMPT_CASH_FLOW_REQUIRED")
    let filled ← intent.envelope.legs.foldlM (applyLeg attempt.filledQuantity) positions
    return sortedPositions filled

/-! ## Activities -/

/-- The activities that a sweep may show, and the hashes of those that are resolved. -/
structure BoundActivities where
  known : List ActivityItem
  resolved : List String

/-- Some known activity that the sweep window covers is not among the candidates. -/
def knownMissing (known candidates : List ActivityItem) (windowStart : Int) : Bool :=
  (activityHashes known).any fun hash =>
    (activityByHash known hash).any fun value =>
      !activityPredatesWindow value windowStart && activityByHash candidates hash != some value

/-- Distinct texts in order. -/
def sortedSet (texts : List String) : List String :=
  orderBy id texts.dedup

theorem mem_sortedSet {texts : List String} {text : String} :
    text ∈ sortedSet texts ↔ text ∈ texts := by
  rw [sortedSet, mem_orderBy, List.mem_dedup]

/-- The quantity that the fill of an attempt trades of a symbol. -/
def expectedQuantity (filledQuantity : Int) (legs : List OrderLegIntent) (symbol : String) :
    Option Decimal :=
  (lastByKey OrderLegIntent.symbol legs symbol).map (signedChange filledQuantity)

def isTradeOf (attempt : OrderAttempt) (item : ActivityItem) : Bool :=
  (item.activityType == .fill || item.activityType == .optrd) &&
  item.providerOrderId == attempt.providerOrderId &&
  item.clientOrderId == some attempt.clientOrderId

/-- An activity trades the quantity that the fill of an attempt trades of its symbol. -/
def hasExpectedQuantity (attempt : OrderAttempt) (legs : List OrderLegIntent)
    (item : ActivityItem) : Bool :=
  match item.symbol.bind (expectedQuantity attempt.filledQuantity legs), item.signedQuantity with
  | some expected, some quantity => quantity == expected
  | _, _ => false

/-- New activities are the trades of the fill of an attempt: one for each leg. -/
def explainsFill (attempt : OrderAttempt) (legs : List OrderLegIntent)
    (new : List ActivityItem) : Bool :=
  0 < attempt.filledQuantity && attempt.providerOrderId.isSome && new.all (isTradeOf attempt) &&
  new.length == (legs.map OrderLegIntent.symbol).dedup.length &&
  (new.map fun item => item.symbol).dedup.length == new.length &&
  new.all (hasExpectedQuantity attempt legs)

/-- The candidates that were not known before. -/
def newCandidates (known candidates : List ActivityItem) : List ActivityItem :=
  candidates.filter fun item => !(activityHashes known).contains item.activityIdHash

/-- New activities without a trade: only fees. -/
def boundFees (known fees : List ActivityItem) (resolved : List String) (requireVisible : Bool) :
    Except Failure BoundActivities := do
  raiseIf requireVisible (.blocked "ATTEMPT_ACTIVITY_EVIDENCE_PENDING")
  return if fees.isEmpty then ⟨known, resolved⟩
    else ⟨known ++ fees, sortedSet (resolved ++ activityHashes fees)⟩

/-- New activities with trades. Known activities that predate the window stay known: they cannot
be observed again. -/
def boundTrades (intent : ExecutionIntentRow) (attempt : OrderAttempt)
    (predating candidates new fees : List ActivityItem) (resolved : List String) :
    Except Failure BoundActivities := do
  raiseIf (!explainsFill attempt intent.envelope.legs new)
    (.blocked "ATTEMPT_ACTIVITY_EVIDENCE_MISMATCH")
  return {
    known := orderBy (fun item : ActivityItem => item.activityIdHash)
      (Dict.ofList (fun item : ActivityItem => item.activityIdHash)
        (predating ++ candidates)).values
    resolved := sortedSet (resolved ++ activityHashes (new ++ fees)) }

/-- The candidates bound to an attempt: fees, and the trades of its fill. -/
def boundCandidates (intent : ExecutionIntentRow) (state : AccountReconciliationStateRow)
    (attempt : OrderAttempt) (candidates : List ActivityItem) (requireVisible : Bool) :
    Except Failure BoundActivities := do
  let known := state.knownActivities
  let windowStart := state.baselineCapturedAt
  raiseIf (knownMissing known candidates windowStart) (.blocked "KNOWN_ACTIVITY_MISSING")
  let fresh := newCandidates known candidates
  let fees := fresh.filter fun item => item.activityType == .fee
  let new := fresh.filter fun item => item.activityType != .fee
  let predating := known.filter fun item => activityPredatesWindow item windowStart
  let resolved := state.resolvedActivityHashes
  if new.isEmpty then boundFees known fees resolved requireVisible
  else boundTrades intent attempt predating candidates new fees resolved

/-- The activities that a sweep may show. Without candidates they are the known ones. -/
def boundAttemptActivities (intent : ExecutionIntentRow) (state : AccountReconciliationStateRow)
    (attempt : OrderAttempt) (candidates : Option (List ActivityItem)) (requireVisible : Bool) :
    Except Failure BoundActivities :=
  match candidates with
  | none => .ok ⟨state.knownActivities, state.resolvedActivityHashes⟩
  | some candidates => boundCandidates intent state attempt candidates requireVisible

/-! ## The expectation of a mutation -/

/-- The cash flow of the fill of an attempt. -/
def fillCash (attempt : OrderAttempt) : Decimal :=
  if isZeroCashFlow attempt.fillCashFlow then Decimal.ofInt 0
  else attempt.fillCashFlow.getD (Decimal.ofInt 0)

/-- A leg of the order of an envelope, as an open order shows it. -/
def openLegFromIntent (leg : OrderLegIntent) : Except Failure OpenOrderLeg :=
  OpenOrderLeg.make { symbol := leg.symbol, intent := leg.intent, ratio := leg.ratio }

def openOrderFromAttempt (intent : ExecutionIntentRow) (attempt : OrderAttempt) :
    Except Failure OpenOrderItem := do
  let providerOrderId ←
    require attempt.providerOrderId (.blocked "TARGET_PROVIDER_ORDER_ID_REQUIRED")
  let legs ← intent.envelope.legs.mapM openLegFromIntent
  OpenOrderItem.make {
    providerOrderId
    clientOrderId := attempt.clientOrderId
    state := attempt.state
    quantity := attempt.quantity
    filledQuantity := attempt.filledQuantity
    replacesClientOrderId := attempt.replacesClientOrderId
    replacedByClientOrderId := none
    orderClass := "MLEG"
    legs }

variable [Digest]

def cancelRequestHash (intentDigest : String) (target : OrderAttempt) : String :=
  Digest.authorityHash (.object [
    ("domain", .text "alphadecay.cancel-request.v1"),
    ("intent_digest", .text intentDigest),
    ("attempt_ordinal", .number target.ordinal),
    ("target_client_order_id", .text target.clientOrderId),
    ("target_provider_order_id", Json.ofOptional .text target.providerOrderId)])

/-- What a mutation expects of an account: its open orders, the attempt whose fill changed it and
the hash of the request. -/
structure MutationTarget where
  openOrders : List OpenOrderItem
  filledAttempt : OrderAttempt
  requestHash : String

/-- The target of a submission: nothing is filled or open yet. -/
def submitTarget (state : AccountReconciliationStateRow) (attempt : OrderAttempt)
    (attempts : List OrderAttemptRow) : Except Failure MutationTarget := do
  raiseIf (attempt.ordinal != 0) (.blocked "SUBMIT_ORDINAL_INVALID")
  raiseIf (!attempts.isEmpty && (attemptsFromRows attempts != [attempt] ||
    attempts.any fun row => row.state != .prepared)) (.blocked "SUBMIT_REAUTHORIZATION_MISMATCH")
  return {
    openOrders := state.expectedOpenOrders
    filledAttempt := attempt
    requestHash := attempt.requestHash }

def replacedRow (attempts : List OrderAttemptRow) (ordinal : Int) :
    Except Failure OrderAttemptRow := do
  let current ← require attempts.getLast? (.blocked "TARGET_ATTEMPT_NOT_FOUND")
  match preparedReplacement attempts with
  | some (predecessor, replacement) =>
      return if replacement.ordinal = ordinal then predecessor else current
  | none => return current

/-- The target of a replacement: the order that it replaces is open. -/
def replaceTarget (intent : ExecutionIntentRow) (attempt : OrderAttempt)
    (attempts : List OrderAttemptRow) : Except Failure MutationTarget := do
  let row ← replacedRow attempts attempt.ordinal
  let target := attemptFromRow row attempts
  raiseIf (target.providerOrderId.isNone || !target.state.isMutationEligible)
    (.blocked "TARGET_ORDER_NOT_ACTIVE")
  raiseIf (attempt.ordinal != target.ordinal + 1 ||
    attempt.replacesClientOrderId != some target.clientOrderId)
    (.blocked "REPLACE_LINEAGE_INVALID")
  let order ← openOrderFromAttempt intent target
  return { openOrders := [order], filledAttempt := target, requestHash := attempt.requestHash }

/-- The target of a cancel: the order that it cancels is open. -/
def cancelTargetOf (intent : ExecutionIntentRow) (attempt : OrderAttempt)
    (attempts : List OrderAttemptRow) : Except Failure MutationTarget := do
  let row ← require (cancelTarget attempts) (.blocked "TARGET_ATTEMPT_NOT_FOUND")
  let current := attemptFromRow row attempts
  raiseIf (current.providerOrderId.isNone || current.quantity ≤ 0 ||
    !current.state.isMutationEligible) (.blocked "TARGET_ORDER_NOT_ACTIVE")
  raiseIf (attempt != current) (.blocked "CANCEL_TARGET_MISMATCH")
  let order ← openOrderFromAttempt intent current
  return {
    openOrders := [order]
    filledAttempt := current
    requestHash := cancelRequestHash intent.intentDigest current }

def mutationTarget (intent : ExecutionIntentRow) (state : AccountReconciliationStateRow)
    (purpose : ReconciliationPurpose) (attempt : OrderAttempt)
    (attempts : List OrderAttemptRow) : Except Failure MutationTarget :=
  match purpose with
  | .submit => submitTarget state attempt attempts
  | .replace => replaceTarget intent attempt attempts
  | .cancel => cancelTargetOf intent attempt attempts
  | .baselineInitialization => .error (.blocked "RECONCILIATION_PURPOSE_INVALID")

/-- Require that an attempt is the one that a mutation may create or cancel. -/
def requireCanonicalAttempt (intent : ExecutionIntentRow) (purpose : ReconciliationPurpose)
    (attempt : OrderAttempt) (attempts : List OrderAttemptRow) : Except Failure Unit :=
  if purpose = .replace then do
    raiseIf attempt.quoteHash.isNone (.blocked "REPLACEMENT_QUOTES_REQUIRED")
    validateReplacementAttempt intent attempts attempt none
  else do
    let canonical ← canonicalAttemptForMutation intent purpose attempts
    raiseIf (attempt != canonical) (.blocked "BROKER_MUTATION_MATERIAL_MISMATCH")

/-- The cash that an account is expected to hold after a mutation's target was filled. A
submission comes before any fill. -/
def expectedCashOf (state : AccountReconciliationStateRow) (purpose : ReconciliationPurpose)
    (filled : OrderAttempt) : Decimal :=
  if purpose = .submit then state.expectedCash else state.expectedCash + fillCash filled

/-- The positions that an account is expected to hold after a mutation's target was filled. -/
def expectedPositionsOf (intent : ExecutionIntentRow) (state : AccountReconciliationStateRow)
    (purpose : ReconciliationPurpose) (filled : OrderAttempt) :
    Except Failure (List InventoryItem) :=
  if purpose = .submit then .ok state.expectedPositions else positionsAfterFill intent state filled

/-- The expectation of a mutation. -/
def reconciliationExpectationFromRows (intent : ExecutionIntentRow)
    (state : AccountReconciliationStateRow) (purpose : ReconciliationPurpose)
    (attempt : OrderAttempt) (attempts : List OrderAttemptRow)
    (candidates : Option (List ActivityItem)) : Except Failure ReconciliationExpectation := do
  raiseIf (attempt.intentId != intent.intentId || attempt.ordinal > 3)
    (.blocked "RECONCILIATION_ATTEMPT_MISMATCH")
  raiseIf (purpose == .baselineInitialization)
    (.blocked "BASELINE_INITIALIZATION_IS_NOT_BROKER_MUTATION")
  requireCanonicalAttempt intent purpose attempt attempts
  let target ← mutationTarget intent state purpose attempt attempts
  let expectedPositions ← expectedPositionsOf intent state purpose target.filledAttempt
  let activities ← boundAttemptActivities intent state target.filledAttempt candidates false
  ReconciliationExpectation.fromRepositoryState {
    purpose
    accountRole := intent.accountRole
    accountFingerprint := state.accountFingerprint
    expectedCash := expectedCashOf state purpose target.filledAttempt
    baselineCapturedAt := state.baselineCapturedAt
    expectedPositions
    expectedOpenOrders := target.openOrders
    knownActivities := activities.known
    resolvedActivityHashes := activities.resolved
    requiredActivityWindowStart := state.baselineCapturedAt
    requiredActivityCompleteThrough := state.activityCompleteThrough
    intentId := intent.intentId
    intentDigest := intent.intentDigest
    attemptOrdinal := attempt.ordinal
    requestHash := target.requestHash }

/-! ## The expectation of a finalization -/

def finalRequestHash (intentDigest : String) (ordinal : Int) (observationHash : String) : String :=
  Digest.authorityHash (.object [
    ("domain", .text "alphadecay.final-reconciliation.v1"),
    ("intent_digest", .text intentDigest),
    ("attempt_ordinal", .number ordinal),
    ("last_observation_hash", .text observationHash)])

def finalReconciliationExpectationFromRows (intent : ExecutionIntentRow)
    (state : AccountReconciliationStateRow) (attempts : List OrderAttemptRow)
    (observations : List AttemptObservationRow) (latestPermit : Option BrokerMutationPermit)
    (candidates : Option (List ActivityItem)) : Except Failure ReconciliationExpectation := do
  let row ← require attempts.getLast? (.blocked "FINAL_RECONCILIATION_LINEAGE_MISSING")
  let latest ← require observations.getLast? (.blocked "FINAL_RECONCILIATION_LINEAGE_MISSING")
  let permit ← require latestPermit (.blocked "FINAL_RECONCILIATION_LINEAGE_MISSING")
  let current := attemptFromRow row attempts
  raiseIf (latest.permitId != permit.permitId || latest.attemptOrdinal != permit.attemptOrdinal)
    (.blocked "FINAL_RECONCILIATION_LINEAGE_MISSING")
  raiseIf (latest.observedAttempt != some current) (.blocked "FINAL_OBSERVATION_NOT_CURRENT")
  raiseIf (!current.state.satisfies BrokerOrderState.isFinalizable)
    (.blocked "FINAL_ATTEMPT_NOT_TERMINAL")
  let expectedPositions ← positionsAfterFill intent state current
  let activities ←
    boundAttemptActivities intent state current candidates (0 < current.filledQuantity)
  ReconciliationExpectation.fromRepositoryState {
    purpose := permit.mutationKind
    accountRole := intent.accountRole
    accountFingerprint := state.accountFingerprint
    expectedCash := state.expectedCash + fillCash current
    baselineCapturedAt := state.baselineCapturedAt
    expectedPositions
    expectedOpenOrders := state.expectedOpenOrders
    knownActivities := activities.known
    resolvedActivityHashes := activities.resolved
    requiredActivityWindowStart := state.baselineCapturedAt
    requiredActivityCompleteThrough := state.activityCompleteThrough
    intentId := intent.intentId
    intentDigest := intent.intentDigest
    attemptOrdinal := current.ordinal
    requestHash := finalRequestHash intent.intentDigest current.ordinal latest.observationHash }

end AlphaDecay
