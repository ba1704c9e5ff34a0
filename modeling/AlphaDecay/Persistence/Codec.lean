import AlphaDecay.Execution.Identity
import AlphaDecay.Execution.Reconciliation

/-!
# Stored reconciliations

A reconciliation is stored as a row whose payloads are JSON documents of its expectation and its
sweep. Reading a row decodes both documents, evaluates the sweep again and compares every stored
identity with the one computed from the decoded data.
-/

namespace AlphaDecay

open Foundation

/-! ## Reading fields -/

/-- A field of a document that must be there. -/
def readField {α : Type} (read : Json → Option α) (name : String) (value : Json) :
    Except Failure α := do
  let found ← require (value.field name) .key
  require (read found) .key

/-- A field of a document that may be null. -/
def readOptional {α : Type} (read : Json → Option α) (name : String) (value : Json) :
    Except Failure (Option α) :=
  readField (Json.asOptional read) name value

/-- A field of a document that may be null or absent. -/
def getOptional {α : Type} (read : Json → Option α) (name : String) (value : Json) :
    Except Failure (Option α) :=
  require (Json.asOptional read ((value.field name).getD .null)) .key

/-- A member of an enumeration, read from its written form. -/
def readEnum {α : Type} (ofText : String → Option α) (enum name : String) (value : Json) :
    Except Failure α := do
  let text ← readField Json.asText name value
  require (ofText text) (.value ("'" ++ text ++ "' is not a valid " ++ enum))

/-- A decimal, read from its text. -/
def asDecimal (value : Json) : Option Decimal :=
  value.asText.bind fun text => Decimal.parse text.toList

/-- A time, read from its text. -/
def asTime (value : Json) : Option Int :=
  value.asText.bind Calendar.fromIsoformat

/-- A UUID, read from its text. -/
def asUuid (value : Json) : Option Uuid :=
  value.asText.bind Uuid.parse

/-- Read every item of a list, in order. -/
def readAll {α : Type} (read : Json → Except Failure α) : List Json → Except Failure (List α)
  | [] => .ok []
  | item :: rest => do
      let first ← read item
      let others ← readAll read rest
      return first :: others

/-- Read every item of an array field. -/
def readEach {α : Type} (read : Json → Except Failure α) (name : String) (value : Json) :
    Except Failure (List α) := do
  let items ← readField Json.asArray name value
  readAll read items

def timeText (t : Int) : Json :=
  .text (Calendar.isoformat t)

/-! ## Encoders and decoders -/

/-- The stored document of an activity. -/
def activityToJson (activity : ActivityItem) : Json :=
  .object [
    ("activity_id_hash", .text activity.activityIdHash),
    ("activity_type", .text activity.activityType.text),
    ("occurred_at", timeText activity.occurredAt),
    ("symbol", Json.ofOptional .text activity.symbol),
    ("signed_quantity", Json.ofOptional decimalText activity.signedQuantity),
    ("provider_order_id", Json.ofOptional .text activity.providerOrderId),
    ("client_order_id", Json.ofOptional .text activity.clientOrderId),
    ("time_quality", .text activity.timeQuality.text),
    ("provider_activity_type", Json.ofOptional .text activity.providerActivityType)]

/-- The time quality of a stored activity. Activities stored without one have an exact time. -/
def readTimeQuality (value : Json) : Except Failure TimeQuality := do
  let text ← require (((value.field "time_quality").getD
    (.text "EXACT_TRANSACTION_TIME")).asText) .key
  require (TimeQuality.ofText text) (.value "ACTIVITY_FIELDS_INVALID")

/-- An activity, read from its document. -/
def activityFromJson (value : Json) : Except Failure ActivityItem := do
  let signedQuantity ← readOptional asDecimal "signed_quantity" value
  let activityIdHash ← readField Json.asText "activity_id_hash" value
  let activityType ← readEnum ActivityType.ofText "ActivityType" "activity_type" value
  let occurredAt ← readField asTime "occurred_at" value
  let symbol ← readOptional Json.asText "symbol" value
  let providerOrderId ← getOptional Json.asText "provider_order_id" value
  let clientOrderId ← getOptional Json.asText "client_order_id" value
  let timeQuality ← readTimeQuality value
  let providerActivityType ← getOptional Json.asText "provider_activity_type" value
  ActivityItem.make {
    activityIdHash, activityType, occurredAt, symbol, signedQuantity, providerOrderId,
    clientOrderId, timeQuality, providerActivityType }

/-- The stored document of an inventory item. -/
def inventoryToJson (item : InventoryItem) : Json :=
  .object [
    ("kind", .text item.kind.text),
    ("symbol", .text item.symbol),
    ("signed_quantity", .text (canonicalDecimal item.signedQuantity)),
    ("multiplier", .number item.multiplier)]

/-- An inventory item, read from its document. -/
def inventoryFromJson (value : Json) : Except Failure InventoryItem := do
  let kind ← readEnum InventoryKind.ofText "InventoryKind" "kind" value
  let symbol ← readField Json.asText "symbol" value
  let signedQuantity ← readField asDecimal "signed_quantity" value
  let multiplier ← readField Json.asNumber "multiplier" value
  InventoryItem.make { kind, symbol, signedQuantity, multiplier }

def openOrderLegToJson (leg : OpenOrderLeg) : Json :=
  .object [("symbol", .text leg.symbol), ("intent", .text leg.intent.text),
    ("ratio", .number leg.ratio)]

def openOrderLegFromJson (value : Json) : Except Failure OpenOrderLeg := do
  let symbol ← readField Json.asText "symbol" value
  let intent ← readEnum PositionIntent.ofText "PositionIntent" "intent" value
  let ratio ← readField Json.asNumber "ratio" value
  OpenOrderLeg.make { symbol, intent, ratio }

/-- The stored document of an open order. -/
def openOrderToJson (item : OpenOrderItem) : Json :=
  .object [
    ("provider_order_id", .text item.providerOrderId),
    ("client_order_id", .text item.clientOrderId),
    ("state", .text item.state.text),
    ("quantity", .number item.quantity),
    ("filled_quantity", .number item.filledQuantity),
    ("replaces_client_order_id", Json.ofOptional .text item.replacesClientOrderId),
    ("replaced_by_client_order_id", Json.ofOptional .text item.replacedByClientOrderId),
    ("order_class", .text item.orderClass),
    ("legs", .array (item.legs.map openOrderLegToJson))]

/-- An open order, read from its document. -/
def openOrderFromJson (value : Json) : Except Failure OpenOrderItem := do
  let providerOrderId ← readField Json.asText "provider_order_id" value
  let clientOrderId ← readField Json.asText "client_order_id" value
  let state ← readField Json.asText "state" value
  let quantity ← readField Json.asNumber "quantity" value
  let filledQuantity ← readField Json.asNumber "filled_quantity" value
  let replacesClientOrderId ← readOptional Json.asText "replaces_client_order_id" value
  let replacedByClientOrderId ← readOptional Json.asText "replaced_by_client_order_id" value
  let orderClass ← readField Json.asText "order_class" value
  let legs ← readEach openOrderLegFromJson "legs" value
  OpenOrderItem.make {
    providerOrderId, clientOrderId, quantity, filledQuantity, replacesClientOrderId,
    replacedByClientOrderId, orderClass, legs, state := AttemptState.ofText state }

/-- The stored document of an account observation. -/
def accountObservationToJson (account : AccountObservation) : Json :=
  .object [
    ("role", .text account.role.text),
    ("account_fingerprint", .text account.accountFingerprint),
    ("paper", .bool account.paper),
    ("status", .text account.status),
    ("account_blocked", .bool account.accountBlocked),
    ("trading_blocked", .bool account.tradingBlocked),
    ("options_trading_blocked", .bool account.optionsTradingBlocked),
    ("equity", decimalText account.equity),
    ("buying_power", decimalText account.buyingPower),
    ("cash", decimalText account.cash),
    ("observed_at", timeText account.observedAt),
    ("time_quality", .text account.timeQuality)]

/-- An account observation, read from its document. -/
def accountObservationFromJson (value : Json) : Except Failure AccountObservation := do
  let role ← readEnum AccountRole.ofText "AccountRole" "role" value
  let accountFingerprint ← readField Json.asText "account_fingerprint" value
  let paper ← readField Json.asBool "paper" value
  let status ← readField Json.asText "status" value
  let accountBlocked ← readField Json.asBool "account_blocked" value
  let tradingBlocked ← readField Json.asBool "trading_blocked" value
  let optionsTradingBlocked ← readField Json.asBool "options_trading_blocked" value
  let equity ← readField asDecimal "equity" value
  let buyingPower ← readField asDecimal "buying_power" value
  let cash ← readField asDecimal "cash" value
  let observedAt ← readField asTime "observed_at" value
  let timeQuality ← readField Json.asText "time_quality" value
  AccountObservation.make {
    role, accountFingerprint, paper, status, accountBlocked, tradingBlocked,
    optionsTradingBlocked, equity, buyingPower, cash, observedAt, timeQuality }

/-- The stored document of pagination evidence. -/
def paginationToJson (pagination : ActivityPaginationEvidence) : Json :=
  .object [
    ("requested_start", timeText pagination.requestedStart),
    ("requested_end", timeText pagination.requestedEnd),
    ("retrieved_through", timeText pagination.retrievedThrough),
    ("established_at", timeText pagination.establishedAt),
    ("page_count", .number pagination.pageCount),
    ("terminal_page_seen", .bool pagination.terminalPageSeen),
    ("visibility_complete_through", timeText pagination.visibilityCompleteThrough),
    ("visibility_horizon_seconds", .number (pagination.visibilityHorizon.tdiv 1000000))]

/-- Pagination evidence, read from its document. -/
def paginationFromJson (value : Json) : Except Failure ActivityPaginationEvidence := do
  let requestedStart ← readField asTime "requested_start" value
  let requestedEnd ← readField asTime "requested_end" value
  let retrievedThrough ← readField asTime "retrieved_through" value
  let establishedAt ← readField asTime "established_at" value
  let pageCount ← readField Json.asNumber "page_count" value
  let terminalPageSeen ← readField Json.asBool "terminal_page_seen" value
  let visibilityCompleteThrough ← readField asTime "visibility_complete_through" value
  let horizon ← readField Json.asNumber "visibility_horizon_seconds" value
  ActivityPaginationEvidence.make {
    requestedStart, requestedEnd, retrievedThrough, establishedAt, pageCount,
    terminalPageSeen, visibilityCompleteThrough,
    visibilityHorizon := Calendar.seconds horizon }

/-- The stored document of a sweep. -/
def sweepToJson (sweep : SweepObservation) : Json :=
  .object [
    ("retrieval_started_at", timeText sweep.retrievalStartedAt),
    ("retrieval_completed_at", timeText sweep.retrievalCompletedAt),
    ("activity_pagination", paginationToJson sweep.activityPagination),
    ("first_account", accountObservationToJson sweep.firstAccount),
    ("final_account", accountObservationToJson sweep.finalAccount),
    ("first_positions", .array (sweep.firstPositions.map inventoryToJson)),
    ("final_positions", .array (sweep.finalPositions.map inventoryToJson)),
    ("first_open_orders", .array (sweep.firstOpenOrders.map openOrderToJson)),
    ("final_open_orders", .array (sweep.finalOpenOrders.map openOrderToJson)),
    ("activities", .array (sweep.activities.map activityToJson)),
    ("positions_complete", .bool sweep.positionsComplete),
    ("orders_complete", .bool sweep.ordersComplete)]

/-- The document that a field holds, read by a decoder. -/
def readNested {α : Type} (read : Json → Except Failure α) (name : String) (value : Json) :
    Except Failure α := do
  let document ← require (value.field name) .key
  read document

/-- A sweep, read from its document. -/
def sweepFromJson (value : Json) : Except Failure SweepObservation := do
  let retrievalStartedAt ← readField asTime "retrieval_started_at" value
  let retrievalCompletedAt ← readField asTime "retrieval_completed_at" value
  let activityPagination ← readNested paginationFromJson "activity_pagination" value
  let firstAccount ← readNested accountObservationFromJson "first_account" value
  let finalAccount ← readNested accountObservationFromJson "final_account" value
  let firstPositions ← readEach inventoryFromJson "first_positions" value
  let finalPositions ← readEach inventoryFromJson "final_positions" value
  let firstOpenOrders ← readEach openOrderFromJson "first_open_orders" value
  let finalOpenOrders ← readEach openOrderFromJson "final_open_orders" value
  let activities ← readEach activityFromJson "activities" value
  let positionsComplete ← readField Json.asBool "positions_complete" value
  let ordersComplete ← readField Json.asBool "orders_complete" value
  SweepObservation.make {
    retrievalStartedAt, retrievalCompletedAt, activityPagination, firstAccount, finalAccount,
    firstPositions, finalPositions, firstOpenOrders, finalOpenOrders, activities,
    positionsComplete, ordersComplete }

variable [Digest]

/-- The stored document of an expectation. -/
def expectationToJson (expectation : ReconciliationExpectation) : Json :=
  .object [
    ("purpose", .text expectation.purpose.text),
    ("account_role", .text expectation.accountRole.text),
    ("account_fingerprint", .text expectation.accountFingerprint),
    ("expected_cash", decimalText expectation.expectedCash),
    ("baseline_captured_at", timeText expectation.baselineCapturedAt),
    ("expected_positions", .array (expectation.expectedPositions.map inventoryToJson)),
    ("expected_open_orders", .array (expectation.expectedOpenOrders.map openOrderToJson)),
    ("known_activities", .array (expectation.knownActivities.map activityToJson)),
    ("resolved_activity_hashes", .array (expectation.resolvedActivityHashes.map .text)),
    ("required_activity_window_start", timeText expectation.requiredActivityWindowStart),
    ("required_activity_complete_through",
      timeText expectation.requiredActivityCompleteThrough),
    ("intent_id", .text expectation.intentId.toText),
    ("intent_digest", .text expectation.intentDigest),
    ("attempt_ordinal", .number expectation.attemptOrdinal),
    ("request_hash", .text expectation.requestHash),
    ("expectation_hash", .text expectation.expectationHash)]

/-- The fields of an expectation, read from its document. -/
def expectationFieldsFromJson (value : Json) :
    Except Failure ReconciliationExpectationFields := do
  let purpose ← readEnum ReconciliationPurpose.ofText "ReconciliationPurpose" "purpose" value
  let accountRole ← readEnum AccountRole.ofText "AccountRole" "account_role" value
  let accountFingerprint ← readField Json.asText "account_fingerprint" value
  let expectedCash ← readField asDecimal "expected_cash" value
  let baselineCapturedAt ← readField asTime "baseline_captured_at" value
  let expectedPositions ← readEach inventoryFromJson "expected_positions" value
  let expectedOpenOrders ← readEach openOrderFromJson "expected_open_orders" value
  let knownActivities ← readEach activityFromJson "known_activities" value
  let resolvedActivityHashes ←
    readEach (fun item => require item.asText .key) "resolved_activity_hashes" value
  let requiredActivityWindowStart ← readField asTime "required_activity_window_start" value
  let requiredActivityCompleteThrough ←
    readField asTime "required_activity_complete_through" value
  let intentId ← readField asUuid "intent_id" value
  let intentDigest ← readField Json.asText "intent_digest" value
  let attemptOrdinal ← readField Json.asNumber "attempt_ordinal" value
  let requestHash ← readField Json.asText "request_hash" value
  return {
    purpose, accountRole, accountFingerprint, expectedCash, baselineCapturedAt,
    expectedPositions, expectedOpenOrders, knownActivities, resolvedActivityHashes,
    requiredActivityWindowStart, requiredActivityCompleteThrough, intentId, intentDigest,
    attemptOrdinal, requestHash }

/-- An expectation, read from its document. Its hash must be the stored one. -/
def expectationFromJson (value : Json) : Except Failure ReconciliationExpectation := do
  let fields ← expectationFieldsFromJson value
  let expectation ← ReconciliationExpectation.fromRepositoryState fields
  let stored ← readField Json.asText "expectation_hash" value
  raiseIf (expectation.expectationHash != stored) (.blocked "RECONCILIATION_EXPECTATION_CORRUPT")
  return expectation

/-! ## Rows -/

structure WholeAccountReconciliationRow where
  reconciliationId : Uuid
  reconciliationHash : String
  expectationHash : String
  intentId : Uuid
  intentDigest : String
  accountRole : String
  accountFingerprint : String
  purpose : String
  attemptOrdinal : Int
  requestHash : String
  acceptedAt : Int
  expectationPayload : Json
  sweepPayload : Json
  positionsManifestHash : String
  ordersManifestHash : String
  activitiesManifestHash : String
  safe : Bool
  blockCodes : List String

def reconciliationRow (value : WholeAccountReconciliation) : WholeAccountReconciliationRow where
  reconciliationId := value.reconciliationId
  reconciliationHash := value.reconciliationHash
  expectationHash := value.expectation.expectationHash
  intentId := value.expectation.intentId
  intentDigest := value.expectation.intentDigest
  accountRole := value.expectation.accountRole.text
  accountFingerprint := value.expectation.accountFingerprint
  purpose := value.expectation.purpose.text
  attemptOrdinal := value.expectation.attemptOrdinal
  requestHash := value.expectation.requestHash
  acceptedAt := value.acceptedAt
  expectationPayload := expectationToJson value.expectation
  sweepPayload := sweepToJson value.sweep
  positionsManifestHash := value.positionsManifestHash
  ordersManifestHash := value.ordersManifestHash
  activitiesManifestHash := value.activitiesManifestHash
  safe := value.safe
  blockCodes := value.blockCodes.map fun code => code.text

/-- The reconciliation of a row. Every stored identity must be the one computed again. -/
def reconciliationFromRow (row : WholeAccountReconciliationRow) :
    Except Failure WholeAccountReconciliation := do
  let expectation ← expectationFromJson row.expectationPayload
  let sweep ← sweepFromJson row.sweepPayload
  let value ← WholeAccountReconciliation.evaluate sweep expectation row.acceptedAt
  raiseIf (value.reconciliationId != row.reconciliationId
    || value.reconciliationHash != row.reconciliationHash
    || value.positionsManifestHash != row.positionsManifestHash
    || value.ordersManifestHash != row.ordersManifestHash
    || value.activitiesManifestHash != row.activitiesManifestHash
    || value.safe != row.safe
    || (value.blockCodes.map fun code => code.text) != row.blockCodes)
    (.blocked "WHOLE_ACCOUNT_RECONCILIATION_CORRUPT")
  return value

end AlphaDecay
