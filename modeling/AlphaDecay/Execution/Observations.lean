import AlphaDecay.Execution.Models
import Mathlib.Data.List.Lex
import Mathlib.Data.String.Basic

/-!
# What a sweep of an account observes

The account, its inventory, its open orders and its activities, as one sweep reads them, with the
evidence of how far the activities were paginated. Every value is built by its `make`, which runs
the check of its own construction, so a value of one of these types has passed that check.
-/

namespace AlphaDecay

open Foundation

/-! ## Field checks -/

/-- Require the text of a SHA-256 digest. -/
def requireHash (value : String) (code : String) : Except Failure Unit :=
  raiseIf (!isHash value) (.value code)

/-- Require a short text of visible ASCII characters. -/
def requireToken (value : String) (maximum : Nat) (code : String) : Except Failure Unit :=
  raiseIf (!(decide (1 ≤ value.toList.length ∧ value.toList.length ≤ maximum) &&
    value.toList.all fun c => decide (33 ≤ c.toNat ∧ c.toNat < 128))) (.value code)

/-- Require a short text of visible ASCII characters where there is one. -/
def requireOptionalToken (value : Option String) (maximum : Nat) (code : String) :
    Except Failure Unit :=
  match value with
  | some text => requireToken text maximum code
  | none => .ok ()

/-- Require a time that a UTC date-time can represent. -/
def requireUtc (value : Int) (code : String) : Except Failure Unit :=
  raiseIf (!decide (Calendar.InRange value)) (.value code)

/-- Require items in strict order of a key. -/
def requireCanonical {Item Key : Type} [LinearOrder Key] (items : List Item) (key : Item → Key)
    (code : String) : Except Failure Unit :=
  raiseIf (!decide ((items.map key).Pairwise (· < ·))) (.value code)

/-! ## Accounts -/

structure AccountObservationFields where
  role : AccountRole
  accountFingerprint : String
  paper : Bool
  status : String
  accountBlocked : Bool
  tradingBlocked : Bool
  optionsTradingBlocked : Bool
  equity : Decimal
  buyingPower : Decimal
  cash : Decimal
  observedAt : Int
  timeQuality : String

/-- The check made when an account observation is built. -/
def AccountObservationFields.postInit (account : AccountObservationFields) :
    Except Failure Unit := do
  raiseIf (account.role == .replay) (.value "ACCOUNT_ROLE_INVALID")
  requireHash account.accountFingerprint "ACCOUNT_FINGERPRINT_INVALID"
  requireUtc account.observedAt "ACCOUNT_OBSERVED_AT_INVALID"
  raiseIf (account.status == "" || account.timeQuality != "RETRIEVAL_TIME_ONLY")
    (.value "ACCOUNT_TIME_QUALITY_INVALID")

structure AccountObservation extends AccountObservationFields where
  valid : toAccountObservationFields.postInit = .ok ()

/-- Build an account observation, or say why it is invalid. -/
def AccountObservation.make (fields : AccountObservationFields) :
    Except Failure AccountObservation :=
  build AccountObservationFields.postInit (fun fields valid => { fields with valid }) fields

/-- Equality of account observations, decimals by value. -/
instance : BEq AccountObservation where
  beq a b :=
    decide (a.role = b.role ∧ a.accountFingerprint = b.accountFingerprint ∧ a.paper = b.paper ∧
      a.status = b.status ∧ a.accountBlocked = b.accountBlocked ∧
      a.tradingBlocked = b.tradingBlocked ∧
      a.optionsTradingBlocked = b.optionsTradingBlocked ∧ a.observedAt = b.observedAt ∧
      a.timeQuality = b.timeQuality) &&
    a.equity == b.equity && a.buyingPower == b.buyingPower && a.cash == b.cash

/-! ## Inventory -/

/-- The kinds of positions. -/
inductive InventoryKind where
  | option
  | equity
deriving DecidableEq, Repr

/-- The written form of a kind. -/
def InventoryKind.text : InventoryKind → String
  | option => "OPTION"
  | equity => "EQUITY"

/-- The kind of a written form. -/
def InventoryKind.ofText : String → Option InventoryKind
  | "OPTION" => some option
  | "EQUITY" => some equity
  | _ => none

@[simp] theorem InventoryKind.ofText_text (kind : InventoryKind) : ofText kind.text =
    some kind := by
  cases kind <;> rfl

structure InventoryItemFields where
  kind : InventoryKind
  symbol : String
  signedQuantity : Decimal
  multiplier : Int

/-- The check made when an inventory item is built. -/
def InventoryItemFields.postInit (item : InventoryItemFields) : Except Failure Unit := do
  requireToken item.symbol 64 "INVENTORY_ITEM_INVALID"
  raiseIf (item.signedQuantity == Decimal.ofInt 0
    || decide (item.multiplier ≤ 0)
    || (item.kind == .option && item.multiplier != 100)
    || (item.kind == .option && !item.signedQuantity.isIntegral)
    || (item.kind == .equity && item.multiplier != 1)) (.value "INVENTORY_ITEM_INVALID")

/-- A position: a signed quantity of one symbol. -/
structure InventoryItem extends InventoryItemFields where
  valid : toInventoryItemFields.postInit = .ok ()

/-- Build an inventory item, or say why it is invalid. -/
def InventoryItem.make (fields : InventoryItemFields) : Except Failure InventoryItem :=
  build InventoryItemFields.postInit (fun fields valid => { fields with valid }) fields

/-- Equality of inventory items, quantities by value. -/
instance : BEq InventoryItem where
  beq a b := decide (a.kind = b.kind ∧ a.symbol = b.symbol ∧ a.multiplier = b.multiplier) &&
    a.signedQuantity == b.signedQuantity

/-- An inventory item without the written form of its quantity. -/
def InventoryItem.content (item : InventoryItem) : InventoryKind × String × Int × ℚ :=
  (item.kind, item.symbol, item.multiplier, item.signedQuantity.value)

theorem InventoryItem.beq_iff {a b : InventoryItem} : (a == b) = true ↔ a.content = b.content := by
  show (decide (a.kind = b.kind ∧ a.symbol = b.symbol ∧ a.multiplier = b.multiplier) &&
    a.signedQuantity == b.signedQuantity) = true ↔ _
  simp [content, Decimal.beq_iff_value, and_assoc]

/-- Inventories are equal when their contents are. -/
theorem inventory_beq {a b : List InventoryItem} :
    (a == b) = decide (a.map InventoryItem.content = b.map InventoryItem.content) := by
  induction a generalizing b with
  | nil => cases b <;> rfl
  | cons item rest ih =>
      cases b with
      | nil => rfl
      | cons other others =>
          rw [List.cons_beq_cons, ih, Bool.eq_iff_iff, Bool.and_eq_true, InventoryItem.beq_iff]
          simp

/-- The key under which an inventory is sorted. -/
def inventoryKey (item : InventoryItem) : List String :=
  [item.kind.text, item.symbol]

/-! ## Open orders -/

structure OpenOrderLegFields where
  symbol : String
  intent : PositionIntent
  ratio : Int
deriving DecidableEq

/-- The check made when a leg of an open order is built. -/
def OpenOrderLegFields.postInit (leg : OpenOrderLegFields) : Except Failure Unit := do
  requireToken leg.symbol 64 "OPEN_ORDER_LEG_INVALID"
  raiseIf (!decide (1 ≤ leg.ratio ∧ leg.ratio ≤ 6)) (.value "OPEN_ORDER_LEG_INVALID")

structure OpenOrderLeg extends OpenOrderLegFields where
  valid : toOpenOrderLegFields.postInit = .ok ()
deriving DecidableEq

/-- Build a leg of an open order, or say why it is invalid. -/
def OpenOrderLeg.make (fields : OpenOrderLegFields) : Except Failure OpenOrderLeg :=
  build OpenOrderLegFields.postInit (fun fields valid => { fields with valid }) fields

structure OpenOrderItemFields where
  providerOrderId : String
  clientOrderId : String
  state : AttemptState
  quantity : Int
  filledQuantity : Int
  replacesClientOrderId : Option String
  replacedByClientOrderId : Option String
  orderClass : String
  legs : List OpenOrderLeg
deriving DecidableEq

/-- Whether a filled quantity fits the state of an order that is still open. -/
def openStateMatchesFill (state : AttemptState) (filledQuantity quantity : Int) : Bool :=
  state.satisfies fun broker =>
    broker.isPending && brokerStateMatchesFill broker filledQuantity quantity

/-- The check made when an open order is built. -/
def OpenOrderItemFields.postInit (order : OpenOrderItemFields) : Except Failure Unit := do
  requireToken order.providerOrderId 128 "OPEN_ORDER_ITEM_INVALID"
  requireToken order.clientOrderId 64 "OPEN_ORDER_ITEM_INVALID"
  requireOptionalToken order.replacesClientOrderId 64 "OPEN_ORDER_ITEM_INVALID"
  requireOptionalToken order.replacedByClientOrderId 64 "OPEN_ORDER_ITEM_INVALID"
  raiseIf (!decide (1 ≤ order.quantity ∧ order.quantity ≤ maxStructuralOptionQuantity)
    || !decide (0 ≤ order.filledQuantity ∧ order.filledQuantity ≤ order.quantity)
    || !openStateMatchesFill order.state order.filledQuantity order.quantity
    || order.orderClass != "MLEG"
    || !(order.legs.length == 2 || order.legs.length == 4)
    || !decide (order.legs.map fun leg => leg.symbol).Nodup
    || order.legs.foldl (fun divisor leg => Int.gcd divisor leg.ratio) 0 != 1
    || order.replacesClientOrderId == some order.clientOrderId
    || order.replacedByClientOrderId == some order.clientOrderId)
    (.value "OPEN_ORDER_ITEM_INVALID")

structure OpenOrderItem extends OpenOrderItemFields where
  valid : toOpenOrderItemFields.postInit = .ok ()
deriving DecidableEq

/-- Build an open order, or say why it is invalid. -/
def OpenOrderItem.make (fields : OpenOrderItemFields) : Except Failure OpenOrderItem :=
  build OpenOrderItemFields.postInit (fun fields valid => { fields with valid }) fields

/-! ## Activities -/

/-- The types of account activities. -/
inductive ActivityType where
  | opasn
  | opexc
  | opexp
  | opxrc
  | optrd
  | fill
  | reset
  | deposit
  | withdrawal
  | transfer
  | journal
  | unknownCash
  | initialFunding
  | dividend
  | fee
  | interest
  | corporateAction
deriving DecidableEq, Repr

namespace ActivityType

/-- The written form of an activity type. -/
def text : ActivityType → String
  | opasn => "OPASN"
  | opexc => "OPEXC"
  | opexp => "OPEXP"
  | opxrc => "OPXRC"
  | optrd => "OPTRD"
  | fill => "FILL"
  | reset => "RESET"
  | deposit => "DEPOSIT"
  | withdrawal => "WITHDRAWAL"
  | transfer => "TRANSFER"
  | journal => "JOURNAL"
  | unknownCash => "UNKNOWN_CASH"
  | initialFunding => "INITIAL_FUNDING"
  | dividend => "DIVIDEND"
  | fee => "FEE"
  | interest => "INTEREST"
  | corporateAction => "CORPORATE_ACTION"

/-- The activity type of a written form. -/
def ofText : String → Option ActivityType
  | "OPASN" => some opasn
  | "OPEXC" => some opexc
  | "OPEXP" => some opexp
  | "OPXRC" => some opxrc
  | "OPTRD" => some optrd
  | "FILL" => some fill
  | "RESET" => some reset
  | "DEPOSIT" => some deposit
  | "WITHDRAWAL" => some withdrawal
  | "TRANSFER" => some transfer
  | "JOURNAL" => some journal
  | "UNKNOWN_CASH" => some unknownCash
  | "INITIAL_FUNDING" => some initialFunding
  | "DIVIDEND" => some dividend
  | "FEE" => some fee
  | "INTEREST" => some interest
  | "CORPORATE_ACTION" => some corporateAction
  | _ => none

@[simp] theorem ofText_text (type : ActivityType) : ofText type.text = some type := by
  cases type <;> rfl

/-- The activities of an assignment or an exercise. -/
def isAssignment : ActivityType → Bool
  | opasn | opexc | opexp | opxrc => true
  | _ => false

/-- The activities that adjust an account from outside. -/
def isAccountAdjustment : ActivityType → Bool
  | reset | deposit | withdrawal | transfer | journal | unknownCash | dividend | fee | interest
  | corporateAction => true
  | _ => false

/-- The activities that move a quantity of a symbol. -/
def movesQuantity : ActivityType → Bool
  | opasn | opexc | opexp | opxrc | optrd | fill => true
  | _ => false

end ActivityType

/-- How exactly the time of an activity is known. -/
inductive TimeQuality where
  | exactTransactionTime
  | dateOnly
deriving DecidableEq, Repr

/-- The written form of a time quality. -/
def TimeQuality.text : TimeQuality → String
  | exactTransactionTime => "EXACT_TRANSACTION_TIME"
  | dateOnly => "DATE_ONLY"

/-- The time quality of a written form. -/
def TimeQuality.ofText : String → Option TimeQuality
  | "EXACT_TRANSACTION_TIME" => some exactTransactionTime
  | "DATE_ONLY" => some dateOnly
  | _ => none

@[simp] theorem TimeQuality.ofText_text (quality : TimeQuality) :
    ofText quality.text = some quality := by
  cases quality <;> rfl

structure ActivityItemFields where
  activityIdHash : String
  activityType : ActivityType
  occurredAt : Int
  symbol : Option String
  signedQuantity : Option Decimal
  providerOrderId : Option String := none
  clientOrderId : Option String := none
  timeQuality : TimeQuality := .exactTransactionTime
  providerActivityType : Option String := none

/-- The check made when an activity is built. -/
def ActivityItemFields.postInit (activity : ActivityItemFields) : Except Failure Unit := do
  requireHash activity.activityIdHash "ACTIVITY_HASH_INVALID"
  requireUtc activity.occurredAt "ACTIVITY_OCCURRED_AT_INVALID"
  requireOptionalToken activity.symbol 64 "ACTIVITY_FIELDS_INVALID"
  requireOptionalToken activity.providerOrderId 128 "ACTIVITY_FIELDS_INVALID"
  requireOptionalToken activity.clientOrderId 64 "ACTIVITY_FIELDS_INVALID"
  requireOptionalToken activity.providerActivityType 32 "ACTIVITY_FIELDS_INVALID"
  raiseIf (activity.activityType.movesQuantity && (activity.symbol.isNone ||
    activity.signedQuantity.all fun quantity => quantity == Decimal.ofInt 0))
    (.value "ACTIVITY_FIELDS_INVALID")

structure ActivityItem extends ActivityItemFields where
  valid : toActivityItemFields.postInit = .ok ()

/-- Build an activity, or say why it is invalid. -/
def ActivityItem.make (fields : ActivityItemFields) : Except Failure ActivityItem :=
  build ActivityItemFields.postInit (fun fields valid => { fields with valid }) fields

/-- Equality of activities, quantities by value. -/
instance : BEq ActivityItem where
  beq a b :=
    decide (a.activityIdHash = b.activityIdHash ∧ a.activityType = b.activityType ∧
      a.occurredAt = b.occurredAt ∧ a.symbol = b.symbol ∧
      a.providerOrderId = b.providerOrderId ∧ a.clientOrderId = b.clientOrderId ∧
      a.timeQuality = b.timeQuality ∧ a.providerActivityType = b.providerActivityType) &&
    sameDecimal a.signedQuantity b.signedQuantity

/-- The day of an instant, counted from the start of year one. -/
def dayOf (t : Int) : Int :=
  t / Calendar.microsPerDay

/-- A known activity happened before the sweep window and so cannot be observed. Activities with
a date only compare by calendar day. -/
def activityPredatesWindow (item : ActivityItem) (windowStart : Int) : Bool :=
  if item.timeQuality = .dateOnly then decide (dayOf item.occurredAt < dayOf windowStart)
  else decide (item.occurredAt < windowStart)

/-! ## Pagination -/

/-- How long after an event its activity is guaranteed to be visible. -/
def activityVisibilityHorizon : Int :=
  Calendar.seconds 86400

structure ActivityPaginationFields where
  requestedStart : Int
  requestedEnd : Int
  retrievedThrough : Int
  establishedAt : Int
  pageCount : Int
  terminalPageSeen : Bool
  visibilityCompleteThrough : Int
  visibilityHorizon : Int
deriving DecidableEq

/-- The check made when pagination evidence is built. -/
def ActivityPaginationFields.postInit (pagination : ActivityPaginationFields) :
    Except Failure Unit := do
  requireUtc pagination.requestedStart "ACTIVITY_PAGINATION_TIME_INVALID"
  requireUtc pagination.requestedEnd "ACTIVITY_PAGINATION_TIME_INVALID"
  requireUtc pagination.retrievedThrough "ACTIVITY_PAGINATION_TIME_INVALID"
  requireUtc pagination.establishedAt "ACTIVITY_PAGINATION_TIME_INVALID"
  requireUtc pagination.visibilityCompleteThrough "ACTIVITY_PAGINATION_TIME_INVALID"
  raiseIf (!decide (pagination.requestedStart ≤ pagination.retrievedThrough ∧
      pagination.retrievedThrough ≤ pagination.requestedEnd ∧
      pagination.requestedEnd ≤ pagination.establishedAt)
    || decide (pagination.visibilityCompleteThrough > pagination.requestedEnd)
    || !decide (1 ≤ pagination.pageCount ∧ pagination.pageCount ≤ 1000)
    || pagination.visibilityHorizon != activityVisibilityHorizon
    || decide (pagination.establishedAt - pagination.visibilityCompleteThrough <
      pagination.visibilityHorizon)) (.value "ACTIVITY_PAGINATION_INVALID")

structure ActivityPaginationEvidence extends ActivityPaginationFields where
  valid : toActivityPaginationFields.postInit = .ok ()
deriving DecidableEq

/-- Build pagination evidence, or say why it is invalid. -/
def ActivityPaginationEvidence.make (fields : ActivityPaginationFields) :
    Except Failure ActivityPaginationEvidence :=
  build ActivityPaginationFields.postInit (fun fields valid => { fields with valid }) fields

/-- Every activity up to the requested end was retrieved. -/
def ActivityPaginationEvidence.complete (pagination : ActivityPaginationEvidence) : Bool :=
  pagination.terminalPageSeen && pagination.retrievedThrough == pagination.requestedEnd

/-! ## Sweeps -/

structure SweepObservationFields where
  retrievalStartedAt : Int
  retrievalCompletedAt : Int
  activityPagination : ActivityPaginationEvidence
  firstAccount : AccountObservation
  finalAccount : AccountObservation
  firstPositions : List InventoryItem
  finalPositions : List InventoryItem
  firstOpenOrders : List OpenOrderItem
  finalOpenOrders : List OpenOrderItem
  activities : List ActivityItem
  positionsComplete : Bool
  ordersComplete : Bool

/-- Require that no two open orders share a provider order id. -/
def requireUniqueProviderOrders (orders : List OpenOrderItem) : Except Failure Unit :=
  raiseIf (!decide (orders.map fun order => order.providerOrderId).Nodup)
    (.value "OPEN_ORDER_PROVIDER_ID_DUPLICATE")

/-- Require an inventory in order of kind and symbol. -/
def requireCanonicalInventory (items : List InventoryItem) : Except Failure Unit :=
  requireCanonical items inventoryKey "INVENTORY_NOT_CANONICAL"

/-- Require open orders in order of client order id. -/
def requireCanonicalOrders (orders : List OpenOrderItem) : Except Failure Unit :=
  requireCanonical orders (fun order => order.clientOrderId) "OPEN_ORDERS_NOT_CANONICAL"

/-- Require activities in order of their hash. -/
def requireCanonicalActivities (activities : List ActivityItem) : Except Failure Unit :=
  requireCanonical activities (fun item => item.activityIdHash) "ACTIVITIES_NOT_CANONICAL"

/-- The order in time of the reads of a sweep. -/
def SweepObservationFields.inChronology (sweep : SweepObservationFields) : Bool :=
  decide (sweep.retrievalStartedAt ≤ sweep.firstAccount.observedAt ∧
    sweep.firstAccount.observedAt ≤ sweep.finalAccount.observedAt ∧
    sweep.finalAccount.observedAt ≤ sweep.retrievalCompletedAt ∧
    sweep.retrievalStartedAt ≤ sweep.activityPagination.establishedAt ∧
    sweep.activityPagination.establishedAt ≤ sweep.retrievalCompletedAt ∧
    sweep.firstAccount.observedAt ≤ sweep.activityPagination.establishedAt ∧
    sweep.activityPagination.establishedAt ≤ sweep.finalAccount.observedAt ∧
    sweep.activityPagination.requestedEnd = sweep.firstAccount.observedAt)

/-- The check made when a sweep is built. -/
def SweepObservationFields.postInit (sweep : SweepObservationFields) : Except Failure Unit := do
  requireUtc sweep.retrievalStartedAt "SWEEP_TIME_INVALID"
  requireUtc sweep.retrievalCompletedAt "SWEEP_TIME_INVALID"
  raiseIf (decide (sweep.retrievalCompletedAt < sweep.retrievalStartedAt))
    (.value "SWEEP_TIME_INVALID")
  raiseIf (!sweep.inChronology) (.value "SWEEP_CHRONOLOGY_INVALID")
  requireCanonicalInventory sweep.firstPositions
  requireCanonicalInventory sweep.finalPositions
  requireCanonicalOrders sweep.firstOpenOrders
  requireCanonicalOrders sweep.finalOpenOrders
  requireUniqueProviderOrders sweep.firstOpenOrders
  requireUniqueProviderOrders sweep.finalOpenOrders
  requireCanonicalActivities sweep.activities

/-- One sweep of an account: two reads of it with the activities read in between. -/
structure SweepObservation extends SweepObservationFields where
  valid : toSweepObservationFields.postInit = .ok ()

/-- Build a sweep, or say why it is invalid. -/
def SweepObservation.make (fields : SweepObservationFields) : Except Failure SweepObservation :=
  build SweepObservationFields.postInit (fun fields valid => { fields with valid }) fields

/-- Equality of sweeps, decimals by value. -/
instance : BEq SweepObservation where
  beq a b :=
    decide (a.retrievalStartedAt = b.retrievalStartedAt ∧
      a.retrievalCompletedAt = b.retrievalCompletedAt ∧
      a.activityPagination = b.activityPagination ∧ a.firstOpenOrders = b.firstOpenOrders ∧
      a.finalOpenOrders = b.finalOpenOrders ∧ a.positionsComplete = b.positionsComplete ∧
      a.ordersComplete = b.ordersComplete) &&
    a.firstAccount == b.firstAccount && a.finalAccount == b.finalAccount &&
    a.firstPositions == b.firstPositions && a.finalPositions == b.finalPositions &&
    a.activities == b.activities

end AlphaDecay
