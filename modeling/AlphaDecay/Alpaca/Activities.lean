import AlphaDecay.Execution.Observations
import AlphaDecay.Foundation.CursorPages

/-!
# Account activities

The activities of an account are read page by page, checked to come in order, and kept as far as
they are in the window of the sweep. `listPayloads_served` says what is read of a provider that
serves a list in order: all of its activities in the window, an activity after the window, or more
pages than allowed. What is kept is what the window of the reconciliation does not leave to the
time before: `inWindow_eq_not_predates`.
-/

namespace AlphaDecay.Alpaca

open Foundation Foundation.CursorPages

/-! ## Payloads -/

/-- An instant as a provider gives it, with a time zone or without. -/
inductive ProviderInstant where
  | aware (instant : Int)
  | naive (instant : Int)
deriving DecidableEq, Repr

inductive FillSide where
  | buy
  | sell
  | sellShort
  | buyToCover
deriving DecidableEq, Repr

def FillSide.sells : FillSide → Bool
  | sell | sellShort => true
  | buy | buyToCover => false

/-- An activity as the provider gives it. A date is a day, counted from the start of year one. -/
structure ActivityPayload where
  id : String
  activityType : String
  transactionTime : Option ProviderInstant := none
  date : Option Int := none
  netAmount : Option Decimal := none
  symbol : Option String := none
  qty : Option Decimal := none
  price : Option Decimal := none
  side : Option FillSide := none
  orderId : Option String := none
  clientOrderId : Option String := none
deriving DecidableEq

def readError (code : String) : Failure :=
  .runtime code

/-- The day of an activity and, of a fill, its time. -/
def providerTime (payload : ActivityPayload) : Except Failure (Int × Option Int) :=
  if payload.activityType = "FILL" then
    match payload.transactionTime, payload.date with
    | some (.aware instant), none => .ok (dayOf instant, some instant)
    | _, _ => .error (readError "ACTIVITY_SCHEMA_INVALID")
  else
    match payload.date, payload.transactionTime with
    | some day, none => .ok (day, none)
    | _, _ => .error (readError "ACTIVITY_SCHEMA_INVALID")

/-- The time of an activity, and how exactly it is known. -/
def normalizedTime (payload : ActivityPayload) : Except Failure (Int × TimeQuality) := do
  let (eventDay, exactTime) ← providerTime payload
  return match exactTime with
    | some instant => (instant, .exactTransactionTime)
    | none => (eventDay * Calendar.microsPerDay, .dateOnly)

/-- Whether an activity is in a window. An activity after it is an error. -/
def inWindow (payload : ActivityPayload) (since before : Int) : Except Failure Bool := do
  let (eventDay, exactTime) ← providerTime payload
  match exactTime with
  | some instant => do
      raiseIf (decide (before < instant)) (readError "ACTIVITY_WINDOW_MISMATCH")
      return decide (since ≤ instant)
  | none => do
      raiseIf (decide (dayOf before < eventDay)) (readError "ACTIVITY_WINDOW_MISMATCH")
      return decide (dayOf since ≤ eventDay)

/-! ## Items -/

section

-- the upper case of a text, and the digest of a text
variable (upper sha256 : String → String)

/-- A text without the white space at its ends. -/
def strip (text : String) : String :=
  String.ofList ((text.toList.dropWhile isSpace).reverse.dropWhile isSpace).reverse

/-- The account at the baseline and the journal that funded it. -/
structure InitialFundingContext where
  capturedAt : Int
  equity : Decimal
  accountFingerprint : String
  activityIdHash : String
  positive : Decimal.ofInt 0 < equity
  fingerprint : isHash accountFingerprint = true
  hash : isHash activityIdHash = true

def occursIn (part text : String) : Bool :=
  text.toList.tails.any fun rest => part.toList.isPrefixOf rest

def cashType : String → Option ActivityType
  | "CSD" => some .deposit
  | "CSW" => some .withdrawal
  | "ACATC" => some .transfer
  | "ACATS" => some .transfer
  | "FOPT" => some .transfer
  | "JNL" => some .journal
  | "JNLC" => some .journal
  | "JNLS" => some .journal
  | _ => none

def optionType : String → Option ActivityType
  | "OPASN" => some .opasn
  | "OPTRD" => some .optrd
  | "OPEXC" => some .opexc
  | "OPEXP" => some .opexp
  | "OPXRC" => some .opxrc
  | _ => none

def corporateActionTypes : List String :=
  ["MA", "NC", "REORG", "SPLIT", "SPINOFF", "STOCK_SPLIT", "STOCK_SPINOFF"]

/-- Whether an activity is the journal that funded the account. -/
def isInitialFunding (payload : ActivityPayload) (funding : InitialFundingContext) :
    Except Failure Bool := do
  let (occurredAt, _) ← normalizedTime payload
  return decide (dayOf occurredAt ≤ dayOf funding.capturedAt) &&
    payload.netAmount.any (· == funding.equity) && sha256 payload.id == funding.activityIdHash

/-- The type of cash that a text names when it is no type of its own. -/
def otherType (raw : String) : ActivityType :=
  match cashType raw with
  | some found => found
  | none =>
      if raw.startsWith "DIV" then .dividend
      else if occursIn "FEE" raw then .fee
      else if occursIn "INT" raw then .interest
      else if corporateActionTypes.contains raw then .corporateAction
      else .unknownCash

def normalizedType (payload : ActivityPayload) (initialFunding : Option InitialFundingContext) :
    Except Failure ActivityType := do
  let raw := upper (strip payload.activityType)
  raiseIf (raw == "" || raw != payload.activityType) (readError "ACTIVITY_SCHEMA_INVALID")
  if raw = "FILL" then return .fill
  match optionType raw with
  | some found => return found
  | none =>
      match initialFunding with
      | some funding => do
          let funds ← if raw = "JNLC" then isInitialFunding sha256 payload funding
            else pure false
          return if funds then .initialFunding else otherType raw
      | none => return otherType raw

def signedActivityQuantity (payload : ActivityPayload) (activityType : ActivityType) :
    Except Failure (Option Decimal) :=
  match if activityType.movesQuantity then payload.qty else payload.netAmount with
  | none => do
      raiseIf (activityType.movesQuantity || activityType = .initialFunding)
        (readError "ACTIVITY_SCHEMA_INVALID")
      return none
  | some quantity => do
      let signed := if payload.side.any FillSide.sells then Decimal.round quantity.neg else quantity
      raiseIf (quantity == Decimal.ofInt 0) (readError "ACTIVITY_SCHEMA_INVALID")
      raiseIf (activityType = .fill && (payload.side.isNone || quantity < Decimal.ofInt 0 ||
        payload.symbol.isNone || !payload.price.any fun price => Decimal.ofInt 0 < price))
        (readError "ACTIVITY_SCHEMA_INVALID")
      raiseIf (payload.side.isSome && quantity < Decimal.ofInt 0)
        (readError "ACTIVITY_SCHEMA_INVALID")
      return some signed

/-- The activity of a payload. Orders of legs have the order of their parent as an alias. -/
def activityItem (providerToClient providerAliases : String → Option String)
    (initialFunding : Option InitialFundingContext) (payload : ActivityPayload) :
    Except Failure ActivityItem := do
  let activityType ← normalizedType upper sha256 payload initialFunding
  let (occurredAt, timeQuality) ← normalizedTime payload
  let providerOrderId := payload.orderId.map fun order => (providerAliases order).getD order
  let mapped := providerOrderId.bind providerToClient
  raiseIf (payload.clientOrderId.any fun client => mapped.any fun other => client != other)
    (readError "ACTIVITY_ORDER_LINEAGE_MISMATCH")
  let clientOrderId := if payload.clientOrderId.any (· != "") then payload.clientOrderId
    else if providerOrderId.isSome then mapped else payload.clientOrderId
  raiseIf (activityType = .fill && (providerOrderId.isNone || clientOrderId.isNone))
    (readError "ACTIVITY_ORDER_LINEAGE_INCOMPLETE")
  let signedQuantity ← signedActivityQuantity payload activityType
  match ActivityItem.make {
      activityIdHash := sha256 payload.id
      activityType := activityType
      occurredAt := occurredAt
      symbol := payload.symbol
      signedQuantity := signedQuantity
      providerOrderId := providerOrderId
      clientOrderId := clientOrderId
      timeQuality := timeQuality
      providerActivityType := some payload.activityType } with
  | .ok item => return item
  | .error _ => .error (readError "ACTIVITY_SCHEMA_INVALID")

end

/-! ## Pages -/

structure AccountActivitiesAdapter where
  pageSize : Nat
  maxPages : Nat
  pageSizeValid : 1 ≤ pageSize ∧ pageSize ≤ 100
  maxPagesValid : 1 ≤ maxPages ∧ maxPages ≤ 100

/-- What was read of the pages so far. The last exact time of a day is its first entry. -/
structure PageState where
  collected : List ActivityPayload := []
  seenIds : List String := []
  lastDay : Option Int := none
  lastExactByDay : List (Int × Int) := []

/-- Take the next activity of a page: its name is new, and it is not before the ones read so far. -/
def takePayload (since before : Int) (state : PageState) (payload : ActivityPayload) :
    Except Failure PageState := do
  let (eventDay, exactTime) ← providerTime payload
  raiseIf (payload.id.toList.all isSpace || state.seenIds.contains payload.id)
    (readError "ACTIVITY_PAGINATION_NONMONOTONIC")
  raiseIf (state.lastDay.any fun last => eventDay < last)
    (readError "ACTIVITY_PAGINATION_NONMONOTONIC")
  raiseIf (exactTime.any fun instant =>
    (state.lastExactByDay.lookup eventDay).any fun previous => instant < previous)
    (readError "ACTIVITY_PAGINATION_NONMONOTONIC")
  let inside ← inWindow payload since before
  return {
    collected := if inside then state.collected ++ [payload] else state.collected
    seenIds := payload.id :: state.seenIds
    lastDay := some eventDay
    lastExactByDay := (exactTime.map fun instant => (eventDay, instant)).toList ++
      state.lastExactByDay }

/-- Read the activities of a window page by page, and count the pages. -/
def listPayloads (adapter : AccountActivitiesAdapter)
    (getPage : Option String → Except Failure (List ActivityPayload)) (since before : Int) :
    Except Failure (List ActivityPayload × Nat) := do
  let (state, pageCount) ← readPages (·.id) (· == "") adapter.pageSize
    { loop := readError "ACTIVITY_PAGINATION_LOOP"
      limit := readError "ACTIVITY_PAGE_LIMIT_EXCEEDED" }
    getPage (takePayload since before) adapter.maxPages 0 {} [] none
  return (state.collected, pageCount)

/-! ## Windows -/

/-- An activity that is after a window. -/
def isLate (before : Int) (payload : ActivityPayload) : Bool :=
  match providerTime payload with
  | .ok (_, some instant) => decide (before < instant)
  | .ok (eventDay, none) => decide (dayOf before < eventDay)
  | .error _ => false

/-- An activity that is not before a window. -/
def isInside (since : Int) (payload : ActivityPayload) : Bool :=
  match providerTime payload with
  | .ok (_, some instant) => decide (since ≤ instant)
  | .ok (eventDay, none) => decide (dayOf since ≤ eventDay)
  | .error _ => false

section Windows

variable {payload : ActivityPayload} {since before : Int} {time : Int × Option Int}

/-- An activity with a time is in a window when it is not before it, and an error after it. -/
theorem inWindow_eq (htime : providerTime payload = .ok time) :
    inWindow payload since before =
      if isLate before payload then .error (readError "ACTIVITY_WINDOW_MISMATCH")
      else .ok (isInside since payload) := by
  obtain ⟨eventDay, exactTime⟩ := time
  unfold inWindow isLate isInside
  rw [htime]
  cases exactTime with
  | some instant =>
      by_cases hlate : before < instant
      · simp [raiseIf, hlate, bind, Except.bind]
      · simp [raiseIf, hlate, bind, Except.bind, pure, Except.pure]
  | none =>
      by_cases hlate : dayOf before < eventDay
      · simp [raiseIf, hlate, bind, Except.bind]
      · simp [raiseIf, hlate, bind, Except.bind, pure, Except.pure]

theorem dayOf_mul (day : Int) : dayOf (day * Calendar.microsPerDay) = day := by
  unfold dayOf
  exact Int.mul_ediv_cancel day (by decide)

theorem normalizedTime_of_activityItem {upper sha256 : String → String}
    {providerToClient providerAliases : String → Option String}
    {initialFunding : Option InitialFundingContext} {item : ActivityItem}
    (h : activityItem upper sha256 providerToClient providerAliases initialFunding payload =
      .ok item) : normalizedTime payload = .ok (item.occurredAt, item.timeQuality) := by
  obtain ⟨activityType, -, h⟩ := bind_ok.mp h
  obtain ⟨time, htime, h⟩ := bind_ok.mp h
  obtain ⟨-, h⟩ := check_bind_ok.mp h
  obtain ⟨-, h⟩ := check_bind_ok.mp h
  obtain ⟨quantity, -, h⟩ := bind_ok.mp h
  split at h
  · rename_i made hmade
    obtain rfl := Except.ok.inj h
    obtain ⟨hvalid, rfl⟩ := build_ok.mp hmade
    exact htime
  · cases h

/-- An activity is left out of a window exactly when it is before the window of the
reconciliation. -/
theorem inWindow_eq_not_predates {item : ActivityItem} {inside : Bool}
    (htime : normalizedTime payload = .ok (item.occurredAt, item.timeQuality))
    (h : inWindow payload since before = .ok inside) :
    inside = !activityPredatesWindow item since := by
  obtain ⟨⟨eventDay, exactTime⟩, hprovider, hnormalized⟩ := bind_ok.mp htime
  rw [inWindow_eq hprovider] at h
  split at h
  · cases h
  · rw [← Except.ok.inj h]
    unfold isInside activityPredatesWindow
    rw [hprovider]
    cases exactTime with
    | some instant =>
        obtain ⟨hinstant, hquality⟩ := Prod.mk.inj (Except.ok.inj hnormalized)
        rw [← hquality, ← hinstant]
        show decide (since ≤ instant) = !decide (instant < since)
        rw [← decide_not, decide_eq_decide, not_lt]
    | none =>
        obtain ⟨hinstant, hquality⟩ := Prod.mk.inj (Except.ok.inj hnormalized)
        rw [← hquality, ← hinstant, dayOf_mul]
        show decide (dayOf since ≤ eventDay) = !decide (eventDay < dayOf since)
        rw [← decide_not, decide_eq_decide, not_lt]

end Windows

/-! ## Provided lists -/

/-- The times of two activities are in order: their days, and on one day the times of fills. -/
def InOrder (first second : ActivityPayload) : Prop :=
  ∀ day exact day' exact', providerTime first = .ok (day, exact) →
    providerTime second = .ok (day', exact') →
      day ≤ day' ∧ ∀ t t', day = day' → exact = some t → exact' = some t' → t ≤ t'

/-- A list that a provider can have: every activity has a time and a name of its own, and they are
in order. -/
structure IsProvided (items : List ActivityPayload) : Prop where
  timed : ∀ item ∈ items, ∃ time, providerTime item = .ok time
  named : ∀ item ∈ items, item.id.toList.all isSpace = false
  distinct : (items.map (·.id)).Nodup
  ordered : items.Pairwise InOrder

/-- What is known once some activities were read: those in the window are collected, and every name,
day and time that is remembered is one of theirs. -/
structure ReadUpTo (since : Int) (front : List ActivityPayload) (state : PageState) : Prop where
  collected : state.collected = front.filter (isInside since)
  seen : ∀ id ∈ state.seenIds, id ∈ front.map (·.id)
  lastDay : ∀ day ∈ state.lastDay, ∃ item ∈ front, ∃ exact, providerTime item = .ok (day, exact)
  lastExact : ∀ day instant, state.lastExactByDay.lookup day = some instant →
    ∃ item ∈ front, providerTime item = .ok (day, some instant)

section Reading

variable {since : Int} {front items : List ActivityPayload} {state : PageState}

/-- The next activity of a provided list is taken, unless it is after the window. -/
theorem takePayload_eq (before : Int) {payload : ActivityPayload} (h : ReadUpTo since front state)
    (hprovided : IsProvided (front ++ [payload])) :
    ∃ next, ReadUpTo since (front ++ [payload]) next ∧
      takePayload since before state payload =
        if isLate before payload then .error (readError "ACTIVITY_WINDOW_MISMATCH")
        else .ok next := by
  obtain ⟨⟨eventDay, exactTime⟩, htime⟩ := hprovided.timed payload (by simp)
  have hnamed := hprovided.named payload (by simp)
  have horder : ∀ item ∈ front, InOrder item payload := by
    intro item hitem
    exact (List.pairwise_append.mp hprovided.ordered).2.2 item hitem payload (by simp)
  have hnew : state.seenIds.contains payload.id = false := by
    by_contra hold
    rw [Bool.not_eq_false, List.contains_iff_mem] at hold
    have hdistinct := hprovided.distinct
    rw [List.map_append, List.nodup_append] at hdistinct
    exact hdistinct.2.2 _ (h.seen _ hold) _ (by simp) rfl
  have hday : (state.lastDay.any fun last => eventDay < last) = false := by
    cases hlast : state.lastDay with
    | none => rfl
    | some last =>
        obtain ⟨item, hitem, exact, hprovider⟩ := h.lastDay last hlast
        have hle := (horder item hitem _ _ _ _ hprovider htime).1
        simpa using hle
  have hexact : (exactTime.any fun instant => (state.lastExactByDay.lookup eventDay).any
      fun previous => instant < previous) = false := by
    cases exactTime with
    | none => rfl
    | some instant =>
        cases hlast : state.lastExactByDay.lookup eventDay with
        | none => simp
        | some previous =>
            obtain ⟨item, hitem, hprovider⟩ := h.lastExact eventDay previous hlast
            have hle := (horder item hitem _ _ _ _ hprovider htime).2 _ _ rfl rfl rfl
            simpa [hlast] using hle
  refine ⟨{
    collected := if isInside since payload then state.collected ++ [payload] else state.collected
    seenIds := payload.id :: state.seenIds
    lastDay := some eventDay
    lastExactByDay := (exactTime.map fun instant => (eventDay, instant)).toList ++
      state.lastExactByDay }, ⟨?_, ?_, ?_, ?_⟩, ?_⟩
  · rw [List.filter_append, ← h.collected]
    by_cases hinside : isInside since payload = true
    · simp [hinside]
    · simp [hinside]
  · intro id hid
    rw [List.map_append, List.mem_append]
    rcases List.mem_cons.mp hid with rfl | hid
    · exact .inr (by simp)
    · exact .inl (h.seen id hid)
  · rintro day ⟨⟩
    exact ⟨payload, by simp, exactTime, htime⟩
  · intro day instant hlookup
    have hold : state.lastExactByDay.lookup day = some instant →
        ∃ item ∈ front ++ [payload], providerTime item = .ok (day, some instant) := by
      intro hlookup
      obtain ⟨item, hitem, hprovider⟩ := h.lastExact day instant hlookup
      exact ⟨item, List.mem_append_left _ hitem, hprovider⟩
    cases exactTime with
    | none => exact hold hlookup
    | some latest =>
        by_cases hsame : day = eventDay
        · subst hsame
          simp only [Option.map_some, Option.toList_some, List.singleton_append,
            List.lookup_cons_self, Option.some.injEq] at hlookup
          exact ⟨payload, by simp, hlookup ▸ htime⟩
        · refine hold ?_
          have hother : (day == eventDay) = false := by simpa using hsame
          simpa [List.lookup_cons, hother] using hlookup
  · unfold takePayload
    rw [htime]
    simp only [ok_bind, hnamed, hnew, hday, hexact, Bool.or_self, raiseIf, Bool.false_eq_true,
      ↓reduceIte, inWindow_eq htime]
    split <;> rfl

theorem IsProvided.start (h : IsProvided (front ++ items)) : IsProvided front where
  timed item hitem := h.timed item (List.mem_append_left _ hitem)
  named item hitem := h.named item (List.mem_append_left _ hitem)
  distinct := h.distinct.sublist ((List.sublist_append_left front items).map _)
  ordered := h.ordered.sublist (List.sublist_append_left front items)

/-- The activities of a provided list are taken one after another, unless one is after the
window. -/
theorem foldlM_takePayload (before : Int) (h : ReadUpTo since front state)
    (hprovided : IsProvided (front ++ items)) :
    ∃ last, ReadUpTo since (front ++ items) last ∧
      items.foldlM (takePayload since before) state =
        if items.any (isLate before) then .error (readError "ACTIVITY_WINDOW_MISMATCH")
        else .ok last := by
  induction items generalizing front state with
  | nil => exact ⟨state, by simpa using h, rfl⟩
  | cons payload items ih =>
      have hsplit : front ++ payload :: items = front ++ [payload] ++ items := by simp
      rw [hsplit] at hprovided ⊢
      obtain ⟨next, hnext, htake⟩ := takePayload_eq before h hprovided.start
      obtain ⟨last, hlast, hfold⟩ := ih hnext hprovided
      refine ⟨last, hlast, ?_⟩
      rw [List.foldlM_cons, htake, List.any_cons]
      by_cases hlate : isLate before payload = true
      · rw [if_pos hlate, hlate]
        rfl
      · rw [if_neg hlate, Bool.eq_false_iff.mpr hlate]
        exact hfold

end Reading

/-! ## Served lists -/

/-- The pages of a provider that serves a list. -/
def servePages (adapter : AccountActivitiesAdapter) (items : List ActivityPayload)
    (cursor : Option String) : Except Failure (List ActivityPayload) :=
  .ok (servedPage (·.id) adapter.pageSize items cursor)

/-- The most activities that the pages of a reader hold. -/
def AccountActivitiesAdapter.capacity (adapter : AccountActivitiesAdapter) : Nat :=
  adapter.maxPages * adapter.pageSize

/-- Of a provided list all activities in the window are read, unless one that the pages hold is
after the window, or the list fills all pages. -/
theorem listPayloads_served (adapter : AccountActivitiesAdapter) {items : List ActivityPayload}
    (h : IsProvided items) (since before : Int) :
    listPayloads adapter (servePages adapter items) since before =
      if (items.take adapter.capacity).any (isLate before) then
        .error (readError "ACTIVITY_WINDOW_MISMATCH")
      else if items.length < adapter.capacity then
        .ok (items.filter (isInside since), items.length / adapter.pageSize + 1)
      else .error (readError "ACTIVITY_PAGE_LIMIT_EXCEEDED") := by
  have hnamed : ∀ item ∈ items, (item.id == "") = false := by
    intro item hitem
    have hspace := h.named item hitem
    rw [beq_eq_false_iff_ne]
    intro hblank
    rw [hblank] at hspace
    cases hspace
  have hnone : ReadUpTo since [] {} := ⟨rfl, by simp, by rintro day ⟨⟩, by rintro day instant ⟨⟩⟩
  have hstart : IsProvided ([] ++ items.take adapter.capacity) := by
    rw [List.nil_append]
    rw [← List.take_append_drop adapter.capacity items] at h
    exact h.start
  obtain ⟨last, hlast, hfold⟩ := foldlM_takePayload before hnone hstart
  rw [List.nil_append] at hlast
  unfold listPayloads servePages
  rw [readPages_served adapter.pageSizeValid.1 h.distinct hnamed]
  show (((items.take adapter.capacity).foldlM _ _ >>= _) >>= _) = _
  rw [hfold]
  by_cases hlate : (items.take adapter.capacity).any (isLate before) = true
  · rw [if_pos hlate, if_pos hlate]
    rfl
  · rw [if_neg hlate, if_neg hlate, ok_bind]
    by_cases hshort : items.length < adapter.capacity
    · have hshort' : items.length < adapter.maxPages * adapter.pageSize := hshort
      have hall := hlast.collected
      rw [List.take_of_length_le hshort.le] at hall
      rw [if_pos hshort, if_pos hshort', ok_bind, ← hall]
      rfl
    · have hlong : ¬items.length < adapter.maxPages * adapter.pageSize := hshort
      rw [if_neg hshort, if_neg hlong]
      rfl

/-- What is read of a provided list are its activities that are not before the window. -/
theorem kept_of_served {adapter : AccountActivitiesAdapter} {items kept : List ActivityPayload}
    {since before : Int} {count : Nat} (h : IsProvided items)
    (hread : listPayloads adapter (servePages adapter items) since before = .ok (kept, count)) :
    kept = items.filter (isInside since) := by
  rw [listPayloads_served adapter h] at hread
  split at hread
  · cases hread
  · split at hread
    · exact (Prod.mk.inj (Except.ok.inj hread)).1.symm
    · cases hread

/-- Of a provided list all activities in the window are read, unless one that the pages hold is
after the window, or the list fills all pages. An activity is left out of the window exactly when it
is before the window of the reconciliation, so that every later sweep from the same start that is
provided with an activity of an earlier one reads it again. -/
theorem pagination_complete :
    (∀ (adapter : AccountActivitiesAdapter) (items : List ActivityPayload) (since before : Int),
      IsProvided items → listPayloads adapter (servePages adapter items) since before =
        if (items.take adapter.capacity).any (isLate before) then
          .error (readError "ACTIVITY_WINDOW_MISMATCH")
        else if items.length < adapter.capacity then
          .ok (items.filter (isInside since), items.length / adapter.pageSize + 1)
        else .error (readError "ACTIVITY_PAGE_LIMIT_EXCEEDED")) ∧
    (∀ (upper sha256 : String → String) (providerToClient providerAliases : String → Option String)
      (initialFunding : Option InitialFundingContext) (payload : ActivityPayload)
      (item : ActivityItem) (since before : Int) (inside : Bool),
      activityItem upper sha256 providerToClient providerAliases initialFunding payload =
        .ok item → inWindow payload since before = .ok inside →
          (inside = false ↔ activityPredatesWindow item since = true)) ∧
    ∀ (adapter adapter' : AccountActivitiesAdapter) (items items' kept kept' : List ActivityPayload)
      (since before before' : Int) (count count' : Nat), IsProvided items → IsProvided items' →
      listPayloads adapter (servePages adapter items) since before = .ok (kept, count) →
      listPayloads adapter' (servePages adapter' items') since before' = .ok (kept', count') →
        ∀ payload ∈ kept, payload ∈ items' → payload ∈ kept' := by
  refine ⟨fun adapter items since before h => listPayloads_served adapter h since before, ?_, ?_⟩
  · intro upper sha256 providerToClient providerAliases initialFunding payload item since before
      inside hitem hinside
    rw [inWindow_eq_not_predates (normalizedTime_of_activityItem hitem) hinside]
    simp
  · intro adapter adapter' items items' kept kept' since before before' count count' h h' hread
      hread' payload hkept hprovided
    rw [kept_of_served h hread] at hkept
    rw [kept_of_served h' hread']
    exact List.mem_filter.mpr ⟨hprovided, (List.mem_filter.mp hkept).2⟩

section Rehearsed

/-- A reader of two pages of two activities. -/
def rehearsedAdapter : AccountActivitiesAdapter where
  pageSize := 2
  maxPages := 2
  pageSizeValid := by decide
  maxPagesValid := by decide

/-- A fill of a rehearsal at a time. -/
def rehearsedFill (id : String) (instant : Int) : ActivityPayload where
  id := id
  activityType := "FILL"
  transactionTime := some (.aware instant)

/-- A fee and two fills of the second day. -/
def rehearsedPayloads : List ActivityPayload :=
  [{ id := "fee", activityType := "FEE", date := some 1 },
    rehearsedFill "first" (Calendar.microsPerDay + 10),
    rehearsedFill "second" (Calendar.microsPerDay + 20)]

theorem inOrder_of_times {first second : ActivityPayload} {time time' : Int × Option Int}
    (h : providerTime first = .ok time) (h' : providerTime second = .ok time')
    (hday : time.1 ≤ time'.1)
    (hexact : ∀ t ∈ time.2, ∀ t' ∈ time'.2, t ≤ t') : InOrder first second := by
  intro day exact day' exact' hfirst hsecond
  obtain rfl := Except.ok.inj (h.symm.trans hfirst)
  obtain rfl := Except.ok.inj (h'.symm.trans hsecond)
  exact ⟨hday, fun t t' _ ht ht' => hexact t ht t' ht'⟩

/-- The rehearsed activities are a list that a provider can have. -/
theorem isProvided_rehearsed : IsProvided rehearsedPayloads where
  timed := by
    simp only [rehearsedPayloads, List.mem_cons, List.not_mem_nil, or_false, forall_eq_or_imp,
      forall_eq]
    exact ⟨⟨_, rfl⟩, ⟨_, rfl⟩, ⟨_, rfl⟩⟩
  named := by decide +kernel
  distinct := by decide +kernel
  ordered := by
    refine .cons ?_ (.cons ?_ (.cons (by simp) .nil))
    · intro other hother
      simp only [List.mem_cons, List.not_mem_nil, or_false] at hother
      rcases hother with rfl | rfl
      · exact inOrder_of_times rfl rfl (by decide) (by rintro t ⟨⟩)
      · exact inOrder_of_times rfl rfl (by decide) (by rintro t ⟨⟩)
    · intro other hother
      obtain rfl := List.mem_singleton.mp hother
      exact inOrder_of_times rfl rfl (by decide) (by rintro t ⟨⟩ t' ⟨⟩; decide)

/-- The start of a window of a rehearsal, between its fills. -/
def rehearsedStart : Int :=
  Calendar.microsPerDay + 15

def rehearsedEnd : Int :=
  Calendar.microsPerDay + 20

/-- In the rehearsal the fee of the day and the second fill are read, on two pages, and the first
fill, which is left out, is before the window. -/
theorem pagination_complete_rehearsed :
    listPayloads rehearsedAdapter (servePages rehearsedAdapter rehearsedPayloads) rehearsedStart
        rehearsedEnd =
      .ok ([{ id := "fee", activityType := "FEE", date := some 1 },
        rehearsedFill "second" rehearsedEnd], 2) ∧
      ∀ kept count, listPayloads rehearsedAdapter (servePages rehearsedAdapter rehearsedPayloads)
        rehearsedStart (rehearsedEnd + 10) = .ok (kept, count) →
          rehearsedFill "second" rehearsedEnd ∈ kept := by
  have hread := pagination_complete.1 rehearsedAdapter rehearsedPayloads rehearsedStart
    rehearsedEnd isProvided_rehearsed
  have hvalue : listPayloads rehearsedAdapter (servePages rehearsedAdapter rehearsedPayloads)
      rehearsedStart rehearsedEnd =
        .ok ([{ id := "fee", activityType := "FEE", date := some 1 },
          rehearsedFill "second" rehearsedEnd], 2) := hread.trans (by decide +kernel)
  refine ⟨hvalue, fun kept count hlater => ?_⟩
  exact pagination_complete.2.2 _ _ _ _ _ _ _ _ _ _ _ isProvided_rehearsed isProvided_rehearsed
    hvalue hlater _ (by simp) (by simp [rehearsedPayloads, rehearsedEnd])

/-- A fill after the window is no activity to leave out: nothing is read. -/
theorem not_read_of_late :
    ¬∀ (adapter : AccountActivitiesAdapter) (items : List ActivityPayload) (since before : Int),
      IsProvided items → items.length < adapter.capacity →
        ∃ count, listPayloads adapter (servePages adapter items) since before =
          .ok (items.filter fun item => isInside since item && !isLate before item, count) := by
  intro hclaim
  have hprovided : IsProvided [rehearsedFill "late" 30] := by
    refine ⟨?_, by decide +kernel, List.nodup_singleton _, List.pairwise_singleton _ _⟩
    intro item hitem
    obtain rfl := List.mem_singleton.mp hitem
    exact ⟨_, rfl⟩
  obtain ⟨count, hread⟩ := hclaim rehearsedAdapter [rehearsedFill "late" 30] 0 20 hprovided
    (by decide)
  rw [listPayloads_served rehearsedAdapter hprovided] at hread
  cases hread

end Rehearsed

end AlphaDecay.Alpaca
