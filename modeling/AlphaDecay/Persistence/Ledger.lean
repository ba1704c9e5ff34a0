import AlphaDecay.Persistence.ExplainedChange
import AlphaDecay.Persistence.FinalRehearsal
import AlphaDecay.Persistence.ReplacementTarget
import AlphaDecay.Persistence.StateChain

/-!
# The ledger of finalized fills

The reconciliation states of the submission account keep a ledger: the cash and the positions of a
state are those of the baseline with the fills of every intent that was finalized since. `Entry`
says so of one state and the intents before it, and `ledger_kept` says it of every state in every
run of the repository.
-/

namespace AlphaDecay

open Foundation Table

/-! ## Finalized intents -/

structure FinalizedIntent where
  legs : List OrderLegIntent
  attempts : List OrderAttemptRow

def FinalizedIntent.fills (finalized : FinalizedIntent) : List OrderAttemptRow :=
  finalized.attempts.filter fun row => row.filledQuantity != 0

def FinalizedIntent.cashFlows (finalized : FinalizedIntent) : List Decimal :=
  finalized.fills.map fun row => fillCash (attemptFromRow row finalized.attempts)

/-- The signed quantities by which a fill moves the position of a symbol. -/
def legChanges (legs : List OrderLegIntent) (filledQuantity : Int) (symbol : String) :
    List Decimal :=
  (legs.filter fun leg => leg.symbol == symbol).map (signedChange filledQuantity)

/-- The signed quantities by which the fills move the position of a symbol. -/
def FinalizedIntent.changes (finalized : FinalizedIntent) (symbol : String) : List Decimal :=
  finalized.fills.flatMap fun row => legChanges finalized.legs row.filledQuantity symbol

/-- A finalization stored a certificate. -/
def isCertified : Except Failure (Database × Option ExecutionCertificate) → Bool
  | .ok (_, some _) => true
  | _ => false

/-- The sum of some amounts, added to a first one in order. -/
def total (first : Decimal) (amounts : List Decimal) : Decimal :=
  amounts.foldl (fun sum amount => sum + amount) first

section Finalized

variable [Digest] (settings : RepositorySettings)

def finalizedBy (db : Database) (transaction : Transaction) : Option FinalizedIntent :=
  match transaction.call with
  | .finalizeExecutionAuthorized certificate sweep requestedStatus claim positionGreeks =>
      if isCertified (finalizeExecutionAuthorized settings db certificate sweep requestedStatus
        claim positionGreeks transaction.now transaction.fresh) then
        (db.intent claim.intentId).map fun intent =>
          ⟨intent.envelope.legs, db.attemptsOf intent.intentId⟩
      else none
  | _ => none

/-- A database with the intents that were finalized so far, after one more transaction. -/
def recordFinalized (record : Database × List FinalizedIntent) (transaction : Transaction) :
    Database × List FinalizedIntent :=
  (execute settings transaction record.1,
    record.2 ++ (finalizedBy settings record.1 transaction).toList)

/-- The intents that some transactions finalize, in order. -/
def finalizedIn (db : Database) (transactions : List Transaction) : List FinalizedIntent :=
  (transactions.foldl (recordFinalized settings) (db, [])).2

end Finalized

/-! ## The law -/

/-- A reconciliation state keeps the ledger of the intents that were finalized before it. -/
structure Entry (baseline : SubmissionBaselineRow) (history : List FinalizedIntent)
    (row : AccountReconciliationStateRow) : Prop where
  sequence : row.sequence = 1 + history.length
  cash : row.expectedCash.value =
    (total baseline.equity (history.flatMap FinalizedIntent.cashFlows)).value
  quantities : ∀ symbol, (heldQuantity (positionOf row.expectedPositions symbol)).value =
    (total (Decimal.ofInt 0) (history.flatMap fun finalized => finalized.changes symbol)).value
  options : ∀ item ∈ row.expectedPositions,
    item.kind = .option ∧ item.multiplier = 100 ∧ item.signedQuantity.value ≠ 0
  sorted : (row.expectedPositions.map fun item => item.symbol).Pairwise (· < ·)
  orders : row.expectedOpenOrders = []

/-- The reconciliation states keep the ledger of the intents that were finalized: there is one
state more than there are intents, each keeps the ledger of those before it, and an intent without
a fill changes neither cash nor positions. -/
structure Ledger (db : Database) (history : List FinalizedIntent) : Prop where
  length : db.states.rows = [] ∧ history = [] ∨ db.states.rows.length = history.length + 1
  entry : ∀ n row, db.states.rows[n]? = some row → ∃ baseline ∈ db.baselines.rows,
    row.baselineId = baseline.baselineId ∧ Entry baseline (history.take n) row
  unfilled : ∀ n finalized row next, history[n]? = some finalized → finalized.fills = [] →
    db.states.rows[n]? = some row → db.states.rows[n + 1]? = some next →
      next.expectedCash.value = row.expectedCash.value ∧
        next.expectedPositions = row.expectedPositions

/-! ## Sums -/

theorem value_total_congr {first other : Decimal} (h : first.value = other.value)
    (amounts : List Decimal) : (total first amounts).value = (total other amounts).value := by
  induction amounts generalizing first other with
  | nil => exact h
  | cons amount rest ih => exact ih (Decimal.value_add_congr h rfl)

theorem total_append (first : Decimal) (left right : List Decimal) :
    total first (left ++ right) = total (total first left) right :=
  List.foldl_append

/-! ## Cash of attempts -/

structure CashFits (row : OrderAttemptRow) : Prop where
  prepared : row.state = .prepared → row.filledQuantity = 0
  unfilled : ∀ state, row.state = .broker state → row.filledQuantity = 0 →
    isZeroCashFlow row.fillCashFlow = true

section Cash

variable [Digest] {settings : RepositorySettings} {db after : Database} {start now : Int}

omit [Digest] in
/-- An observation that may follow has no cash flow without a fill. -/
theorem validateAttemptObservation_cash {existing observed : OrderAttempt}
    (h : validateAttemptObservation existing observed = .ok ())
    (hunfilled : observed.filledQuantity = 0) : isZeroCashFlow observed.fillCashFlow = true := by
  simp only [validateAttemptObservation, require_bind_ok, check_bind_ok] at h
  obtain ⟨state, -, providerOrderId, -, -, -, -, -, -, hcash, -⟩ := h
  rw [requireCashFlow, if_pos hunfilled, raiseIf_ok, Bool.not_eq_false'] at hcash
  exact hcash

/-- A revision of an attempt keeps a cash flow that fits. -/
theorem Revision.cashFits {old new : OrderAttemptRow}
    (h : Revision settings db after now old new) (hold : CashFits old) : CashFits new := by
  cases h with
  | stay => exact hold
  | @observed permit attempt observation h =>
      constructor
      · intro hprepared
        obtain ⟨found, hfound, -⟩ := validateAttemptObservation_state h.valid
        cases hfound.symm.trans hprepared
      · intro state _ hunfilled
        exact validateAttemptObservation_cash h.valid hunfilled
  | refreshed h hrefreshed => exact ⟨hold.prepared, hold.unfilled⟩

/-- An attempt that an issue creates has no fill. -/
theorem Issue.created_unfilled {rows : PreparationRows} {evaluated : WholeAccountReconciliation}
    {attempt : OrderAttempt} {issuance : Issuance} {replacesId : Option Uuid}
    (h : Issue settings db after rows evaluated attempt issuance now)
    (hcreated : issuance.created = some replacesId) : attempt.filledQuantity = 0 := by
  rcases h.created_facts hcreated with ⟨hpurpose, -⟩ | ⟨-, target, -, -, hvalid⟩
  · exact (h.submission_facts hpurpose).2.2.2.2.1
  · exact hvalid.unfilled

/-- The cash flows fit in every state that the repository reaches. -/
theorem cashFits_of_reachable {world : World} (h : (repository settings).Reachable world) :
    ∀ row ∈ world.db.attempts.rows, CashFits row := by
  refine attempts_of_reachable h Revision.cashFits fun hissue hmade _ =>
    ⟨fun _ => hissue.created_unfilled hmade, fun state hstate => ?_⟩
  cases (hissue.created_prepared hmade).symm.trans hstate

end Cash

/-! ## Positions -/

section

variable {filledQuantity : Int} {positions next : Dict String InventoryItem}
variable {items : List InventoryItem}

variable {state : AccountReconciliationStateRow}

/-- Every position of a dictionary is an option. -/
def OnlyOptions (positions : Dict String InventoryItem) : Prop :=
  ∀ symbol item, positions.get symbol = some item → item.kind = .option

theorem value_zero : (Decimal.ofInt 0).value = 0 := by
  rw [Decimal.value_ofInt, Int.cast_zero]

/-- The fill of a leg moves the quantity of its symbol by its signed change. -/
theorem applyLeg_quantity {leg : OrderLegIntent}
    (h : applyLeg filledQuantity positions leg = .ok next) (symbol : String) :
    (quantityOf next symbol).value =
      (total (quantityOf positions symbol) (legChanges [leg] filledQuantity symbol)).value := by
  by_cases hsymbol : leg.symbol = symbol
  · subst hsymbol
    have hchanges : legChanges [leg] filledQuantity leg.symbol =
        [signedChange filledQuantity leg] := by
      simp [legChanges]
    have hcontent := applyLeg_self h
    rw [hchanges]
    show (heldQuantity (next.get leg.symbol)).value =
      (heldQuantity (positions.get leg.symbol) + signedChange filledQuantity leg).value
    unfold contentAfterLeg at hcontent
    dsimp only at hcontent
    split at hcontent
    · -- A position that is closed is left out.
      rename_i hzero
      rw [Option.map_eq_none_iff] at hcontent
      rw [hcontent, Decimal.beq_iff_value.mp hzero]
      rfl
    · obtain ⟨item, hitem, hfields⟩ := Option.map_eq_some_iff.mp hcontent
      rw [hitem]
      exact congrArg (fun content => content.2.2.2) hfields
  · have hchanges : legChanges [leg] filledQuantity symbol = [] := by
      simp [legChanges, hsymbol]
    rw [hchanges, quantityOf, applyLeg_other hsymbol h]
    rfl

/-- The fill of legs moves the quantity of a symbol by the signed changes of its legs. -/
theorem applyLegs_quantity (legs : List OrderLegIntent)
    (h : legs.foldlM (applyLeg filledQuantity) positions = .ok next) (symbol : String) :
    (quantityOf next symbol).value =
      (total (quantityOf positions symbol) (legChanges legs filledQuantity symbol)).value := by
  induction legs generalizing positions with
  | nil =>
      cases h
      rfl
  | cons leg rest ih =>
      rw [List.foldlM_cons] at h
      obtain ⟨middle, hleg, hrest⟩ := bind_ok.mp h
      have hsplit : legChanges (leg :: rest) filledQuantity symbol =
          legChanges [leg] filledQuantity symbol ++ legChanges rest filledQuantity symbol := by
        unfold legChanges
        rw [← List.map_append, ← List.filter_append]
        rfl
      rw [ih hrest, hsplit, total_append]
      exact value_total_congr (applyLeg_quantity hleg symbol) _

/-- The fill of legs leaves options where there were only options. -/
theorem applyLegs_options (legs : List OrderLegIntent) (hoptions : OnlyOptions positions)
    (h : legs.foldlM (applyLeg filledQuantity) positions = .ok next) : OnlyOptions next := by
  induction legs generalizing positions with
  | nil =>
      cases h
      exact hoptions
  | cons leg rest ih =>
      rw [List.foldlM_cons] at h
      obtain ⟨middle, hleg, hrest⟩ := bind_ok.mp h
      refine ih ?_ hrest
      intro symbol item hitem
      by_cases hsymbol : leg.symbol = symbol
      · subst hsymbol
        have hcontent := applyLeg_self hleg
        rw [hitem] at hcontent
        unfold contentAfterLeg at hcontent
        dsimp only at hcontent
        split at hcontent
        · cases hcontent
        · exact congrArg Prod.fst (Option.some.inj hcontent)
      · rw [applyLeg_other hsymbol hleg] at hitem
        exact hoptions symbol item hitem

theorem get_of_mem_sorted (hkeyed : positions.Keyed symbolOf) {item : InventoryItem}
    (h : item ∈ sortedPositions positions) : positions.get item.symbol = some item := by
  rw [sortedPositions, mem_orderBy] at h
  obtain ⟨symbol, hget⟩ := Dict.mem_values.mp h
  have hsymbol : item.symbol = symbol := hkeyed symbol item hget
  rw [hsymbol, hget]

/-- The positions of a state as a dictionary by symbol. -/
def positionsBySymbol (items : List InventoryItem) : Dict String InventoryItem :=
  Dict.ofList symbolOf items

theorem quantityOf_bySymbol (items : List InventoryItem) (symbol : String) :
    quantityOf (positionsBySymbol items) symbol = heldQuantity (positionOf items symbol) := by
  unfold quantityOf
  rw [positionsBySymbol, Dict.get_ofList]
  rfl

theorem onlyOptions_bySymbol (h : ∀ item ∈ items, item.kind = .option) :
    OnlyOptions (positionsBySymbol items) := by
  intro symbol item hitem
  rw [positionsBySymbol, Dict.get_ofList] at hitem
  exact h item (List.mem_filter.mp (List.mem_of_getLast? hitem)).1

/-- The signed quantities by which the fill of an attempt moves the position of a symbol. -/
def fillChanges (legs : List OrderLegIntent) (filledQuantity : Int) (symbol : String) :
    List Decimal :=
  if filledQuantity = 0 then [] else legChanges legs filledQuantity symbol

/-- The positions after a fill: each symbol is moved by its legs, and options stay options. -/
theorem positionsAfterFill_moves {intent : ExecutionIntentRow} {attempt : OrderAttempt}
    (h : positionsAfterFill intent state attempt = .ok items)
    (hoptions : ∀ item ∈ state.expectedPositions, item.kind = .option) :
    (∀ symbol, (heldQuantity (positionOf items symbol)).value =
      (total (heldQuantity (positionOf state.expectedPositions symbol))
        (fillChanges intent.envelope.legs attempt.filledQuantity symbol)).value) ∧
      ∀ item ∈ items, item.kind = .option := by
  have hkeyed : (positionsBySymbol state.expectedPositions).Keyed symbolOf := Dict.keyed_ofList _
  have hdict := onlyOptions_bySymbol hoptions
  have hsorted : ∀ {positions : Dict String InventoryItem}, positions.Keyed symbolOf →
      OnlyOptions positions → ∀ item ∈ sortedPositions positions, item.kind = .option :=
    fun hkeyed honly item hitem => honly _ _ (get_of_mem_sorted hkeyed hitem)
  unfold positionsAfterFill at h
  unfold fillChanges
  split at h
  · rename_i hzero
    cases h
    refine ⟨fun symbol => ?_, hsorted hkeyed hdict⟩
    rw [if_pos hzero]
    have hsame := positionOf_sorted hkeyed symbol
    rw [positionsBySymbol, Dict.get_ofList] at hsame
    exact congrArg (fun position => (heldQuantity position).value) hsame
  · rename_i hfilled
    simp only [check_bind_ok] at h
    obtain ⟨-, h⟩ := h
    obtain ⟨filled, hlegs, h⟩ := bind_ok.mp h
    cases h
    have hafter := applyLegs_keyed intent.envelope.legs hkeyed hlegs
    refine ⟨fun symbol => ?_, hsorted hafter (applyLegs_options _ hdict hlegs)⟩
    rw [if_neg hfilled, positionOf_sorted hafter, ← quantityOf_bySymbol]
    exact applyLegs_quantity intent.envelope.legs hlegs symbol

/-- Without a fill the positions stay, where they are in canonical order. -/
theorem positionsAfterFill_unfilled {intent : ExecutionIntentRow} {attempt : OrderAttempt}
    (h : positionsAfterFill intent state attempt = .ok items)
    (hunfilled : attempt.filledQuantity = 0)
    (hsymbols : (state.expectedPositions.map fun item => item.symbol).Nodup)
    (hsorted : (state.expectedPositions.map inventoryKey).Pairwise (· < ·)) :
    items = state.expectedPositions := by
  rw [positionsAfterFill, if_pos hunfilled] at h
  cases h
  have hvalues : (Dict.ofList (fun item : InventoryItem => item.symbol)
      state.expectedPositions).values = state.expectedPositions := Dict.values_ofList hsymbols
  rw [sortedPositions, hvalues]
  rw [List.pairwise_map] at hsorted
  exact orderBy_eq_self (hsorted.imp fun hlt => le_of_lt hlt)

end

/-! ## Fills of an intent -/

section

variable [Digest] {settings : RepositorySettings} {db after : Database}

variable {certificate : ExecutionCertificate}

omit [Digest] in
/-- The attempts that count for an execution are all of them, or all but a prepared replacement. -/
theorem executionAttemptRows_cases {attempts counted : List OrderAttemptRow}
    {permits : List BrokerMutationPermit}
    (h : executionAttemptRows attempts permits = .ok counted) :
    counted = attempts ∨ ∃ replacement, replacement.state = .prepared ∧
      attempts = counted ++ [replacement] := by
  unfold executionAttemptRows at h
  split at h
  · rename_i predecessor replacement hprepared
    unfold withoutSuperseded at h
    obtain ⟨permit, -, h⟩ := bind_ok.mp h
    simp only [check_bind_ok] at h
    obtain ⟨-, h⟩ := h
    cases h
    split
    · right
      unfold preparedReplacement at hprepared
      split at hprepared
      · rename_i before final hbefore hfinal
        split at hprepared
        · rename_i hstate
          cases hprepared
          exact ⟨_, hstate, (List.dropLast_append_getLast? _ hfinal).symm⟩
        · cases hprepared
      · cases hprepared
    · exact .inl rfl
  · cases h
    exact .inl rfl

/-- A finalized execution has no fill before its last attempt. -/
theorem validateFinalization_lineage {intent : ExecutionIntent} {attempts : List OrderAttempt}
    {reconciliation : Reconciliation} {requestedStatus : String} {trustedNow : Int}
    {result : ExecutionCertificate × Bool}
    (h : validateFinalization intent attempts certificate reconciliation requestedStatus
      trustedNow = .ok result) :
    ∃ last, attempts.getLast? = some last ∧ result.2 = decide (0 < last.filledQuantity) ∧
      ∀ attempt ∈ attempts, attempt.ordinal < last.ordinal → attempt.filledQuantity = 0 := by
  simp only [validateFinalization, check_bind_ok, require_bind_ok, checkEach_ok] at h
  obtain ⟨-, -, last, hlast, -, -, hchecks, -, -, -, -, -, -, -, h⟩ := h
  cases h
  refine ⟨last, hlast, rfl, fun attempt hattempt hordinal => ?_⟩
  have hmem : ∀ (previous : Option String) (items : List OrderAttempt), attempt ∈ items →
      ∃ before, (before, attempt) ∈ withPredecessor previous items := by
    intro previous items
    induction items generalizing previous with
    | nil => rintro ⟨⟩
    | cons item rest ih =>
        intro hin
        rcases List.mem_cons.mp hin with rfl | hrest
        · exact ⟨previous, List.mem_cons_self⟩
        · obtain ⟨before, hbefore⟩ := ih (some item.clientOrderId) hrest
          exact ⟨before, List.mem_cons_of_mem _ hbefore⟩
  obtain ⟨before, hentry⟩ := hmem none attempts hattempt
  have hcheck := hchecks _ hentry
  simp only [validateFinalAttempt, check_bind_ok, raiseIf_ok] at hcheck
  simpa [hordinal] using hcheck.2.2.2.1

/-- The fills of an intent that is finalized: its last attempt, where it is filled. -/
theorem Settlement.fills {claim : ExecutionIntent} {sweep : SweepObservation}
    {requestedStatus : String} {now : Int} {lockId : Uuid} {rows : FinalizationRows}
    {evaluated : WholeAccountReconciliation} {latest : AttemptObservationRow}
    {permit : BrokerMutationPermit} {state : AccountReconciliationState}
    {complete : ExecutionCertificate} {hasFill : Bool}
    (h : Settlement settings db after claim sweep requestedStatus now lockId rows evaluated latest
      permit state complete certificate hasFill) {last : OrderAttemptRow}
    (hlast : rows.attempts.getLast? = some last) (hcash : ∀ row ∈ db.attempts.rows, CashFits row) :
    ((db.attemptsOf rows.intent.intentId).filter fun row => row.filledQuantity != 0) =
      if last.filledQuantity = 0 then [] else [last] := by
  have hread := readFinalization_rows h.read
  obtain ⟨before, hrows⟩ := List.getLast?_eq_some_iff.mp hlast
  have hstrict := attemptsOf_strict db rows.intent.intentId
  have hcounted : (rows.attempts.Pairwise fun left right => left.ordinal < right.ordinal) ∧
      ((db.attemptsOf rows.intent.intentId).filter fun row => row.filledQuantity != 0) =
        rows.attempts.filter fun row => row.filledQuantity != 0 := by
    rcases executionAttemptRows_cases hread.attempts with heq | ⟨replacement, hprepared, heq⟩
    · rw [heq]
      exact ⟨hstrict, rfl⟩
    · rw [heq] at hstrict
      have hmem : replacement ∈ db.attempts.rows := by
        have hin : replacement ∈ db.attemptsOf rows.intent.intentId := by
          rw [heq]
          exact List.mem_append_right _ (List.mem_singleton_self _)
        exact (Database.mem_attemptsOf.mp hin).1
      have hunfilled := (hcash replacement hmem).prepared hprepared
      refine ⟨(List.pairwise_append.mp hstrict).1, ?_⟩
      rw [heq, List.filter_append]
      simp [hunfilled]
  obtain ⟨intent, exposure, -, hvalid⟩ := h.valid
  obtain ⟨final, hfinal, -, hlineage⟩ := validateFinalization_lineage hvalid
  have hfinalEq : final = attemptFromRow last rows.attempts := by
    unfold attemptsFromRows at hfinal
    rw [List.getLast?_map, hlast] at hfinal
    exact (Option.some.inj hfinal).symm
  have hearlier : ∀ row ∈ before, row.filledQuantity = 0 := by
    intro row hrow
    have hordered := hcounted.1
    rw [hrows, List.pairwise_append] at hordered
    have hlt := hordered.2.2 row hrow last (List.mem_singleton_self _)
    have hin : attemptFromRow row rows.attempts ∈ attemptsFromRows rows.attempts := by
      refine List.mem_map_of_mem (f := fun row => attemptFromRow row rows.attempts) ?_
      rw [hrows]
      exact List.mem_append_left _ hrow
    exact hlineage _ hin (by rw [hfinalEq]; exact hlt)
  rw [hcounted.2, hrows, List.filter_append]
  have hnone : (before.filter fun row => row.filledQuantity != 0) = [] := by
    rw [List.filter_eq_nil_iff]
    intro row hrow
    simp [hearlier row hrow]
  rw [hnone, List.nil_append]
  by_cases hzero : last.filledQuantity = 0
  · simp [hzero]
  · simp [hzero]

end

/-! ## One step -/

section

variable [Digest] {settings : RepositorySettings} {db after : Database}
variable {requestedStatus : String} {sweep : SweepObservation} {history : List FinalizedIntent}
  {certificate : ExecutionCertificate} {evaluated : WholeAccountReconciliation}
  {claim : ExecutionIntent} {items : List InventoryItem}

omit [Digest] in
/-- The positions of an expectation stand in canonical order. -/
theorem ReconciliationExpectation.positions_sorted (expectation : ReconciliationExpectation) :
    (expectation.expectedPositions.map inventoryKey).Pairwise (· < ·) := by
  have hvalid := expectation.valid
  simp only [ReconciliationExpectationFields.check, check_bind_ok, requireCanonicalInventory,
    requireCanonical, raiseIf_ok, Bool.not_eq_false', decide_eq_true_eq] at hvalid
  exact hvalid.2.2.2.2.2.2.2.2.1

omit [Digest] in
/-- Options are in canonical order when their symbols are in order. -/
theorem inventoryKey_lt_iff {left right : InventoryItem} (hleft : left.kind = .option)
    (hright : right.kind = .option) :
    inventoryKey left < inventoryKey right ↔ left.symbol < right.symbol := by
  unfold inventoryKey
  rw [hleft, hright, List.cons_lt_cons_iff, List.cons_lt_cons_iff]
  constructor
  · rintro (hlt | ⟨-, hlt | ⟨-, hlt⟩⟩)
    · exact absurd hlt (lt_irrefl _)
    · exact hlt
    · cases hlt
  · exact fun hlt => .inr ⟨rfl, .inl hlt⟩

omit [Digest] in
/-- Options in canonical order stand in order of their symbols. -/
theorem symbols_sorted (hoptions : ∀ item ∈ items, item.kind = .option)
    (hsorted : (items.map inventoryKey).Pairwise (· < ·)) :
    (items.map fun item => item.symbol).Pairwise (· < ·) := by
  rw [List.pairwise_map] at hsorted ⊢
  refine hsorted.imp_of_mem fun {left right} hleft hright hlt => ?_
  exact (inventoryKey_lt_iff (hoptions left hleft) (hoptions right hright)).mp hlt

omit [Digest] in
/-- An option has the multiplier of an option and a quantity. -/
theorem InventoryItem.option_facts {item : InventoryItem} (h : item.kind = .option) :
    item.multiplier = 100 ∧ item.signedQuantity.value ≠ 0 := by
  have hvalid := item.valid
  simp only [InventoryItemFields.postInit, check_bind_ok, raiseIf_ok, Bool.or_eq_false_iff, h]
    at hvalid
  obtain ⟨-, ⟨⟨⟨hquantity, -⟩, hmultiplier⟩, -⟩, -⟩ := hvalid
  refine ⟨by simpa using hmultiplier, fun hzero => ?_⟩
  rw [Decimal.beq_iff_value.mpr (hzero.trans value_zero.symm)] at hquantity
  cases hquantity

/-- An amount that a decimal of the context can hold. -/
def Representable (amount : Decimal) : Prop :=
  ∃ exact : Decimal, exact.Fits ∧ amount.value = exact.value

/-- A finalization with a certificate is recorded with the legs and the attempts of its intent. -/
theorem finalizedBy_settled {transaction : Transaction} {stored : ExecutionCertificate}
    {positionGreeks : List PositionGreekObservation}
    (hcall : transaction.call = .finalizeExecutionAuthorized certificate sweep requestedStatus claim
      positionGreeks)
    (hresult : finalizeExecutionAuthorized settings db certificate sweep requestedStatus claim
      positionGreeks transaction.now transaction.fresh = .ok (after, some stored))
    {intent : ExecutionIntentRow} (hintent : db.intent claim.intentId = some intent) :
    finalizedBy settings db transaction =
      some ⟨intent.envelope.legs, db.attemptsOf intent.intentId⟩ := by
  unfold finalizedBy
  rw [hcall]
  dsimp only
  rw [hresult, hintent]
  rfl

/-- A state that continues the ledger: its cash and positions are those of the state before it,
moved by the fills of the intent. -/
theorem Settlement.entry {baseline : SubmissionBaselineRow} {now : Int} {lockId : Uuid}
    {rows : FinalizationRows} {latest : AttemptObservationRow} {permit : BrokerMutationPermit}
    {state : AccountReconciliationState} {complete : ExecutionCertificate} {hasFill : Bool}
    (h : Settlement settings db after claim sweep requestedStatus now lockId rows evaluated latest
      permit state complete certificate hasFill) (hcash : ∀ row ∈ db.attempts.rows, CashFits row)
    (hentry : Entry baseline history rows.state) (hprecise : Representable rows.state.expectedCash)
    {finalized : FinalizedIntent}
    (hfinalized : finalized = ⟨rows.intent.envelope.legs, db.attemptsOf rows.intent.intentId⟩) :
    Entry baseline (history ++ [finalized]) (nextStateRow rows evaluated permit latest state) ∧
      (finalized.fills = [] → state.expectedCash.value = rows.state.expectedCash.value ∧
        state.expectedPositions = rows.state.expectedPositions) := by
  have hexpected := h.expected
  obtain ⟨last, hfinal⟩ := finalExpectation_facts hexpected
  obtain ⟨-, -, hnextCash, hnextPositions, hnextOrders, -, -⟩ := nextState_fields h.next
  have hfills := h.fills hfinal.last_read hcash
  have hoptions : ∀ item ∈ rows.state.expectedPositions, item.kind = .option :=
    fun item hitem => (hentry.options item hitem).1
  obtain ⟨hmoves, hkinds⟩ := positionsAfterFill_moves hfinal.positions hoptions
  have hstateFills : finalized.fills = if last.filledQuantity = 0 then [] else [last] := by
    rw [hfinalized]
    exact hfills
  have hzeroCash : last.filledQuantity = 0 →
      fillCash (attemptFromRow last rows.attempts) = Decimal.ofInt 0 := by
    intro hzero
    have hmem : last ∈ db.attempts.rows := by
      have hin := List.mem_of_getLast? hfinal.last_read
      rcases executionAttemptRows_cases (readFinalization_rows h.read).attempts with heq |
        ⟨replacement, -, heq⟩
      · rw [heq] at hin
        exact (Database.mem_attemptsOf.mp hin).1
      · have hall : last ∈ db.attemptsOf rows.intent.intentId := by
          rw [heq]
          exact List.mem_append_left _ hin
        exact (Database.mem_attemptsOf.mp hall).1
    have hbroker : ∃ state, last.state = .broker state := by
      have hsatisfies := hfinal.finalizable
      cases hstate : last.state with
      | broker state => exact ⟨state, rfl⟩
      | prepared => simp [hstate, AttemptState.satisfies] at hsatisfies
      | assignmentLocked => simp [hstate, AttemptState.satisfies] at hsatisfies
      | unknown text => simp [hstate, AttemptState.satisfies] at hsatisfies
    obtain ⟨broker, hbroker⟩ := hbroker
    exact if_pos ((hcash last hmem).unfilled broker hbroker hzero)
  have hcashMoves : state.expectedCash.value =
      (total rows.state.expectedCash finalized.cashFlows).value := by
    rw [hnextCash, hfinal.cash, FinalizedIntent.cashFlows, hstateFills]
    split
    · rename_i hzero
      obtain ⟨exact, hfits, hvalue⟩ := hprecise
      rw [hzeroCash hzero, Decimal.value_add_zero hvalue hfits]
      rfl
    · rfl
  have hquantities : ∀ symbol, (heldQuantity (positionOf state.expectedPositions symbol)).value =
      (total (heldQuantity (positionOf rows.state.expectedPositions symbol))
        (finalized.changes symbol)).value := by
    intro symbol
    rw [hnextPositions, hmoves symbol, fillChanges, FinalizedIntent.changes, hstateFills]
    have hfilled : (attemptFromRow last rows.attempts).filledQuantity = last.filledQuantity := rfl
    rw [hfilled]
    split
    · rfl
    · rw [List.flatMap_singleton, hfinalized]
  constructor
  · refine {
      sequence := ?_
      cash := ?_
      quantities := ?_
      options := ?_
      sorted := ?_
      orders := ?_ }
    · show rows.state.sequence + 1 = _
      rw [hentry.sequence, List.length_append, List.length_singleton]
      push_cast
      ring
    · show state.expectedCash.value = _
      rw [hcashMoves, List.flatMap_append, List.flatMap_singleton, total_append]
      exact value_total_congr hentry.cash _
    · intro symbol
      show (heldQuantity (positionOf state.expectedPositions symbol)).value = _
      rw [hquantities symbol, List.flatMap_append, List.flatMap_singleton, total_append]
      exact value_total_congr (hentry.quantities symbol) _
    · intro item hitem
      change item ∈ state.expectedPositions at hitem
      rw [hnextPositions] at hitem
      have hkind := hkinds item hitem
      exact ⟨hkind, InventoryItem.option_facts hkind⟩
    · show (state.expectedPositions.map fun item => item.symbol).Pairwise (· < ·)
      rw [hnextPositions]
      exact symbols_sorted hkinds evaluated.expectation.positions_sorted
    · show state.expectedOpenOrders = []
      rw [hnextOrders, hfinal.orders, hentry.orders]
  · intro hunfilled
    rw [hstateFills] at hunfilled
    have hzero : last.filledQuantity = 0 := by
      by_contra hfilled
      rw [if_neg hfilled] at hunfilled
      cases hunfilled
    constructor
    · rw [hcashMoves, FinalizedIntent.cashFlows, hstateFills, if_pos hzero]
      rfl
    · rw [hnextPositions]
      have hsymbols := hentry.sorted
      have hnodup : (rows.state.expectedPositions.map fun item => item.symbol).Nodup :=
        hsymbols.imp fun hlt => ne_of_lt hlt
      refine positionsAfterFill_unfilled hfinal.positions hzero hnodup ?_
      rw [List.pairwise_map] at hsymbols ⊢
      refine hsymbols.imp_of_mem fun {left right} hleft hright hlt => ?_
      exact (inventoryKey_lt_iff (hoptions left hleft) (hoptions right hright)).mpr hlt

/-- A transaction that finalizes an intent is a settlement of it. -/
theorem finalizedBy_some {transaction : Transaction} {finalized : FinalizedIntent}
    (h : finalizedBy settings db transaction = some finalized) :
    ∃ supplied sweep requestedStatus claim positionGreeks rows evaluated latest permit state
      complete stored hasFill,
      transaction.call = .finalizeExecutionAuthorized supplied sweep requestedStatus claim
        positionGreeks ∧
      Settlement settings db (execute settings transaction db) claim sweep requestedStatus
        transaction.now transaction.fresh rows evaluated latest permit state complete stored
        hasFill ∧
      finalized = ⟨rows.intent.envelope.legs, db.attemptsOf rows.intent.intentId⟩ := by
  obtain ⟨call, start, now, fresh⟩ := transaction
  unfold finalizedBy at h
  split at h
  · rename_i certificate sweep requestedStatus claim positionGreeks hcall
    dsimp only at hcall
    subst hcall
    split at h
    · rename_i hcertified
      obtain ⟨intent, hintent, rfl⟩ := Option.map_eq_some_iff.mp h
      unfold isCertified at hcertified
      split at hcertified
      · rename_i after stored hresult
        have hexecute : execute settings ⟨.finalizeExecutionAuthorized certificate sweep
            requestedStatus claim positionGreeks, start, now, fresh⟩ db = after := by
          unfold execute run
          dsimp only at hresult ⊢
          rw [hresult]
          rfl
        rw [hexecute]
        rcases finalizeExecutionAuthorized_settlement hresult with ⟨hnone, -⟩ |
          ⟨certified, rows, evaluated, latest, permit, state, complete, hasFill, -, hsettled⟩
        · cases hnone
        · have hread := (readFinalization_rows hsettled.read).intent
          rw [hintent] at hread
          cases Option.some.inj hread
          exact ⟨certificate, sweep, requestedStatus, claim, positionGreeks, rows,
            evaluated, latest,
            permit, state, complete, certified, hasFill, rfl, hsettled, rfl⟩
      · cases hcertified
    · cases h
  · cases h

/-- The ledger, with amounts of cash that a decimal of the context can hold. -/
structure LedgerSound (db : Database) (history : List FinalizedIntent) : Prop
    extends Ledger db history where
  precise : ∀ row ∈ db.states.rows, Representable row.expectedCash

omit [Digest] in
/-- States that stay keep the ledger, where the baselines are kept. -/
theorem LedgerSound.kept (h : LedgerSound db history) (hstates : after.states = db.states)
    (hbaselines : KeepsBaselines db after) : LedgerSound after history := by
  refine {
    length := by rw [hstates]; exact h.length
    entry := ?_
    unfilled := by rw [hstates]; exact h.unfilled
    precise := by rw [hstates]; exact h.precise }
  intro n row hrow
  rw [hstates] at hrow
  obtain ⟨baseline, hmem, hid, hentry⟩ := h.entry n row hrow
  obtain ⟨kept, hkept, hsame, hequity, -⟩ := hbaselines baseline hmem
  refine ⟨kept, hkept, hid.trans hsame.symm, { hentry with cash := ?_ }⟩
  rw [hequity]
  exact hentry.cash

omit [Digest] in
/-- The first state opens the ledger. -/
theorem Opening.ledger {baseline : SubmissionBaselineRow} {row : AccountReconciliationStateRow}
    (hopening : Opening db after baseline sweep row) (h : LedgerSound db history)
    (hsound : StatesSound db) (hbaselines : KeepsBaselines db after) :
    LedgerSound after history := by
  have hempty := hsound.unopened hopening.unopened
  have hhistory : history = [] := by
    rcases h.length with ⟨-, hnone⟩ | hlength
    · exact hnone
    · rw [hempty] at hlength
      cases hlength
  subst hhistory
  have hrows := hopening.stateRows
  rw [hempty, List.nil_append] at hrows
  obtain ⟨kept, hkept, hsame, hequity, -⟩ := hbaselines baseline hopening.baseline_mem
  have hvalue : row.expectedCash.value = (Decimal.ofInt 100000).value := by
    rw [hopening.cash, hsound.funded baseline hopening.baseline_mem, Decimal.value_ofInt]
    norm_num
  refine {
    length := .inr (by rw [hrows]; rfl)
    entry := ?_
    unfilled := ?_
    precise := ?_ }
  · intro n found hfound
    rw [hrows, List.getElem?_singleton] at hfound
    split at hfound
    · cases hfound
      refine ⟨kept, hkept, hopening.baselineId.trans hsame.symm, ?_⟩
      rw [List.take_nil]
      refine {
        sequence := hopening.sequence
        cash := ?_
        quantities := ?_
        options := ?_
        sorted := ?_
        orders := hopening.orders }
      · rw [hopening.cash, hequity]
        rfl
      · intro symbol
        rw [hopening.positions]
        rfl
      · rw [hopening.positions]
        exact nofun
      · rw [hopening.positions]
        exact List.Pairwise.nil
    · cases hfound
  · intro n finalized found next hfinalized
    rw [List.getElem?_nil] at hfinalized
    cases hfinalized
  · intro found hfound
    rw [hrows, List.mem_singleton] at hfound
    rw [hfound]
    have hfits : (Decimal.ofInt 100000).Fits := by
      show (100000 : Nat) < 10 ^ 28
      omega
    exact ⟨Decimal.ofInt 100000, hfits, hvalue⟩

/-- A finalization with a certificate continues the ledger by its intent. -/
theorem Settlement.ledger {now : Int} {lockId : Uuid} {rows : FinalizationRows}
    {latest : AttemptObservationRow} {permit : BrokerMutationPermit}
    {state : AccountReconciliationState} {complete : ExecutionCertificate} {hasFill : Bool}
    (h : Settlement settings db after claim sweep requestedStatus now lockId rows evaluated latest
      permit state complete certificate hasFill) (hledger : LedgerSound db history)
    (hsound : StatesSound db) (hcash : ∀ row ∈ db.attempts.rows, CashFits row) :
    LedgerSound after
      (history ++ [⟨rows.intent.envelope.legs, db.attemptsOf rows.intent.intentId⟩]) := by
  obtain ⟨before, hrows, -⟩ := h.last hsound
  have hlength : db.states.rows.length = history.length + 1 := by
    rcases hledger.length with ⟨hempty, -⟩ | hlength
    · rw [hempty] at hrows
      simp at hrows
    · exact hlength
  have hbefore : before.length = history.length := by
    rw [hrows, List.length_append, List.length_singleton] at hlength
    omega
  have hlast : db.states.rows[history.length]? = some rows.state := by
    rw [hrows, ← hbefore, List.getElem?_concat_length]
  obtain ⟨baseline, hmem, hid, hentry⟩ := hledger.entry _ _ hlast
  rw [List.take_length] at hentry
  have hstate : rows.state ∈ db.states.rows := List.mem_of_getElem? hlast
  obtain ⟨hnext, hunfilled⟩ := h.entry hcash hentry (hledger.precise _ hstate) rfl
  have happended := h.stateRows
  have hbaselines : after.baselines = db.baselines := h.writes .baselines rfl
  refine {
    length := .inr ?_
    entry := ?_
    unfilled := ?_
    precise := ?_ }
  · rw [happended, List.length_append, List.length_append, hlength]
    rfl
  · intro n row hrow
    rw [happended] at hrow
    rw [hbaselines]
    rcases getElem?_append_one hrow with hold | ⟨hn, rfl⟩
    · obtain ⟨hlt, -⟩ := List.getElem?_eq_some_iff.mp hold
      obtain ⟨found, hfound, hsame, holdEntry⟩ := hledger.entry n row hold
      rw [List.take_append_of_le_length (by omega)]
      exact ⟨found, hfound, hsame, holdEntry⟩
    · rw [List.take_of_length_le (by rw [List.length_append, List.length_singleton]; omega)]
      exact ⟨baseline, hmem, hid, hnext⟩
  · intro n finalized row next hfinalized hfills hrow hnextRow
    rw [happended] at hrow hnextRow
    rcases getElem?_append_one hnextRow with hold | ⟨hn, rfl⟩
    · obtain ⟨hlt, -⟩ := List.getElem?_eq_some_iff.mp hold
      rw [List.getElem?_append_left (by omega)] at hrow hfinalized
      exact hledger.unfilled n finalized row next hfinalized hfills hrow hold
    · have hn' : n = history.length := by omega
      rw [hn', List.getElem?_concat_length] at hfinalized
      rw [hn', List.getElem?_append_left (by omega), hlast] at hrow
      cases hfinalized
      cases hrow
      exact hunfilled hfills
  · intro row hrow
    rw [happended] at hrow
    rcases List.mem_append.mp hrow with hold | hnew
    · exact hledger.precise row hold
    · obtain ⟨last, hfinal⟩ := finalExpectation_facts h.expected
      obtain ⟨-, -, hnextCash, -⟩ := nextState_fields h.next
      rw [List.mem_singleton.mp hnew]
      show Representable state.expectedCash
      rw [hnextCash, hfinal.cash]
      exact ⟨_, Decimal.fits_add _ _, rfl⟩

/-- A transaction continues the ledger by the intent that it finalizes. -/
theorem LedgerSound.step (h : LedgerSound db history) (hsound : StatesSound db)
    (hcash : ∀ row ∈ db.attempts.rows, CashFits row) (transaction : Transaction) :
    LedgerSound (execute settings transaction db)
      (history ++ (finalizedBy settings db transaction).toList) := by
  cases hfinalized : finalizedBy settings db transaction with
  | some finalized =>
      obtain ⟨_, sweep, requestedStatus, claim, _, rows, evaluated, latest, permit, state, complete,
        stored, hasFill, -, hsettled, rfl⟩ := finalizedBy_some hfinalized
      exact hsettled.ledger h hsound hcash
  | none =>
      obtain ⟨hstep, hbaselines, -⟩ :=
        execute_states transaction db
      rw [Option.toList_none, List.append_nil]
      cases hstep with
      | kept hstates _ => exact h.kept hstates hbaselines
      | opened hopening => exact hopening.ledger h hsound hbaselines
      | settled hcall hresult hsettled =>
          have hread := (readFinalization_rows hsettled.read).intent
          rw [finalizedBy_settled hcall hresult hread] at hfinalized
          cases hfinalized

end

/-! ## Runs -/

section

variable [Digest] {settings : RepositorySettings}

/-- The states of every run keep the ledger of the intents that it finalizes: state `n` has the
cash of the baseline with the cash flows of all fills of the first `n` intents, and of each symbol
the signed quantities of those fills. An intent without a fill changes neither. -/
theorem ledger_kept {first last : World} {transactions : List Transaction}
    (hfirst : (repository settings).initial first)
    (hrun : (repository settings).Run first transactions last) :
    Ledger last.db (finalizedIn settings first.db transactions) := by
  have hrecord : transactions.foldl (recordFinalized settings) (first.db, []) =
      (last.db, finalizedIn settings first.db transactions) ∧
      LedgerSound last.db (finalizedIn settings first.db transactions) := by
    induction hrun with
    | refl =>
        refine ⟨rfl, ?_⟩
        have hstates : first.db.states.rows = [] := by
          rw [show first.db = {} from hfirst]
          rfl
        exact {
          length := .inl ⟨hstates, rfl⟩
          entry := by simp [hstates]
          unfilled := by simp [hstates]
          precise := by simp [hstates] }
    | @snoc middle last transactions transaction run step ih =>
        obtain ⟨hfold, hledger⟩ := ih
        have hreach : (repository settings).Reachable middle := ⟨first, transactions, hfirst, run⟩
        obtain ⟨-, rfl⟩ := step
        have hnext : (transactions ++ [transaction]).foldl (recordFinalized settings)
            (first.db, []) = (execute settings transaction middle.db,
              finalizedIn settings first.db transactions ++
                (finalizedBy settings middle.db transaction).toList) := by
          rw [List.foldl_append, hfold]
          rfl
        have hhistory : finalizedIn settings first.db (transactions ++ [transaction]) =
            finalizedIn settings first.db transactions ++
              (finalizedBy settings middle.db transaction).toList := by
          rw [finalizedIn, hnext]
        rw [hhistory]
        refine ⟨hnext, ?_⟩
        exact hledger.step (statesSound_of_reachable hreach) (cashFits_of_reachable hreach)
          transaction
  exact hrecord.2.toLedger

end

section Rehearsed

open Rehearsal

theorem filledPlay_ends : endsAs filledPlay (fun last =>
    last.db.states.rows.map (fun row => row.expectedCash.value) == [100000, 99800]) = true := by
  decide +kernel

/-- A transaction that finalizes nothing adds nothing to the ledger. -/
example : (finalizedIn Rehearsal.settings {}
    [callAt (.setAutonomousEnabled .submission true .owner) (timeAt 0) 0]).isEmpty = true := by
  decide +kernel

/-- In the rehearsal of a filled entry the ledger has that entry alone. -/
theorem ledger_kept_rehearsed : ∃ (last : World) (transactions : List Transaction),
    (repository Rehearsal.settings).Run { db := {}, clock := 0 } transactions last ∧
      last.db.states.rows.map (fun row => row.expectedCash.value) = [100000, 99800] ∧
      (finalizedIn Rehearsal.settings {} transactions).length = 1 ∧
      Ledger last.db (finalizedIn Rehearsal.settings {} transactions) := by
  obtain ⟨last, hplayed, hcash⟩ := exists_play filledPlay_ends
  obtain ⟨transactions, hrun⟩ := run_of_play hplayed
  have hinitial : (repository Rehearsal.settings).initial { db := {}, clock := 0 } := rfl
  have hledger : Ledger last.db (finalizedIn Rehearsal.settings {} transactions) :=
    ledger_kept hinitial hrun
  have hlength : last.db.states.rows.length = 2 := by
    have hmap := congrArg List.length (beq_iff_eq.mp hcash)
    rwa [List.length_map] at hmap
  refine ⟨last, transactions, hrun, beq_iff_eq.mp hcash, ?_, hledger⟩
  rcases hledger.length with ⟨hempty, -⟩ | hcount
  · rw [hempty] at hlength
    cases hlength
  · rw [hlength] at hcount
    exact (Nat.succ.inj hcount).symm

end Rehearsed

end AlphaDecay
