import AlphaDecay.Persistence.Rehearsal

/-!
# A safe sweep shows an explained change

`Explained` says in its own terms what it means that a sweep differs from the prior state of an
account by the fill of one attempt: each position moved by its leg, the cash by the cash flow of
the fill up to a small fee, and every new activity is a fee or one of the trades of the fill. The
main result, `safe_explained`, says that a sweep which is safe for an expectation built with the
sweep's own activities is explained.
-/

namespace AlphaDecay

open Foundation Table

/-! ## What explains a sweep -/

def positionOf (positions : List InventoryItem) (symbol : String) : Option InventoryItem :=
  lastByKey (fun item : InventoryItem => item.symbol) positions symbol

/-- The quantity of a position, and zero where there is none. -/
def heldQuantity (position : Option InventoryItem) : Decimal :=
  (position.map fun item => item.signedQuantity).getD (Decimal.ofInt 0)

/-- The content of the position that the filled leg of an order leaves. -/
def contentAfterLeg (filledQuantity : Int) (leg : OrderLegIntent) (prior : Option InventoryItem) :
    Option (InventoryKind × String × Int × ℚ) :=
  let next := heldQuantity prior + signedChange filledQuantity leg
  if next == Decimal.ofInt 0 then none else some (.option, leg.symbol, 100, next.value)

/-- The content of the position of a symbol after the fill of an attempt. -/
def contentAfterFill (legs : List OrderLegIntent) (filled : OrderAttempt)
    (prior : List InventoryItem) (symbol : String) : Option (InventoryKind × String × Int × ℚ) :=
  match if filled.filledQuantity = 0 then none else lastByKey OrderLegIntent.symbol legs symbol with
  | some leg => contentAfterLeg filled.filledQuantity leg (positionOf prior symbol)
  | none => (positionOf prior symbol).map InventoryItem.content

/-- The activities of a sweep that were not known before and are not fees. -/
def newTrades (known activities : List ActivityItem) : List ActivityItem :=
  (newCandidates known activities).filter fun item => item.activityType != .fee

/-- A sweep differs from a prior state by the fill of an attempt, with the cash that is expected
after it. -/
structure Explained (legs : List OrderLegIntent) (state : AccountReconciliationStateRow)
    (filled : OrderAttempt) (expectedCash : Decimal) (sweep : SweepObservation) : Prop where
  positions : ∀ positions ∈ [sweep.firstPositions, sweep.finalPositions], ∀ symbol,
    (positionOf positions symbol).map InventoryItem.content =
      contentAfterFill legs filled state.expectedPositions symbol
  distinct : (state.expectedPositions.map fun item => item.symbol).Nodup →
    ∀ positions ∈ [sweep.firstPositions, sweep.finalPositions],
      (positions.map fun item => item.symbol).Nodup
  cash : ∀ observed ∈ sweep.accounts,
    expectedCash.value - 1 - 5 / 10 ^ 28 ≤ observed.cash.value ∧
      observed.cash.value ≤ expectedCash.value
  trades : ∀ item ∈ newTrades state.knownActivities sweep.activities,
    isTradeOf filled item = true ∧ hasExpectedQuantity filled legs item = true
  once : newTrades state.knownActivities sweep.activities = [] ∨
    ∀ leg ∈ legs, ∃ item ∈ newTrades state.knownActivities sweep.activities,
      item.symbol = some leg.symbol ∧
        ∀ other ∈ newTrades state.knownActivities sweep.activities,
          other.symbol = some leg.symbol → other = item

/-! ## Positions after a fill -/

section

variable {filledQuantity : Int} {positions next : Dict String InventoryItem}
variable {leg : OrderLegIntent}

/-- The symbol of a position, by which dictionaries of positions are keyed. -/
def symbolOf (item : InventoryItem) : String :=
  item.symbol

/-- The fill of a leg leaves its own symbol with what the leg leaves. -/
theorem applyLeg_self (h : applyLeg filledQuantity positions leg = .ok next) :
    (next.get leg.symbol).map InventoryItem.content =
      contentAfterLeg filledQuantity leg (positions.get leg.symbol) := by
  simp only [applyLeg, check_bind_ok] at h
  obtain ⟨-, h⟩ := h
  have hquantity : quantityOf positions leg.symbol = heldQuantity (positions.get leg.symbol) := rfl
  unfold withQuantity at h
  split at h
  · rename_i hzero
    cases h
    rw [hquantity] at hzero
    simp [contentAfterLeg, hzero]
  · rename_i hzero
    obtain ⟨item, hitem, h⟩ := bind_ok.mp h
    cases h
    obtain ⟨hvalid, rfl⟩ := build_ok.mp hitem
    rw [hquantity] at hzero
    simp [contentAfterLeg, hzero, InventoryItem.content, hquantity]

/-- The fill of a leg leaves the other symbols alone. -/
theorem applyLeg_other {symbol : String} (hsymbol : leg.symbol ≠ symbol)
    (h : applyLeg filledQuantity positions leg = .ok next) :
    next.get symbol = positions.get symbol := by
  simp only [applyLeg, check_bind_ok] at h
  obtain ⟨-, h⟩ := h
  unfold withQuantity at h
  split at h
  · cases h
    simp [hsymbol]
  · obtain ⟨item, hitem, h⟩ := bind_ok.mp h
    cases h
    simp [hsymbol]

/-- The fill of a leg keeps the positions keyed by symbol. -/
theorem applyLeg_keyed (hkeyed : positions.Keyed symbolOf)
    (h : applyLeg filledQuantity positions leg = .ok next) : next.Keyed symbolOf := by
  simp only [applyLeg, check_bind_ok] at h
  obtain ⟨-, h⟩ := h
  unfold withQuantity at h
  split at h
  · cases h
    exact hkeyed.pop _
  · obtain ⟨item, hitem, h⟩ := bind_ok.mp h
    cases h
    obtain ⟨hvalid, rfl⟩ := build_ok.mp hitem
    exact hkeyed.set rfl

/-- The fill of legs keeps the positions keyed by symbol. -/
theorem applyLegs_keyed (legs : List OrderLegIntent) (hkeyed : positions.Keyed symbolOf)
    (h : legs.foldlM (applyLeg filledQuantity) positions = .ok next) : next.Keyed symbolOf := by
  induction legs generalizing positions with
  | nil =>
      cases h
      exact hkeyed
  | cons leg rest ih =>
      rw [List.foldlM_cons] at h
      obtain ⟨middle, hleg, hrest⟩ := bind_ok.mp h
      exact ih (applyLeg_keyed hkeyed hleg) hrest

/-- The fill of legs leaves a symbol that none of them has alone. -/
theorem applyLegs_other {legs : List OrderLegIntent} {symbol : String}
    (hsymbol : ∀ leg ∈ legs, leg.symbol ≠ symbol)
    (h : legs.foldlM (applyLeg filledQuantity) positions = .ok next) :
    next.get symbol = positions.get symbol := by
  induction legs generalizing positions with
  | nil =>
      cases h
      rfl
  | cons leg rest ih =>
      rw [List.foldlM_cons] at h
      obtain ⟨middle, hleg, hrest⟩ := bind_ok.mp h
      rw [List.forall_mem_cons] at hsymbol
      rw [ih hsymbol.2 hrest, applyLeg_other hsymbol.1 hleg]

/-- The fill of legs with distinct symbols leaves the symbol of each leg with what it leaves. -/
theorem applyLegs_self {legs : List OrderLegIntent} (hlegs : (legs.map OrderLegIntent.symbol).Nodup)
    (hmem : leg ∈ legs) (h : legs.foldlM (applyLeg filledQuantity) positions = .ok next) :
    (next.get leg.symbol).map InventoryItem.content =
      contentAfterLeg filledQuantity leg (positions.get leg.symbol) := by
  induction legs generalizing positions with
  | nil => cases hmem
  | cons first rest ih =>
      rw [List.foldlM_cons] at h
      obtain ⟨middle, hfirst, hrest⟩ := bind_ok.mp h
      rw [List.map_cons, List.nodup_cons] at hlegs
      have hapart : ∀ other ∈ rest, other.symbol ≠ first.symbol := by
        intro other hother heq
        exact hlegs.1 (heq ▸ List.mem_map_of_mem hother)
      rcases List.mem_cons.mp hmem with rfl | hin
      · rw [applyLegs_other hapart hrest, applyLeg_self hfirst]
      · rw [ih hlegs.2 hin hrest, applyLeg_other (Ne.symm (hapart leg hin)) hfirst]

theorem positionOf_sorted (hkeyed : positions.Keyed symbolOf) (symbol : String) :
    positionOf (sortedPositions positions) symbol = positions.get symbol :=
  hkeyed.lastByKey_values orderBy_perm symbol

theorem nodup_sorted (hkeyed : positions.Keyed symbolOf) :
    ((sortedPositions positions).map fun item => item.symbol).Nodup :=
  ((orderBy_perm.map _).nodup_iff).mpr hkeyed.nodup_values

end

theorem lastByKey_leg {legs : List OrderLegIntent}
    (hlegs : (legs.map OrderLegIntent.symbol).Nodup) {leg : OrderLegIntent} (hmem : leg ∈ legs) :
    lastByKey OrderLegIntent.symbol legs leg.symbol = some leg :=
  lastByKey_eq_some hmem rfl fun _ hother heq =>
    List.inj_on_of_nodup_map hlegs hother hmem heq

section Fill

variable {intent : ExecutionIntentRow} {state : AccountReconciliationStateRow}
  {attempt : OrderAttempt} {positions : List InventoryItem}

/-- The positions after a fill are the prior ones, each symbol changed by its leg. -/
theorem positionsAfterFill_content
    (hlegs : (intent.envelope.legs.map OrderLegIntent.symbol).Nodup)
    (h : positionsAfterFill intent state attempt = .ok positions) (symbol : String) :
    (positionOf positions symbol).map InventoryItem.content =
      contentAfterFill intent.envelope.legs attempt state.expectedPositions symbol := by
  have hprior : ∀ symbol, (Dict.ofList symbolOf state.expectedPositions).get symbol =
      positionOf state.expectedPositions symbol := Dict.get_ofList state.expectedPositions
  have hkeyed : (Dict.ofList symbolOf state.expectedPositions).Keyed symbolOf :=
    Dict.keyed_ofList _
  unfold positionsAfterFill at h
  split at h
  · rename_i hzero
    cases h
    simp only [contentAfterFill, hzero, if_true]
    exact congrArg _ ((positionOf_sorted hkeyed symbol).trans (hprior symbol))
  · rename_i hfilled
    simp only [check_bind_ok] at h
    obtain ⟨-, h⟩ := h
    obtain ⟨filled, hlegsFilled, h⟩ := bind_ok.mp h
    cases h
    have hafter := applyLegs_keyed intent.envelope.legs hkeyed hlegsFilled
    rw [positionOf_sorted hafter, contentAfterFill, if_neg hfilled]
    by_cases hleg : ∃ leg ∈ intent.envelope.legs, leg.symbol = symbol
    · obtain ⟨leg, hmem, rfl⟩ := hleg
      rw [lastByKey_leg hlegs hmem, ← hprior]
      exact applyLegs_self hlegs hmem hlegsFilled
    · push Not at hleg
      rw [lastByKey_eq_none hleg, ← hprior]
      exact congrArg _ (applyLegs_other hleg hlegsFilled)

theorem positionsAfterFill_distinct (h : positionsAfterFill intent state attempt = .ok positions) :
    (positions.map fun item => item.symbol).Nodup := by
  have hkeyed : (Dict.ofList symbolOf state.expectedPositions).Keyed symbolOf :=
    Dict.keyed_ofList _
  unfold positionsAfterFill at h
  split at h
  · cases h
    exact nodup_sorted hkeyed
  · simp only [check_bind_ok] at h
    obtain ⟨-, h⟩ := h
    obtain ⟨filled, hlegsFilled, h⟩ := bind_ok.mp h
    cases h
    exact nodup_sorted (applyLegs_keyed intent.envelope.legs hkeyed hlegsFilled)

end Fill

/-! ## Activities of a fill -/

section

variable {attempt : OrderAttempt} {legs : List OrderLegIntent} {new : List ActivityItem}

theorem explainsFill_iff : explainsFill attempt legs new = true ↔
    0 < attempt.filledQuantity ∧ attempt.providerOrderId.isSome = true ∧
      (∀ item ∈ new, isTradeOf attempt item = true) ∧
      new.length = (legs.map OrderLegIntent.symbol).dedup.length ∧
      (new.map fun item => item.symbol).dedup.length = new.length ∧
      ∀ item ∈ new, hasExpectedQuantity attempt legs item = true := by
  simp [explainsFill, and_assoc]

theorem hasExpectedQuantity_symbol {item : ActivityItem}
    (h : hasExpectedQuantity attempt legs item = true) :
    ∃ leg ∈ legs, item.symbol = some leg.symbol := by
  unfold hasExpectedQuantity at h
  split at h
  · rename_i expected quantity hexpected hquantity
    obtain ⟨symbol, hsymbol, hfound⟩ := Option.bind_eq_some_iff.mp hexpected
    obtain ⟨leg, hleg, -⟩ := Option.map_eq_some_iff.mp hfound
    have hmem := List.mem_filter.mp (List.mem_of_getLast? hleg)
    exact ⟨leg, hmem.1, by rw [hsymbol, of_decide_eq_true hmem.2]⟩
  · cases h

/-- Activities that explain a fill have exactly one trade of each leg. -/
theorem explainsFill_once (hlegs : (legs.map OrderLegIntent.symbol).Nodup)
    (h : explainsFill attempt legs new = true) {leg : OrderLegIntent} (hmem : leg ∈ legs) :
    ∃ item ∈ new, item.symbol = some leg.symbol ∧
      ∀ other ∈ new, other.symbol = some leg.symbol → other = item := by
  obtain ⟨-, -, -, hcount, hdistinct, hquantity⟩ := explainsFill_iff.mp h
  have hnodup : (new.map fun item => item.symbol).Nodup := by
    rw [← List.dedup_eq_self]
    exact (List.dedup_sublist _).eq_of_length (by rw [hdistinct, List.length_map])
  -- Distinct symbols of legs, as many as there are legs: every leg is traded.
  have hsubset : (new.map fun item => item.symbol) ⊆
      legs.map fun leg => some leg.symbol := by
    intro symbol hsymbol
    obtain ⟨item, hitem, rfl⟩ := List.mem_map.mp hsymbol
    obtain ⟨leg, hleg, heq⟩ := hasExpectedQuantity_symbol (hquantity item hitem)
    exact List.mem_map.mpr ⟨leg, hleg, heq.symm⟩
  have hlength : (legs.map fun leg => some leg.symbol).length ≤
      (new.map fun item => item.symbol).length := by
    rw [List.length_map, List.length_map, hcount, hlegs.dedup, List.length_map]
  have hperm := (hnodup.subperm hsubset).perm_of_length_le hlength
  have htraded : some leg.symbol ∈ new.map fun item => item.symbol :=
    hperm.mem_iff.mpr (List.mem_map.mpr ⟨leg, hmem, rfl⟩)
  obtain ⟨item, hitem, hsymbol⟩ := List.mem_map.mp htraded
  refine ⟨item, hitem, hsymbol, fun other hother hsame => ?_⟩
  exact List.inj_on_of_nodup_map hnodup hother hitem (hsame.trans hsymbol.symm)

theorem boundCandidates_new {intent : ExecutionIntentRow} {state : AccountReconciliationStateRow}
    {candidates : List ActivityItem} {requireVisible : Bool} {bound : BoundActivities}
    (h : boundCandidates intent state attempt candidates requireVisible = .ok bound) :
    newTrades state.knownActivities candidates = [] ∨
      explainsFill attempt intent.envelope.legs (newTrades state.knownActivities candidates) =
        true := by
  simp only [boundCandidates, check_bind_ok] at h
  obtain ⟨-, h⟩ := h
  split at h
  · rename_i hempty
    exact Or.inl (List.isEmpty_iff.mp hempty)
  · simp only [boundTrades, check_bind_ok, raiseIf_ok, Bool.not_eq_false'] at h
    exact Or.inr h.1

end

/-! ## Cash -/

/-- Cash within the tolerance trails the expected cash by one at most, up to the rounding of the
difference to the precision of the arithmetic, and does not exceed it. -/
theorem cashWithinFeeTolerance_bounds {observed expected : Decimal}
    (h : cashWithinFeeTolerance observed expected = true) :
    expected.value - 1 - 5 / 10 ^ 28 ≤ observed.value ∧ observed.value ≤ expected.value := by
  obtain ⟨exact, hvalue, hround⟩ := Decimal.value_sub expected observed
  have hone : maxUnreportedFeeDrag.value = 1 := by
    norm_num [maxUnreportedFeeDrag, Decimal.value, Decimal.significand]
  simp only [cashWithinFeeTolerance, decide_eq_true_eq, Decimal.le_iff_value, Decimal.value_ofInt,
    hone, hround] at h
  obtain ⟨hlow, hhigh⟩ := h
  have hclose := Decimal.abs_value_round_sub_le exact
  rw [Int.cast_zero] at hlow
  rw [abs_of_nonneg hlow, abs_le] at hclose
  have hexact := Decimal.value_round_nonneg.mp hlow
  rw [hvalue] at hclose hexact
  constructor
  · nlinarith [hclose.1]
  · linarith

/-! ## Safe sweeps -/

def contentSymbol (content : InventoryKind × String × Int × ℚ) : String :=
  content.2.1

/-- Inventories with the same contents have the same positions by symbol. -/
theorem positionOf_congr {left right : List InventoryItem}
    (h : left.map InventoryItem.content = right.map InventoryItem.content) (symbol : String) :
    (positionOf left symbol).map InventoryItem.content =
      (positionOf right symbol).map InventoryItem.content := by
  have hkey : ∀ item : InventoryItem, contentSymbol item.content = item.symbol := fun _ => rfl
  have hcontent : ∀ items : List InventoryItem,
      (positionOf items symbol).map InventoryItem.content =
        lastByKey contentSymbol (items.map InventoryItem.content) symbol :=
    fun items => (lastByKey_map hkey items symbol).symm
  rw [hcontent, hcontent, h]

/-- Inventories with the same contents have the same symbols. -/
theorem symbols_congr {left right : List InventoryItem}
    (h : left.map InventoryItem.content = right.map InventoryItem.content) :
    (left.map fun item => item.symbol) = right.map fun item => item.symbol := by
  have hsymbols : ∀ items : List InventoryItem, (items.map fun item => item.symbol) =
      (items.map InventoryItem.content).map contentSymbol := by
    intro items
    rw [List.map_map]
    rfl
  rw [hsymbols, hsymbols, h]

section Safe

variable {value : WholeAccountReconciliation}

/-- A safe sweep shows the expected positions in both of its reads. -/
theorem safe_positions (h : value.safe = true) :
    ∀ positions ∈ [value.sweep.firstPositions, value.sweep.finalPositions],
      positions.map InventoryItem.content =
        value.expectation.expectedPositions.map InventoryItem.content := by
  have hcodes := WholeAccountReconciliation.safe_iff.mp h
  have hfinal := hcodes .unexpectedInventory
  have hstable := hcodes .unstableSweep
  simp only [ReconciliationBlockCode.raised, bne, inventory_beq, Bool.not_eq_false',
    decide_eq_true_eq, Bool.or_eq_false_iff] at hfinal hstable
  intro positions hmem
  rcases List.mem_pair.mp hmem with rfl | rfl
  · exact hstable.1.2.trans hfinal
  · exact hfinal

/-- A safe sweep shows cash within the tolerance in both of its reads. -/
theorem safe_cash (h : value.safe = true) :
    ∀ observed ∈ value.sweep.accounts,
      cashWithinFeeTolerance observed.cash value.expectation.expectedCash = true := by
  have hadjusted := WholeAccountReconciliation.safe_iff.mp h .accountAdjustment
  simp only [ReconciliationBlockCode.raised, Bool.or_eq_false_iff, List.any_eq_false,
    Bool.not_eq_true, Bool.not_eq_false'] at hadjusted
  exact hadjusted.1

end Safe

section Explained

variable {legs : List OrderLegIntent} {state : AccountReconciliationStateRow}
  {filled : OrderAttempt} {expectedCash : Decimal} {value : WholeAccountReconciliation}

/-- A sweep is explained when it is safe for an expectation of the positions and the cash after a
fill, and its new trades explain the fill. -/
theorem explained_of_safe (hlegs : (legs.map OrderLegIntent.symbol).Nodup)
    (hsafe : value.safe = true) (hcash : value.expectation.expectedCash = expectedCash)
    (hpositions : ∀ symbol,
      (positionOf value.expectation.expectedPositions symbol).map InventoryItem.content =
        contentAfterFill legs filled state.expectedPositions symbol)
    (hdistinct : (state.expectedPositions.map fun item => item.symbol).Nodup →
      (value.expectation.expectedPositions.map fun item => item.symbol).Nodup)
    (hnew : newTrades state.knownActivities value.sweep.activities = [] ∨
      explainsFill filled legs (newTrades state.knownActivities value.sweep.activities) = true) :
    Explained legs state filled expectedCash value.sweep := by
  constructor
  case positions =>
    intro positions hmem symbol
    rw [positionOf_congr (safe_positions hsafe positions hmem), hpositions]
  case distinct =>
    intro hprior positions hmem
    rw [symbols_congr (safe_positions hsafe positions hmem)]
    exact hdistinct hprior
  case cash =>
    intro observed hmem
    rw [← hcash]
    exact cashWithinFeeTolerance_bounds (safe_cash hsafe observed hmem)
  case trades =>
    intro item hitem
    rcases hnew with hempty | hexplains
    · rw [hempty] at hitem
      cases hitem
    · obtain ⟨-, -, htrades, -, -, hquantity⟩ := explainsFill_iff.mp hexplains
      exact ⟨htrades item hitem, hquantity item hitem⟩
  case once =>
    rcases hnew with hempty | hexplains
    · exact Or.inl hempty
    · exact Or.inr fun leg hleg => explainsFill_once hlegs hexplains hleg

end Explained

/-! ## The expectations -/

section

variable {intent : ExecutionIntentRow} {state : AccountReconciliationStateRow}
  {purpose : ReconciliationPurpose} {attempt : OrderAttempt} {attempts : List OrderAttemptRow}
  {observations : List AttemptObservationRow} {latestPermit : Option BrokerMutationPermit}

variable {positions : List InventoryItem} {value : WholeAccountReconciliation}

/-- An attempt that is submitted has no fill. -/
theorem submitted_unfilled [Digest]
    (h : requireCanonicalAttempt intent .submit attempt attempts = .ok ()) :
    attempt.filledQuantity = 0 := by
  simp only [requireCanonicalAttempt, reduceCtorEq, if_false, canonicalAttemptForMutation,
    canonicalSubmission] at h
  obtain ⟨canonical, hcanonical, hmatch⟩ := bind_ok.mp h
  obtain ⟨expected, hexpected, hcanonical⟩ := bind_ok.mp hcanonical
  simp only [check_bind_ok] at hcanonical
  cases hcanonical.2
  unfold preparedAttempt at hexpected
  obtain ⟨identifier, -, hexpected⟩ := bind_ok.mp hexpected
  obtain ⟨requestHash, -, hexpected⟩ := bind_ok.mp hexpected
  cases hexpected
  rw [raiseIf_ok, bne, Bool.not_eq_false'] at hmatch
  exact OrderAttempt.filledQuantity_of_beq hmatch

/-- The positions that a mutation expects are the prior ones, changed by the fill. -/
theorem expectedPositionsOf_content {filled : OrderAttempt}
    (hlegs : (intent.envelope.legs.map OrderLegIntent.symbol).Nodup)
    (hunfilled : purpose = .submit → filled.filledQuantity = 0)
    (h : expectedPositionsOf intent state purpose filled = .ok positions) (symbol : String) :
    (positionOf positions symbol).map InventoryItem.content =
      contentAfterFill intent.envelope.legs filled state.expectedPositions symbol := by
  unfold expectedPositionsOf at h
  split at h
  · rename_i hsubmit
    cases h
    simp [contentAfterFill, hunfilled hsubmit]
  · exact positionsAfterFill_content hlegs h symbol

/-- The positions that a mutation expects have distinct symbols when the prior ones have. -/
theorem expectedPositionsOf_distinct {filled : OrderAttempt}
    (h : expectedPositionsOf intent state purpose filled = .ok positions)
    (hprior : (state.expectedPositions.map fun item => item.symbol).Nodup) :
    (positions.map fun item => item.symbol).Nodup := by
  unfold expectedPositionsOf at h
  split at h
  · cases h
    exact hprior
  · exact positionsAfterFill_distinct h

variable [Digest]

/-- A sweep that is safe for the expectation of a mutation is explained by the fill of the attempt
that the mutation is aimed at. -/
theorem mutation_explained (hlegs : (intent.envelope.legs.map OrderLegIntent.symbol).Nodup)
    (h : reconciliationExpectationFromRows intent state purpose attempt attempts
      (some value.sweep.activities) = .ok value.expectation) (hsafe : value.safe = true) :
    ∃ target, mutationTarget intent state purpose attempt attempts = .ok target ∧
      Explained intent.envelope.legs state target.filledAttempt
        (expectedCashOf state purpose target.filledAttempt) value.sweep := by
  simp only [reconciliationExpectationFromRows, check_bind_ok] at h
  obtain ⟨-, -, hcanonical, h⟩ := h
  obtain ⟨target, htarget, h⟩ := bind_ok.mp h
  obtain ⟨positions, hpositions, h⟩ := bind_ok.mp h
  obtain ⟨activities, hactivities, h⟩ := bind_ok.mp h
  obtain ⟨hvalid, hbuilt⟩ := build_ok.mp h
  have hunfilled : purpose = .submit → target.filledAttempt.filledQuantity = 0 := by
    rintro rfl
    simp only [mutationTarget, submitTarget, check_bind_ok] at htarget
    cases htarget.2.2
    exact submitted_unfilled hcanonical
  refine ⟨target, htarget, ?_⟩
  refine explained_of_safe hlegs hsafe ?_ ?_ ?_ (boundCandidates_new hactivities)
  · rw [← hbuilt]
  · rw [← hbuilt]
    exact expectedPositionsOf_content hlegs hunfilled hpositions
  · rw [← hbuilt]
    exact expectedPositionsOf_distinct hpositions

/-- A sweep that is safe for the expectation of a finalization is explained by the fill of the last
attempt. -/
theorem final_explained (hlegs : (intent.envelope.legs.map OrderLegIntent.symbol).Nodup)
    (h : finalReconciliationExpectationFromRows intent state attempts observations latestPermit
      (some value.sweep.activities) = .ok value.expectation) (hsafe : value.safe = true) :
    ∃ row, attempts.getLast? = some row ∧
      Explained intent.envelope.legs state (attemptFromRow row attempts)
        (state.expectedCash + fillCash (attemptFromRow row attempts)) value.sweep := by
  simp only [finalReconciliationExpectationFromRows, require_bind_ok, check_bind_ok] at h
  obtain ⟨row, hrow, latest, -, permit, -, -, -, -, h⟩ := h
  obtain ⟨positions, hpositions, h⟩ := bind_ok.mp h
  obtain ⟨activities, hactivities, h⟩ := bind_ok.mp h
  obtain ⟨hvalid, hbuilt⟩ := build_ok.mp h
  refine ⟨row, hrow, ?_⟩
  refine explained_of_safe hlegs hsafe ?_ ?_ ?_ (boundCandidates_new hactivities)
  · rw [← hbuilt]
  · rw [← hbuilt]
    exact positionsAfterFill_content hlegs hpositions
  · rw [← hbuilt]
    exact fun _ => positionsAfterFill_distinct hpositions

/-- A sweep that is safe for an expectation built with its own activities differs from the prior
state by the fill of the attempt that the expectation is about. -/
theorem safe_explained {sweep : SweepObservation} {expectation : ReconciliationExpectation}
    {acceptedAt : Int} {value : WholeAccountReconciliation}
    (hlegs : (intent.envelope.legs.map OrderLegIntent.symbol).Nodup)
    (hevaluate : WholeAccountReconciliation.evaluate sweep expectation acceptedAt = .ok value)
    (hsafe : value.safe = true) :
    (∀ purpose attempt attempts,
      reconciliationExpectationFromRows intent state purpose attempt attempts
        (some sweep.activities) = .ok expectation →
      ∃ target, mutationTarget intent state purpose attempt attempts = .ok target ∧
        Explained intent.envelope.legs state target.filledAttempt
          (expectedCashOf state purpose target.filledAttempt) sweep) ∧
    (∀ attempts observations latestPermit,
      finalReconciliationExpectationFromRows intent state attempts observations latestPermit
        (some sweep.activities) = .ok expectation →
      ∃ row, attempts.getLast? = some row ∧
        Explained intent.envelope.legs state (attemptFromRow row attempts)
          (state.expectedCash + fillCash (attemptFromRow row attempts)) sweep) := by
  obtain ⟨rfl, rfl, -⟩ := WholeAccountReconciliation.evaluate_ok hevaluate
  constructor
  · intro purpose attempt attempts h
    exact mutation_explained hlegs h hsafe
  · intro attempts observations latestPermit h
    exact final_explained hlegs h hsafe

end

section Rehearsed

open Rehearsal

/-- Cash that is below the tolerated drag by less than the precision of a difference. -/
def shortCash : Decimal := ⟨false, 99998999999999999999999999999999999, -30⟩

theorem shortCash_safe : reviewsAs shortCash [funding] (fun review => review.value.safe &&
    review.sweep.accounts.all fun account => account.cash == shortCash) = true := by
  decide +kernel

/-- A sweep can be safe although its cash is more than a dollar below what is expected: the
difference is rounded before it is compared. -/
theorem safe_belowTolerance :
    ∃ (intent : ExecutionIntentRow) (state : AccountReconciliationStateRow) (attempt : OrderAttempt)
      (sweep : SweepObservation) (expectation : ReconciliationExpectation) (acceptedAt : Int)
      (value : WholeAccountReconciliation),
      (intent.envelope.legs.map OrderLegIntent.symbol).Nodup ∧
      reconciliationExpectationFromRows intent state .submit attempt [] (some sweep.activities) =
        .ok expectation ∧
      WholeAccountReconciliation.evaluate sweep expectation acceptedAt = .ok value ∧
      value.safe = true ∧
      ∀ account ∈ sweep.accounts, account.cash.value < state.expectedCash.value - 1 := by
  obtain ⟨review, hreview, hchecked⟩ := exists_review shortCash_safe
  obtain ⟨-, hexpectation, hvalue⟩ := reviewSubmission_facts hreview
  simp only [Bool.and_eq_true, List.all_eq_true] at hchecked
  refine ⟨entryRow, firstState, review.attempt, review.sweep, review.expectation, timeAt 1,
    review.value, by decide, hexpectation, hvalue, hchecked.1, fun account haccount => ?_⟩
  rw [Decimal.beq_iff_value.mp (hchecked.2 account haccount)]
  show shortCash.value < (dollars 100000).value - 1
  rw [dollars, Decimal.value_ofInt, Decimal.value, Decimal.significand, shortCash]
  norm_num

/-- In the rehearsal the short cash lies within the tolerance of a safe sweep. -/
theorem safe_explained_rehearsed :
    ∃ (sweep : SweepObservation) (target : MutationTarget), (∀ account ∈ sweep.accounts,
      (account.cash == shortCash) = true) ∧
      Explained envelope.legs firstState target.filledAttempt
        (expectedCashOf firstState .submit target.filledAttempt) sweep := by
  obtain ⟨review, hreview, hchecked⟩ := exists_review shortCash_safe
  obtain ⟨-, hexpectation, hvalue⟩ := reviewSubmission_facts hreview
  simp only [Bool.and_eq_true, List.all_eq_true] at hchecked
  obtain ⟨target, -, hexplained⟩ :=
    (safe_explained (by decide) hvalue hchecked.1).1 _ _ _ hexpectation
  exact ⟨review.sweep, target, hchecked.2, hexplained⟩

end Rehearsed

end AlphaDecay
