import AlphaDecay.Experiments.PerformanceChecks

/-!
# An experiment's performance adds up

`exactPerformance` states the performance of an experiment without an order: each figure is a count
or a sum over its positions. The projection is this performance where the digits of the decimals
suffice (`projection_exact`). Positions are put in order by the times of their activation, so that
only positions activated at one instant, of which one stayed open for longer, are accepted in one
order and not in another.
-/

namespace AlphaDecay.Experiments

open Foundation Foundation.Grouping Foundation.Decimal Agent

/-! ## The performance without an order -/

/-- The actions of a position's transitions with the cash that they moved. -/
def movements (position : PositionLifecycleEvidence) : List (String × ℚ) :=
  position.transitions.map fun transition => (transition.action, transition.cashFlow.value)

/-- The cash that the transitions of a position moved. -/
def netCash (position : PositionLifecycleEvidence) : ℚ :=
  ((movements position).map Prod.snd).sum

/-- The cash that the transitions of an action moved in a position. -/
def actionCash (action : String) (position : PositionLifecycleEvidence) : ℚ :=
  (((movements position).filter fun movement => movement.1 = action).map Prod.snd).sum

/-- The cash that the transitions of an action moved. -/
def cashOf (action : String) (positions : List PositionLifecycleEvidence) : ℚ :=
  (positions.map (actionCash action)).sum

def closedPositions (positions : List PositionLifecycleEvidence) :
    List PositionLifecycleEvidence :=
  positions.filter (·.closedAt.isSome)

/-- The performance of an experiment, summed over its positions. -/
def exactPerformance (lineage : ExperimentExecutionLineage)
    (decisions : List ExperimentDecisionEvidence) (positions : List PositionLifecycleEvidence) :
    ExperimentPerformanceProjection ℚ :=
  let openedCount := positions.length
  let closedCount := (closedPositions positions).length
  { lineage
    decisionCount := decisions.length
    openedTradeCount := openedCount
    closedTradeCount := closedCount
    terminalState :=
      if openedCount = 0 then .noPosition
      else if openedCount = closedCount then .closed else .opened
    totalDefinedMaximumRiskAtEntry := metricOf openedCount .noOpenedTrades
      (positions.map (·.definedMaximumRisk.value)).sum
    entryCashFlow := metricOf openedCount .noOpenedTrades (cashOf "ENTRY" positions)
    managementCashFlow := metricOf openedCount .noOpenedTrades (cashOf "ROLL" positions)
    exitCashFlow := metricOf closedCount .noClosedTrades (cashOf "CLOSE" positions)
    realizedStrategyPnl := metricOf closedCount .noClosedTrades
      ((closedPositions positions).map netCash).sum
    winCount := metricOf closedCount .noClosedTrades
      ((closedPositions positions).countP fun position => 0 < netCash position)
    lossCount := metricOf closedCount .noClosedTrades
      ((closedPositions positions).countP fun position => netCash position < 0)
    breakevenCount := metricOf closedCount .noClosedTrades
      ((closedPositions positions).countP fun position => netCash position = 0) }

/-- The cash flows have few enough digits to be added without rounding. -/
def ExactFlows (positions : List PositionLifecycleEvidence) : Prop :=
  SummedExactly ((positions.flatMap movements).map Prod.snd)

/-- The risks have few enough digits to be added without rounding. -/
def ExactRisks (positions : List PositionLifecycleEvidence) : Prop :=
  SummedExactly (positions.map (·.definedMaximumRisk.value))

/-! ## The order of the positions -/

/-- A position was closed when another was activated. -/
def Closes (last position : PositionLifecycleEvidence) : Prop :=
  last.closedAt.any (fun closedAt => closedAt ≤ position.activatedAt) = true

variable {position right left : PositionLifecycleEvidence} {lineage : ExperimentExecutionLineage}
  {decisionById : Dict Uuid ExperimentDecisionEvidence}

theorem closes_iff {last : PositionLifecycleEvidence} :
    Closes last position ↔
      ∃ closedAt, last.closedAt = some closedAt ∧ closedAt ≤ position.activatedAt := by
  simp [Closes, Option.any_eq_true]

variable {positions : List PositionLifecycleEvidence}

/-- Positions are in order when they are distinct and each is closed before the next. -/
theorem validatePositionOrder_ok {positionIds : List Uuid}
    {previous : Option PositionLifecycleEvidence} :
    validatePositionOrder positionIds previous positions = .ok () ↔
      (∀ position ∈ positions, position.managedPositionId ∉ positionIds) ∧
      (positions.map (·.managedPositionId)).Nodup ∧
      (previous.toList ++ positions).IsChain Closes := by
  induction positions generalizing positionIds previous with
  | nil =>
      rw [validatePositionOrder]
      cases previous <;> simp [pure, Except.pure]
  | cons position rest ih =>
      rw [validatePositionOrder]
      simp only [check_bind_ok, raiseIf_ok, ih, decide_eq_false_iff_not, List.mem_cons, not_or,
        List.map_cons, List.nodup_cons, Option.toList_some, List.singleton_append]
      have hchain : ((previous.toList ++ position :: rest).IsChain Closes) ↔
          (previous.any fun last => !last.closedAt.any fun closedAt =>
            closedAt ≤ position.activatedAt) = false ∧ (position :: rest).IsChain Closes := by
        cases previous with
        | none => simp
        | some last => simp [Closes]
      rw [hchain]
      constructor
      · rintro ⟨hnew, hlast, hids, hnodup, hrest⟩
        refine ⟨?_, ⟨?_, hnodup⟩, hlast, hrest⟩
        · rintro other (rfl | hmem)
          · exact hnew
          · exact (hids other hmem).2
        · intro hmem
          obtain ⟨other, hother, hid⟩ := List.mem_map.mp hmem
          exact (hids other hother).1 hid
      · rintro ⟨hids, ⟨hnot, hnodup⟩, hlast, hrest⟩
        refine ⟨hids position (.inl rfl), hlast, fun other hother => ⟨fun heq => ?_,
          hids other (.inr hother)⟩, hnodup, hrest⟩
        exact hnot (heq ▸ List.mem_map_of_mem hother)

/-- Where positions are well timed, each of a chain is closed before all that follow. -/
theorem pairwise_closes (hchain : positions.IsChain Closes)
    (htimed : ∀ position ∈ positions, WellTimed position) : positions.Pairwise Closes := by
  induction positions with
  | nil => exact List.Pairwise.nil
  | cons position rest ih =>
      have hrest := ih hchain.tail fun other hother => htimed other (List.mem_cons_of_mem _ hother)
      refine List.pairwise_cons.mpr ⟨?_, hrest⟩
      cases rest with
      | nil => simp
      | cons following rest =>
          have hfollowing := (List.isChain_cons_cons.mp hchain).1
          intro other hother
          rcases List.mem_cons.mp hother with rfl | hmem
          · exact hfollowing
          · obtain ⟨closedAt, hclosed, hle⟩ := closes_iff.mp hfollowing
            obtain ⟨next, hnext, hnextLe⟩ :=
              closes_iff.mp ((List.pairwise_cons.mp hrest).1 other hmem)
            exact closes_iff.mpr ⟨closedAt, hclosed,
              hle.trans ((htimed following (by simp) next hnext).trans hnextLe)⟩

/-- One of two positions is closed when the other is activated. -/
def Compatible (left right : PositionLifecycleEvidence) : Prop :=
  (left.activatedAt ≤ right.activatedAt ∧ Closes left right) ∨
    (right.activatedAt ≤ left.activatedAt ∧ Closes right left)

/-- Positions that were activated at one instant were both closed at that instant. -/
def InstantTie (left right : PositionLifecycleEvidence) : Prop :=
  left.activatedAt = right.activatedAt →
    left.closedAt = some left.activatedAt ∧ right.closedAt = some right.activatedAt

/-- Every two positions that were activated at one instant were both closed at that instant. -/
def InstantTies (positions : List PositionLifecycleEvidence) : Prop :=
  positions.Pairwise InstantTie

theorem symm_compatible (h : Compatible left right) : Compatible right left :=
  h.symm

theorem symm_instantTie (h : InstantTie left right) : InstantTie right left :=
  fun heq => (h heq.symm).symm

/-- Positions in the order of their activation are compatible when each closes the next. -/
theorem pairwise_compatible
    (hclosed : (sortedBy PositionLifecycleEvidence.activatedAt positions).Pairwise Closes) :
    positions.Pairwise Compatible := by
  have hboth := hclosed.and (sortedBy_pairwise PositionLifecycleEvidence.activatedAt positions)
  exact ((sortedBy_perm _ _).pairwise_iff fun h => symm_compatible h).mp
    (hboth.imp fun h => .inl h.symm)

/-- Compatible positions of which ties are instants are in order when they are sorted. -/
theorem sorted_closes (hcompatible : positions.Pairwise Compatible)
    (hties : InstantTies positions) :
    (sortedBy PositionLifecycleEvidence.activatedAt positions).Pairwise Closes := by
  have hperm := sortedBy_perm PositionLifecycleEvidence.activatedAt positions
  have hall := (((hperm.pairwise_iff fun h => symm_compatible h).mpr hcompatible).and
    ((hperm.pairwise_iff fun h => symm_instantTie h).mpr hties)).and
    (sortedBy_pairwise PositionLifecycleEvidence.activatedAt positions)
  refine hall.imp ?_
  rintro left right ⟨⟨hleft | hright, htie⟩, hle⟩
  · exact hleft.2
  · have heq := le_antisymm hle hright.1
    exact closes_iff.mpr ⟨_, (htie heq).1, heq.le⟩

/-! ## Totals -/

/-- A position of the lineage with its transitions in order. -/
def Passes (lineage : ExperimentExecutionLineage)
    (decisionById : Dict Uuid ExperimentDecisionEvidence)
    (pair : PositionLifecycleEvidence × OrderedTransitions) : Prop :=
  pair.1.lineage = lineage ∧ validatePosition pair.1 decisionById = .ok pair.2

/-- Positions added one after another. -/
def Totals.addAll (totals : Totals)
    (pairs : List (PositionLifecycleEvidence × OrderedTransitions)) : Totals :=
  pairs.foldl (fun totals pair => totals.add pair.1 pair.2) totals

/-- A position is added when it passes. -/
theorem addPosition_ok {totals next : Totals} :
    addPosition lineage decisionById totals position = .ok next ↔
      ∃ transitions, Passes lineage decisionById (position, transitions) ∧
        next = totals.add position transitions := by
  unfold addPosition
  rw [check_bind_ok, raiseIf_ok, decide_eq_false_iff_not, not_not, bind_ok]
  constructor
  · rintro ⟨hlineage, transitions, hvalid, ⟨⟩⟩
    exact ⟨transitions, ⟨hlineage, hvalid⟩, rfl⟩
  · rintro ⟨transitions, ⟨hlineage, hvalid⟩, rfl⟩
    exact ⟨hlineage, transitions, hvalid, rfl⟩

/-- The positions are added when each of them passes. -/
theorem addPositions_ok {totals totals' : Totals} :
    positions.foldlM (addPosition lineage decisionById) totals = .ok totals' ↔
      ∃ pairs : List (PositionLifecycleEvidence × OrderedTransitions),
        pairs.map Prod.fst = positions ∧ (∀ pair ∈ pairs, Passes lineage decisionById pair) ∧
        totals' = totals.addAll pairs := by
  induction positions generalizing totals with
  | nil =>
      show Except.ok totals = _ ↔ _
      constructor
      · rintro ⟨⟩
        exact ⟨[], rfl, by simp, rfl⟩
      · rintro ⟨pairs, hmap, -, rfl⟩
        rw [List.map_eq_nil_iff.mp hmap]
        rfl
  | cons position rest ih =>
      rw [List.foldlM_cons, bind_ok]
      simp only [addPosition_ok]
      constructor
      · rintro ⟨_, ⟨transitions, hfirst, rfl⟩, hrest⟩
        obtain ⟨pairs, hmap, hpass, rfl⟩ := ih.mp hrest
        refine ⟨(position, transitions) :: pairs, by rw [List.map_cons, hmap], ?_, rfl⟩
        exact List.forall_mem_cons.mpr ⟨hfirst, hpass⟩
      · rintro ⟨pairs, hmap, hpass, rfl⟩
        cases pairs with
        | nil => cases hmap
        | cons pair pairs =>
            rw [List.map_cons, List.cons.injEq] at hmap
            obtain ⟨rfl, rfl⟩ := hmap
            obtain ⟨hfirst, hrest⟩ := List.forall_mem_cons.mp hpass
            exact ⟨_, ⟨pair.2, hfirst, rfl⟩, ih.mpr ⟨pairs, rfl, hrest, rfl⟩⟩

/-- The transitions of positions that have a close at their end. -/
def closedPairs (pairs : List (PositionLifecycleEvidence × OrderedTransitions)) :
    List (PositionLifecycleEvidence × OrderedTransitions) :=
  pairs.filter fun pair => pair.2.last.action = "CLOSE"

def rollsOf (transitions : OrderedTransitions) : List Decimal :=
  (transitions.1.filter (·.action = "ROLL")).map (·.cashFlow)

/-- What adding positions makes of each total. -/
structure Added (totals : Totals) (pairs : List (PositionLifecycleEvidence × OrderedTransitions))
    (result : Totals) : Prop where
  risk : result.totalMaximumRisk =
    (pairs.map (·.1.definedMaximumRisk)).foldl (· + ·) totals.totalMaximumRisk
  entry : result.entryCashFlow =
    (pairs.map (·.2.first.cashFlow)).foldl (· + ·) totals.entryCashFlow
  management : result.managementCashFlow =
    (pairs.map fun pair => total (rollsOf pair.2)).foldl (· + ·) totals.managementCashFlow
  exit : result.exitCashFlow =
    ((closedPairs pairs).map (·.2.last.cashFlow)).foldl (· + ·) totals.exitCashFlow
  pnl : result.closedPnl =
    totals.closedPnl ++ (closedPairs pairs).map (·.2.last.snapshotCumulativeCashFlow)

/-- Adding positions adds their parts. -/
theorem added_addAll (totals : Totals)
    (pairs : List (PositionLifecycleEvidence × OrderedTransitions)) :
    Added totals pairs (totals.addAll pairs) := by
  induction pairs generalizing totals with
  | nil => exact ⟨rfl, rfl, rfl, rfl, (List.append_nil _).symm⟩
  | cons pair rest ih =>
      obtain ⟨hrisk, hentry, hmanagement, hexit, hpnl⟩ := ih (totals.add pair.1 pair.2)
      refine ⟨hrisk, hentry, hmanagement, hexit.trans ?_, hpnl.trans ?_⟩
      · by_cases hclose : pair.2.last.action = "CLOSE" <;>
          simp [closedPairs, Totals.add, hclose]
      · by_cases hclose : pair.2.last.action = "CLOSE" <;>
          simp [closedPairs, Totals.add, hclose]

/-! ## Exact totals -/

variable {pairs : List (PositionLifecycleEvidence × OrderedTransitions)}

variable {position : PositionLifecycleEvidence} {transitions : OrderedTransitions}
  {pair : PositionLifecycleEvidence × OrderedTransitions}

/-- The transitions of positions, one position after another. -/
def transitionsOf (pairs : List (PositionLifecycleEvidence × OrderedTransitions)) :
    List LifecycleTransitionEvidence :=
  pairs.flatMap (·.2.1)

/-- The cash of transitions of an action. -/
def actionFlows (action : String) (transitions : List LifecycleTransitionEvidence) :
    List Decimal :=
  (transitions.filter (·.action = action)).map (·.cashFlow)

theorem transitionsOf_cons (pair : PositionLifecycleEvidence × OrderedTransitions) :
    transitionsOf (pair :: pairs) = pair.2.1 ++ transitionsOf pairs :=
  List.flatMap_cons

theorem actionFlows_append (action : String) (first second : List LifecycleTransitionEvidence) :
    actionFlows action (first ++ second) =
      actionFlows action first ++ actionFlows action second := by
  rw [actionFlows, List.filter_append, List.map_append]
  rfl

/-- The first transitions of the positions are their entries. -/
theorem map_first (h : ∀ pair ∈ pairs, PositionAccepted pair.1 pair.2) :
    pairs.map (·.2.first.cashFlow) = actionFlows "ENTRY" (transitionsOf pairs) := by
  induction pairs with
  | nil => rfl
  | cons pair rest ih =>
      obtain ⟨hfirst, hrest⟩ := List.forall_mem_cons.mp h
      have hentry : actionFlows "ENTRY" pair.2.1 = [pair.2.first.cashFlow] := by
        rw [actionFlows, hfirst.entries, List.map_singleton]
      rw [List.map_cons, ih hrest, transitionsOf_cons, actionFlows_append, hentry,
        List.singleton_append]

/-- The last transitions of the closed positions are their closes. -/
theorem map_last (h : ∀ pair ∈ pairs, PositionAccepted pair.1 pair.2) :
    (closedPairs pairs).map (·.2.last.cashFlow) = actionFlows "CLOSE" (transitionsOf pairs) := by
  induction pairs with
  | nil => rfl
  | cons pair rest ih =>
      obtain ⟨hfirst, hrest⟩ := List.forall_mem_cons.mp h
      rw [transitionsOf_cons, actionFlows_append, ← ih hrest, actionFlows, hfirst.closes]
      by_cases hclose : pair.2.last.action = "CLOSE" <;> simp [closedPairs, hclose]

/-- The rolls of the positions, one position after another. -/
theorem flatten_rolls :
    (pairs.map fun pair => rollsOf pair.2).flatten = actionFlows "ROLL" (transitionsOf pairs) := by
  induction pairs with
  | nil => rfl
  | cons pair rest ih =>
      rw [List.map_cons, List.flatten_cons, ih, transitionsOf_cons, actionFlows_append]
      rfl

/-- The closed positions are the ones with a close at their end. -/
theorem map_closedPairs (h : ∀ pair ∈ pairs, PositionAccepted pair.1 pair.2) :
    (closedPairs pairs).map Prod.fst = closedPositions (pairs.map Prod.fst) := by
  rw [closedPositions, List.filter_map, closedPairs]
  refine congrArg (List.map Prod.fst) (List.filter_congr fun pair hpair => ?_)
  have hclosed := (h pair hpair).closed
  by_cases hclose : pair.2.last.action = "CLOSE"
  · simp [hclose, hclosed.mpr hclose]
  · simpa [hclose] using fun hsome => hclose (hclosed.mp hsome)

theorem movements_perm (h : PositionAccepted position transitions) :
    (transitions.1.map fun transition =>
      (transition.action, transition.cashFlow.value)).Perm (movements position) :=
  h.perm.map _

/-- The cash of the sorted transitions, action by action, is that of the position. -/
theorem sum_actionFlows (h : PositionAccepted position transitions) (action : String) :
    ((actionFlows action transitions.1).map value).sum = actionCash action position := by
  rw [actionCash, ← (((movements_perm h).filter _).map Prod.snd).sum_eq, List.filter_map,
    List.map_map, actionFlows, List.map_map]
  rfl

/-- The cash of an action in all positions. -/
theorem sum_actionFlows_transitionsOf (h : ∀ pair ∈ pairs, PositionAccepted pair.1 pair.2)
    (action : String) :
    ((actionFlows action (transitionsOf pairs)).map value).sum =
      cashOf action (pairs.map Prod.fst) := by
  induction pairs with
  | nil => rfl
  | cons pair rest ih =>
      obtain ⟨hfirst, hrest⟩ := List.forall_mem_cons.mp h
      rw [transitionsOf_cons, actionFlows_append, List.map_append, List.sum_append,
        sum_actionFlows hfirst action, ih hrest, cashOf, cashOf, List.map_cons, List.map_cons,
        List.sum_cons]

/-- The cash of all transitions is added without rounding where that of the positions is. -/
theorem exact_transitionsOf (h : ∀ pair ∈ pairs, PositionAccepted pair.1 pair.2)
    (hexact : SummedExactly (((pairs.map Prod.fst).flatMap movements).map Prod.snd)) :
    SummedExactly ((transitionsOf pairs).map (·.cashFlow.value)) := by
  refine hexact.perm ?_
  clear hexact
  induction pairs with
  | nil => exact List.Perm.refl _
  | cons pair rest ih =>
      obtain ⟨hfirst, hrest⟩ := List.forall_mem_cons.mp h
      have hown := (movements_perm hfirst).symm.map Prod.snd
      rw [List.map_map] at hown
      rw [List.map_cons, List.flatMap_cons, List.map_append, transitionsOf_cons, List.map_append]
      exact hown.append (ih hrest)

/-- The cash of an action is added without rounding where that of all transitions is. -/
theorem exact_actionFlows {transitions : List LifecycleTransitionEvidence}
    (hexact : SummedExactly (transitions.map (·.cashFlow.value))) (action : String) :
    SummedExactly ((actionFlows action transitions).map value) := by
  refine hexact.sublist ?_
  rw [actionFlows, List.map_map]
  exact List.filter_sublist.map _

/-- The transitions of a position are among all transitions. -/
theorem exact_of_mem (hpair : pair ∈ pairs)
    (hexact : SummedExactly ((transitionsOf pairs).map (·.cashFlow.value))) :
    SummedExactly ((pair.2.1.map (·.cashFlow)).map value) := by
  rw [List.map_map]
  refine hexact.sublist (List.Sublist.map _ ?_)
  exact List.sublist_flatten_of_mem (List.mem_map_of_mem hpair)

/-- The last cumulative figure of a position is its net cash. -/
theorem value_cumulative (hpair : pair ∈ pairs) (h : ∀ pair ∈ pairs, PositionAccepted pair.1 pair.2)
    (hexact : SummedExactly ((transitionsOf pairs).map (·.cashFlow.value))) :
    pair.2.last.snapshotCumulativeCashFlow.value = netCash pair.1 := by
  have haccepted := h pair hpair
  rw [haccepted.cumulative, value_total (exact_of_mem hpair hexact), netCash,
    ← ((movements_perm haccepted).map Prod.snd).sum_eq, List.map_map, List.map_map]
  rfl

/-- Adding accepted positions without rounding. -/
structure AddedExactly (positions : List PositionLifecycleEvidence) (result : Totals) : Prop where
  entry : result.entryCashFlow.value = cashOf "ENTRY" positions
  management : result.managementCashFlow.value = cashOf "ROLL" positions
  exit : result.exitCashFlow.value = cashOf "CLOSE" positions
  pnl : result.closedPnl.map value = (closedPositions positions).map netCash
  realized : (total result.closedPnl).value = ((closedPositions positions).map netCash).sum

theorem value_totalMaximumRisk (hexact : ExactRisks (pairs.map Prod.fst)) :
    (Totals.start.addAll pairs).totalMaximumRisk.value =
      ((pairs.map Prod.fst).map (·.definedMaximumRisk.value)).sum := by
  rw [(added_addAll Totals.start pairs).risk]
  refine (@value_total (pairs.map (·.1.definedMaximumRisk)) ?_).trans ?_
  · simpa [ExactRisks, List.map_map, Function.comp_def] using hexact
  · simp [List.map_map, Function.comp_def]

/-- The cash of accepted positions is added exactly where its digits suffice. -/
theorem addedExactly (h : ∀ pair ∈ pairs, PositionAccepted pair.1 pair.2)
    (hexact : ExactFlows (pairs.map Prod.fst)) :
    AddedExactly (pairs.map Prod.fst) (Totals.start.addAll pairs) := by
  obtain ⟨-, hentry, hmanagement, hexit, hpnl⟩ := added_addAll Totals.start pairs
  have hflows := exact_transitionsOf h hexact
  have hvalues : (Totals.start.addAll pairs).closedPnl.map value =
      (closedPositions (pairs.map Prod.fst)).map netCash := by
    rw [hpnl, ← map_closedPairs h, List.map_map]
    show (List.map _ _).map value = _
    rw [List.map_map]
    exact List.map_congr_left fun pair hpair =>
      value_cumulative (List.mem_of_mem_filter hpair) h hflows
  refine ⟨?_, ?_, ?_, hvalues, ?_⟩
  · rw [hentry, map_first h, ← sum_actionFlows_transitionsOf h]
    exact value_total (exact_actionFlows hflows "ENTRY")
  · -- each position's rolls are added up first
    have hparts : (pairs.map fun pair => total (rollsOf pair.2)).map value =
        (pairs.map fun pair => (rollsOf pair.2).map value).map List.sum := by
      rw [List.map_map, List.map_map]
      refine List.map_congr_left fun pair hpair => value_total ?_
      have hown := exact_of_mem hpair hflows
      rw [List.map_map] at hown
      exact exact_actionFlows hown "ROLL"
    have hflatten : (pairs.map fun pair => (rollsOf pair.2).map value).flatten =
        (actionFlows "ROLL" (transitionsOf pairs)).map value := by
      rw [← flatten_rolls, List.map_flatten, List.map_map]
      rfl
    rw [hmanagement, ← sum_actionFlows_transitionsOf h, ← hflatten, List.sum_flatten, ← hparts]
    refine value_total ?_
    rw [hparts]
    refine SummedExactly.sums ?_
    rw [hflatten]
    exact exact_actionFlows hflows "ROLL"
  · rw [hexit, map_last h, ← sum_actionFlows_transitionsOf h]
    exact value_total (exact_actionFlows hflows "CLOSE")
  · rw [← hvalues]
    refine value_total ?_
    rw [hvalues, ← map_closedPairs h, List.map_map]
    have hnet : (closedPairs pairs).map (netCash ∘ Prod.fst) =
        ((closedPairs pairs).map fun pair => pair.2.1.map (·.cashFlow.value)).map List.sum := by
      rw [List.map_map]
      refine List.map_congr_left fun pair hpair => ?_
      have haccepted := h pair (List.mem_of_mem_filter hpair)
      show netCash pair.1 = _
      rw [netCash, ← ((movements_perm haccepted).map Prod.snd).sum_eq, List.map_map]
      rfl
    rw [hnet]
    refine SummedExactly.sums (hflows.sublist ?_)
    rw [transitionsOf, List.map_flatMap, List.flatMap_def]
    exact (List.filter_sublist.map _).flatten

end AlphaDecay.Experiments
