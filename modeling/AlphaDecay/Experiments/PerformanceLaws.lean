import AlphaDecay.Experiments.PerformanceSums
import AlphaDecay.Foundation.RelatedLists

/-!
# An experiment's performance and the order of its evidence

`performance_adds_up` puts the two laws of a performance together: its figures add up, and evidence
in another order has the same performance. Of positions that were activated at one instant one may
stay open; they are accepted in one order only.
-/

namespace AlphaDecay.Experiments

open Foundation Foundation.Grouping Foundation.Decimal Agent

/-! ## Accepted evidence -/

section

variable {lineage : ExperimentExecutionLineage} {decisions : List ExperimentDecisionEvidence}
  {positions : List PositionLifecycleEvidence}
  {projection : ExperimentPerformanceProjection Decimal}

/-- What an accepted performance rests on: the decisions, and each position with its transitions
in the order of activation. -/
structure EvidenceAccepted (lineage : ExperimentExecutionLineage)
    (decisions : List ExperimentDecisionEvidence) (positions : List PositionLifecycleEvidence)
    (pairs : List (PositionLifecycleEvidence × OrderedTransitions)) : Prop where
  lineages : ∀ decision ∈ decisions, decision.lineage = lineage
  decisionIds : (decisions.map (·.decisionId)).Nodup
  sorted : pairs.map Prod.fst = sortedBy PositionLifecycleEvidence.activatedAt positions
  positionIds : (positions.map (·.managedPositionId)).Nodup
  chain : (sortedBy PositionLifecycleEvidence.activatedAt positions).IsChain Closes
  passes : ∀ pair ∈ pairs, Passes lineage (Dict.ofList (·.decisionId) decisions) pair

theorem projectExperimentPerformance_ok :
    projectExperimentPerformance lineage decisions positions = .ok projection ↔
      ∃ pairs, EvidenceAccepted lineage decisions positions pairs ∧
        projection = projectionOf lineage decisions
          (sortedBy PositionLifecycleEvidence.activatedAt positions)
          (Totals.start.addAll pairs) := by
  unfold projectExperimentPerformance
  rw [bind_ok]
  have hids : ((sortedBy PositionLifecycleEvidence.activatedAt positions).map
      (·.managedPositionId)).Nodup ↔ (positions.map (·.managedPositionId)).Nodup :=
    ((sortedBy_perm _ _).map _).nodup_iff
  constructor
  · rintro ⟨decisionById, hdecisions, hrest⟩
    obtain ⟨hlineages, hdecisionIds, rfl⟩ := validateDecisions_ok.mp hdecisions
    rw [check_bind_ok, bind_ok] at hrest
    obtain ⟨horder, totals, htotals, ⟨⟩⟩ := hrest
    obtain ⟨pairs, hmap, hpasses, rfl⟩ := addPositions_ok.mp htotals
    obtain ⟨-, hnodup, hchain⟩ := validatePositionOrder_ok.mp horder
    exact ⟨pairs, ⟨hlineages, hdecisionIds, hmap, hids.mp hnodup, hchain, hpasses⟩, rfl⟩
  · rintro ⟨pairs, haccepted, rfl⟩
    refine ⟨_, validateDecisions_ok.mpr ⟨haccepted.lineages, haccepted.decisionIds, rfl⟩, ?_⟩
    rw [check_bind_ok, bind_ok]
    exact ⟨validatePositionOrder_ok.mpr ⟨by simp, hids.mpr haccepted.positionIds,
      haccepted.chain⟩, _, addPositions_ok.mpr ⟨pairs, haccepted.sorted, haccepted.passes, rfl⟩,
      rfl⟩

variable {pairs : List (PositionLifecycleEvidence × OrderedTransitions)}

theorem EvidenceAccepted.each (h : EvidenceAccepted lineage decisions positions pairs) :
    ∀ pair ∈ pairs, PositionAccepted pair.1 pair.2 :=
  fun pair hpair => accepted_of_validatePosition (h.passes pair hpair).2

theorem EvidenceAccepted.timed (h : EvidenceAccepted lineage decisions positions pairs) :
    ∀ position ∈ sortedBy PositionLifecycleEvidence.activatedAt positions, WellTimed position := by
  intro position hposition
  rw [← h.sorted] at hposition
  obtain ⟨pair, hpair, rfl⟩ := List.mem_map.mp hposition
  exact (h.each pair hpair).timed

theorem EvidenceAccepted.closes (h : EvidenceAccepted lineage decisions positions pairs) :
    (sortedBy PositionLifecycleEvidence.activatedAt positions).Pairwise Closes :=
  pairwise_closes h.chain h.timed

/-! ## Sums -/

/-- Positions in another order have the same performance. -/
theorem exactPerformance_perm {decisions' : List ExperimentDecisionEvidence}
    {positions' : List PositionLifecycleEvidence} (hdecisions : decisions'.Perm decisions)
    (hpositions : positions'.Perm positions) :
    exactPerformance lineage decisions' positions' =
      exactPerformance lineage decisions positions := by
  have hclosed : (closedPositions positions').Perm (closedPositions positions) :=
    hpositions.filter _
  have hsum : ∀ f : PositionLifecycleEvidence → ℚ,
      (positions'.map f).sum = (positions.map f).sum := fun f => (hpositions.map f).sum_eq
  simp only [exactPerformance, hdecisions.length_eq, hpositions.length_eq, hclosed.length_eq,
    cashOf, hsum, (hclosed.map netCash).sum_eq, hclosed.countP_eq]

/-- The last of the sorted positions is open exactly when some position is. -/
theorem terminalStateOf_eq
    (h : (sortedBy PositionLifecycleEvidence.activatedAt positions).IsChain Closes) :
    terminalStateOf (sortedBy PositionLifecycleEvidence.activatedAt positions) =
      if positions.length = 0 then .noPosition
      else if positions.length = (closedPositions positions).length then .closed
      else .opened := by
  have hperm := sortedBy_perm PositionLifecycleEvidence.activatedAt positions
  have hclosed : (closedPositions positions).length =
      (sortedBy PositionLifecycleEvidence.activatedAt positions).countP (·.closedAt.isSome) := by
    rw [closedPositions, ← List.countP_eq_length_filter, hperm.countP_eq]
  rw [hclosed, ← hperm.length_eq]
  generalize sortedBy PositionLifecycleEvidence.activatedAt positions = ordered at h
  clear hclosed hperm
  induction ordered using List.reverseRecOn with
  | nil => rfl
  | append_singleton before last _ =>
      -- each position but the last is closed
      have hbefore : before.countP (·.closedAt.isSome) = before.length := by
        rw [List.countP_eq_length]
        intro position hposition
        obtain ⟨left, right, rfl⟩ := List.append_of_mem hposition
        rw [List.append_assoc, List.cons_append] at h
        have htail := h.right_of_append
        cases right with
        | nil =>
            obtain ⟨closedAt, hat, -⟩ := closes_iff.mp (List.isChain_cons_cons.mp htail).1
            simp [hat]
        | cons next rest =>
            obtain ⟨closedAt, hat, -⟩ := closes_iff.mp (List.isChain_cons_cons.mp htail).1
            simp [hat]
      rw [terminalStateOf, List.getLast?_append, List.getLast?_singleton, List.countP_append,
        hbefore, List.length_append, List.length_singleton]
      cases hlast : last.closedAt <;> simp [hlast]

theorem map_metricOf {α β : Type} (f : α → β) (count : Nat) (reason : MetricUnavailableReason)
    (value : α) : (metricOf count reason value).map f = metricOf count reason (f value) := by
  unfold metricOf
  split <;> rfl

/-- The cash of accepted evidence is added exactly where its digits suffice. -/
theorem EvidenceAccepted.added (h : EvidenceAccepted lineage decisions positions pairs)
    (hflows : ExactFlows positions) :
    AddedExactly (sortedBy PositionLifecycleEvidence.activatedAt positions)
      (Totals.start.addAll pairs) := by
  have hperm := sortedBy_perm PositionLifecycleEvidence.activatedAt positions
  rw [← h.sorted]
  refine addedExactly h.each ?_
  rw [h.sorted]
  exact hflows.perm ((hperm.symm.flatMap_right movements).map Prod.snd)

/-- The closed positions of accepted evidence are the ones with a realized figure. -/
theorem EvidenceAccepted.closedCount (h : EvidenceAccepted lineage decisions positions pairs) :
    (Totals.start.addAll pairs).closedPnl.length = (closedPositions positions).length := by
  have hperm := sortedBy_perm PositionLifecycleEvidence.activatedAt positions
  have hmapped := congrArg List.length (map_closedPairs h.each)
  rw [h.sorted, List.length_map] at hmapped
  rw [(added_addAll Totals.start pairs).pnl, List.length_append, List.length_map, hmapped,
    show (closedPositions _).length = (closedPositions positions).length from
      (hperm.filter _).length_eq]
  exact Nat.zero_add _

/-- The projection is the exact performance where the digits suffice. -/
theorem projection_exact
    (h : projectExperimentPerformance lineage decisions positions = .ok projection)
    (hflows : ExactFlows positions) (hrisks : ExactRisks positions) :
    projection.map Decimal.value = exactPerformance lineage decisions positions := by
  obtain ⟨pairs, haccepted, rfl⟩ := projectExperimentPerformance_ok.mp h
  have hperm := sortedBy_perm PositionLifecycleEvidence.activatedAt positions
  have hadded := haccepted.added hflows
  have hrisk : (Totals.start.addAll pairs).totalMaximumRisk.value =
      ((sortedBy PositionLifecycleEvidence.activatedAt positions).map
        (·.definedMaximumRisk.value)).sum := by
    rw [← haccepted.sorted]
    refine value_totalMaximumRisk ?_
    rw [haccepted.sorted]
    exact hrisks.perm (hperm.symm.map _)
  rw [← exactPerformance_perm (List.Perm.refl decisions) hperm]
  have hcount : ∀ p : ℚ → Bool, (Totals.start.addAll pairs).closedPnl.countP (fun d => p d.value) =
      (closedPositions (sortedBy PositionLifecycleEvidence.activatedAt positions)).countP
        fun position => p (netCash position) := by
    intro p
    have hmapped := congrArg (List.countP p) hadded.pnl
    rwa [List.countP_map, List.countP_map] at hmapped
  have hlength : (Totals.start.addAll pairs).closedPnl.length =
      (closedPositions (sortedBy PositionLifecycleEvidence.activatedAt positions)).length := by
    rw [haccepted.closedCount]
    exact (hperm.filter _).length_eq.symm
  have hzero : (Decimal.ofInt 0).value = 0 := by simp
  have hwin := hcount fun x => decide (0 < x)
  have hloss := hcount fun x => decide (x < 0)
  have heven := hcount fun x => decide (x = 0)
  have hterminal := terminalStateOf_eq haccepted.chain
  rw [← hperm.length_eq, ← (show (closedPositions _).length = (closedPositions positions).length
    from (hperm.filter _).length_eq)] at hterminal
  have hbeq : ∀ d : Decimal, (d == Decimal.ofInt 0) = decide (d.value = 0) := by
    intro d
    rw [Bool.eq_iff_iff, Decimal.beq_iff_value, hzero, decide_eq_true_iff]
  simp only [ExperimentPerformanceProjection.map, projectionOf, exactPerformance, map_metricOf,
    hrisk, hadded.entry, hadded.management, hadded.exit, hadded.realized, hlength,
    Decimal.lt_iff_value, hbeq, hzero, hwin, hloss, heven, hterminal]

/-- The net cash of an accepted position is the cash of its entry, its rolls and its close. -/
theorem netCash_eq {position : PositionLifecycleEvidence} {transitions : OrderedTransitions}
    (h : PositionAccepted position transitions) :
    netCash position = actionCash "ENTRY" position + actionCash "ROLL" position +
      actionCash "CLOSE" position := by
  have hactions : ∀ movement ∈ movements position,
      movement.1 = "ENTRY" ∨ movement.1 = "ROLL" ∨ movement.1 = "CLOSE" := by
    intro movement hmovement
    obtain ⟨transition, htransition, rfl⟩ := List.mem_map.mp hmovement
    exact h.actions transition (h.perm.mem_iff.mpr htransition)
  unfold netCash actionCash
  generalize movements position = moved at hactions
  induction moved with
  | nil => simp
  | cons movement rest ih =>
      obtain ⟨hfirst, hrest⟩ := List.forall_mem_cons.mp hactions
      have hsum := ih hrest
      rw [List.map_cons, List.sum_cons, hsum]
      rcases hfirst with h | h | h <;> simp [h] <;> ring

/-- The value of a metric, nothing where it is unavailable. -/
def amountOf (metric : ProjectedMetric Decimal) : ℚ :=
  (metric.map Decimal.value).value.getD 0

/-- The count of a metric, nothing where it is unavailable. -/
def countOf (metric : ProjectedMetric Nat) : Nat :=
  metric.value.getD 0

/-- The amount of a metric that has one when its count is not zero. -/
theorem amountOf_metricOf {count : Nat} {reason : MetricUnavailableReason} {d : Decimal}
    (h : count = 0 → d.value = 0) : amountOf (metricOf count reason d) = d.value := by
  unfold metricOf
  split
  · rename_i hzero
    rw [h hzero]
    rfl
  · rfl

/-- Decimals are positive, negative or zero. -/
theorem countP_signs (amounts : List Decimal) :
    amounts.countP (fun d => Decimal.ofInt 0 < d) + amounts.countP (fun d => d < Decimal.ofInt 0) +
      amounts.countP (fun d => d == Decimal.ofInt 0) = amounts.length := by
  induction amounts with
  | nil => rfl
  | cons d rest ih =>
      have hzero : (Decimal.ofInt 0).value = 0 := by simp
      simp only [List.countP_cons, List.length_cons, Decimal.lt_iff_value, Decimal.beq_iff_value,
        hzero, decide_eq_true_eq] at ih ⊢
      rcases lt_trichotomy d.value 0 with h | h | h
      · simp only [h, h.ne, not_lt.mpr h.le, if_true, if_false]
        omega
      · simp only [h, lt_irrefl, if_true, if_false]
        omega
      · simp only [h, h.ne', not_lt.mpr h.le, if_true, if_false]
        omega

end

/-! ## Order -/

/-- The positions in another order, with the parts of each. -/
def PositionsReordered (positions positions' : List PositionLifecycleEvidence) : Prop :=
  ∃ between, between.Perm positions ∧ List.Forall₂ PositionReordered between positions'

/-- The figures of a position that a performance sums up do not depend on the order of its
parts. -/
theorem position_reordered {position position' : PositionLifecycleEvidence}
    (h : PositionReordered position position') : (movements position').Perm (movements position) ∧
      position'.managedPositionId = position.managedPositionId ∧
      position'.lineage = position.lineage ∧
      position'.definedMaximumRisk = position.definedMaximumRisk ∧
      position'.activatedAt = position.activatedAt ∧ position'.closedAt = position.closedAt := by
  obtain ⟨between, transitions, hperm, hrelated, rfl⟩ := h
  refine ⟨?_, rfl, rfl, rfl, rfl, rfl⟩
  have hmap : movements { position with transitions } = between.map fun transition =>
      (transition.action, transition.cashFlow.value) := by
    unfold movements
    clear hperm
    induction hrelated with
    | nil => rfl
    | cons hfirst _ ih =>
        obtain ⟨attempts, -, rfl⟩ := hfirst
        exact congrArg (_ :: ·) ih
  rw [hmap]
  exact hperm.map _

section Reordered

variable {lineage : ExperimentExecutionLineage}
  {decisions decisions' : List ExperimentDecisionEvidence}
  {positions positions' between : List PositionLifecycleEvidence}

/-- A figure of positions that does not depend on the order of their parts is listed alike. -/
theorem map_reordered {β : Type} {f : PositionLifecycleEvidence → β}
    (hf : ∀ position position', PositionReordered position position' → f position' = f position)
    (h : List.Forall₂ PositionReordered between positions') : positions'.map f = between.map f := by
  induction h with
  | nil => rfl
  | cons hfirst _ ih => rw [List.map_cons, List.map_cons, hf _ _ hfirst, ih]

theorem netCash_reordered {position position' : PositionLifecycleEvidence}
    (h : PositionReordered position position') : netCash position' = netCash position :=
  ((position_reordered h).1.map Prod.snd).sum_eq

/-- The closed positions have the same net cash. -/
theorem closed_reordered (h : List.Forall₂ PositionReordered between positions') :
    (closedPositions positions').map netCash = (closedPositions between).map netCash := by
  induction h with
  | nil => rfl
  | cons hfirst _ ih =>
      have hclosed := (position_reordered hfirst).2.2.2.2.2
      rw [closedPositions, closedPositions] at ih ⊢
      rw [List.filter_cons, List.filter_cons, hclosed]
      split
      · rw [List.map_cons, List.map_cons, netCash_reordered hfirst, ih]
      · exact ih

/-- Reordered evidence has the same performance. -/
theorem exactPerformance_reordered (hdecisions : decisions'.Perm decisions)
    (h : PositionsReordered positions positions') :
    exactPerformance lineage decisions' positions' =
      exactPerformance lineage decisions positions := by
  obtain ⟨between, hperm, hrelated⟩ := h
  rw [← exactPerformance_perm hdecisions hperm]
  have haction : ∀ action, cashOf action positions' = cashOf action between := by
    intro action
    refine congrArg List.sum (map_reordered (fun position position' hposition => ?_) hrelated)
    exact (((position_reordered hposition).1.filter _).map Prod.snd).sum_eq
  have hrisk : positions'.map (·.definedMaximumRisk.value) =
      between.map (·.definedMaximumRisk.value) :=
    map_reordered (fun position position' hposition =>
      congrArg Decimal.value (position_reordered hposition).2.2.2.1) hrelated
  have hnet := closed_reordered hrelated
  have hlength := congrArg List.length hnet
  rw [List.length_map, List.length_map] at hlength
  have hcount : ∀ p : ℚ → Bool, (closedPositions positions').countP (fun position =>
      p (netCash position)) = (closedPositions between).countP fun position =>
        p (netCash position) := by
    intro p
    have hmapped := congrArg (List.countP p) hnet
    rwa [List.countP_map, List.countP_map] at hmapped
  have hwin := hcount fun x => decide (0 < x)
  have hloss := hcount fun x => decide (x < 0)
  have heven := hcount fun x => decide (x = 0)
  simp only [exactPerformance, hrelated.length_eq, hlength, haction, hrisk, hnet, hwin, hloss,
    heven]

theorem InstantTies.reordered (hties : InstantTies positions)
    (h : PositionsReordered positions positions') : InstantTies positions' := by
  obtain ⟨between, hperm, hrelated⟩ := h
  refine pairwise_of_forall₂ (fun a a' b b' ha hb hab => ?_) hrelated
    ((hperm.pairwise_iff fun h => symm_instantTie h).mpr hties)
  rw [InstantTie, (position_reordered ha).2.2.2.2.1, (position_reordered ha).2.2.2.2.2,
    (position_reordered hb).2.2.2.2.1, (position_reordered hb).2.2.2.2.2]
  exact hab

theorem PositionsReordered.symm (h : PositionsReordered positions positions') :
    PositionsReordered positions' positions := by
  obtain ⟨between, hperm, hrelated⟩ := h
  obtain ⟨back, hback, hbackPerm⟩ := List.perm_comp_forall₂ hperm.symm hrelated
  exact ⟨back, hbackPerm, hback.flip.imp fun _ _ hreordered => PositionReordered.symm hreordered⟩

/-- Reordered evidence is accepted too where ties are instants. -/
theorem EvidenceAccepted.reordered
    {pairs : List (PositionLifecycleEvidence × OrderedTransitions)}
    (haccepted : EvidenceAccepted lineage decisions positions pairs)
    (hties : InstantTies positions) (hdecisions : decisions'.Perm decisions)
    (h : PositionsReordered positions positions') :
    ∃ pairs', EvidenceAccepted lineage decisions' positions' pairs' := by
  obtain ⟨between, hperm, hrelated⟩ := h
  have hids : positions'.map (·.managedPositionId) = between.map (·.managedPositionId) :=
    map_reordered (fun _ _ hposition => (position_reordered hposition).2.1) hrelated
  have htimes : ∀ a a' : PositionLifecycleEvidence, PositionReordered a a' →
      a'.activatedAt = a.activatedAt ∧ a'.closedAt = a.closedAt := fun _ _ hposition =>
    (position_reordered hposition).2.2.2.2
  have hties' := hties.reordered ⟨between, hperm, hrelated⟩
  have hcompatible : positions'.Pairwise Compatible := by
    refine pairwise_of_forall₂ (fun a a' b b' ha hb hab => ?_) hrelated
      ((hperm.pairwise_iff fun h => symm_compatible h).mpr (pairwise_compatible haccepted.closes))
    rw [Compatible, Closes, Closes, (htimes a a' ha).1, (htimes a a' ha).2, (htimes b b' hb).1,
      (htimes b b' hb).2]
    exact hab
  have hget : (Dict.ofList (·.decisionId) decisions').get =
      (Dict.ofList (·.decisionId) decisions).get := by
    funext id
    rw [Dict.get_ofList, Dict.get_ofList, lastByKey_eq_of_perm
      ((hdecisions.map _).nodup_iff.mpr haccepted.decisionIds) hdecisions]
  have hpartner : ∀ position' ∈ sortedBy PositionLifecycleEvidence.activatedAt positions',
      ∃ transitions', Passes lineage (Dict.ofList (·.decisionId) decisions')
        (position', transitions') := by
    intro position' hposition'
    obtain ⟨position, hposition, hreordered⟩ := exists_of_forall₂ hrelated position'
      ((sortedBy_perm _ _).mem_iff.mp hposition')
    have hsorted : position ∈ sortedBy PositionLifecycleEvidence.activatedAt positions :=
      (sortedBy_perm _ _).mem_iff.mpr (hperm.mem_iff.mp hposition)
    rw [← haccepted.sorted] at hsorted
    obtain ⟨pair, hpair, rfl⟩ := List.mem_map.mp hsorted
    obtain ⟨hlineage, hvalid⟩ := haccepted.passes pair hpair
    obtain ⟨transitions', hvalid'⟩ := passes_reordered hget hreordered hvalid
    exact ⟨transitions', (position_reordered hreordered).2.2.1.trans hlineage, hvalid'⟩
  obtain ⟨pairs', hsorted', hpasses'⟩ := exists_partners hpartner
  refine ⟨pairs', fun decision hdecision => haccepted.lineages decision
    (hdecisions.mem_iff.mp hdecision), (hdecisions.map _).nodup_iff.mpr haccepted.decisionIds,
    hsorted', ?_, (sorted_closes hcompatible hties').isChain, hpasses'⟩
  rw [hids]
  exact (hperm.map _).nodup_iff.mpr haccepted.positionIds

/-- Where digits suffice and ties are instants, evidence in another order has the same performance,
or is refused as well. -/
theorem agree_reordered (hties : InstantTies positions) (hflows : ExactFlows positions)
    (hrisks : ExactRisks positions) (hdecisions : decisions'.Perm decisions)
    (h : PositionsReordered positions positions') :
    Agree (fun projection projection' => projection'.map Decimal.value = projection.map value)
      (projectExperimentPerformance lineage decisions positions)
      (projectExperimentPerformance lineage decisions' positions') := by
  have hflows' : ExactFlows positions' := by
    obtain ⟨between, hperm, hrelated⟩ := h
    refine hflows.perm (List.Perm.map Prod.snd ?_)
    refine (hperm.symm.flatMap_right movements).trans ?_
    clear hperm
    induction hrelated with
    | nil => exact List.Perm.refl _
    | cons hfirst _ ih =>
        rw [List.flatMap_cons, List.flatMap_cons]
        exact (position_reordered hfirst).1.symm.append ih
  have hrisks' : ExactRisks positions' := by
    obtain ⟨between, hperm, hrelated⟩ := h
    have hsame : positions'.map (·.definedMaximumRisk.value) =
        between.map (·.definedMaximumRisk.value) :=
      map_reordered (fun position position' hposition =>
        congrArg Decimal.value (position_reordered hposition).2.2.2.1) hrelated
    rw [ExactRisks, hsame]
    exact hrisks.perm (hperm.symm.map _)
  refine .of_ok (fun projection hok => ?_) fun projection' hok => ?_
  · obtain ⟨pairs, haccepted, -⟩ := projectExperimentPerformance_ok.mp hok
    obtain ⟨pairs', haccepted'⟩ := haccepted.reordered hties hdecisions h
    have hok' := projectExperimentPerformance_ok.mpr ⟨pairs', haccepted', rfl⟩
    exact ⟨_, hok', by rw [projection_exact hok' hflows' hrisks',
      projection_exact hok hflows hrisks, exactPerformance_reordered hdecisions h]⟩
  · obtain ⟨pairs', haccepted', -⟩ := projectExperimentPerformance_ok.mp hok
    obtain ⟨pairs, haccepted⟩ :=
      haccepted'.reordered (hties.reordered h) hdecisions.symm h.symm
    exact ⟨_, projectExperimentPerformance_ok.mpr ⟨pairs, haccepted, rfl⟩⟩

/-- Accepted positions of which one outlasted a tie are refused in another order. -/
theorem exists_refused {projection : ExperimentPerformanceProjection Decimal}
    (hok : projectExperimentPerformance lineage decisions positions = .ok projection)
    (hties : ¬ InstantTies positions) :
    ∃ positions', positions'.Perm positions ∧ ∃ failure,
      projectExperimentPerformance lineage decisions positions' = .error failure := by
  obtain ⟨pairs, haccepted, -⟩ := projectExperimentPerformance_ok.mp hok
  have htimed : ∀ position ∈ positions, WellTimed position := fun position hposition =>
    haccepted.timed position ((sortedBy_perm _ _).mem_iff.mpr hposition)
  rw [InstantTies, List.pairwise_iff_forall_sublist] at hties
  push Not at hties
  obtain ⟨left, right, hsub, hnot⟩ := hties
  rw [InstantTie, Classical.not_imp, not_and_or] at hnot
  obtain ⟨hsame, hopen⟩ := hnot
  -- the position that outlasted the tie is put in front of the other
  obtain ⟨longer, other, hpair, htie, hlonger⟩ : ∃ longer other,
      [longer, other].Perm [left, right] ∧ longer.activatedAt = other.activatedAt ∧
      longer.closedAt ≠ some longer.activatedAt := by
    rcases hopen with hleft | hright
    · exact ⟨left, right, List.Perm.refl _, hsame, hleft⟩
    · exact ⟨right, left, List.Perm.swap _ _ _, hsame.symm, hright⟩
  obtain ⟨rest, hrest⟩ := hsub.exists_perm_append
  have hperm : (longer :: other :: rest).Perm positions :=
    (hpair.append_right rest).trans hrest.symm
  refine ⟨longer :: other :: rest, hperm, ?_⟩
  cases houtcome : projectExperimentPerformance lineage decisions (longer :: other :: rest) with
  | error failure => exact ⟨failure, rfl⟩
  | ok projection' =>
      exfalso
      obtain ⟨pairs', haccepted', -⟩ := projectExperimentPerformance_ok.mp houtcome
      have hboth : [longer, other].Sublist
          (sortedBy PositionLifecycleEvidence.activatedAt (longer :: other :: rest)) := by
        refine List.sublist_insertionSort ?_ (by simp)
        simp [htie]
      have hcloses := List.pairwise_iff_forall_sublist.mp haccepted'.closes hboth
      obtain ⟨closedAt, hclosed, hle⟩ := closes_iff.mp hcloses
      have hge := htimed longer (hperm.mem_iff.mp List.mem_cons_self) closedAt hclosed
      exact hlonger (by rw [hclosed, le_antisymm (hle.trans htie.ge) hge])

end Reordered

/-! ## The two laws -/

/-- The figures of a performance add up: every closed trade is won, lost or even; and where the
digits of the cash flows suffice, the realized figure is the cash of all transitions of the closed
positions, which is the cash of all entries, rolls and closes once every position is closed.
Evidence in another order has the same performance, or is refused as well, where positions that
were activated at one instant were closed at that instant; otherwise accepted evidence has an order
in which it is refused. -/
theorem performance_adds_up (lineage : ExperimentExecutionLineage)
    (decisions : List ExperimentDecisionEvidence) (positions : List PositionLifecycleEvidence) :
    (∀ projection, projectExperimentPerformance lineage decisions positions = .ok projection →
      projection.openedTradeCount = positions.length ∧
      projection.closedTradeCount = (closedPositions positions).length ∧
      projection.closedTradeCount = countOf projection.winCount + countOf projection.lossCount +
        countOf projection.breakevenCount ∧
      (projection.realizedStrategyPnl.value.isSome = true ↔ projection.closedTradeCount ≠ 0) ∧
      (ExactFlows positions →
        amountOf projection.realizedStrategyPnl = ((closedPositions positions).map netCash).sum ∧
        ((∀ position ∈ positions, position.closedAt.isSome = true) →
          amountOf projection.realizedStrategyPnl = amountOf projection.entryCashFlow +
            amountOf projection.managementCashFlow + amountOf projection.exitCashFlow))) ∧
    (InstantTies positions → ExactFlows positions → ExactRisks positions →
      ∀ decisions' positions', decisions'.Perm decisions →
        PositionsReordered positions positions' →
        Agree (fun projection projection' => projection'.map value = projection.map value)
          (projectExperimentPerformance lineage decisions positions)
          (projectExperimentPerformance lineage decisions' positions')) ∧
    (∀ projection, projectExperimentPerformance lineage decisions positions = .ok projection →
      ¬ InstantTies positions → ∃ positions', positions'.Perm positions ∧ ∃ failure,
        projectExperimentPerformance lineage decisions positions' = .error failure) := by
  refine ⟨fun projection hok => ?_, fun hties hflows hrisks decisions' positions' hdecisions h =>
    agree_reordered hties hflows hrisks hdecisions h, fun projection hok hties =>
    exists_refused hok hties⟩
  obtain ⟨pairs, haccepted, rfl⟩ := projectExperimentPerformance_ok.mp hok
  have hperm := sortedBy_perm PositionLifecycleEvidence.activatedAt positions
  have hcount := haccepted.closedCount
  have hsigns := countP_signs (Totals.start.addAll pairs).closedPnl
  refine ⟨hperm.length_eq, hcount, ?_, ?_, fun hflows => ?_⟩
  · show (Totals.start.addAll pairs).closedPnl.length = _
    simp only [projectionOf, countOf, metricOf]
    split
    · rename_i hzero
      rw [hzero]
      rfl
    · exact hsigns.symm
  · simp only [projectionOf, metricOf]
    split
    · rename_i hzero
      simp [ProjectedMetric.value, hzero]
    · rename_i hne
      simp [ProjectedMetric.value, hne]
  · have hadded := haccepted.added hflows
    have hnet : ((closedPositions (sortedBy PositionLifecycleEvidence.activatedAt
        positions)).map netCash).sum = ((closedPositions positions).map netCash).sum :=
      ((hperm.filter _).map netCash).sum_eq
    have hrealized : amountOf (metricOf (Totals.start.addAll pairs).closedPnl.length
        .noClosedTrades (total (Totals.start.addAll pairs).closedPnl)) =
        ((closedPositions positions).map netCash).sum := by
      rw [amountOf_metricOf, hadded.realized, hnet]
      intro hzero
      rw [List.length_eq_zero_iff.mp hzero]
      simp [total]
    refine ⟨hrealized, fun hall => ?_⟩
    have hclosed : closedPositions positions = positions := List.filter_eq_self.mpr hall
    have hcash : ∀ action, cashOf action (sortedBy PositionLifecycleEvidence.activatedAt
        positions) = cashOf action positions := fun action => (hperm.map _).sum_eq
    have hsplit : (positions.map netCash).sum =
        cashOf "ENTRY" positions + cashOf "ROLL" positions + cashOf "CLOSE" positions := by
      rw [cashOf, cashOf, cashOf, ← List.sum_map_add, ← List.sum_map_add]
      refine congrArg List.sum (List.map_congr_left fun position hposition => ?_)
      have hsorted := hperm.mem_iff.mpr hposition
      rw [← haccepted.sorted] at hsorted
      obtain ⟨pair, hpair, rfl⟩ := List.mem_map.mp hsorted
      exact netCash_eq (haccepted.each pair hpair)
    have hnone : ∀ action, positions.length = 0 → cashOf action positions = 0 := by
      intro action hzero
      rw [List.length_eq_zero_iff.mp hzero]
      rfl
    have hentry : amountOf (metricOf
        (sortedBy PositionLifecycleEvidence.activatedAt positions).length .noOpenedTrades
        (Totals.start.addAll pairs).entryCashFlow) = cashOf "ENTRY" positions := by
      rw [amountOf_metricOf, hadded.entry, hcash]
      rw [hadded.entry, hcash, hperm.length_eq]
      exact hnone "ENTRY"
    have hmanagement : amountOf (metricOf
        (sortedBy PositionLifecycleEvidence.activatedAt positions).length .noOpenedTrades
        (Totals.start.addAll pairs).managementCashFlow) = cashOf "ROLL" positions := by
      rw [amountOf_metricOf, hadded.management, hcash]
      rw [hadded.management, hcash, hperm.length_eq]
      exact hnone "ROLL"
    have hexit : amountOf (metricOf (Totals.start.addAll pairs).closedPnl.length .noClosedTrades
        (Totals.start.addAll pairs).exitCashFlow) = cashOf "CLOSE" positions := by
      rw [amountOf_metricOf, hadded.exit, hcash]
      rw [hadded.exit, hcash, hcount, hclosed]
      exact hnone "CLOSE"
    simp only [projectionOf]
    rw [hrealized, hclosed, hsplit, hentry, hmanagement, hexit]

/-! ## Rehearsed positions -/

section Rehearsed

def rehearsedLineage : ExperimentExecutionLineage :=
  ⟨.ofNat 1, String.ofList (List.replicate 64 '1'), String.ofList (List.replicate 64 '2')⟩

/-- The decision behind every rehearsed transition. -/
def rehearsedDecision : ExperimentDecisionEvidence :=
  ⟨.ofNat 7, rehearsedLineage, 0⟩

/-- A transition of a rehearsed position, filled by one attempt. -/
def rehearsedTransition (number : Nat) (predecessor : Option Nat) (sequence : Int)
    (action : String) (occurredAt : Int) (quantity : Int) (inventory : List ContractQuantity)
    (cashFlow cumulative : Decimal) : LifecycleTransitionEvidence where
  transitionId := .ofNat number
  predecessorTransitionId := predecessor.map .ofNat
  sequence := sequence
  action := action
  decisionId := .ofNat 7
  authorizationId := .ofNat 60
  authorizationLineage := rehearsedLineage
  occurredAt := occurredAt
  intentAction := action
  authorizedQuantity := 1
  executionStatus := "FILLED"
  certificateAttemptIds := [.ofNat (100 + number)]
  attempts := [⟨.ofNat (100 + number), 0, 1, 1, some cashFlow⟩]
  reconciledContractActivity := [⟨"SPY260904C00400000", quantity, 100⟩]
  resultingInventory := inventory
  cashFlow := cashFlow
  snapshotCumulativeCashFlow := cumulative

/-- A rehearsed position that pays one dollar at its entry, and receives some when it is closed. -/
def rehearsedPosition (number : Nat) (activatedAt : Int) (closing : Option (Int × Decimal)) :
    PositionLifecycleEvidence where
  managedPositionId := .ofNat (50 + number)
  lineage := rehearsedLineage
  entryDecisionId := .ofNat 7
  entryApprovalId := .ofNat 60
  entryApprovalLineage := rehearsedLineage
  definedMaximumRisk := .ofInt 500
  activatedAt := activatedAt
  closedAt := closing.map Prod.fst
  transitions :=
    rehearsedTransition (10 * number) none 0 "ENTRY" activatedAt 1
      [⟨"SPY260904C00400000", 1, 100⟩] (.ofInt (-1)) (.ofInt (-1)) ::
    (closing.map fun close => rehearsedTransition (10 * number + 1) (some (10 * number)) 1 "CLOSE"
      close.1 (-1) [] close.2 (.ofInt (-1) + close.2)).toList

/-- In the rehearsal a position that is closed after an hour wins two dollars, which the laws of a
performance explain, and the position may be given in any order of its parts. -/
theorem performance_adds_up_rehearsed :
    (∃ projection, projectExperimentPerformance rehearsedLineage [rehearsedDecision]
        [rehearsedPosition 1 60 (some (120, .ofInt 3))] = .ok projection ∧
      projection.closedTradeCount = 1 ∧ amountOf projection.realizedStrategyPnl =
        ([netCash (rehearsedPosition 1 60 (some (120, .ofInt 3)))]).sum) ∧
    InstantTies [rehearsedPosition 1 60 (some (120, .ofInt 3))] := by
  have hflows : ExactFlows [rehearsedPosition 1 60 (some (120, .ofInt 3))] := by
    refine ⟨20, 0, by decide, fun amount hamount => ?_, ?_⟩
    · have hcases : amount = -1 ∨ amount = 3 := by
        simpa [movements, rehearsedPosition, rehearsedTransition] using hamount
      rcases hcases with rfl | rfl
      · exact ⟨-1, by norm_num⟩
      · exact ⟨3, by norm_num⟩
    · simp [grossOf, movements, rehearsedPosition, rehearsedTransition]
      norm_num
  cases hok : projectExperimentPerformance rehearsedLineage [rehearsedDecision]
      [rehearsedPosition 1 60 (some (120, .ofInt 3))] with
  | error failure =>
      have haccepted : (projectExperimentPerformance rehearsedLineage [rehearsedDecision]
          [rehearsedPosition 1 60 (some (120, .ofInt 3))]).isOk = true := by decide +kernel
      rw [hok] at haccepted
      cases haccepted
  | ok projection =>
      have hlaws := (performance_adds_up rehearsedLineage [rehearsedDecision]
        [rehearsedPosition 1 60 (some (120, .ofInt 3))]).1 projection hok
      exact ⟨⟨projection, rfl, hlaws.2.1, (hlaws.2.2.2.2 hflows).1⟩, List.pairwise_singleton _ _⟩

/-- In the rehearsal a position that is closed in the instant of its entry and one that is opened in
that instant are accepted in this order and refused in the other, and the digits do not suffice for
the result of a position that gains ten octillion dollars together with that of one
that gains two. -/
theorem performance_not_ordered :
    (¬ ∀ (lineage : ExperimentExecutionLineage) (decisions : List ExperimentDecisionEvidence)
        (positions positions' : List PositionLifecycleEvidence), positions'.Perm positions →
        (projectExperimentPerformance lineage decisions positions').isOk =
          (projectExperimentPerformance lineage decisions positions).isOk) ∧
    (¬ ∀ (lineage : ExperimentExecutionLineage) (decisions : List ExperimentDecisionEvidence)
        (positions : List PositionLifecycleEvidence)
        (projection : ExperimentPerformanceProjection Decimal),
        projectExperimentPerformance lineage decisions positions = .ok projection →
        amountOf projection.realizedStrategyPnl =
          ((closedPositions positions).map netCash).sum) := by
  constructor
  · intro h
    have hswap := h rehearsedLineage [rehearsedDecision]
      [rehearsedPosition 1 60 (some (60, .ofInt 3)), rehearsedPosition 2 60 none]
      [rehearsedPosition 2 60 none, rehearsedPosition 1 60 (some (60, .ofInt 3))]
      (List.Perm.swap _ _ _)
    exact absurd hswap (by decide +kernel)
  · intro h
    have hsum := h rehearsedLineage [rehearsedDecision]
      [rehearsedPosition 1 60 (some (120, ⟨false, 1, 28⟩)),
        rehearsedPosition 2 180 (some (240, .ofInt 3))]
    cases hok : projectExperimentPerformance rehearsedLineage [rehearsedDecision]
        [rehearsedPosition 1 60 (some (120, ⟨false, 1, 28⟩)),
          rehearsedPosition 2 180 (some (240, .ofInt 3))] with
    | error failure =>
        have haccepted : (projectExperimentPerformance rehearsedLineage [rehearsedDecision]
            [rehearsedPosition 1 60 (some (120, ⟨false, 1, 28⟩)),
              rehearsedPosition 2 180 (some (240, .ofInt 3))]).isOk = true := by decide +kernel
        rw [hok] at haccepted
        cases haccepted
    | ok projection =>
        have hamount : (projectExperimentPerformance rehearsedLineage [rehearsedDecision]
            [rehearsedPosition 1 60 (some (120, ⟨false, 1, 28⟩)),
              rehearsedPosition 2 180 (some (240, .ofInt 3))]).toOption.map
              (fun projection => amountOf projection.realizedStrategyPnl) =
            some (10 ^ 28) := by decide +kernel
        rw [hok] at hamount
        have hvalue : amountOf projection.realizedStrategyPnl = 10 ^ 28 :=
          Option.some.inj hamount
        have hnet : ((closedPositions [rehearsedPosition 1 60 (some (120, ⟨false, 1, 28⟩)),
            rehearsedPosition 2 180 (some (240, .ofInt 3))]).map netCash).sum =
            10 ^ 28 + 1 := by decide +kernel
        have heq := hsum projection hok
        rw [hvalue, hnet] at heq
        norm_num at heq

end Rehearsed

end AlphaDecay.Experiments
