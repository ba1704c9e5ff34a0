import AlphaDecay.Agent.Store
import AlphaDecay.Foundation.DecimalSums
import AlphaDecay.Foundation.Grouping
import AlphaDecay.Foundation.TwoRuns

/-!
# Performance of an experiment

The decisions and positions of an experiment, with the transitions of each position and the order
attempts behind each transition, are checked against one another and projected to counts and cash
flows. The projection raises on the first piece of evidence that does not fit.
-/

namespace AlphaDecay.Experiments

open Foundation Foundation.Grouping Agent

/-! ## Evidence -/

structure ExperimentDecisionEvidence where
  decisionId : Uuid
  lineage : ExperimentExecutionLineage
  occurredAt : Int
deriving DecidableEq

structure ContractQuantity where
  symbol : String
  signedQuantity : Int
  multiplier : Int := 100
deriving DecidableEq

structure FillAttemptEvidence where
  attemptId : Uuid
  attemptOrdinal : Int
  requestedQuantity : Int
  filledQuantity : Int
  fillCashFlow : Option Decimal

/-- A transition of a position: an entry, a roll or a close. -/
structure LifecycleTransitionEvidence where
  transitionId : Uuid
  predecessorTransitionId : Option Uuid
  sequence : Int
  action : String
  decisionId : Uuid
  authorizationId : Uuid
  authorizationLineage : ExperimentExecutionLineage
  occurredAt : Int
  intentAction : String
  authorizedQuantity : Int
  executionStatus : String
  certificateAttemptIds : List Uuid
  attempts : List FillAttemptEvidence
  reconciledContractActivity : List ContractQuantity
  resultingInventory : List ContractQuantity
  cashFlow : Decimal
  snapshotCumulativeCashFlow : Decimal

structure PositionLifecycleEvidence where
  managedPositionId : Uuid
  lineage : ExperimentExecutionLineage
  entryDecisionId : Uuid
  entryApprovalId : Uuid
  entryApprovalLineage : ExperimentExecutionLineage
  definedMaximumRisk : Decimal
  activatedAt : Int
  closedAt : Option Int
  transitions : List LifecycleTransitionEvidence

/-! ## Projections -/

/-- How the last position of an experiment stands. -/
inductive ExperimentTerminalState where
  | noPosition
  | opened
  | closed
deriving DecidableEq, Repr

/-- Why a metric has no value. -/
inductive MetricUnavailableReason where
  | noOpenedTrades
  | noClosedTrades
deriving DecidableEq, Repr

/-- A metric has a value or a reason for having none. -/
inductive ProjectedMetric (α : Type) where
  | available (value : α)
  | unavailable (reason : MetricUnavailableReason)
deriving DecidableEq, Repr

def ProjectedMetric.value {α : Type} : ProjectedMetric α → Option α
  | .available value => some value
  | .unavailable _ => none

/-- A metric with its value changed. -/
def ProjectedMetric.map {α β : Type} (f : α → β) : ProjectedMetric α → ProjectedMetric β
  | .available value => .available (f value)
  | .unavailable reason => .unavailable reason

/-- A metric of a count of trades: without any there is only a reason. -/
def metricOf {α : Type} (count : Nat) (reason : MetricUnavailableReason) (value : α) :
    ProjectedMetric α :=
  if count = 0 then .unavailable reason else .available value

structure ExperimentPerformanceProjection (α : Type) where
  lineage : ExperimentExecutionLineage
  decisionCount : Nat
  openedTradeCount : Nat
  closedTradeCount : Nat
  terminalState : ExperimentTerminalState
  totalDefinedMaximumRiskAtEntry : ProjectedMetric α
  entryCashFlow : ProjectedMetric α
  managementCashFlow : ProjectedMetric α
  exitCashFlow : ProjectedMetric α
  realizedStrategyPnl : ProjectedMetric α
  winCount : ProjectedMetric Nat
  lossCount : ProjectedMetric Nat
  breakevenCount : ProjectedMetric Nat
deriving DecidableEq

/-- A projection with its amounts changed. -/
def ExperimentPerformanceProjection.map {α β : Type} (f : α → β)
    (projection : ExperimentPerformanceProjection α) : ExperimentPerformanceProjection β where
  lineage := projection.lineage
  decisionCount := projection.decisionCount
  openedTradeCount := projection.openedTradeCount
  closedTradeCount := projection.closedTradeCount
  terminalState := projection.terminalState
  totalDefinedMaximumRiskAtEntry := projection.totalDefinedMaximumRiskAtEntry.map f
  entryCashFlow := projection.entryCashFlow.map f
  managementCashFlow := projection.managementCashFlow.map f
  exitCashFlow := projection.exitCashFlow.map f
  realizedStrategyPnl := projection.realizedStrategyPnl.map f
  winCount := projection.winCount
  lossCount := projection.lossCount
  breakevenCount := projection.breakevenCount

/-! ## Checks -/

def evidenceError (problem : String) : Failure :=
  .runtime ("EXPERIMENT_PERFORMANCE_" ++ problem)

def takeDecision (lineage : ExperimentExecutionLineage)
    (decisionById : Dict Uuid ExperimentDecisionEvidence) (decision : ExperimentDecisionEvidence) :
    Except Failure (Dict Uuid ExperimentDecisionEvidence) := do
  raiseIf (decision.lineage ≠ lineage) (evidenceError "LINEAGE_MISMATCH")
  raiseIf (decisionById.get decision.decisionId).isSome (evidenceError "DECISION_DUPLICATE")
  return decisionById.set decision.decisionId decision

/-- The decisions of the lineage under their identities. -/
def validateDecisions (lineage : ExperimentExecutionLineage)
    (decisions : List ExperimentDecisionEvidence) :
    Except Failure (Dict Uuid ExperimentDecisionEvidence) :=
  decisions.foldlM (takeDecision lineage) Dict.empty

/-- The positions have distinct identities, and each is closed before the next is activated. -/
def validatePositionOrder : List Uuid → Option PositionLifecycleEvidence →
    List PositionLifecycleEvidence → Except Failure Unit
  | _, _, [] => return ()
  | positionIds, previous, position :: rest => do
    raiseIf (position.managedPositionId ∈ positionIds) (evidenceError "POSITION_DUPLICATE")
    raiseIf (previous.any fun last => !last.closedAt.any fun closedAt =>
      closedAt ≤ position.activatedAt) (evidenceError "POSITION_CHRONOLOGY_INVALID")
    validatePositionOrder (position.managedPositionId :: positionIds) (some position) rest

/-- Add the cash of an attempt that is filled as far as it says. -/
def takeAttempt (cashFlow : Decimal) (attempt : FillAttemptEvidence) :
    Except Failure Decimal := do
  raiseIf (attempt.requestedQuantity ≤ 0 ||
    !(0 ≤ attempt.filledQuantity && attempt.filledQuantity ≤ attempt.requestedQuantity) ||
    decide (0 < attempt.filledQuantity) != attempt.fillCashFlow.isSome)
    (evidenceError "FILL_LINEAGE_INCOMPLETE")
  return (attempt.fillCashFlow.map (cashFlow + ·)).getD cashFlow

/-- The attempts of a transition are the ones that were certified, and they fill its quantity and
move its cash. -/
def validateExecution (transition : LifecycleTransitionEvidence) : Except Failure Unit := do
  let attempts := sortedBy FillAttemptEvidence.attemptOrdinal transition.attempts
  raiseIf (attempts.isEmpty ||
    attempts.map (·.attemptOrdinal) != (List.range attempts.length).map Int.ofNat ||
    attempts.map (·.attemptId) != transition.certificateAttemptIds ||
    (attempts.map (·.filledQuantity)).sum != transition.authorizedQuantity)
    (evidenceError "FILL_LINEAGE_INCOMPLETE")
  let cashFlow ← attempts.foldlM takeAttempt (Decimal.ofInt 0)
  raiseIf (cashFlow != transition.cashFlow || transition.reconciledContractActivity.isEmpty)
    (evidenceError "FILL_LINEAGE_INCOMPLETE")

/-- Contracts held, by symbol and multiplier. -/
abbrev Inventory := Dict (String × Int) Int

/-- Two inventories hold the same contracts. -/
def Inventory.same (left right : Inventory) : Bool :=
  left.entries.all (fun entry => right.get entry.1 == some entry.2) &&
    right.entries.all fun entry => left.get entry.1 == some entry.2

/-- Take an item into a stated inventory. -/
def takeStated (inventory : Inventory) (item : ContractQuantity) : Except Failure Inventory := do
  raiseIf (item.symbol.isEmpty || item.multiplier != 100 || item.signedQuantity == 0 ||
    (inventory.get (item.symbol, item.multiplier)).isSome)
    (evidenceError "CONTRACT_LINEAGE_INCOMPLETE")
  return inventory.set (item.symbol, item.multiplier) item.signedQuantity

/-- The inventory that a transition states. -/
def inventoryOf (items : List ContractQuantity) : Except Failure Inventory :=
  items.foldlM takeStated Dict.empty

/-- Apply the activity of a contract to an inventory, which drops contracts that cancel out. -/
def takeActivity (inventory : Inventory) (item : ContractQuantity) : Except Failure Inventory := do
  raiseIf (item.symbol.isEmpty || item.multiplier != 100 || item.signedQuantity == 0)
    (evidenceError "CONTRACT_LINEAGE_INCOMPLETE")
  let key := (item.symbol, item.multiplier)
  let quantity := (inventory.get key).getD 0 + item.signedQuantity
  return if quantity = 0 then inventory.pop key else inventory.set key quantity

/-- Apply the activity of a transition to an inventory. -/
def applyActivity (inventory : Inventory) (activity : List ContractQuantity) :
    Except Failure Inventory :=
  activity.foldlM takeActivity inventory

/-- What a pass over the transitions of a position carries from one to the next. -/
structure Passed where
  cumulativeCashFlow : Decimal
  inventory : Inventory
  previous : Option LifecycleTransitionEvidence

/-- Nothing was passed yet. -/
def Passed.start : Passed :=
  ⟨Decimal.ofInt 0, Dict.empty, none⟩

/-- A transition does not follow what was passed. -/
def chronologyInvalid (position : PositionLifecycleEvidence) (index : Nat)
    (previous : Option LifecycleTransitionEvidence) (transition : LifecycleTransitionEvidence) :
    Bool :=
  let expectedAction := if index = 0 then "ENTRY" else transition.action
  transition.sequence != index ||
    transition.action != expectedAction ||
    transition.intentAction != transition.action ||
    transition.executionStatus != "FILLED" ||
    transition.authorizedQuantity ≤ 0 ||
    (index == 0 && transition.authorizationId != position.entryApprovalId) ||
    (index == 0 && transition.decisionId != position.entryDecisionId) ||
    (0 < index && transition.action != "ROLL" && transition.action != "CLOSE") ||
    (previous.isNone && transition.predecessorTransitionId.isSome) ||
    (previous.any fun last => transition.predecessorTransitionId != some last.transitionId) ||
    (previous.any fun last => transition.occurredAt < last.occurredAt) ||
    (previous.any fun last => last.action == "CLOSE")

/-- Check a transition of a position against what was passed. -/
def validateTransition (position : PositionLifecycleEvidence)
    (decisionById : Dict Uuid ExperimentDecisionEvidence) (index : Nat) (passed : Passed)
    (transition : LifecycleTransitionEvidence) : Except Failure Passed := do
  raiseIf (!(decisionById.get transition.decisionId).any fun decision =>
    decision.occurredAt ≤ transition.occurredAt) (evidenceError "DECISION_LINEAGE_INCOMPLETE")
  raiseIf (transition.authorizationLineage ≠ position.lineage) (evidenceError "LINEAGE_MISMATCH")
  raiseIf (chronologyInvalid position index passed.previous transition)
    (evidenceError "LIFECYCLE_CHRONOLOGY_INVALID")
  validateExecution transition
  let inventory ← applyActivity passed.inventory transition.reconciledContractActivity
  let stated ← inventoryOf transition.resultingInventory
  raiseIf (!inventory.same stated) (evidenceError "CONTRACT_LINEAGE_INCOMPLETE")
  raiseIf (transition.action != "CLOSE" && inventory.entries.isEmpty)
    (evidenceError "CONTRACT_LINEAGE_INCOMPLETE")
  raiseIf (transition.action == "CLOSE" && !inventory.entries.isEmpty)
    (evidenceError "CONTRACT_LINEAGE_INCOMPLETE")
  let cumulativeCashFlow := passed.cumulativeCashFlow + transition.cashFlow
  raiseIf (transition.snapshotCumulativeCashFlow != cumulativeCashFlow)
    (evidenceError "CASH_FLOW_LINEAGE_INCOMPLETE")
  return ⟨cumulativeCashFlow, inventory, some transition⟩

/-- Check the transitions of a position one after another. -/
def validateTransitions (position : PositionLifecycleEvidence)
    (decisionById : Dict Uuid ExperimentDecisionEvidence) :
    Nat → Passed → List LifecycleTransitionEvidence → Except Failure Unit
  | _, _, [] => return ()
  | index, passed, transition :: rest => do
    let next ← validateTransition position decisionById index passed transition
    validateTransitions position decisionById (index + 1) next rest

/-- The transitions of a position in their order, of which there is at least one. -/
abbrev OrderedTransitions := { transitions : List LifecycleTransitionEvidence // transitions ≠ [] }

def OrderedTransitions.first (transitions : OrderedTransitions) : LifecycleTransitionEvidence :=
  transitions.1.head transitions.2

def OrderedTransitions.last (transitions : OrderedTransitions) : LifecycleTransitionEvidence :=
  transitions.1.getLast transitions.2

/-- A position is closed where its transitions end with a close, at the time of that close. -/
def terminalStateInvalid (position : PositionLifecycleEvidence)
    (last : LifecycleTransitionEvidence) : Bool :=
  (position.closedAt.isNone && last.action == "CLOSE") ||
    (position.closedAt.isSome && last.action != "CLOSE") ||
    (position.closedAt.any fun closedAt => closedAt != last.occurredAt)

/-- Check the ends of a position. -/
def validateEnds (position : PositionLifecycleEvidence) (transitions : OrderedTransitions) :
    Except Failure OrderedTransitions := do
  raiseIf (position.activatedAt != transitions.first.occurredAt)
    (evidenceError "LIFECYCLE_CHRONOLOGY_INVALID")
  raiseIf (terminalStateInvalid position transitions.last)
    (evidenceError "TERMINAL_STATE_INVALID")
  return transitions

/-- The transitions of a position in order, once its whole lifecycle is checked. -/
def validatePosition (position : PositionLifecycleEvidence)
    (decisionById : Dict Uuid ExperimentDecisionEvidence) : Except Failure OrderedTransitions :=
  if h : position.definedMaximumRisk ≤ Decimal.ofInt 0 ∨ position.transitions = [] then
    .error (evidenceError "LIFECYCLE_INCOMPLETE")
  else do
    raiseIf (position.entryApprovalLineage ≠ position.lineage) (evidenceError "LINEAGE_MISMATCH")
    let transitions := sortedBy LifecycleTransitionEvidence.sequence position.transitions
    validateTransitions position decisionById 0 Passed.start transitions
    validateEnds position ⟨transitions, sortedBy_ne_nil (not_or.mp h).2⟩

/-! ## The projection -/

/-- What the loop over the positions adds up. -/
structure Totals where
  totalMaximumRisk : Decimal
  entryCashFlow : Decimal
  managementCashFlow : Decimal
  exitCashFlow : Decimal
  closedPnl : List Decimal

/-- Nothing was added up yet. -/
def Totals.start : Totals :=
  ⟨Decimal.ofInt 0, Decimal.ofInt 0, Decimal.ofInt 0, Decimal.ofInt 0, []⟩

/-- Add a position with its transitions. -/
def Totals.add (totals : Totals) (position : PositionLifecycleEvidence)
    (transitions : OrderedTransitions) : Totals where
  totalMaximumRisk := totals.totalMaximumRisk + position.definedMaximumRisk
  entryCashFlow := totals.entryCashFlow + transitions.first.cashFlow
  managementCashFlow := totals.managementCashFlow +
    Decimal.total ((transitions.1.filter (·.action = "ROLL")).map (·.cashFlow))
  exitCashFlow :=
    if transitions.last.action = "CLOSE" then totals.exitCashFlow + transitions.last.cashFlow
    else totals.exitCashFlow
  closedPnl :=
    if transitions.last.action = "CLOSE" then
      totals.closedPnl ++ [transitions.last.snapshotCumulativeCashFlow]
    else totals.closedPnl

/-- Check a position of the lineage and add it. -/
def addPosition (lineage : ExperimentExecutionLineage)
    (decisionById : Dict Uuid ExperimentDecisionEvidence) (totals : Totals)
    (position : PositionLifecycleEvidence) : Except Failure Totals := do
  raiseIf (position.lineage ≠ lineage) (evidenceError "LINEAGE_MISMATCH")
  let transitions ← validatePosition position decisionById
  return totals.add position transitions

/-- How the last of the positions stands. -/
def terminalStateOf (positions : List PositionLifecycleEvidence) : ExperimentTerminalState :=
  match positions.getLast? with
  | none => .noPosition
  | some position => if position.closedAt.isNone then .opened else .closed

/-- The projection of what was added up. -/
def projectionOf (lineage : ExperimentExecutionLineage)
    (decisions : List ExperimentDecisionEvidence) (ordered : List PositionLifecycleEvidence)
    (totals : Totals) : ExperimentPerformanceProjection Decimal :=
  let openedCount := ordered.length
  let closedCount := totals.closedPnl.length
  { lineage
    decisionCount := decisions.length
    openedTradeCount := openedCount
    closedTradeCount := closedCount
    terminalState := terminalStateOf ordered
    totalDefinedMaximumRiskAtEntry := metricOf openedCount .noOpenedTrades totals.totalMaximumRisk
    entryCashFlow := metricOf openedCount .noOpenedTrades totals.entryCashFlow
    managementCashFlow := metricOf openedCount .noOpenedTrades totals.managementCashFlow
    exitCashFlow := metricOf closedCount .noClosedTrades totals.exitCashFlow
    realizedStrategyPnl := metricOf closedCount .noClosedTrades (Decimal.total totals.closedPnl)
    winCount := metricOf closedCount .noClosedTrades
      (totals.closedPnl.countP fun value => Decimal.ofInt 0 < value)
    lossCount := metricOf closedCount .noClosedTrades
      (totals.closedPnl.countP fun value => value < Decimal.ofInt 0)
    breakevenCount := metricOf closedCount .noClosedTrades
      (totals.closedPnl.countP fun value => value == Decimal.ofInt 0) }

def projectExperimentPerformance (lineage : ExperimentExecutionLineage)
    (decisions : List ExperimentDecisionEvidence) (positions : List PositionLifecycleEvidence) :
    Except Failure (ExperimentPerformanceProjection Decimal) := do
  let decisionById ← validateDecisions lineage decisions
  let orderedPositions := sortedBy PositionLifecycleEvidence.activatedAt positions
  validatePositionOrder [] none orderedPositions
  let totals ← orderedPositions.foldlM (addPosition lineage decisionById) Totals.start
  return projectionOf lineage decisions orderedPositions totals

end AlphaDecay.Experiments
