import AlphaDecay.Foundation.FirstBest
import AlphaDecay.Lifecycle.ProposalChecks
import AlphaDecay.Performance.Models
import Mathlib.Data.Prod.Lex

/-!
# The choice of a roll

The provider offers spreads that a position could be rolled to. Each is made a candidate of the
policy, the candidates that are liquid and not too dear are ranked, and the first in rank is put
into the assessment. `choice_misses_none_iff` says when the policy takes a roll whenever it would
take one of those that were offered.
-/

namespace AlphaDecay.Lifecycle

open Foundation
open Policy (divide daysUntil)
open Performance (fitsDigits)

/-! ## The Greeks of a spread -/

structure GreekLeg where
  contracts : Int
  isLong : Bool
  delta : Option Decimal
  gamma : Option Decimal
  thetaPerDay : Option Decimal
  vegaPerIvPoint : Option Decimal
  multiplier : Int := 100
  unitsVerified : Bool := true

/-- The Greeks of a leg, where all of them are known. -/
def GreekLeg.greeks (leg : GreekLeg) : Option GreekExposure := do
  let delta ← leg.delta
  let gamma ← leg.gamma
  let thetaPerDay ← leg.thetaPerDay
  let vegaPerIvPoint ← leg.vegaPerIvPoint
  return { delta, gamma, thetaPerDay, vegaPerIvPoint }

def GreekLeg.addShare (leg : GreekLeg) (total value : Decimal) : Decimal :=
  total + value * .ofInt (if leg.isLong then 1 else -1) * .ofInt leg.contracts
    * .ofInt leg.multiplier

/-- The totals with the shares of a leg. -/
def GreekLeg.addTo (leg : GreekLeg) (totals : GreekExposure) : Except Failure GreekExposure := do
  raiseIf (decide (leg.contracts ≤ 0) || leg.multiplier != 100 || !leg.unitsVerified)
    (.value "INVALID_GREEK_INPUT")
  let greeks ← require leg.greeks (.value "INVALID_GREEK_INPUT")
  return {
    delta := leg.addShare totals.delta greeks.delta
    gamma := leg.addShare totals.gamma greeks.gamma
    thetaPerDay := leg.addShare totals.thetaPerDay greeks.thetaPerDay
    vegaPerIvPoint := leg.addShare totals.vegaPerIvPoint greeks.vegaPerIvPoint }

/-- The digits that the contract of an exposure takes: twenty-one, nine of them decimal places. -/
def isExactExposure (exposure : GreekExposure) : Bool :=
  fitsDigits 12 9 exposure.delta && fitsDigits 12 9 exposure.gamma
    && fitsDigits 12 9 exposure.thetaPerDay && fitsDigits 12 9 exposure.vegaPerIvPoint

/-- The Greeks of the two legs of a spread. -/
def aggregateGreeks : List GreekLeg → Except Failure GreekExposure
  | [first, second] => do
      let totals ← first.addTo ⟨zero, zero, zero, zero⟩
      let totals ← second.addTo totals
      raiseIf (!isExactExposure totals) (.value "GREEK_EXPOSURE_INVALID")
      return totals
  | _ => .error (.value "INCOMPLETE_VERTICAL")

def greekLeg (item : LifecycleOptionObservation) : GreekLeg where
  contracts := item.signedQuantity.abs.floorInt
  isLong := decide (zero < item.signedQuantity)
  delta := some item.delta
  gamma := some item.gamma
  thetaPerDay := some item.thetaPerDay
  vegaPerIvPoint := some item.vegaPerIvPoint
  multiplier := item.multiplier

def aggregateOptionGreeks (options : List LifecycleOptionObservation) (failureCode : String) :
    Except Failure GreekExposure :=
  asAcquisitionFailure failureCode (aggregateGreeks (options.map greekLeg))

/-! ## Cash and spreads -/

/-- What opening one contract brings, at the far side of the quote. -/
def LifecycleOptionObservation.openPrice (item : LifecycleOptionObservation) : Decimal :=
  if zero < item.signedQuantity then negated item.askPrice else item.bidPrice

/-- What opening a spread brings, at the far side of its quotes. -/
def openCashflow (options : List LifecycleOptionObservation) : Decimal :=
  options.foldl (fun total item =>
    total + item.openPrice * item.signedQuantity.abs * .ofInt item.multiplier) zero

/-- The width of quotes over their middle, in units of ten to the minus ten and rounded up. -/
def spreadOver (width midpoint : Decimal) : Except Failure Decimal := do
  raiseIf (decide (midpoint ≤ zero) || decide (width < zero)) (.runtime "ROLL_LIQUIDITY_INVALID")
  let ratio ← divide width midpoint
  require (ratio.quantizeCeiling (-10)) .arithmetic

/-- The middle of the quotes of a package, weighted by its contracts. -/
def grossMidpoint (options : List LifecycleOptionObservation) : Except Failure Decimal :=
  options.foldlM (fun total item => do
    let midpoint ← item.midpoint
    return total + midpoint * item.signedQuantity.abs) zero

/-- The width of the quotes of a package, weighted by its contracts. -/
def quotedWidth (options : List LifecycleOptionObservation) : Decimal :=
  options.foldl (fun total item =>
    total + (item.askPrice - item.bidPrice) * item.signedQuantity.abs) zero

def packageRelativeSpread (options : List LifecycleOptionObservation) : Except Failure Decimal := do
  let midpoint ← grossMidpoint options
  spreadOver (quotedWidth options) midpoint

def legRelativeSpread (option : LifecycleOptionObservation) : Except Failure Decimal := do
  let midpoint ← option.midpoint
  spreadOver (option.askPrice - option.bidPrice) midpoint

/-- No option is quoted too wide. The first that is ends the search. -/
def allLegsLiquid (maximumRelativeSpread : Decimal) :
    List LifecycleOptionObservation → Except Failure Bool
  | [] => .ok true
  | option :: rest => do
      let spread ← legRelativeSpread option
      if spread ≤ maximumRelativeSpread then allLegsLiquid maximumRelativeSpread rest
      else return false

/-- The most that a spread may lose, after what it has brought so far. -/
def verticalMaxLoss (positions : List RetainedOptionPosition) (cumulativeCashflow : Decimal) :
    Except Failure Decimal := do
  let parsed ← parseVertical positions
  let first ← require positions.head? (.value "VERTICAL_STRUCTURE_INVALID")
  let widthCashflow :=
    (parsed.upper.strike - parsed.lower.strike) * first.signedQuantity.abs * hundred
  let lowerIsLong := decide (zero < first.signedQuantity)
  let debit := if parsed.lower.right = "C" then lowerIsLong else !lowerIsLong
  let worstSettlement := if debit then zero else negated widthCashflow
  return greater zero (negated (cumulativeCashflow + worstSettlement))

/-! ## Candidates -/

/-- The options of a roll continue those of a position: one root and one right, a later expiry and
the same quantities. -/
def continuesPosition (context : RetainedLifecycleContext) (roll : LifecycleRollObservation)
    (current replacement : ParsedVertical) : Bool :=
  replacement.lower.root == current.lower.root && replacement.lower.right == current.lower.right
    && decide (Calendar.dayOfDate current.lower.expiry <
      Calendar.dayOfDate replacement.lower.expiry)
    && roll.positions.map (fun item => item.signedQuantity) ==
      context.expectedPositions.map (fun item => item.signedQuantity)

/-- The score of a position after a roll. -/
def replacementScores (scores : ScoreInput) (exposure : GreekExposure) (dte : Int)
    (liquidationPnl : Decimal) : ScoreInput :=
  { scores with
    delta := exposure.delta
    vega := exposure.vegaPerIvPoint
    thetaPerDay := exposure.thetaPerDay
    dte
    liquidationPnl }

/-- The position was not rolled in a session. -/
def noPriorRoll (context : RetainedLifecycleContext) (session : AlpacaMarketSession) : Bool :=
  !context.lifecycleTransitions.any fun item =>
    item.action == .roll && decide (item.marketSessionId = session.marketSessionId)

/-- The most that a roll may cost. -/
def maximumIncrementalDebit (context : RetainedLifecycleContext) : Decimal :=
  lesser context.approvedMaxLoss context.portfolioRiskCap

/-- Make a candidate of a spread that the provider offers. -/
def deriveSingleRollCandidate (context : RetainedLifecycleContext)
    (currentOptions : List LifecycleOptionObservation) (currentScores : ScoreInput)
    (rollSession : AlpacaMarketSession) (trustedAt : Int) (roll : LifecycleRollObservation) :
    Except Failure RollSelection := do
  let current ← asAcquisitionFailure "ROLL_EVIDENCE_INVALID"
    (parseVertical context.expectedPositions)
  let replacement ← asAcquisitionFailure "ROLL_EVIDENCE_INVALID" (parseVertical roll.positions)
  let options ← asAcquisitionFailure "ROLL_EVIDENCE_INVALID"
    (validateOptionEvidence roll.positions roll.options trustedAt context.greekAuthority)
  raiseIf (!continuesPosition context roll current replacement) (.runtime "ROLL_EVIDENCE_INVALID")
  let currentCloseCashflow := currentScores.liquidationPnl - cumulativeCashflow context
  let rollCashflow := currentCloseCashflow + openCashflow options
  let liquid ← allLegsLiquid context.maximumRelativeSpread (currentOptions ++ options)
  let relativeSpread ← packageRelativeSpread (currentOptions ++ options)
  let rolledCumulativeCashflow := cumulativeCashflow context + rollCashflow
  let expectedRollMaxLoss ← verticalMaxLoss roll.positions rolledCumulativeCashflow
  let exposure ← aggregateOptionGreeks options "ROLL_EVIDENCE_INVALID"
  let before ← asAcquisitionFailure "ROLL_EVIDENCE_INVALID" (scoreDrift currentScores)
  let after ← asAcquisitionFailure "ROLL_EVIDENCE_INVALID" (scoreDrift (replacementScores
    currentScores exposure (daysUntil trustedAt replacement.lower.expiry)
    (rolledCumulativeCashflow + closeCashflow options)))
  return {
    observation := roll
    candidate := {
      valid := liquid
      driftReduction := before.displayScore - after.displayScore
      expiryExtensionDays := (Calendar.dayOfDate replacement.lower.expiry : Int) -
        Calendar.dayOfDate current.lower.expiry
      relativeSpread
      maximumRelativeSpread := context.maximumRelativeSpread
      incrementalDebit := greater zero (negated rollCashflow)
      maximumIncrementalDebit := maximumIncrementalDebit context
      withinLossBudget := decide (expectedRollMaxLoss ≤ maximumIncrementalDebit context)
      coveredVerticals := true
      noPriorRollToday := noPriorRoll context rollSession
      expectedAfterExposure := some exposure } }

/-! ## The choice -/

/-- A candidate that the choice keeps: liquid, and neither too wide nor too dear. -/
def RollCandidate.isSelectable (candidate : RollCandidate) : Bool :=
  candidate.valid && decide (candidate.relativeSpread ≤ candidate.maximumRelativeSpread)
    && decide (candidate.incrementalDebit ≤ candidate.maximumIncrementalDebit)

/-- What a selection is ranked by: the most reduction of drift first, then the least debit, the
least spread and the symbols. -/
abbrev RankKey := ℤ ×ₗ ℚ ×ₗ ℚ ×ₗ List String

/-- Ranks are compared from the left. The order of the first part is named, as the integers have
another instance of theirs that does not compute. -/
instance : LinearOrder RankKey :=
  @Prod.Lex.instLinearOrder ℤ (ℚ ×ₗ ℚ ×ₗ List String) Int.instLinearOrder inferInstance

/-- The order of ranks without its totality. -/
instance : Preorder RankKey := LinearOrder.toPartialOrder.toPreorder

def RollSelection.rank (selection : RollSelection) : RankKey :=
  toLex (-selection.candidate.driftReduction, toLex (selection.candidate.incrementalDebit.value,
    toLex (selection.candidate.relativeSpread.value,
      selection.observation.positions.map fun position => position.symbol)))

def offeredRolls (observation : LifecycleProviderObservation) : List LifecycleRollObservation :=
  observation.roll.toList ++ observation.rollCandidates

/-- Choose the roll that is put into the assessment. -/
def deriveRollCandidate (context : RetainedLifecycleContext)
    (observation : LifecycleProviderObservation) (currentScores : ScoreInput)
    (rollSession : AlpacaMarketSession) (trustedAt : Int) :
    Except Failure (Option RollSelection) :=
  if (offeredRolls observation).isEmpty then .ok none
  else do
    raiseIf (decide (8 < (offeredRolls observation).length)) (.runtime "ROLL_EVIDENCE_INVALID")
    let selections ← (offeredRolls observation).mapM
      (deriveSingleRollCandidate context observation.options currentScores rollSession trustedAt)
    return (selections.filter fun item => item.candidate.isSelectable).argmin RollSelection.rank

end AlphaDecay.Lifecycle
