import AlphaDecay.Execution.Models
import AlphaDecay.Policy.Opportunity

/-!
# The assessment of an open position

The drift of a position from its thesis, scored in decimal arithmetic, the gates that force a
close, and the decision that follows: hold, close, roll or no action.
-/

namespace AlphaDecay.Lifecycle

open Foundation
open Policy (DataQuality divide)

/-! ## Enumerations -/

/-- The actions of an assessment. -/
inductive Action where
  | hold
  | close
  | roll
  | noAction
deriving DecidableEq, Repr

/-- The written form of an action. -/
def Action.text : Action → String
  | hold => "HOLD"
  | close => "CLOSE"
  | roll => "ROLL"
  | noAction => "NO_ACTION"

/-- Where a thesis stands. -/
inductive ThesisStatus where
  | intact
  | weakening
  | broken
  | unknown
deriving DecidableEq, Repr

/-- What is known of the evidence. -/
inductive EvidenceState where
  | assessed
  | noChange
  | unknown
deriving DecidableEq, Repr

/-- What an assessment decides for execution. -/
inductive ExecutionDecision where
  | noAction
  | holdCertified
  | closeApproved
  | closeRiskOnly
  | rollApproved
deriving DecidableEq, Repr

/-- The written form of a decision. -/
def ExecutionDecision.text : ExecutionDecision → String
  | noAction => "NO_ACTION"
  | holdCertified => "HOLD_CERTIFIED"
  | closeApproved => "CLOSE_APPROVED"
  | closeRiskOnly => "CLOSE_RISK_ONLY"
  | rollApproved => "ROLL_APPROVED"

/-- The view of volatility that a thesis takes. -/
inductive VolatilityView where
  | long
  | short
  | neutral
deriving DecidableEq, Repr

/-! ## Freshness -/

/-- The kinds of observations whose age is limited. -/
inductive FreshnessKind where
  | account
  | positions
  | openOrders
  | underlyingQuote
  | completedBar
  | optionSnapshot
  | news
deriving DecidableEq, Repr

/-- The written form of a kind. -/
def FreshnessKind.text : FreshnessKind → String
  | account => "ACCOUNT"
  | positions => "POSITIONS"
  | openOrders => "OPEN_ORDERS"
  | underlyingQuote => "UNDERLYING_QUOTE"
  | completedBar => "COMPLETED_BAR"
  | optionSnapshot => "OPTION_SNAPSHOT"
  | news => "NEWS"

/-- How old an observation of a kind may be. -/
def FreshnessKind.limit : FreshnessKind → Int
  | account => Calendar.seconds 15
  | positions => Calendar.seconds 15
  | openOrders => Calendar.seconds 15
  | underlyingQuote => Calendar.seconds 30
  | completedBar => Calendar.seconds 120
  | optionSnapshot => Calendar.seconds 30
  | news => Calendar.seconds 900

/-- An observation whose age is checked. -/
structure FreshnessInput where
  kind : FreshnessKind
  observedAt : Int
  retrievalTimeOnly : Bool := false

/-- What is wrong with the age of an observation. -/
def FreshnessInput.failure (decisionTime : Int) (item : FreshnessInput) : Option String :=
  let age := decisionTime - item.observedAt
  if age < 0 then some ("FUTURE_" ++ item.kind.text)
  else if item.kind.limit < age then some ("STALE_" ++ item.kind.text)
  else if item.kind = .optionSnapshot && item.retrievalTimeOnly then
    some "UNVERIFIED_GREEK_TIMESTAMP"
  else none

/-- What is wrong with the ages of observations. -/
def checkFreshness (decisionTime : Int) (inputs : List FreshnessInput) : List String :=
  inputs.filterMap (FreshnessInput.failure decisionTime)

/-! ## Scores -/

/-- The larger of two decimals, the first where they are equal. -/
def greater (a b : Decimal) : Decimal :=
  if a < b then b else a

/-- The smaller of two decimals, the first where they are equal. -/
def lesser (a b : Decimal) : Decimal :=
  if b < a then b else a

/-- The negation of a decimal, rounded to the context. -/
def negated (d : Decimal) : Decimal :=
  Decimal.round d.neg

def zero : Decimal :=
  .ofInt 0

def hundred : Decimal :=
  .ofInt 100

/-- A value held between zero and one hundred. -/
def clamp (value : Decimal) : Decimal :=
  lesser hundred (greater zero value)

/-- How far a value lies outside a band, in units of a tolerance. -/
def bandDeviation (value low high tolerance : Decimal) : Except Failure Decimal := do
  raiseIf (decide (high < low) || decide (tolerance ≤ zero)) (.value "INVALID_BAND")
  if low ≤ value ∧ value ≤ high then return zero
  else
    let distance := if value < low then low - value else value - high
    let deviation ← divide (hundred * distance) tolerance
    return clamp deviation

/-- The integer nearest to a decimal, the even one of two. -/
def roundToInt (d : Decimal) : Int :=
  let magnitude :=
    if 0 ≤ d.exponent then d.coefficient * 10 ^ d.exponent.toNat
    else Decimal.shiftHalfEven d.coefficient (-d.exponent).toNat
  if d.negative then -(magnitude : Int) else magnitude

structure ScoreInput where
  evidenceDrift : Decimal
  delta : Decimal
  deltaLow : Decimal
  deltaHigh : Decimal
  vega : Decimal
  vegaLow : Decimal
  vegaHigh : Decimal
  thetaPerDay : Decimal
  maxDailyTheta : Decimal
  dte : Int
  minimumDte : Int
  maximumDte : Int
  horizonFraction : Decimal
  volatilityView : VolatilityView
  entryAtmIv : Decimal
  currentAtmIv : Decimal
  liquidationPnl : Decimal
  approvedMaxLoss : Decimal

structure ScoreResult where
  evidenceDrift : Decimal
  exposureMismatch : Decimal
  timePressure : Decimal
  volatilityMismatch : Decimal
  riskUtilization : Decimal
  unroundedScore : Decimal
  displayScore : Int
  dominantNonEvidenceComponent : String

def ScoreInput.inRange (values : ScoreInput) : Bool :=
  !(decide (values.maxDailyTheta ≤ zero) || decide (values.vegaHigh < values.vegaLow) ||
    decide (values.deltaHigh < values.deltaLow) || decide (values.entryAtmIv ≤ zero) ||
    decide (values.approvedMaxLoss ≤ zero))

/-- How far the Greeks and the days to expiry lie outside their bands. -/
def exposureMismatch (values : ScoreInput) (vegaMismatch : Decimal) : Except Failure Decimal := do
  let deltaMismatch ← bandDeviation values.delta values.deltaLow values.deltaHigh (.ofInt 25)
  let excess := (lesser values.thetaPerDay zero).abs - values.maxDailyTheta
  let thetaRatio ← divide (hundred * excess) values.maxDailyTheta
  let dteMismatch ← bandDeviation (.ofInt values.dte) (.ofInt values.minimumDte)
    (.ofInt values.maximumDte) (.ofInt 7)
  return (⟨false, 40, -2⟩ : Decimal) * deltaMismatch + (⟨false, 25, -2⟩ : Decimal) * vegaMismatch +
    (⟨false, 20, -2⟩ : Decimal) * clamp thetaRatio + (⟨false, 15, -2⟩ : Decimal) * dteMismatch

/-- How much the time left presses. -/
def timePressure (values : ScoreInput) : Except Failure Decimal := do
  let horizonPressure := clamp (.ofInt 200 * (values.horizonFraction - ⟨false, 50, -2⟩))
  let expiry ← divide (hundred * (.ofInt 14 - .ofInt values.dte)) (.ofInt 7)
  return greater horizonPressure (clamp expiry)

/-- How far volatility has moved against the view. -/
def volatilityMismatch (values : ScoreInput) (vegaMismatch : Decimal) : Except Failure Decimal := do
  let change ← divide (values.currentAtmIv - values.entryAtmIv) values.entryAtmIv
  match values.volatilityView with
  | .long => do
      let ratio ← divide (negated change) ⟨false, 20, -2⟩
      return clamp (ratio * hundred)
  | .short => do
      let ratio ← divide change ⟨false, 20, -2⟩
      return clamp (ratio * hundred)
  | .neutral => return vegaMismatch

/-- The loss of a position over its approved loss. -/
def lossFraction (values : ScoreInput) : Except Failure Decimal :=
  divide (greater zero (negated values.liquidationPnl)) values.approvedMaxLoss

/-- How much of the approved loss is used. -/
def riskUtilization (values : ScoreInput) : Except Failure Decimal := do
  let fraction ← lossFraction values
  let ratio ← divide (fraction - ⟨false, 10, -2⟩) ⟨false, 40, -2⟩
  return clamp (ratio * hundred)

/-- The name of the first of the largest components. -/
def dominantComponent (exposure time volatility risk : Decimal) : String :=
  let best := greater (greater (greater exposure time) volatility) risk
  if exposure == best then "EXPOSURE" else if time == best then "TIME"
  else if volatility == best then "VOLATILITY" else "RISK"

def scoreDrift (values : ScoreInput) : Except Failure ScoreResult := do
  raiseIf (!values.inRange) (.value "INVALID_SCORE_INPUT")
  let vegaTolerance := greater (.ofInt 1) (values.vegaHigh - values.vegaLow)
  let vegaMismatch ← bandDeviation values.vega values.vegaLow values.vegaHigh vegaTolerance
  let exposure ← exposureMismatch values vegaMismatch
  let time ← timePressure values
  let volatility ← volatilityMismatch values vegaMismatch
  let risk ← riskUtilization values
  let unrounded := (⟨false, 35, -2⟩ : Decimal) * clamp values.evidenceDrift +
    (⟨false, 25, -2⟩ : Decimal) * exposure + (⟨false, 15, -2⟩ : Decimal) * time +
    (⟨false, 10, -2⟩ : Decimal) * volatility + (⟨false, 15, -2⟩ : Decimal) * risk
  return {
    evidenceDrift := clamp values.evidenceDrift
    exposureMismatch := exposure
    timePressure := time
    volatilityMismatch := volatility
    riskUtilization := risk
    unroundedScore := unrounded
    displayScore := roundToInt unrounded
    dominantNonEvidenceComponent := dominantComponent exposure time volatility risk }

/-! ## Decisions -/

structure RollCandidate where
  valid : Bool
  driftReduction : Int
  expiryExtensionDays : Int
  relativeSpread : Decimal
  maximumRelativeSpread : Decimal
  incrementalDebit : Decimal
  maximumIncrementalDebit : Decimal
  withinLossBudget : Bool := true
  coveredVerticals : Bool := true
  noPriorRollToday : Bool := true
  expectedAfterExposure : Option GreekExposure := none

/-- The findings that force a close. -/
structure HardGateInput where
  verifiedInvalidation : Bool := false
  priceConfirmationBroken : Bool := false
  shortDte : Option Int := none
  shortCallExDividendBoundary : Bool := false
  boundedAsApproved : Bool := true
  riskCapExceeded : Bool := false
  weekendGateFailed : Bool := false
  contestEndWindow : Bool := false
  strategyCloseReason : Option String := none

structure AssessmentInput where
  assessmentId : Uuid
  runId : Uuid
  policyHash : String
  quality : DataQuality
  actualExposure : Option GreekExposure
  thesisStatus : ThesisStatus
  evidenceState : EvidenceState
  scores : Option ScoreInput
  executionFailures : List String := []
  hardGates : HardGateInput := {}
  rollCandidate : Option RollCandidate := none
  acquisitionManifestId : Option Uuid := none
  acquisitionManifestHash : Option String := none

structure Alternative where
  action : Action
  eligible : Bool
  rationaleCode : String
  expectedExposure : Option GreekExposure

structure AssessmentResponse where
  assessmentId : Uuid
  runId : Uuid
  action : Action
  rationaleCode : String
  quality : DataQuality
  thesisStatus : ThesisStatus
  evidenceState : EvidenceState
  executionDecision : ExecutionDecision
  actualExposure : Option GreekExposure
  driftScore : Option Decimal
  components : Option ScoreResult
  alternatives : List Alternative
  policyHash : String

structure PolicyResult where
  response : AssessmentResponse
  executionDecision : ExecutionDecision
  components : Option ScoreResult

/-- Whether the candidate of a roll may be taken. -/
def rollIsEligible (values : AssessmentInput) (components : ScoreResult) : Bool :=
  match values.rollCandidate with
  | none => false
  | some candidate =>
      decide (45 ≤ components.displayScore ∧ components.displayScore < 70)
      && decide (values.thesisStatus = .intact ∨ values.thesisStatus = .weakening)
      && decide (components.dominantNonEvidenceComponent = "EXPOSURE" ∨
        components.dominantNonEvidenceComponent = "TIME")
      && candidate.valid
      && decide (20 ≤ candidate.driftReduction)
      && decide (7 ≤ candidate.expiryExtensionDays ∧ candidate.expiryExtensionDays ≤ 35)
      && decide (zero ≤ candidate.relativeSpread ∧
        candidate.relativeSpread ≤ candidate.maximumRelativeSpread ∧
        candidate.maximumRelativeSpread < .ofInt 1)
      && decide (zero ≤ candidate.incrementalDebit ∧
        candidate.incrementalDebit ≤ candidate.maximumIncrementalDebit)
      && candidate.withinLossBudget
      && candidate.coveredVerticals
      && candidate.noPriorRollToday

/-- Why a position has to be closed, whatever else holds. -/
def mandatoryCloseCode (gates : HardGateInput) (scores : ScoreInput) :
    Except Failure (Option String) :=
  if gates.strategyCloseReason.isSome then .ok gates.strategyCloseReason
  else if gates.verifiedInvalidation then .ok (some "VERIFIED_INVALIDATION")
  else if gates.priceConfirmationBroken then .ok (some "PRICE_CONFIRMATION_BROKEN")
  else do
    let fraction ← lossFraction scores
    return if ⟨false, 50, -2⟩ ≤ fraction then some "LOSS_LIMIT_REACHED"
      else if gates.shortDte.any (· ≤ 7) then some "SHORT_DTE_LIMIT"
      else if gates.shortCallExDividendBoundary then some "SHORT_CALL_EX_DIVIDEND"
      else if !gates.boundedAsApproved then some "DEFINED_RISK_BROKEN"
      else if gates.riskCapExceeded then some "RISK_CAP_EXCEEDED"
      else if gates.contestEndWindow then some "CONTEST_END_CLOSE"
      else if gates.weekendGateFailed then some "WEEKEND_GATE_FAILED"
      else none

/-- What is decided, why, and from which score. -/
structure Verdict where
  action : Action
  decision : ExecutionDecision
  rationale : String
  components : Option ScoreResult

/-- What a score decides once nothing forces a close. -/
def scoredVerdict (values : AssessmentInput) (components : ScoreResult) : Verdict :=
  if values.evidenceState = .unknown then
    ⟨.noAction, .noAction, "EVIDENCE_UNKNOWN", some components⟩
  else if values.thesisStatus = .broken ∨ 70 ≤ components.displayScore then
    ⟨.close, .closeApproved,
      if values.thesisStatus = .broken then "THESIS_BROKEN" else "DRIFT_CLOSE", some components⟩
  else if rollIsEligible values components then
    ⟨.roll, .rollApproved, "EXPOSURE_ROLL", some components⟩
  else
    ⟨.hold, .holdCertified,
      if components.displayScore < 45 then "THESIS_ALIGNED" else "NO_VALID_ROLL", some components⟩

/-- What an input decides. An empty reason of the strategy forces nothing. -/
def verdict (values : AssessmentInput) : Except Failure Verdict :=
  match values.executionFailures with
  | failure :: _ => .ok ⟨.noAction, .noAction, failure, none⟩
  | [] =>
      match decide (values.quality = .complete) && values.actualExposure.isSome, values.scores with
      | true, some scores => do
          let components ← scoreDrift scores
          let mandatory ← mandatoryCloseCode values.hardGates scores
          return match mandatory with
            | some code =>
                if code ≠ "" then ⟨.close, .closeRiskOnly, code, some components⟩
                else scoredVerdict values components
            | none => scoredVerdict values components
      | _, _ => .ok ⟨.noAction, .noAction, "EXECUTION_DATA_MISSING", none⟩

/-- The alternatives of a verdict: the one that was taken is eligible. -/
def alternativesOf (values : AssessmentInput) (verdict : Verdict) : List Alternative :=
  [Action.hold, .close, .roll].map fun candidate => {
    action := candidate
    eligible := candidate = verdict.action
    rationaleCode := if candidate = verdict.action then verdict.rationale
      else "REJECTED_" ++ candidate.text
    expectedExposure :=
      if candidate = .roll then values.rollCandidate.bind (·.expectedAfterExposure) else none }

/-- The assessment of a position. The answer shows a score between zero and one hundred. -/
def evaluateAssessment (values : AssessmentInput) : Except Failure PolicyResult := do
  let verdict ← verdict values
  raiseIf (verdict.components.any fun components =>
    !decide (0 ≤ components.displayScore ∧ components.displayScore ≤ 100))
    (.value "DRIFT_COMPONENTS_INVALID")
  let response : AssessmentResponse := {
    assessmentId := values.assessmentId
    runId := values.runId
    action := verdict.action
    rationaleCode := verdict.rationale
    quality := values.quality
    thesisStatus := values.thesisStatus
    evidenceState := values.evidenceState
    executionDecision := verdict.decision
    actualExposure := values.actualExposure
    driftScore := verdict.components.map fun components => .ofInt components.displayScore
    components := verdict.components
    alternatives := alternativesOf values verdict
    policyHash := values.policyHash }
  return { response, executionDecision := verdict.decision, components := verdict.components }

/-! ## What an assessment answers -/

def ExecutionDecision.action : ExecutionDecision → Action
  | noAction => .noAction
  | holdCertified => .hold
  | closeApproved => .close
  | closeRiskOnly => .close
  | rollApproved => .roll

/-- A score decides what it acts on, and says why. -/
theorem scoredVerdict_action (values : AssessmentInput) (components : ScoreResult) :
    (scoredVerdict values components).action = (scoredVerdict values components).decision.action ∧
      (scoredVerdict values components).rationale ≠ "" := by
  unfold scoredVerdict
  split
  · exact ⟨rfl, by simp⟩
  · split
    · refine ⟨rfl, ?_⟩
      dsimp only
      split <;> simp
    · split
      · exact ⟨rfl, by simp⟩
      · refine ⟨rfl, ?_⟩
        dsimp only
        split <;> simp

variable {values : AssessmentInput}

/-- What is decided is what is acted on, and an order has a reason. -/
theorem verdict_action {result : Verdict} (h : verdict values = .ok result) :
    result.action = result.decision.action ∧
      (result.decision ≠ .noAction → result.rationale ≠ "") := by
  unfold verdict at h
  split at h
  · cases h
    exact ⟨rfl, fun hne => absurd rfl hne⟩
  · split at h
    · obtain ⟨components, -, h⟩ := bind_ok.mp h
      obtain ⟨mandatory, -, h⟩ := bind_ok.mp h
      obtain rfl := Except.ok.inj h
      have hscored := scoredVerdict_action values components
      cases mandatory with
      | none => exact ⟨hscored.1, fun _ => hscored.2⟩
      | some code =>
          by_cases hcode : code ≠ ""
          · simp only [if_pos hcode]
            exact ⟨rfl, fun _ => hcode⟩
          · simp only [if_neg hcode]
            exact ⟨hscored.1, fun _ => hscored.2⟩
    · cases h
      exact ⟨rfl, fun hne => absurd rfl hne⟩

structure Answers (values : AssessmentInput) (verdict : Verdict)
    (result : PolicyResult) : Prop where
  decided : Lifecycle.verdict values = .ok verdict
  decision : result.executionDecision = verdict.decision
  alternatives : result.response.alternatives = alternativesOf values verdict
  assessmentId : result.response.assessmentId = values.assessmentId
  policyHash : result.response.policyHash = values.policyHash
  rationale : result.response.rationaleCode = verdict.rationale

theorem evaluateAssessment_answers {result : PolicyResult}
    (h : evaluateAssessment values = .ok result) : ∃ verdict, Answers values verdict result := by
  obtain ⟨verdict, hverdict, h⟩ := bind_ok.mp h
  obtain ⟨-, h⟩ := check_bind_ok.mp h
  obtain rfl := Except.ok.inj h
  exact ⟨verdict, hverdict, rfl, rfl, rfl, rfl, rfl⟩

theorem eligible_alternatives {verdict : Verdict} (haction : verdict.action ≠ .noAction) :
    ((alternativesOf values verdict).filter fun item => item.eligible) = [{
      action := verdict.action
      eligible := true
      rationaleCode := verdict.rationale
      expectedExposure := if verdict.action = .roll then
        values.rollCandidate.bind (·.expectedAfterExposure) else none }] := by
  unfold alternativesOf
  cases hcase : verdict.action with
  | hold => simp
  | close => simp
  | roll => simp
  | noAction => exact absurd hcase haction

end AlphaDecay.Lifecycle
