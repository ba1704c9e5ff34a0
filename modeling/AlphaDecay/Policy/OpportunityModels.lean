import AlphaDecay.Execution.OrderLimits

/-!
# Opportunity policies, inputs and decisions

The values that an opportunity decision reads and writes: the policy with the bounds of its own
construction, the vertical candidate with its option legs, the state of the account, the input of
one decision and the record of it, with the canonical documents under which they are hashed. The
structural pilots are profiles that replace some bounds of the policy by their own.
-/

namespace AlphaDecay.Policy

open Foundation

/-! ## Enumerations -/

inductive OptionRight where
  | call
  | put
deriving DecidableEq, Repr

/-- The quality of the data behind an input. -/
inductive DataQuality where
  | complete
  | missing
  | stale
  | unknown
deriving DecidableEq, Repr

/-- What an opportunity decision comes to. -/
inductive OpportunityOutcome where
  | entryApproved
  | noTrade
deriving DecidableEq, Repr

/-- Why an opportunity decision came out as it did. -/
inductive OpportunityReason where
  | entryApproved
  | decisionBoundaryIncomplete
  | decisionBoundaryMismatch
  | decisionBoundaryNotReached
  | decisionBoundaryStale
  | dataQualityIncomplete
  | normalizedInputInvalid
  | catalystContradicted
  | catalystDataMissing
  | catalystDataStale
  | catalystScoreBelowMinimum
  | marketClosed
  | tradingHaltStatusUnknown
  | tradingHalted
  | underlyingDataStale
  | betaOutOfBounds
  | firstReactionOutOfSupport
  | optionCandidateMissing
  | optionCandidateInvalid
  | optionOnlyRequired
  | verticalStructureInvalid
  | optionFeedNotIndicative
  | optionQuoteStale
  | optionQuotesUnsynchronized
  | optionQuoteInvalid
  | optionQuoteTooWide
  | optionGreeksMissing
  | optionDteOutOfRange
  | optionDteMismatch
  | optionContractIneligible
  | optionPayoffInvalid
  | candidateScoreBelowMinimum
  | candidateFallbackForbidden
  | buyingPowerInsufficient
  | quantityOutOfBounds
  | accountRoleNotExecutable
  | baselineNotClean
  | equityFloorReached
  | accountNotFlat
  | openOrderExists
  | lifetimeEntryLimitReached
  | lifetimeRiskLimitReached
  | eventAlreadyAttempted
  | positionRiskLimitExceeded
  | entryWindowClosed
  | policyScopeMismatch
  | bookFingerprintInvalid
  | accountStateInvalid
  | entryReservationActive
  | priorDecisionBinding
  | directionNotConfirmed
  | verticalDirectionMismatch
deriving DecidableEq, Repr

inductive OpportunityDirection where
  | bullish
  | bearish
deriving DecidableEq, Repr

/-- Whether trading in the underlying is halted. -/
inductive TradingHaltState where
  | halted
  | notHalted
  | unknown
deriving DecidableEq, Repr

inductive CatalystQuality where
  | clear
  | unresolvedRisk
  | authoritativeContradiction
  | missing
deriving DecidableEq, Repr

inductive InstrumentKind where
  | option
  | equity
deriving DecidableEq, Repr

/-- The feed of an option quote. -/
inductive OptionFeed where
  | indicativeModified
  | opra
  | other
deriving DecidableEq, Repr

inductive VerticalStrategy where
  | bullCallDebit
  | bullPutCredit
  | bearPutDebit
  | bearCallCredit
deriving DecidableEq, Repr

/-- The written form of a right. -/
def OptionRight.text : OptionRight → String
  | call => "CALL"
  | put => "PUT"

/-- The written form of a data quality. -/
def DataQuality.text : DataQuality → String
  | complete => "COMPLETE"
  | missing => "MISSING"
  | stale => "STALE"
  | unknown => "UNKNOWN"

/-- The written form of an outcome. -/
def OpportunityOutcome.text : OpportunityOutcome → String
  | entryApproved => "ENTRY_APPROVED"
  | noTrade => "NO_TRADE"

/-- The written form of a reason. -/
def OpportunityReason.text : OpportunityReason → String
  | entryApproved => "ENTRY_APPROVED"
  | decisionBoundaryIncomplete => "DECISION_BOUNDARY_INCOMPLETE"
  | decisionBoundaryMismatch => "DECISION_BOUNDARY_MISMATCH"
  | decisionBoundaryNotReached => "DECISION_BOUNDARY_NOT_REACHED"
  | decisionBoundaryStale => "DECISION_BOUNDARY_STALE"
  | dataQualityIncomplete => "DATA_QUALITY_INCOMPLETE"
  | normalizedInputInvalid => "NORMALIZED_INPUT_INVALID"
  | catalystContradicted => "CATALYST_CONTRADICTED"
  | catalystDataMissing => "CATALYST_DATA_MISSING"
  | catalystDataStale => "CATALYST_DATA_STALE"
  | catalystScoreBelowMinimum => "CATALYST_SCORE_BELOW_MINIMUM"
  | marketClosed => "MARKET_CLOSED"
  | tradingHaltStatusUnknown => "TRADING_HALT_STATUS_UNKNOWN"
  | tradingHalted => "TRADING_HALTED"
  | underlyingDataStale => "UNDERLYING_DATA_STALE"
  | betaOutOfBounds => "BETA_OUT_OF_BOUNDS"
  | firstReactionOutOfSupport => "FIRST_REACTION_OUT_OF_SUPPORT"
  | optionCandidateMissing => "OPTION_CANDIDATE_MISSING"
  | optionCandidateInvalid => "OPTION_CANDIDATE_INVALID"
  | optionOnlyRequired => "OPTION_ONLY_REQUIRED"
  | verticalStructureInvalid => "VERTICAL_STRUCTURE_INVALID"
  | optionFeedNotIndicative => "OPTION_FEED_NOT_INDICATIVE"
  | optionQuoteStale => "OPTION_QUOTE_STALE"
  | optionQuotesUnsynchronized => "OPTION_QUOTES_UNSYNCHRONIZED"
  | optionQuoteInvalid => "OPTION_QUOTE_INVALID"
  | optionQuoteTooWide => "OPTION_QUOTE_TOO_WIDE"
  | optionGreeksMissing => "OPTION_GREEKS_MISSING"
  | optionDteOutOfRange => "OPTION_DTE_OUT_OF_RANGE"
  | optionDteMismatch => "OPTION_DTE_MISMATCH"
  | optionContractIneligible => "OPTION_CONTRACT_INELIGIBLE"
  | optionPayoffInvalid => "OPTION_PAYOFF_INVALID"
  | candidateScoreBelowMinimum => "CANDIDATE_SCORE_BELOW_MINIMUM"
  | candidateFallbackForbidden => "CANDIDATE_FALLBACK_FORBIDDEN"
  | buyingPowerInsufficient => "BUYING_POWER_INSUFFICIENT"
  | quantityOutOfBounds => "QUANTITY_OUT_OF_BOUNDS"
  | accountRoleNotExecutable => "ACCOUNT_ROLE_NOT_EXECUTABLE"
  | baselineNotClean => "BASELINE_NOT_CLEAN"
  | equityFloorReached => "EQUITY_FLOOR_REACHED"
  | accountNotFlat => "ACCOUNT_NOT_FLAT"
  | openOrderExists => "OPEN_ORDER_EXISTS"
  | lifetimeEntryLimitReached => "LIFETIME_ENTRY_LIMIT_REACHED"
  | lifetimeRiskLimitReached => "LIFETIME_RISK_LIMIT_REACHED"
  | eventAlreadyAttempted => "EVENT_ALREADY_ATTEMPTED"
  | positionRiskLimitExceeded => "POSITION_RISK_LIMIT_EXCEEDED"
  | entryWindowClosed => "ENTRY_WINDOW_CLOSED"
  | policyScopeMismatch => "POLICY_SCOPE_MISMATCH"
  | bookFingerprintInvalid => "BOOK_FINGERPRINT_INVALID"
  | accountStateInvalid => "ACCOUNT_STATE_INVALID"
  | entryReservationActive => "ENTRY_RESERVATION_ACTIVE"
  | priorDecisionBinding => "PRIOR_DECISION_BINDING"
  | directionNotConfirmed => "DIRECTION_NOT_CONFIRMED"
  | verticalDirectionMismatch => "VERTICAL_DIRECTION_MISMATCH"

/-- The written form of a direction. -/
def OpportunityDirection.text : OpportunityDirection → String
  | bullish => "BULLISH"
  | bearish => "BEARISH"

/-- The written form of a catalyst quality. -/
def CatalystQuality.text : CatalystQuality → String
  | clear => "CLEAR"
  | unresolvedRisk => "UNRESOLVED_RISK"
  | authoritativeContradiction => "AUTHORITATIVE_CONTRADICTION"
  | missing => "MISSING"

/-- The written form of an instrument kind. -/
def InstrumentKind.text : InstrumentKind → String
  | option => "OPTION"
  | equity => "EQUITY"

/-- The written form of a feed. -/
def OptionFeed.text : OptionFeed → String
  | indicativeModified => "INDICATIVE_MODIFIED"
  | opra => "OPRA"
  | other => "OTHER"

/-- The written form of a strategy. -/
def VerticalStrategy.text : VerticalStrategy → String
  | bullCallDebit => "BULL_CALL_DEBIT"
  | bullPutCredit => "BULL_PUT_CREDIT"
  | bearPutDebit => "BEAR_PUT_DEBIT"
  | bearCallCredit => "BEAR_CALL_CREDIT"

/-! ## Structural pilots -/

structure StructuralBullishPilotProfile where
  direction : OpportunityDirection := .bullish
  targetDte : Int := 38
  minimumDte : Int := 30
  maximumDte : Int := 45
  width : Decimal := ⟨false, 4, 0⟩
  minimumLongDelta : Decimal := ⟨false, 55, -2⟩
  maximumLongDelta : Decimal := ⟨false, 65, -2⟩
  quantity : Int := 5
  maximumDebit : Decimal := ⟨false, 225, -2⟩
  minimumRewardToRisk : Decimal := ⟨false, 75, -2⟩
  maximumRelativeSpread : Decimal := ⟨false, 5, -2⟩
  maximumQuoteAge : Int := Calendar.seconds 20
  maximumQuoteSkew : Int := Calendar.seconds 3
deriving DecidableEq, Repr

def structuralBullishPilot : StructuralBullishPilotProfile := {}

/-- The bullish pilot out of the money. -/
def structuralBullishOtmPilot : StructuralBullishPilotProfile :=
  { minimumLongDelta := ⟨false, 35, -2⟩, maximumLongDelta := ⟨false, 50, -2⟩ }

/-- The bearish pilot out of the money. -/
def structuralBearishOtmPilot : StructuralBullishPilotProfile :=
  { direction := .bearish
    minimumLongDelta := ⟨false, 35, -2⟩
    maximumLongDelta := ⟨false, 50, -2⟩ }

/-- The profile of an opportunity key, if the key names a structural pilot. -/
def structuralPilotProfile : String → Option StructuralBullishPilotProfile
  | "SPY_STRUCTURAL_BULLISH_BETA_PILOT_V1" => some structuralBullishPilot
  | "SPY_STRUCTURAL_BULLISH_OTM_PILOT_V1" => some structuralBullishOtmPilot
  | "SPY_STRUCTURAL_BEARISH_OTM_PILOT_V1" => some structuralBearishOtmPilot
  | _ => none

/-! ## Values -/

/-- The fields of an opportunity policy. Instants and durations count microseconds. -/
structure OpportunityPolicyFields where
  version : String
  opportunityKey : String
  underlying : String
  selectedDecisionBoundary : Int
  lastEntryBoundary : Int
  maximumDecisionDelay : Int
  maximumUnderlyingAge : Int
  maximumCatalystAge : Int
  maximumOptionQuoteAge : Int
  maximumLegQuoteSkew : Int
  minimumVwapDistance : Decimal
  maximumVwapDistance : Decimal
  minimumRelativeReturn : Decimal
  minimumBeta : Decimal
  maximumBeta : Decimal
  requiredTrendHits : Int
  maximumFirstReaction : Decimal
  minimumCatalystScore : Int
  minimumCandidateScore : Int
  minimumDte : Int
  maximumDte : Int
  maximumRelativeSpread : Decimal
  minimumDebitWidthFraction : Decimal
  maximumDebitWidthFraction : Decimal
  minimumCreditWidthFraction : Decimal
  maximumPositionLoss : Decimal
  maximumEquityRiskFraction : Decimal
  maximumLifetimeEntries : Int
  maximumLifetimeRisk : Decimal
  equityFloor : Decimal
  maximumQuantity : Int
deriving DecidableEq, Repr

def OpportunityPolicyFields.Bounded (policy : OpportunityPolicyFields) : Prop :=
  (policy.version ≠ "" ∧ policy.opportunityKey ≠ "" ∧ policy.underlying ≠ "")
  ∧ (0 < policy.maximumDecisionDelay ∧ 0 < policy.maximumUnderlyingAge
    ∧ 0 < policy.maximumCatalystAge ∧ 0 < policy.maximumOptionQuoteAge
    ∧ 0 < policy.maximumLegQuoteSkew)
  ∧ (Decimal.ofInt 0 ≤ policy.minimumVwapDistance
    ∧ policy.minimumVwapDistance < policy.maximumVwapDistance)
  ∧ Decimal.ofInt 0 ≤ policy.minimumRelativeReturn
  ∧ (Decimal.ofInt 0 ≤ policy.minimumBeta ∧ policy.minimumBeta < policy.maximumBeta)
  ∧ (1 ≤ policy.requiredTrendHits ∧ policy.requiredTrendHits ≤ 3)
  ∧ Decimal.ofInt 0 < policy.maximumFirstReaction
  ∧ (0 ≤ policy.minimumCatalystScore ∧ policy.minimumCatalystScore ≤ 100)
  ∧ (0 ≤ policy.minimumCandidateScore ∧ policy.minimumCandidateScore ≤ 100)
  ∧ (1 ≤ policy.minimumDte ∧ policy.minimumDte ≤ policy.maximumDte)
  ∧ (Decimal.ofInt 0 < policy.maximumRelativeSpread
    ∧ policy.maximumRelativeSpread < Decimal.ofInt 1)
  ∧ (Decimal.ofInt 0 < policy.minimumDebitWidthFraction
    ∧ policy.minimumDebitWidthFraction ≤ policy.maximumDebitWidthFraction
    ∧ policy.maximumDebitWidthFraction < Decimal.ofInt 1)
  ∧ (Decimal.ofInt 0 < policy.minimumCreditWidthFraction
    ∧ policy.minimumCreditWidthFraction < Decimal.ofInt 1)
  ∧ (Decimal.ofInt 0 < policy.maximumPositionLoss
    ∧ policy.maximumPositionLoss ≤ maxStructuralApprovedRisk)
  ∧ (Decimal.ofInt 0 < policy.maximumEquityRiskFraction
    ∧ policy.maximumEquityRiskFraction ≤ Decimal.ofInt 1)
  ∧ (0 < policy.maximumLifetimeEntries
    ∧ policy.maximumLifetimeEntries ≤ maxStructuralLifetimeEntries)
  ∧ (policy.maximumPositionLoss ≤ policy.maximumLifetimeRisk
    ∧ policy.maximumLifetimeRisk ≤ maxStructuralLifetimeRisk)
  ∧ Decimal.ofInt 0 < policy.equityFloor
  ∧ (0 < policy.maximumQuantity ∧ policy.maximumQuantity ≤ maxStructuralOptionQuantity)

instance (policy : OpportunityPolicyFields) : Decidable policy.Bounded :=
  inferInstanceAs (Decidable (_ ∧ _))

/-- The check made when a policy is built. -/
def OpportunityPolicyFields.postInit (policy : OpportunityPolicyFields) : Except Failure Unit :=
  raiseIf (!decide policy.Bounded) (.value "INVALID_OPPORTUNITY_POLICY")

/-- A policy within its bounds. -/
structure OpportunityPolicy extends OpportunityPolicyFields where
  valid : toOpportunityPolicyFields.postInit = .ok ()

/-- One leg of a vertical candidate with the quote and the state of its contract. -/
structure OptionLeg where
  instrumentKind : InstrumentKind
  symbol : String
  underlying : String
  right : OptionRight
  strike : Decimal
  expiry : Calendar.Date
  intent : PositionIntent
  ratio : Int
  multiplier : Int
  active : Bool
  tradable : Bool
  bid : Decimal
  ask : Decimal
  bidSize : Int
  askSize : Int
  quoteAt : Int
  feed : OptionFeed
  greeksComplete : Bool
  greekUnitsVerified : Bool
deriving DecidableEq, Repr

structure VerticalCandidate where
  strategy : VerticalStrategy
  legs : List OptionLeg
  quantity : Int
  dte : Int
  approvedLimit : Decimal
  candidateScore : Int
  selectionRank : Int
  buyingPowerSufficient : Bool
  maximumLimit : Option Decimal := none
deriving DecidableEq, Repr

structure AccountOpportunityState where
  accountRole : AccountRole
  bookFingerprint : String
  baselineClean : Bool
  cleanEquity : Decimal
  openPositionCount : Int
  openOrderCount : Int
  filledEntryCount : Int
  lifetimeApprovedRisk : Decimal
  entryReservationActive : Bool
  reservedApprovedRisk : Decimal
  eventAlreadyAttempted : Bool
deriving DecidableEq, Repr

structure OpportunityInput where
  opportunityKey : String
  underlying : String
  observedDecisionBoundary : Int
  evaluatedAt : Int
  completedBarAt : Int
  decisionBoundaryComplete : Bool
  priorDecisionOutcome : Option OpportunityOutcome
  dataQuality : DataQuality
  marketOpen : Bool
  tradingHalted : TradingHaltState
  underlyingObservedAt : Int
  catalystObservedAt : Int
  catalystQuality : CatalystQuality
  catalystScore : Int
  vwapDistance : Decimal
  relativeReturn : Decimal
  beta : Decimal
  bullTrendHits : Int
  bearTrendHits : Int
  absoluteFirstReaction : Decimal
  candidate : Option VerticalCandidate
  account : AccountOpportunityState
deriving DecidableEq, Repr

structure OpportunityDecisionRecord where
  outcome : OpportunityOutcome
  reasonCodes : List OpportunityReason
  opportunityKey : String
  decisionBoundary : Int
  direction : Option OpportunityDirection
  strategy : Option VerticalStrategy
  quantity : Option Int
  approvedMaxLoss : Option Decimal
  bookFingerprint : String
  candidateHash : Option String
  inputHash : String
  policyHash : String
  resultHash : String
deriving DecidableEq, Repr

/-! ## Canonical documents -/

def policyNumber (value : Decimal) : Json :=
  .text (canonicalDecimal value)

/-- A date, as a document. -/
def policyDate (date : Calendar.Date) : Json :=
  .ofChars (Text.fixedDigits 10 4 date.year ++ '-' ::
    (Text.fixedDigits 10 2 date.month ++ '-' :: Text.fixedDigits 10 2 date.day))

/-- An instant with its microseconds, as a document. -/
def policyInstant (t : Int) : Json :=
  let date := Calendar.dateOfDay (t.toNat / Calendar.microsPerDay)
  let time := t.toNat % Calendar.microsPerDay
  let seconds := time / 1000000
  .ofChars (
    Text.fixedDigits 10 4 date.year ++ '-' :: (Text.fixedDigits 10 2 date.month ++ '-' ::
    (Text.fixedDigits 10 2 date.day ++ 'T' :: (Text.fixedDigits 10 2 (seconds / 3600) ++ ':' ::
    (Text.fixedDigits 10 2 (seconds / 60 % 60) ++ ':' :: (Text.fixedDigits 10 2 (seconds % 60) ++
    '.' :: (Text.fixedDigits 10 6 (time % 1000000) ++ ['Z'])))))))

/-- A duration, as a document. -/
def policyDuration (duration : Int) : Json :=
  .object [
    ("days", .number (duration / Calendar.microsPerDay)),
    ("seconds", .number (duration % Calendar.microsPerDay / 1000000)),
    ("microseconds", .number (duration % 1000000))]

/-- A halt state, as a document: a truth value where it is known. -/
def TradingHaltState.document : TradingHaltState → Json
  | halted => .bool true
  | notHalted => .bool false
  | unknown => .text "UNKNOWN"

def StructuralBullishPilotProfile.document (profile : StructuralBullishPilotProfile) : Json :=
  .object [
    ("direction", .text profile.direction.text),
    ("target_dte", .number profile.targetDte),
    ("minimum_dte", .number profile.minimumDte),
    ("maximum_dte", .number profile.maximumDte),
    ("width", policyNumber profile.width),
    ("minimum_long_delta", policyNumber profile.minimumLongDelta),
    ("maximum_long_delta", policyNumber profile.maximumLongDelta),
    ("quantity", .number profile.quantity),
    ("maximum_debit", policyNumber profile.maximumDebit),
    ("minimum_reward_to_risk", policyNumber profile.minimumRewardToRisk),
    ("maximum_relative_spread", policyNumber profile.maximumRelativeSpread),
    ("maximum_quote_age", policyDuration profile.maximumQuoteAge),
    ("maximum_quote_skew", policyDuration profile.maximumQuoteSkew)]

def OpportunityPolicyFields.document (policy : OpportunityPolicyFields) : Json :=
  .object [
    ("version", .text policy.version),
    ("opportunity_key", .text policy.opportunityKey),
    ("underlying", .text policy.underlying),
    ("selected_decision_boundary", policyInstant policy.selectedDecisionBoundary),
    ("last_entry_boundary", policyInstant policy.lastEntryBoundary),
    ("maximum_decision_delay", policyDuration policy.maximumDecisionDelay),
    ("maximum_underlying_age", policyDuration policy.maximumUnderlyingAge),
    ("maximum_catalyst_age", policyDuration policy.maximumCatalystAge),
    ("maximum_option_quote_age", policyDuration policy.maximumOptionQuoteAge),
    ("maximum_leg_quote_skew", policyDuration policy.maximumLegQuoteSkew),
    ("minimum_vwap_distance", policyNumber policy.minimumVwapDistance),
    ("maximum_vwap_distance", policyNumber policy.maximumVwapDistance),
    ("minimum_relative_return", policyNumber policy.minimumRelativeReturn),
    ("minimum_beta", policyNumber policy.minimumBeta),
    ("maximum_beta", policyNumber policy.maximumBeta),
    ("required_trend_hits", .number policy.requiredTrendHits),
    ("maximum_first_reaction", policyNumber policy.maximumFirstReaction),
    ("minimum_catalyst_score", .number policy.minimumCatalystScore),
    ("minimum_candidate_score", .number policy.minimumCandidateScore),
    ("minimum_dte", .number policy.minimumDte),
    ("maximum_dte", .number policy.maximumDte),
    ("maximum_relative_spread", policyNumber policy.maximumRelativeSpread),
    ("minimum_debit_width_fraction", policyNumber policy.minimumDebitWidthFraction),
    ("maximum_debit_width_fraction", policyNumber policy.maximumDebitWidthFraction),
    ("minimum_credit_width_fraction", policyNumber policy.minimumCreditWidthFraction),
    ("maximum_position_loss", policyNumber policy.maximumPositionLoss),
    ("maximum_equity_risk_fraction", policyNumber policy.maximumEquityRiskFraction),
    ("maximum_lifetime_entries", .number policy.maximumLifetimeEntries),
    ("maximum_lifetime_risk", policyNumber policy.maximumLifetimeRisk),
    ("equity_floor", policyNumber policy.equityFloor),
    ("maximum_quantity", .number policy.maximumQuantity)]

def OptionLeg.document (leg : OptionLeg) : Json :=
  .object [
    ("instrument_kind", .text leg.instrumentKind.text),
    ("symbol", .text leg.symbol),
    ("underlying", .text leg.underlying),
    ("right", .text leg.right.text),
    ("strike", policyNumber leg.strike),
    ("expiry", policyDate leg.expiry),
    ("intent", .text leg.intent.text),
    ("ratio", .number leg.ratio),
    ("multiplier", .number leg.multiplier),
    ("active", .bool leg.active),
    ("tradable", .bool leg.tradable),
    ("bid", policyNumber leg.bid),
    ("ask", policyNumber leg.ask),
    ("bid_size", .number leg.bidSize),
    ("ask_size", .number leg.askSize),
    ("quote_at", policyInstant leg.quoteAt),
    ("feed", .text leg.feed.text),
    ("greeks_complete", .bool leg.greeksComplete),
    ("greek_units_verified", .bool leg.greekUnitsVerified)]

/-- A candidate, as a document. A maximum limit that is absent is left out. -/
def VerticalCandidate.document (candidate : VerticalCandidate) : Json :=
  .object ([
    ("strategy", .text candidate.strategy.text),
    ("legs", .array (candidate.legs.map OptionLeg.document)),
    ("quantity", .number candidate.quantity),
    ("dte", .number candidate.dte),
    ("approved_limit", policyNumber candidate.approvedLimit),
    ("candidate_score", .number candidate.candidateScore),
    ("selection_rank", .number candidate.selectionRank),
    ("buying_power_sufficient", .bool candidate.buyingPowerSufficient)]
    ++ match candidate.maximumLimit with
      | some limit => [("maximum_limit", policyNumber limit)]
      | none => [])

def AccountOpportunityState.document (account : AccountOpportunityState) : Json :=
  .object [
    ("account_role", .text account.accountRole.text),
    ("book_fingerprint", .text account.bookFingerprint),
    ("baseline_clean", .bool account.baselineClean),
    ("clean_equity", policyNumber account.cleanEquity),
    ("open_position_count", .number account.openPositionCount),
    ("open_order_count", .number account.openOrderCount),
    ("filled_entry_count", .number account.filledEntryCount),
    ("lifetime_approved_risk", policyNumber account.lifetimeApprovedRisk),
    ("entry_reservation_active", .bool account.entryReservationActive),
    ("reserved_approved_risk", policyNumber account.reservedApprovedRisk),
    ("event_already_attempted", .bool account.eventAlreadyAttempted)]

def OpportunityInput.document (values : OpportunityInput) : Json :=
  .object [
    ("opportunity_key", .text values.opportunityKey),
    ("underlying", .text values.underlying),
    ("observed_decision_boundary", policyInstant values.observedDecisionBoundary),
    ("evaluated_at", policyInstant values.evaluatedAt),
    ("completed_bar_at", policyInstant values.completedBarAt),
    ("decision_boundary_complete", .bool values.decisionBoundaryComplete),
    ("prior_decision_outcome",
      .ofOptional (fun outcome => .text outcome.text) values.priorDecisionOutcome),
    ("data_quality", .text values.dataQuality.text),
    ("market_open", .bool values.marketOpen),
    ("trading_halted", values.tradingHalted.document),
    ("underlying_observed_at", policyInstant values.underlyingObservedAt),
    ("catalyst_observed_at", policyInstant values.catalystObservedAt),
    ("catalyst_quality", .text values.catalystQuality.text),
    ("catalyst_score", .number values.catalystScore),
    ("vwap_distance", policyNumber values.vwapDistance),
    ("relative_return", policyNumber values.relativeReturn),
    ("beta", policyNumber values.beta),
    ("bull_trend_hits", .number values.bullTrendHits),
    ("bear_trend_hits", .number values.bearTrendHits),
    ("absolute_first_reaction", policyNumber values.absoluteFirstReaction),
    ("candidate", .ofOptional VerticalCandidate.document values.candidate),
    ("account", values.account.document)]

variable [Digest]

/-- The hash of a document under a domain. -/
def canonicalHash (domain : String) (value : Json) : String :=
  Digest.authorityHash (.object [("domain", .text domain), ("value", value)])

/-- The hash of a policy. A structural pilot is hashed with its profile at the quantity of the
policy. -/
def opportunityPolicyHash (policy : OpportunityPolicyFields) : String :=
  canonicalHash "alphadecay.opportunity.policy.v1"
    (match structuralPilotProfile policy.opportunityKey with
      | some profile => .object [
          ("policy", policy.document),
          ("strategy_profile", { profile with quantity := policy.maximumQuantity }.document)]
      | none => policy.document)

def OpportunityInput.hash (values : OpportunityInput) : String :=
  canonicalHash "alphadecay.opportunity.input.v1" values.document

def VerticalCandidate.hash (candidate : VerticalCandidate) : String :=
  canonicalHash "alphadecay.opportunity.candidate.v1" candidate.document

/-- A record without its hash, as a document. -/
def OpportunityDecisionRecord.material (record : OpportunityDecisionRecord) : Json :=
  .object [
    ("outcome", .text record.outcome.text),
    ("reason_codes", .array (record.reasonCodes.map fun reason => .text reason.text)),
    ("opportunity_key", .text record.opportunityKey),
    ("decision_boundary", policyInstant record.decisionBoundary),
    ("direction", .ofOptional (fun direction => .text direction.text) record.direction),
    ("strategy", .ofOptional (fun strategy => .text strategy.text) record.strategy),
    ("quantity", .ofOptional .number record.quantity),
    ("approved_max_loss", .ofOptional policyNumber record.approvedMaxLoss),
    ("book_fingerprint", .text record.bookFingerprint),
    ("candidate_hash", .ofOptional .text record.candidateHash),
    ("input_hash", .text record.inputHash),
    ("policy_hash", .text record.policyHash)]

def OpportunityDecisionRecord.hashed (record : OpportunityDecisionRecord) :
    OpportunityDecisionRecord :=
  { record with
    resultHash := canonicalHash "alphadecay.opportunity.result.v1" record.material }

end AlphaDecay.Policy
