import AlphaDecay.Contracts
import AlphaDecay.Foundation.ValueCodec

/-!
# Compiled strategy protocols

A reviewed strategy is compiled to a protocol: a symbol with a direction and a structure, a
definition with its schedule, its selection and its market quality, and machine rules over metrics
and facts. The models leave the type of their numbers open: a protocol has decimals, and two
protocols have equal fields when they agree once their decimals are replaced by their values.
-/

namespace AlphaDecay.StrategyBriefs

open Foundation Foundation.Json

/-! ## Names -/

inductive StrategyDirection where
  | bullish
  | bearish
  | neutral
  | unsure
deriving DecidableEq, Repr

def StrategyDirection.text : StrategyDirection → String
  | bullish => "BULLISH"
  | bearish => "BEARISH"
  | neutral => "NEUTRAL"
  | unsure => "UNSURE"

def StrategyDirection.ofText : String → Option StrategyDirection
  | "BULLISH" => some bullish
  | "BEARISH" => some bearish
  | "NEUTRAL" => some neutral
  | "UNSURE" => some unsure
  | _ => none

/-- The structure that a curation names. -/
inductive CuratedStructure where
  | bullCallDebitSpread
  | bearPutDebitSpread
  | ironCondor
  | reviewRequired
deriving DecidableEq, Repr

def CuratedStructure.text : CuratedStructure → String
  | bullCallDebitSpread => "BULL_CALL_DEBIT_SPREAD"
  | bearPutDebitSpread => "BEAR_PUT_DEBIT_SPREAD"
  | ironCondor => "IRON_CONDOR"
  | reviewRequired => "REVIEW_REQUIRED"

def CuratedStructure.ofText : String → Option CuratedStructure
  | "BULL_CALL_DEBIT_SPREAD" => some bullCallDebitSpread
  | "BEAR_PUT_DEBIT_SPREAD" => some bearPutDebitSpread
  | "IRON_CONDOR" => some ironCondor
  | "REVIEW_REQUIRED" => some reviewRequired
  | _ => none

/-- A number that a rule can read. -/
inductive ProtocolMetric where
  | underlyingLastPrice
  | underlyingSessionClose
  | underlyingSessionVwap
  | underlyingSma20
  | underlyingSma50
  | underlyingReturnPercent
  | optionRelativeSpreadPercent
  | optionQuoteAgeSeconds
  | daysToExpiry
  | positionReturnOnMaxRiskPercent
  | tradingSessionsHeld
  | minutesToSessionClose
deriving DecidableEq, Repr

def ProtocolMetric.text : ProtocolMetric → String
  | underlyingLastPrice => "UNDERLYING_LAST_PRICE"
  | underlyingSessionClose => "UNDERLYING_SESSION_CLOSE"
  | underlyingSessionVwap => "UNDERLYING_SESSION_VWAP"
  | underlyingSma20 => "UNDERLYING_SMA_20"
  | underlyingSma50 => "UNDERLYING_SMA_50"
  | underlyingReturnPercent => "UNDERLYING_RETURN_PERCENT"
  | optionRelativeSpreadPercent => "OPTION_RELATIVE_SPREAD_PERCENT"
  | optionQuoteAgeSeconds => "OPTION_QUOTE_AGE_SECONDS"
  | daysToExpiry => "DAYS_TO_EXPIRY"
  | positionReturnOnMaxRiskPercent => "POSITION_RETURN_ON_MAX_RISK_PERCENT"
  | tradingSessionsHeld => "TRADING_SESSIONS_HELD"
  | minutesToSessionClose => "MINUTES_TO_SESSION_CLOSE"

/-- The metrics in the order of their declaration. -/
def ProtocolMetric.all : List ProtocolMetric :=
  [underlyingLastPrice, underlyingSessionClose, underlyingSessionVwap, underlyingSma20,
    underlyingSma50, underlyingReturnPercent, optionRelativeSpreadPercent, optionQuoteAgeSeconds,
    daysToExpiry, positionReturnOnMaxRiskPercent, tradingSessionsHeld, minutesToSessionClose]

def ProtocolMetric.ofText (text : String) : Option ProtocolMetric :=
  all.find? fun metric => metric.text = text

/-- A fact that a rule can read. -/
inductive ProtocolFact where
  | paperAccountConfirmed
  | baselineClean
  | accountFlat
  | noOpenOrder
  | buyingPowerSufficient
  | noPriorEntryAttempt
  | marketOpen
  | tradingNotHalted
  | marketDataComplete
  | optionQuotesFresh
  | optionQuotesSynchronized
  | optionLiquidityAcceptable
  | riskWithinReviewedBudget
deriving DecidableEq, Repr

def ProtocolFact.text : ProtocolFact → String
  | paperAccountConfirmed => "PAPER_ACCOUNT_CONFIRMED"
  | baselineClean => "BASELINE_CLEAN"
  | accountFlat => "ACCOUNT_FLAT"
  | noOpenOrder => "NO_OPEN_ORDER"
  | buyingPowerSufficient => "BUYING_POWER_SUFFICIENT"
  | noPriorEntryAttempt => "NO_PRIOR_ENTRY_ATTEMPT"
  | marketOpen => "MARKET_OPEN"
  | tradingNotHalted => "TRADING_NOT_HALTED"
  | marketDataComplete => "MARKET_DATA_COMPLETE"
  | optionQuotesFresh => "OPTION_QUOTES_FRESH"
  | optionQuotesSynchronized => "OPTION_QUOTES_SYNCHRONIZED"
  | optionLiquidityAcceptable => "OPTION_LIQUIDITY_ACCEPTABLE"
  | riskWithinReviewedBudget => "RISK_WITHIN_REVIEWED_BUDGET"

/-- The facts in the order of their declaration, which are the mandatory ones. -/
def ProtocolFact.all : List ProtocolFact :=
  [paperAccountConfirmed, baselineClean, accountFlat, noOpenOrder, buyingPowerSufficient,
    noPriorEntryAttempt, marketOpen, tradingNotHalted, marketDataComplete, optionQuotesFresh,
    optionQuotesSynchronized, optionLiquidityAcceptable, riskWithinReviewedBudget]

def ProtocolFact.ofText (text : String) : Option ProtocolFact :=
  all.find? fun fact => fact.text = text

/-- A comparison of two numbers. -/
inductive ComparisonOperator where
  | lessThan
  | lessThanOrEqual
  | equal
  | greaterThanOrEqual
  | greaterThan
deriving DecidableEq, Repr

def ComparisonOperator.text : ComparisonOperator → String
  | lessThan => "LESS_THAN"
  | lessThanOrEqual => "LESS_THAN_OR_EQUAL"
  | equal => "EQUAL"
  | greaterThanOrEqual => "GREATER_THAN_OR_EQUAL"
  | greaterThan => "GREATER_THAN"

/-- The comparisons in the order of their declaration. -/
def ComparisonOperator.all : List ComparisonOperator :=
  [lessThan, lessThanOrEqual, equal, greaterThanOrEqual, greaterThan]

def ComparisonOperator.ofText (text : String) : Option ComparisonOperator :=
  all.find? fun operator => operator.text = text

/-- Whether all predicates of a rule have to match, or any. -/
inductive RuleMatchMode where
  | all
  | any
deriving DecidableEq, Repr

def RuleMatchMode.text : RuleMatchMode → String
  | all => "ALL"
  | any => "ANY"

def RuleMatchMode.ofText : String → Option RuleMatchMode
  | "ALL" => some all
  | "ANY" => some any
  | _ => none

/-! ## Rules -/

/-- What stands on the right of a comparison: a metric or a constant. -/
inductive ProtocolOperand (δ : Type) where
  | metric (metric : ProtocolMetric)
  | constant (value : δ)
deriving DecidableEq

/-- A predicate of a rule: a comparison of a metric, or a fact that is expected. -/
inductive ProtocolPredicate (δ : Type) where
  | numeric (left : ProtocolMetric) (operator : ComparisonOperator) (right : ProtocolOperand δ)
  | fact (fact : ProtocolFact) (expected : Bool)
deriving DecidableEq

structure CompiledMachineRule (δ : Type) where
  sourceRuleHash : String
  mode : RuleMatchMode
  predicates : List (ProtocolPredicate δ)
deriving DecidableEq

structure CompiledProtocolRules (δ : Type) where
  entryRule : CompiledMachineRule δ
  noTradeRule : CompiledMachineRule δ
  profitExitRule : CompiledMachineRule δ
  lossExitRule : CompiledMachineRule δ
  timeExitRule : CompiledMachineRule δ
  invalidationRules : List (CompiledMachineRule δ)
deriving DecidableEq

/-! ## Definitions -/

structure ProtocolSchedule where
  eventSession : Calendar.Date
  preEventSession : Calendar.Date
  reactionSession : Calendar.Date
  signalSession : Calendar.Date
  dailyStartSession : Calendar.Date
  evidenceWindowStart : Int
  evidenceWindowEnd : Int
  entryWindowStart : Int
  decisionBoundary : Int
  entryWindowEnd : Int
deriving DecidableEq

structure DebitVerticalSelection (δ : Type) where
  minimumExpiry : Calendar.Date
  maximumExpiry : Calendar.Date
  minimumDte : Int
  targetDte : Int
  maximumDte : Int
  minimumStrike : δ
  maximumStrike : δ
  widthDollars : δ
  quantity : Int
  maximumDebitPerShare : δ
  maximumLossDollars : δ
  maximumContractsConsidered : Int
deriving DecidableEq

/-- The quality that quotes must have. -/
structure ProtocolMarketQuality (δ : Type) where
  maximumUnderlyingAgeSeconds : Int
  maximumOptionQuoteAgeSeconds : Int
  maximumLegQuoteSkewSeconds : Int
  maximumRelativeSpreadPercent : δ
  minimumLegBidSize : Int
  minimumLegAskSize : Int
deriving DecidableEq

structure ReviewedProtocolDefinition (δ : Type) where
  opportunityKey : String
  definitionVersion : Int
  benchmarkSymbol : String
  allowedEventCodes : List String
  thesisCode : String
  invalidationCodes : List String
  schedule : ProtocolSchedule
  selection : DebitVerticalSelection δ
  marketQuality : ProtocolMarketQuality δ
  maximumAccountRiskPercent : Option δ
deriving DecidableEq

structure StrategyRiskBudget (δ : Type) where
  maxLossDollars : Option δ
  maxAccountPercent : Option δ
deriving DecidableEq

/-- The fields that say the same in every protocol. -/
structure ProtocolConstants where
  reviewState : String
  compileStatus : String
  armState : String
  automationState : String
  executionEligible : Bool
  paperTradingOnly : Bool
  optionsRequired : Bool
  definedRiskRequired : Bool
  recipe : String
  legCount : Int
  netPremium : String
deriving DecidableEq

/-- What they say. -/
def ProtocolConstants.standard : ProtocolConstants where
  reviewState := "REVIEWED"
  compileStatus := "COMPILABLE"
  armState := "NOT_ARMED"
  automationState := "OFF"
  executionEligible := false
  paperTradingOnly := true
  optionsRequired := true
  definedRiskRequired := true
  recipe := "TWO_LEG_DEBIT_VERTICAL"
  legCount := 2
  netPremium := "DEBIT"

structure ProtocolMaterial (δ : Type) where
  constants : ProtocolConstants
  symbol : String
  direction : StrategyDirection
  structure_ : CuratedStructure
  riskBudget : StrategyRiskBudget δ
  definition : ReviewedProtocolDefinition δ
  rules : CompiledProtocolRules δ
  mandatorySafetyFacts : List ProtocolFact
  sourceHash : String
  compilerHash : String
  definitionHash : String
deriving DecidableEq

structure CompiledProtocolOf (δ : Type) extends ProtocolMaterial δ where
  protocolHash : String
deriving DecidableEq

abbrev CompiledStrategyProtocol := CompiledProtocolOf Decimal

/-! ## Changing the numbers -/

section

variable {δ ε : Type} (f : δ → ε)

/-- An operand with its number changed. -/
def ProtocolOperand.map : ProtocolOperand δ → ProtocolOperand ε
  | .metric read => .metric read
  | .constant amount => .constant (f amount)

/-- A predicate with its numbers changed. -/
def ProtocolPredicate.map : ProtocolPredicate δ → ProtocolPredicate ε
  | .numeric left operator right => .numeric left operator (right.map f)
  | .fact read expected => .fact read expected

/-- A rule with its numbers changed. -/
def CompiledMachineRule.map (rule : CompiledMachineRule δ) : CompiledMachineRule ε where
  sourceRuleHash := rule.sourceRuleHash
  mode := rule.mode
  predicates := rule.predicates.map (ProtocolPredicate.map f)

/-- Rules with their numbers changed. -/
def CompiledProtocolRules.map (rules : CompiledProtocolRules δ) : CompiledProtocolRules ε where
  entryRule := rules.entryRule.map f
  noTradeRule := rules.noTradeRule.map f
  profitExitRule := rules.profitExitRule.map f
  lossExitRule := rules.lossExitRule.map f
  timeExitRule := rules.timeExitRule.map f
  invalidationRules := rules.invalidationRules.map (CompiledMachineRule.map f)

/-- A selection with its numbers changed. -/
def DebitVerticalSelection.map (selection : DebitVerticalSelection δ) :
    DebitVerticalSelection ε where
  minimumExpiry := selection.minimumExpiry
  maximumExpiry := selection.maximumExpiry
  minimumDte := selection.minimumDte
  targetDte := selection.targetDte
  maximumDte := selection.maximumDte
  minimumStrike := f selection.minimumStrike
  maximumStrike := f selection.maximumStrike
  widthDollars := f selection.widthDollars
  quantity := selection.quantity
  maximumDebitPerShare := f selection.maximumDebitPerShare
  maximumLossDollars := f selection.maximumLossDollars
  maximumContractsConsidered := selection.maximumContractsConsidered

/-- A quality with its number changed. -/
def ProtocolMarketQuality.map (quality : ProtocolMarketQuality δ) : ProtocolMarketQuality ε where
  maximumUnderlyingAgeSeconds := quality.maximumUnderlyingAgeSeconds
  maximumOptionQuoteAgeSeconds := quality.maximumOptionQuoteAgeSeconds
  maximumLegQuoteSkewSeconds := quality.maximumLegQuoteSkewSeconds
  maximumRelativeSpreadPercent := f quality.maximumRelativeSpreadPercent
  minimumLegBidSize := quality.minimumLegBidSize
  minimumLegAskSize := quality.minimumLegAskSize

/-- A definition with its numbers changed. -/
def ReviewedProtocolDefinition.map (definition : ReviewedProtocolDefinition δ) :
    ReviewedProtocolDefinition ε where
  opportunityKey := definition.opportunityKey
  definitionVersion := definition.definitionVersion
  benchmarkSymbol := definition.benchmarkSymbol
  allowedEventCodes := definition.allowedEventCodes
  thesisCode := definition.thesisCode
  invalidationCodes := definition.invalidationCodes
  schedule := definition.schedule
  selection := definition.selection.map f
  marketQuality := definition.marketQuality.map f
  maximumAccountRiskPercent := definition.maximumAccountRiskPercent.map f

/-- A risk budget with its numbers changed. -/
def StrategyRiskBudget.map (budget : StrategyRiskBudget δ) : StrategyRiskBudget ε where
  maxLossDollars := budget.maxLossDollars.map f
  maxAccountPercent := budget.maxAccountPercent.map f

/-- The material of a protocol with its numbers changed. -/
def ProtocolMaterial.map (material : ProtocolMaterial δ) : ProtocolMaterial ε where
  constants := material.constants
  symbol := material.symbol
  direction := material.direction
  structure_ := material.structure_
  riskBudget := material.riskBudget.map f
  definition := material.definition.map f
  rules := material.rules.map f
  mandatorySafetyFacts := material.mandatorySafetyFacts
  sourceHash := material.sourceHash
  compilerHash := material.compilerHash
  definitionHash := material.definitionHash

/-- A protocol with its numbers changed. -/
def CompiledProtocolOf.map (protocol : CompiledProtocolOf δ) : CompiledProtocolOf ε where
  toProtocolMaterial := protocol.toProtocolMaterial.map f
  protocolHash := protocol.protocolHash

end

/-! ## Valid fields -/

/-- A decimal has at most this many digits in front of the point, and behind it. -/
def FitsDigits (whole places : Nat) (d : Decimal) : Prop :=
  (d.value * 10 ^ places).den = 1 ∧ |d.value| < 10 ^ whole

instance (whole places : Nat) (d : Decimal) : Decidable (FitsDigits whole places d) :=
  inferInstanceAs (Decidable (_ ∧ _))

/-- A positive amount of money. -/
def IsMoney (d : Decimal) : Prop :=
  FitsDigits 12 6 d ∧ Decimal.ofInt 0 < d

instance (d : Decimal) : Decidable (IsMoney d) :=
  inferInstanceAs (Decidable (_ ∧ _))

/-- A positive percentage up to a hundred. -/
def IsPercent (d : Decimal) : Prop :=
  FitsDigits 9 9 d ∧ Decimal.ofInt 0 < d ∧ d ≤ Decimal.ofInt 100

instance (d : Decimal) : Decidable (IsPercent d) :=
  inferInstanceAs (Decidable (_ ∧ _))

/-- A number that is compared exactly. -/
def IsExactDecimal (d : Decimal) : Prop :=
  FitsDigits 12 9 d

instance (d : Decimal) : Decidable (IsExactDecimal d) :=
  inferInstanceAs (Decidable (FitsDigits 12 9 d))

def isCapital (c : Char) : Bool :=
  decide ('A'.toNat ≤ c.toNat ∧ c.toNat ≤ 'Z'.toNat)

/-- A text of one capital letter and up to so many letters of a kind. -/
def isCoded (later : Char → Bool) (most : Nat) (text : String) : Bool :=
  match text.toList with
  | [] => false
  | first :: rest => isCapital first && decide (rest.length ≤ most) && rest.all later

/-- A code: capital letters, digits and underscores. -/
def isCode (text : String) : Bool :=
  isCoded (fun c => isCapital c || Decimal.isDigit c || c == '_') 63 text

def isBenchmark (text : String) : Bool :=
  isCoded (fun c => isCapital c || Decimal.isDigit c || c == '.' || c == '-') 9 text

/-- The symbol of an underlying: one to six capital letters. -/
def isSymbol (text : String) : Bool :=
  isCoded isCapital 5 text

/-- Codes that are between one and twelve and distinct. -/
def areCodes (codes : List String) : Bool :=
  decide (1 ≤ codes.length ∧ codes.length ≤ 12 ∧ codes.Nodup) && codes.all isCode

def dateAt (instant : Int) : Calendar.Date :=
  Calendar.dateOfDay (instant.toNat / Calendar.microsPerDay)

/-- The checks of a schedule: its sessions and windows are in order, and the boundary of the
decision is a five-minute mark of the signal session. -/
def ProtocolSchedule.Valid (schedule : ProtocolSchedule) : Prop :=
  (schedule.eventSession.isValid = true ∧ schedule.preEventSession.isValid = true ∧
    schedule.reactionSession.isValid = true ∧ schedule.signalSession.isValid = true ∧
    schedule.dailyStartSession.isValid = true) ∧
  (Calendar.InRange schedule.evidenceWindowStart ∧ Calendar.InRange schedule.evidenceWindowEnd ∧
    Calendar.InRange schedule.entryWindowStart ∧ Calendar.InRange schedule.decisionBoundary ∧
    Calendar.InRange schedule.entryWindowEnd) ∧
  (Calendar.dayOfDate schedule.dailyStartSession ≤ Calendar.dayOfDate schedule.preEventSession ∧
    Calendar.dayOfDate schedule.preEventSession ≤ Calendar.dayOfDate schedule.eventSession ∧
    Calendar.dayOfDate schedule.eventSession ≤ Calendar.dayOfDate schedule.reactionSession ∧
    Calendar.dayOfDate schedule.reactionSession ≤ Calendar.dayOfDate schedule.signalSession) ∧
  schedule.evidenceWindowStart < schedule.evidenceWindowEnd ∧
  schedule.evidenceWindowEnd ≤ schedule.decisionBoundary ∧
  (schedule.entryWindowStart ≤ schedule.decisionBoundary ∧
    schedule.decisionBoundary < schedule.entryWindowEnd) ∧
  (schedule.signalSession = dateAt schedule.decisionBoundary ∧
    dateAt schedule.entryWindowStart = schedule.signalSession ∧
    dateAt schedule.entryWindowEnd = schedule.signalSession ∧
    schedule.decisionBoundary / 1000000 % 60 = 0 ∧ schedule.decisionBoundary % 1000000 = 0 ∧
    schedule.decisionBoundary / 60000000 % 60 % 5 = 0)

instance (schedule : ProtocolSchedule) : Decidable schedule.Valid :=
  inferInstanceAs (Decidable (_ ∧ _))

/-- The checks of a selection: its windows are increasing, its debit is below its width, and its
loss is that of the debit. -/
def DebitVerticalSelection.Valid (selection : DebitVerticalSelection Decimal) : Prop :=
  (selection.minimumExpiry.isValid = true ∧ selection.maximumExpiry.isValid = true) ∧
  ((1 ≤ selection.minimumDte ∧ selection.minimumDte ≤ 730) ∧
    (1 ≤ selection.targetDte ∧ selection.targetDte ≤ 730) ∧
    (1 ≤ selection.maximumDte ∧ selection.maximumDte ≤ 730)) ∧
  (IsMoney selection.minimumStrike ∧ IsMoney selection.maximumStrike ∧
    IsMoney selection.widthDollars ∧ IsMoney selection.maximumDebitPerShare ∧
    IsMoney selection.maximumLossDollars) ∧
  ((1 ≤ selection.quantity ∧ selection.quantity ≤ 100) ∧
    (1 ≤ selection.maximumContractsConsidered ∧ selection.maximumContractsConsidered ≤ 128)) ∧
  Calendar.dayOfDate selection.minimumExpiry ≤ Calendar.dayOfDate selection.maximumExpiry ∧
  Calendar.dayOfDate selection.maximumExpiry ≤ Calendar.dayOfDate selection.minimumExpiry + 45 ∧
  (selection.minimumDte ≤ selection.targetDte ∧ selection.targetDte ≤ selection.maximumDte) ∧
  selection.minimumStrike < selection.maximumStrike ∧
  selection.maximumStrike - selection.minimumStrike ≤ Decimal.ofInt 1000 ∧
  selection.maximumDebitPerShare < selection.widthDollars ∧
  (selection.maximumLossDollars ==
    selection.maximumDebitPerShare * .ofInt selection.quantity * .ofInt 100) = true

instance (selection : DebitVerticalSelection Decimal) : Decidable selection.Valid :=
  inferInstanceAs (Decidable (_ ∧ _))

/-- The checks of a quality. -/
def ProtocolMarketQuality.Valid (quality : ProtocolMarketQuality Decimal) : Prop :=
  (1 ≤ quality.maximumUnderlyingAgeSeconds ∧ quality.maximumUnderlyingAgeSeconds ≤ 3600) ∧
  (1 ≤ quality.maximumOptionQuoteAgeSeconds ∧ quality.maximumOptionQuoteAgeSeconds ≤ 120) ∧
  (1 ≤ quality.maximumLegQuoteSkewSeconds ∧ quality.maximumLegQuoteSkewSeconds ≤ 30) ∧
  IsPercent quality.maximumRelativeSpreadPercent ∧
  (1 ≤ quality.minimumLegBidSize ∧ quality.minimumLegBidSize ≤ 1000000) ∧
  (1 ≤ quality.minimumLegAskSize ∧ quality.minimumLegAskSize ≤ 1000000)

instance (quality : ProtocolMarketQuality Decimal) : Decidable quality.Valid :=
  inferInstanceAs (Decidable (_ ∧ _))

/-- The checks of a definition. -/
def ReviewedProtocolDefinition.Valid (definition : ReviewedProtocolDefinition Decimal) : Prop :=
  isCode definition.opportunityKey = true ∧
  (1 ≤ definition.definitionVersion ∧ definition.definitionVersion ≤ 1000000) ∧
  isBenchmark definition.benchmarkSymbol = true ∧
  areCodes definition.allowedEventCodes = true ∧
  isCode definition.thesisCode = true ∧
  areCodes definition.invalidationCodes = true ∧
  definition.schedule.Valid ∧ definition.selection.Valid ∧ definition.marketQuality.Valid ∧
  ∀ percent ∈ definition.maximumAccountRiskPercent, IsPercent percent

instance (definition : ReviewedProtocolDefinition Decimal) : Decidable definition.Valid :=
  inferInstanceAs (Decidable (_ ∧ _))

/-- The checks of a risk budget: one of its limits is there. -/
def StrategyRiskBudget.Valid (budget : StrategyRiskBudget Decimal) : Prop :=
  (∀ dollars ∈ budget.maxLossDollars, IsMoney dollars) ∧
  (∀ percent ∈ budget.maxAccountPercent, IsPercent percent) ∧
  (budget.maxLossDollars.isSome = true ∨ budget.maxAccountPercent.isSome = true)

instance (budget : StrategyRiskBudget Decimal) : Decidable budget.Valid :=
  inferInstanceAs (Decidable (_ ∧ _))

/-- The check of a predicate: its constant is an exact number. -/
def ProtocolPredicate.Valid : ProtocolPredicate Decimal → Prop
  | .numeric _ _ (.constant value) => IsExactDecimal value
  | .numeric _ _ (.metric _) => True
  | .fact _ _ => True

instance (predicate : ProtocolPredicate Decimal) : Decidable predicate.Valid :=
  match predicate with
  | .numeric _ _ (.constant value) => inferInstanceAs (Decidable (IsExactDecimal value))
  | .numeric _ _ (.metric _) => inferInstanceAs (Decidable True)
  | .fact _ _ => inferInstanceAs (Decidable True)

/-- The checks of a rule: it has one to twelve predicates. -/
def CompiledMachineRule.Valid (rule : CompiledMachineRule Decimal) : Prop :=
  isHash rule.sourceRuleHash = true ∧
  (1 ≤ rule.predicates.length ∧ rule.predicates.length ≤ 12) ∧
  ∀ predicate ∈ rule.predicates, predicate.Valid

instance (rule : CompiledMachineRule Decimal) : Decidable rule.Valid :=
  inferInstanceAs (Decidable (_ ∧ _))

/-- The rules one after another. -/
def CompiledProtocolRules.rules {δ : Type} (rules : CompiledProtocolRules δ) :
    List (CompiledMachineRule δ) :=
  rules.entryRule :: rules.noTradeRule :: rules.profitExitRule :: rules.lossExitRule ::
    rules.timeExitRule :: rules.invalidationRules

/-- The checks of the rules: there are one to twelve rules of invalidation. -/
def CompiledProtocolRules.Valid (rules : CompiledProtocolRules Decimal) : Prop :=
  (∀ rule ∈ rules.rules, rule.Valid) ∧
  (1 ≤ rules.invalidationRules.length ∧ rules.invalidationRules.length ≤ 12)

instance (rules : CompiledProtocolRules Decimal) : Decidable rules.Valid :=
  inferInstanceAs (Decidable (_ ∧ _))

def CompiledProtocolOf.Valid (protocol : CompiledStrategyProtocol) : Prop :=
  protocol.constants = .standard ∧
  isSymbol protocol.symbol = true ∧
  protocol.riskBudget.Valid ∧ protocol.definition.Valid ∧ protocol.rules.Valid ∧
  isHash protocol.sourceHash = true ∧ isHash protocol.compilerHash = true ∧
  isHash protocol.definitionHash = true ∧ isHash protocol.protocolHash = true

instance (protocol : CompiledStrategyProtocol) : Decidable protocol.Valid :=
  inferInstanceAs (Decidable (_ ∧ _))

end AlphaDecay.StrategyBriefs
