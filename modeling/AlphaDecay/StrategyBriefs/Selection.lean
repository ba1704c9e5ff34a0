import AlphaDecay.Alpaca.SnapshotRequest
import AlphaDecay.Domain.OptionContractSymbol
import AlphaDecay.Foundation.LeastItem
import AlphaDecay.StrategyBriefs.Observations

/-!
# Selection of a compiled candidate

The vertical candidate of a compiled protocol is selected for a tick that found an entry. The
options of a snapshot are paired, the pairs of the structure and within the bounds of the protocol
are kept, and the first in rank of those that the account affords is selected, unless another one
shares its rank.
-/

namespace AlphaDecay.StrategyBriefs

open Foundation Policy
open Selection (OpportunityMarketSnapshot OpportunityOption OpportunityAccountBook
  CandidateSelectionAuthority laterPairs maximum optionLeg compareDecimal)

/-! ## Values -/

/-- Why a selection came out as it did. -/
inductive CompiledCandidateReason where
  | selected
  | noEligibleCandidate
  | riskAuthorityInsufficient
  | unresolvedTie
deriving DecidableEq, Repr

/-- What a candidate was selected by. -/
structure CompiledSelectionBasis where
  order : List String
  targetDteDistance : Int
  worstLegRelativeSpreadPercent : Decimal
  quoteSkewSeconds : Decimal
  debitPerShare : Decimal
  boughtStrike : Decimal
  soldStrike : Decimal
  boughtSymbol : String
  soldSymbol : String
deriving DecidableEq, Repr

structure CompiledCandidateSelection where
  protocolHash : String
  protocolSourceHash : String
  tickProtocolHash : String
  snapshotHash : String
  accountFingerprint : String
  reason : CompiledCandidateReason
  candidate : Option VerticalCandidate
  selectionBasis : Option CompiledSelectionBasis
  legSourceHashes : List String
deriving DecidableEq, Repr

structure EligibleCandidate where
  candidate : VerticalCandidate
  basis : CompiledSelectionBasis
  legHashes : List String

/-- What a rank is made of, from the first to the last. -/
def selectionOrder : List String :=
  ["TARGET_DTE_DISTANCE", "WORST_LEG_RELATIVE_SPREAD_PERCENT", "QUOTE_SKEW_SECONDS",
    "DEBIT_PER_SHARE", "BOUGHT_STRIKE", "SOLD_STRIKE", "BOUGHT_SYMBOL", "SOLD_SYMBOL"]

def EligibleCandidate.rankOrder (a b : EligibleCandidate) : Ordering :=
  (compare a.basis.targetDteDistance b.basis.targetDteDistance).then <|
  (compareDecimal a.basis.worstLegRelativeSpreadPercent
    b.basis.worstLegRelativeSpreadPercent).then <|
  (compareDecimal a.basis.quoteSkewSeconds b.basis.quoteSkewSeconds).then <|
  (compareDecimal a.basis.debitPerShare b.basis.debitPerShare).then <|
  (compareDecimal a.basis.boughtStrike b.basis.boughtStrike).then <|
  (compareDecimal a.basis.soldStrike b.basis.soldStrike).then <|
  (compare a.basis.boughtSymbol b.basis.boughtSymbol).then <|
  compare a.basis.soldSymbol b.basis.soldSymbol

/-! ## Checks -/

def selectionBlockedIf (condition : Bool) (code : String) : Except Failure Unit :=
  raiseIf condition (.blocked code)

def heldPositions (book : OpportunityAccountBook) : List Json :=
  match book.positions.field "positions" with
  | some (.array items) => items
  | _ => []

/-- The tick found an entry of the protocol without a position. -/
def TickBound (protocol : CompiledStrategyProtocol) (tick : CompiledExperimentTick) : Prop :=
  tick.protocolHash = protocol.protocolHash
  ∧ tick.protocolSourceHash = protocol.sourceHash
  ∧ tick.positionPhase = .flat
  ∧ tick.decision.classification = .entryCandidate

instance (protocol : CompiledStrategyProtocol) (tick : CompiledExperimentTick) :
    Decidable (TickBound protocol tick) :=
  inferInstanceAs (Decidable (_ ∧ _))

/-- The snapshot is that of the tick, at the boundary and in the entry window of the protocol. -/
def SnapshotBound (protocol : CompiledStrategyProtocol) (tick : CompiledExperimentTick)
    (snapshot : OpportunityMarketSnapshot) : Prop :=
  some snapshot.trustedAt = tick.observedAt
  ∧ snapshot.session.sessionDate = tick.sessionDate
  ∧ snapshot.underlyingBar.symbol = protocol.symbol
  ∧ snapshot.underlyingBar.completedAt = protocol.definition.schedule.decisionBoundary
  ∧ snapshot.benchmarkBar.symbol = protocol.definition.benchmarkSymbol
  ∧ snapshot.benchmarkBar.completedAt = protocol.definition.schedule.decisionBoundary
  ∧ snapshot.session.marketOpen = true
  ∧ protocol.definition.schedule.entryWindowStart ≤ snapshot.trustedAt
  ∧ snapshot.trustedAt < protocol.definition.schedule.entryWindowEnd

instance (protocol : CompiledStrategyProtocol) (tick : CompiledExperimentTick)
    (snapshot : OpportunityMarketSnapshot) : Decidable (SnapshotBound protocol tick snapshot) :=
  inferInstanceAs (Decidable (_ ∧ _))

/-- The account is a flat paper account, and the authority is that of the snapshot. -/
def AuthorityBound (snapshot : OpportunityMarketSnapshot)
    (authority : CandidateSelectionAuthority) : Prop :=
  let account := snapshot.accountBook.account
  account.role ≠ .replay
  ∧ account.paper = true
  ∧ account.baselineStatus = .complete
  ∧ (heldPositions snapshot.accountBook).isEmpty = true
  ∧ snapshot.accountBook.openOrders.isEmpty = true
  ∧ authority.snapshotRequestHash = snapshot.requestHash
  ∧ authority.snapshotSourceHash = snapshot.sourceHash
  ∧ authority.accountFingerprint = snapshot.accountBook.accountFingerprint
  ∧ (authority.observedEquity == account.equity) = true
  ∧ (authority.observedBuyingPower == account.buyingPower) = true
  ∧ authority.availableBuyingPower ≤ account.buyingPower
  ∧ Decimal.ofInt 0 ≤ authority.observedEquity
  ∧ Decimal.ofInt 0 ≤ authority.observedBuyingPower
  ∧ Decimal.ofInt 0 ≤ authority.availableRisk
  ∧ Decimal.ofInt 0 ≤ authority.availableBuyingPower
  ∧ authority.greekUnitConvention = .alpacaGopriceoptionsRawV1
  ∧ isHash authority.greekUnitEvidenceHash = true

instance (snapshot : OpportunityMarketSnapshot) (authority : CandidateSelectionAuthority) :
    Decidable (AuthorityBound snapshot authority) :=
  inferInstanceAs (Decidable (_ ∧ _))

/-- The request whose answer the snapshot has to be. -/
def compiledSnapshotRequest (protocol : CompiledStrategyProtocol)
    (snapshot : OpportunityMarketSnapshot) (authority : CandidateSelectionAuthority) :
    Alpaca.OpportunitySnapshotRequest where
  expectedAccountFingerprint := authority.accountFingerprint
  underlying := protocol.symbol
  benchmark := protocol.definition.benchmarkSymbol
  decisionBoundary := protocol.definition.schedule.decisionBoundary
  minimumExpiry := protocol.definition.selection.minimumExpiry
  maximumExpiry := protocol.definition.selection.maximumExpiry
  minimumStrike := protocol.definition.selection.minimumStrike
  maximumStrike := protocol.definition.selection.maximumStrike
  accountRole := snapshot.accountBook.account.role
  maximumContracts := protocol.definition.selection.maximumContractsConsidered
  maximumQuoteAge := Calendar.seconds protocol.definition.marketQuality.maximumOptionQuoteAgeSeconds
  maximumQuoteSkew := Calendar.seconds protocol.definition.marketQuality.maximumLegQuoteSkewSeconds

section Hashing

variable [Digest]

def SnapshotHashed (request : Alpaca.OpportunitySnapshotRequest)
    (snapshot : OpportunityMarketSnapshot) : Prop :=
  snapshot.requestHash = Digest.authorityHash request.material
  ∧ snapshot.sourceHash = Digest.authorityHash snapshot.material
  ∧ snapshot.accountBook.sourceHash = Digest.authorityHash snapshot.accountBook.material
  ∧ snapshot.session.sourceHash = Digest.authorityHash snapshot.session.material
  ∧ snapshot.underlyingBar.sourceHash = Digest.authorityHash snapshot.underlyingBar.material
  ∧ snapshot.benchmarkBar.sourceHash = Digest.authorityHash snapshot.benchmarkBar.material
  ∧ ∀ option ∈ snapshot.options, option.sourceHash = Digest.authorityHash option.material

instance (request : Alpaca.OpportunitySnapshotRequest) (snapshot : OpportunityMarketSnapshot) :
    Decidable (SnapshotHashed request snapshot) :=
  inferInstanceAs (Decidable (_ ∧ _))

/-- The hashes of a snapshot are those of the request of the protocol and of its parts. -/
def validateSnapshotHashes (protocol : CompiledStrategyProtocol)
    (snapshot : OpportunityMarketSnapshot) (authority : CandidateSelectionAuthority) :
    Except Failure Unit := do
  let request := compiledSnapshotRequest protocol snapshot authority
  request.postInit
  selectionBlockedIf (!decide (SnapshotHashed request snapshot))
    "COMPILED_SELECTION_SNAPSHOT_INVALID"

/-- The checks of what a candidate is selected from. -/
def validateInputs (protocol : CompiledStrategyProtocol) (tick : CompiledExperimentTick)
    (snapshot : OpportunityMarketSnapshot) (authority : CandidateSelectionAuthority) :
    Except Failure Unit := do
  selectionBlockedIf (!verifyCompiledProtocol protocol) "COMPILED_SELECTION_PROTOCOL_INVALID"
  selectionBlockedIf (!decide (TickBound protocol tick)) "COMPILED_SELECTION_TICK_INVALID"
  selectionBlockedIf (!decide (SnapshotBound protocol tick snapshot))
    "COMPILED_SELECTION_BINDING_MISMATCH"
  selectionBlockedIf (decide (protocol.definition.selection.maximumContractsConsidered <
    snapshot.options.length)) "COMPILED_SELECTION_CONTRACT_CAP_EXCEEDED"
  selectionBlockedIf (!decide (AuthorityBound snapshot authority))
    "COMPILED_SELECTION_ACCOUNT_INVALID"
  validateSnapshotHashes protocol snapshot authority

end Hashing

/-! ## Pairs -/

/-- The bought and the sold option of a pair with their strategy, if it has the structure of the
protocol. -/
def compiledStructure (protocol : CompiledStrategyProtocol) (first second : OpportunityOption) :
    Option (OpportunityOption × OpportunityOption × VerticalStrategy) :=
  if first.underlying ≠ second.underlying ∨ first.expiry ≠ second.expiry ∨
      first.right ≠ second.right ∨ (first.strike == second.strike) = true then
    none
  else
    let lower := if second.strike < first.strike then second else first
    let higher := if second.strike < first.strike then first else second
    if protocol.structure_ = .bullCallDebitSpread ∧ first.right = "C" then
      some (lower, higher, .bullCallDebit)
    else if protocol.structure_ = .bearPutDebitSpread ∧ first.right = "P" then
      some (higher, lower, .bearPutDebit)
    else none

/-- The spread of an option in percent of its midpoint. -/
def relativeSpreadPercent (option : OpportunityOption) : Except Failure Decimal := do
  let midpoint ← divide (option.ask + option.bid) (.ofInt 2)
  divide (.ofInt 100 * (option.ask - option.bid)) midpoint

/-- The symbol of an option is that of its terms, as a standard contract of the protocol. -/
def symbolMatches (protocol : CompiledStrategyProtocol) (option : OpportunityOption) : Bool :=
  match Domain.parseStandardOptionContractSymbol option.symbol (some protocol.symbol) with
  | .ok parsed => decide (parsed.expirationDate = option.expiry)
      && decide (parsed.right = option.right) && (parsed.strikePrice == option.strike)
  | .error _ => false

/-- The quote of an option is that of its contract, of the sizes and of the age that the protocol
asks. -/
def QuoteEligible (protocol : CompiledStrategyProtocol) (snapshot : OpportunityMarketSnapshot)
    (option : OpportunityOption) : Prop :=
  symbolMatches protocol option = true
  ∧ option.underlying = protocol.symbol
  ∧ (Decimal.ofInt 0 < option.bid ∧ option.bid ≤ option.ask)
  ∧ protocol.definition.marketQuality.minimumLegBidSize ≤ option.bidSize
  ∧ protocol.definition.marketQuality.minimumLegAskSize ≤ option.askSize
  ∧ (option.quoteAt ≤ option.retrievedAt ∧ option.retrievedAt ≤ snapshot.trustedAt)
  ∧ (0 ≤ snapshot.trustedAt - option.quoteAt ∧ snapshot.trustedAt - option.quoteAt ≤
    Calendar.seconds protocol.definition.marketQuality.maximumOptionQuoteAgeSeconds)

instance (protocol : CompiledStrategyProtocol) (snapshot : OpportunityMarketSnapshot)
    (option : OpportunityOption) : Decidable (QuoteEligible protocol snapshot option) :=
  inferInstanceAs (Decidable (_ ∧ _))

/-- Whether an option is eligible: its quote is, and its spread is not too wide. -/
def optionEligible (protocol : CompiledStrategyProtocol) (snapshot : OpportunityMarketSnapshot)
    (option : OpportunityOption) : Except Failure Bool :=
  if QuoteEligible protocol snapshot option then do
    let spread ← relativeSpreadPercent option
    return decide (spread ≤ protocol.definition.marketQuality.maximumRelativeSpreadPercent)
  else .ok false

/-- The days from the boundary of a protocol to the expiry of an option. -/
def compiledDte (protocol : CompiledStrategyProtocol) (option : OpportunityOption) : Int :=
  daysUntil protocol.definition.schedule.decisionBoundary option.expiry

/-- A pair is within the expiries and the strikes of the protocol, and as wide as it asks. -/
def WindowEligible (protocol : CompiledStrategyProtocol) (bought sold : OpportunityOption) :
    Prop :=
  let selection := protocol.definition.selection
  (Calendar.dayOfDate selection.minimumExpiry ≤ Calendar.dayOfDate bought.expiry
    ∧ Calendar.dayOfDate bought.expiry ≤ Calendar.dayOfDate selection.maximumExpiry)
  ∧ (selection.minimumDte ≤ compiledDte protocol bought
    ∧ compiledDte protocol bought ≤ selection.maximumDte)
  ∧ (selection.minimumStrike ≤ bought.strike ∧ bought.strike ≤ selection.maximumStrike)
  ∧ (selection.minimumStrike ≤ sold.strike ∧ sold.strike ≤ selection.maximumStrike)
  ∧ ((bought.strike - sold.strike).abs == selection.widthDollars) = true

instance (protocol : CompiledStrategyProtocol) (bought sold : OpportunityOption) :
    Decidable (WindowEligible protocol bought sold) :=
  inferInstanceAs (Decidable (_ ∧ _))

/-- Whether a pair is eligible: its window is, and both of its quotes are, at times that are close
to each other. -/
def geometryEligible (protocol : CompiledStrategyProtocol) (snapshot : OpportunityMarketSnapshot)
    (bought sold : OpportunityOption) : Except Failure Bool :=
  if WindowEligible protocol bought sold then do
    let boughtEligible ← optionEligible protocol snapshot bought
    if boughtEligible then
      let soldEligible ← optionEligible protocol snapshot sold
      return soldEligible && decide (|bought.quoteAt - sold.quoteAt| ≤
        Calendar.seconds protocol.definition.marketQuality.maximumLegQuoteSkewSeconds)
    else return false
  else .ok false

/-- What one share of a pair costs. -/
def pairDebit (bought sold : OpportunityOption) : Decimal :=
  bought.ask - sold.bid

/-- What a pair can lose in the quantity of the protocol. -/
def totalRisk (protocol : CompiledStrategyProtocol) (bought sold : OpportunityOption) : Decimal :=
  pairDebit bought sold * .ofInt protocol.definition.selection.quantity * .ofInt 100

/-- The debit of a pair is within the budget of the protocol. -/
def WithinBudget (protocol : CompiledStrategyProtocol) (bought sold : OpportunityOption) : Prop :=
  Decimal.ofInt 0 < pairDebit bought sold
  ∧ pairDebit bought sold ≤ protocol.definition.selection.maximumDebitPerShare
  ∧ totalRisk protocol bought sold ≤ protocol.definition.selection.maximumLossDollars

instance (protocol : CompiledStrategyProtocol) (bought sold : OpportunityOption) :
    Decidable (WithinBudget protocol bought sold) :=
  inferInstanceAs (Decidable (_ ∧ _))

/-- Whether the account can take a risk. -/
def riskAvailable (protocol : CompiledStrategyProtocol) (authority : CandidateSelectionAuthority)
    (risk : Decimal) : Except Failure Bool :=
  if risk ≤ authority.availableRisk ∧ risk ≤ authority.availableBuyingPower then
    match protocol.definition.maximumAccountRiskPercent with
    | none => .ok true
    | some limit => do
        let cap ← divide (authority.observedEquity * limit) (.ofInt 100)
        return decide (risk ≤ cap)
  else .ok false

/-- The decimal of the written seconds of a duration: without zeros at its end, but with one digit
behind the point. -/
def secondsDecimal (duration : Nat) : Decimal :=
  let digits := Decimal.stripZeros 5 duration (-6)
  ⟨false, digits.1, digits.2⟩

/-- The score of a spread against the widest that is allowed. -/
def compiledScore (widest worst : Decimal) : Except Failure Int := do
  let quotient ← divide (.ofInt 100 * (widest - worst)) widest
  return quotient.floorInt

/-- A pair that can be selected, with its basis. -/
def eligibleCandidate (protocol : CompiledStrategyProtocol)
    (authority : CandidateSelectionAuthority) (bought sold : OpportunityOption)
    (strategy : VerticalStrategy) : Except Failure EligibleCandidate := do
  let selection := protocol.definition.selection
  let dte := compiledDte protocol bought
  let boughtSpread ← relativeSpreadPercent bought
  let soldSpread ← relativeSpreadPercent sold
  let worstSpread := maximum boughtSpread soldSpread
  let score ← compiledScore protocol.definition.marketQuality.maximumRelativeSpreadPercent
    worstSpread
  return {
    candidate := {
      strategy := strategy
      legs := [optionLeg bought .buyToOpen authority, optionLeg sold .sellToOpen authority]
      quantity := selection.quantity
      dte := dte
      approvedLimit := pairDebit bought sold
      candidateScore := score
      selectionRank := 1
      buyingPowerSufficient := true }
    basis := {
      order := selectionOrder
      targetDteDistance := |dte - selection.targetDte|
      worstLegRelativeSpreadPercent := worstSpread
      quoteSkewSeconds := secondsDecimal (bought.quoteAt - sold.quoteAt).natAbs
      debitPerShare := pairDebit bought sold
      boughtStrike := bought.strike
      soldStrike := sold.strike
      boughtSymbol := bought.symbol
      soldSymbol := sold.symbol }
    legHashes := [bought.sourceHash, sold.sourceHash] }

/-- What becomes of a pair: it is not eligible, the account cannot take its risk, or it can be
selected. -/
inductive CompiledPairOutcome where
  | ineligible
  | unaffordable
  | eligible (item : EligibleCandidate)

/-- What becomes of a bought and a sold option. -/
def orientedPair (protocol : CompiledStrategyProtocol) (snapshot : OpportunityMarketSnapshot)
    (authority : CandidateSelectionAuthority) (bought sold : OpportunityOption)
    (strategy : VerticalStrategy) : Except Failure CompiledPairOutcome := do
  let geometry ← geometryEligible protocol snapshot bought sold
  if geometry = false ∨ ¬ WithinBudget protocol bought sold then return .ineligible
  else
    let available ← riskAvailable protocol authority (totalRisk protocol bought sold)
    if available then
      let item ← eligibleCandidate protocol authority bought sold strategy
      return .eligible item
    else return .unaffordable

/-- What becomes of a pair of options. -/
def compiledPair (protocol : CompiledStrategyProtocol) (snapshot : OpportunityMarketSnapshot)
    (authority : CandidateSelectionAuthority) (pair : OpportunityOption × OpportunityOption) :
    Except Failure CompiledPairOutcome :=
  match compiledStructure protocol pair.1 pair.2 with
  | none => .ok .ineligible
  | some (bought, sold, strategy) =>
      orientedPair protocol snapshot authority bought sold strategy

/-! ## Selection -/

/-- The candidate of an outcome, if it can be selected. -/
def eligibleItem : CompiledPairOutcome → Option EligibleCandidate
  | .eligible item => some item
  | .unaffordable => none
  | .ineligible => none

/-- The candidates that can be selected among the outcomes of pairs. -/
def eligibleItems (outcomes : List CompiledPairOutcome) : List EligibleCandidate :=
  outcomes.filterMap eligibleItem

/-- Whether some pair was eligible. -/
def geometrySeen (outcomes : List CompiledPairOutcome) : Bool :=
  outcomes.any fun
    | .ineligible => false
    | _ => true

def selectionResult (protocol : CompiledStrategyProtocol) (tick : CompiledExperimentTick)
    (snapshot : OpportunityMarketSnapshot) (authority : CandidateSelectionAuthority)
    (reason : CompiledCandidateReason) (chosen : Option EligibleCandidate) :
    CompiledCandidateSelection where
  protocolHash := protocol.protocolHash
  protocolSourceHash := protocol.sourceHash
  tickProtocolHash := tick.protocolHash
  snapshotHash := snapshot.sourceHash
  accountFingerprint := authority.accountFingerprint
  reason := reason
  candidate := chosen.map (·.candidate)
  selectionBasis := chosen.map (·.basis)
  legSourceHashes := (chosen.map (·.legHashes)).getD []

/-- The reason and the candidate that the outcomes of all pairs come to. -/
def chosenOf (outcomes : List CompiledPairOutcome) :
    CompiledCandidateReason × Option EligibleCandidate :=
  match leastOf (fun a b => (a.rankOrder b).isLE) (fun a b => decide (a.rankOrder b = .eq))
      (eligibleItems outcomes) with
  | .none => (if geometrySeen outcomes then .riskAuthorityInsufficient else .noEligibleCandidate,
      none)
  | .tied => (.unresolvedTie, none)
  | .one chosen => (.selected, some chosen)

def selectCompiledVerticalCandidate [Digest] (protocol : CompiledStrategyProtocol)
    (tick : CompiledExperimentTick) (snapshot : OpportunityMarketSnapshot)
    (authority : CandidateSelectionAuthority) : Except Failure CompiledCandidateSelection := do
  validateInputs protocol tick snapshot authority
  let outcomes ← (laterPairs snapshot.options).mapM (compiledPair protocol snapshot authority)
  let chosen := chosenOf outcomes
  return selectionResult protocol tick snapshot authority chosen.1 chosen.2

end AlphaDecay.StrategyBriefs
