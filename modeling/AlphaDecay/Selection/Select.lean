import AlphaDecay.Selection.Snapshot

/-!
# Selection of a vertical candidate

`selectVerticalCandidate` pairs the options of a snapshot, keeps the pairs with the geometry of the
policy or of its structural pilot, sizes each of them by the amounts of its authority, and selects
the first in rank.
-/

namespace AlphaDecay.Selection

open Foundation Policy

/-! ## Values -/

/-- Why a selection came out as it did. -/
inductive SelectionReason where
  | selected
  | inputInvalid
  | snapshotInvalid
  | noEligibleStructure
  | riskAuthorityInsufficient
deriving DecidableEq, Repr

inductive GreekUnitConvention where
  | alpacaGopriceoptionsRawV1
deriving DecidableEq, Repr

structure CandidateSelectionAuthority where
  snapshotRequestHash : String
  snapshotSourceHash : String
  accountFingerprint : String
  observedEquity : Decimal
  observedBuyingPower : Decimal
  availableRisk : Decimal
  availableBuyingPower : Decimal
  greekUnitConvention : GreekUnitConvention
  greekUnitEvidenceHash : String

structure CandidateSelectionResult where
  candidate : Option VerticalCandidate
  reason : SelectionReason

structure RankedCandidate where
  candidate : VerticalCandidate
  riskPerContract : Decimal

/-! ## Checks -/

/-- The amounts and hashes of an authority are in range. -/
def InputsValid (requestedMaximumQuantity : Int) (authority : CandidateSelectionAuthority) : Prop :=
  0 < requestedMaximumQuantity
  ∧ (Decimal.ofInt 0 ≤ authority.observedEquity ∧ Decimal.ofInt 0 ≤ authority.observedBuyingPower
    ∧ Decimal.ofInt 0 ≤ authority.availableRisk
    ∧ Decimal.ofInt 0 ≤ authority.availableBuyingPower)
  ∧ Decimal.ofInt 0 < authority.observedEquity
  ∧ authority.greekUnitConvention = .alpacaGopriceoptionsRawV1
  ∧ [authority.snapshotRequestHash, authority.snapshotSourceHash, authority.accountFingerprint,
    authority.greekUnitEvidenceHash].all isHash = true

instance (requestedMaximumQuantity : Int) (authority : CandidateSelectionAuthority) :
    Decidable (InputsValid requestedMaximumQuantity authority) :=
  inferInstanceAs (Decidable (_ ∧ _))

def AuthorityBound (snapshot : OpportunityMarketSnapshot)
    (authority : CandidateSelectionAuthority) : Prop :=
  authority.snapshotRequestHash = snapshot.requestHash
  ∧ authority.snapshotSourceHash = snapshot.sourceHash
  ∧ authority.accountFingerprint = snapshot.accountBook.accountFingerprint
  ∧ (authority.observedEquity == snapshot.accountBook.account.equity) = true
  ∧ (authority.observedBuyingPower == snapshot.accountBook.account.buyingPower) = true
  ∧ authority.availableBuyingPower ≤ snapshot.accountBook.account.buyingPower

instance (snapshot : OpportunityMarketSnapshot) (authority : CandidateSelectionAuthority) :
    Decidable (AuthorityBound snapshot authority) :=
  inferInstanceAs (Decidable (_ ∧ _))

/-! ## Sizing -/

/-- The amount that the loss of a position may take. -/
def positionCap (policy : OpportunityPolicyFields) (authority : CandidateSelectionAuthority) :
    Decimal :=
  minimum (minimum (minimum policy.maximumPositionLoss
    (authority.observedEquity * policy.maximumEquityRiskFraction)) authority.availableRisk)
    authority.availableBuyingPower

/-- How many contracts are requested, allowed and affordable. -/
def affordableQuantity (policy : OpportunityPolicyFields) (requested : Int)
    (authority : CandidateSelectionAuthority) (riskPerContract : Decimal) :
    Except Failure Int := do
  let quotient ← divide (positionCap policy authority) riskPerContract
  return min (min requested policy.maximumQuantity) quotient.floorInt

def optionLeg (option : OpportunityOption) (intent : PositionIntent)
    (authority : CandidateSelectionAuthority) : OptionLeg where
  instrumentKind := .option
  symbol := option.symbol
  underlying := option.underlying
  right := if option.right = "C" then .call else .put
  strike := option.strike
  expiry := option.expiry
  intent := intent
  ratio := 1
  multiplier := 100
  active := true
  tradable := true
  bid := option.bid
  ask := option.ask
  bidSize := option.bidSize
  askSize := option.askSize
  quoteAt := option.quoteAt
  feed := .indicativeModified
  greeksComplete := true
  greekUnitsVerified := decide (authority.greekUnitConvention = .alpacaGopriceoptionsRawV1)
    && isHash authority.greekUnitEvidenceHash

/-- The larger of two decimals: the first, where they are equal. -/
def maximum (a b : Decimal) : Decimal :=
  if a < b then b else a

/-- The score of a spread against the widest that is allowed. -/
def spreadScore (widest worst : Decimal) : Except Failure Int := do
  let quotient ← divide (.ofInt 100 * (widest - worst)) widest
  return quotient.floorInt

/-- What became of a pair of options: it has no eligible geometry, it cannot be afforded, or it is
ranked. -/
inductive PairOutcome where
  | ineligible
  | unaffordable
  | ranked (item : RankedCandidate)

/-! ## Pairs under a policy -/

/-- The strategy of a pair with its bought and its sold option. -/
def buildStructure (first second : OpportunityOption) (direction : OpportunityDirection) :
    Option (VerticalStrategy × OpportunityOption × OpportunityOption) :=
  if first.underlying ≠ second.underlying ∨ first.right ≠ second.right ∨
      first.expiry ≠ second.expiry ∨ (first.strike == second.strike) = true then
    none
  else
    let lower := if second.strike < first.strike then second else first
    let higher := if second.strike < first.strike then first else second
    match direction with
    | .bullish =>
        if first.right = "C" then some (.bullCallDebit, lower, higher)
        else some (.bullPutCredit, lower, higher)
    | .bearish =>
        if first.right = "P" then some (.bearPutDebit, higher, lower)
        else some (.bearCallCredit, higher, lower)

/-- The limit, the risk of one contract and the score of a pair. -/
structure CandidateTerms where
  approvedLimit : Decimal
  riskPerContract : Decimal
  score : Int

/-- The natural price of a pair: what a debit pays at most, and what a credit brings at least. -/
def naturalPrice (strategy : VerticalStrategy) (bought sold : OpportunityOption) : Decimal :=
  if strategy.isDebit then bought.ask - sold.bid else sold.bid - bought.ask

def contractRisk (strategy : VerticalStrategy) (width natural : Decimal) : Decimal :=
  if strategy.isDebit then natural * .ofInt 100 else (width - natural) * .ofInt 100

/-- Whether a natural price is a fraction of its width that the policy takes. -/
def withinFractions (policy : OpportunityPolicyFields) (strategy : VerticalStrategy)
    (fraction : Decimal) : Bool :=
  if strategy.isDebit then decide (policy.minimumDebitWidthFraction ≤ fraction ∧
    fraction ≤ policy.maximumDebitWidthFraction)
  else decide (policy.minimumCreditWidthFraction ≤ fraction ∧ fraction < Decimal.ofInt 1)

/-- The terms of a pair at its natural price, if its geometry is that of the policy. -/
def candidateTerms (policy : OpportunityPolicyFields) (bought sold : OpportunityOption)
    (strategy : VerticalStrategy) : Except Failure (Option CandidateTerms) :=
  let width := (bought.strike - sold.strike).abs
  let natural := naturalPrice strategy bought sold
  let risk := contractRisk strategy width natural
  if policy.maximumLegQuoteSkew < |bought.quoteAt - sold.quoteAt| then .ok none
  else if natural ≤ Decimal.ofInt 0 ∨ width ≤ Decimal.ofInt 0 then .ok none
  else do
    let fraction ← divide natural width
    if withinFractions policy strategy fraction = false ∨ risk ≤ Decimal.ofInt 0 then return none
    else
      let boughtSpread ← relativeSpread bought
      let soldSpread ← relativeSpread sold
      let score ← spreadScore policy.maximumRelativeSpread (maximum boughtSpread soldSpread)
      return some ⟨natural, risk, score⟩

/-- The candidate of a pair under a policy. -/
def policyCandidate (policy : OpportunityPolicyFields) (authority : CandidateSelectionAuthority)
    (strategy : VerticalStrategy) (bought sold : OpportunityOption) (terms : CandidateTerms)
    (quantity : Int) : VerticalCandidate where
  strategy := strategy
  legs := [optionLeg bought .buyToOpen authority, optionLeg sold .sellToOpen authority]
  quantity := quantity
  dte := daysUntil policy.selectedDecisionBoundary bought.expiry
  approvedLimit := terms.approvedLimit
  candidateScore := terms.score
  selectionRank := 1
  buyingPowerSufficient := true

/-- What becomes of a pair under a policy. -/
def policyPair (policy : OpportunityPolicyFields) (direction : OpportunityDirection)
    (requested : Int) (authority : CandidateSelectionAuthority)
    (pair : OpportunityOption × OpportunityOption) : Except Failure PairOutcome :=
  match buildStructure pair.1 pair.2 direction with
  | none => .ok .ineligible
  | some (strategy, bought, sold) => do
      match ← candidateTerms policy bought sold strategy with
      | none => return .ineligible
      | some terms =>
          if terms.score < policy.minimumCandidateScore then return .ineligible
          else
            let quantity ← affordableQuantity policy requested authority terms.riskPerContract
            if quantity < 1 then return .unaffordable
            else
              let candidate := policyCandidate policy authority strategy bought sold terms quantity
              return .ranked ⟨candidate, terms.riskPerContract⟩

/-! ## Pairs of a structural pilot -/

/-- The limits, the risk of one contract and the score of a pair of a structural pilot. -/
structure PilotTerms where
  initialLimit : Decimal
  maximumLimit : Decimal
  riskPerContract : Decimal
  score : Int

/-- Whether a pair is within the days to expiry, the quote ages and the spreads of a pilot. -/
def pilotQuoted (snapshot : OpportunityMarketSnapshot) (bought sold : OpportunityOption)
    (profile : StructuralBullishPilotProfile) : Except Failure Bool := do
  let dte := daysUntil snapshot.underlyingBar.completedAt bought.expiry
  if ¬ (profile.minimumDte ≤ dte ∧ dte ≤ profile.maximumDte) ∨
      profile.maximumQuoteAge < snapshot.trustedAt - bought.quoteAt ∨
      profile.maximumQuoteAge < snapshot.trustedAt - sold.quoteAt ∨
      profile.maximumQuoteSkew < |bought.quoteAt - sold.quoteAt| then
    return false
  else
    let boughtSpread ← relativeSpread bought
    if profile.maximumRelativeSpread < boughtSpread then return false
    else
      let soldSpread ← relativeSpread sold
      return decide (¬ profile.maximumRelativeSpread < soldSpread)

def centExponent : Int := -2

/-- The terms of a pair of a structural pilot: from the midpoint, up to a whole cent, to the
natural price, down to a whole cent. -/
def structuralPilotTerms (snapshot : OpportunityMarketSnapshot) (bought sold : OpportunityOption)
    (profile : StructuralBullishPilotProfile) : Except Failure (Option PilotTerms) := do
  let quoted ← pilotQuoted snapshot bought sold profile
  if quoted = false then return none
  else
    let natural := bought.ask - sold.bid
    let midpoint ← divide ((bought.bid + bought.ask) - (sold.bid + sold.ask)) (.ofInt 2)
    let initial ← require (midpoint.quantizeCeiling centExponent) .arithmetic
    let highest ← require (natural.quantizeFloor centExponent) .arithmetic
    if initial ≤ Decimal.ofInt 0 ∨ highest < initial ∨ profile.maximumDebit < highest ∨
        profile.width - highest < profile.minimumRewardToRisk * highest then
      return none
    else
      let boughtSpread ← relativeSpread bought
      let soldSpread ← relativeSpread sold
      let score ← spreadScore profile.maximumRelativeSpread (maximum boughtSpread soldSpread)
      return some ⟨initial, highest, highest * .ofInt 100, score⟩

/-- The letter of the right that a structural pilot trades. -/
def pilotRight (profile : StructuralBullishPilotProfile) : String :=
  match profile.direction with
  | .bullish => "C"
  | .bearish => "P"

/-- How far the sold strike of a structural pilot lies above the bought one. -/
def strikeOffset (profile : StructuralBullishPilotProfile) : Decimal :=
  match profile.direction with
  | .bullish => profile.width
  | .bearish => profile.width.neg.round

/-- Whether a pair has the right, the delta, the expiry and the strikes of a structural pilot. -/
def pilotMatches (profile : StructuralBullishPilotProfile) (bought sold : OpportunityOption) :
    Bool :=
  decide (bought.right = pilotRight profile)
    && decide (profile.minimumLongDelta ≤ bought.delta.abs ∧
      bought.delta.abs ≤ profile.maximumLongDelta)
    && decide (sold.right = pilotRight profile) && decide (sold.expiry = bought.expiry)
    && (sold.strike == bought.strike + strikeOffset profile)

def pilotCandidate (policy : OpportunityPolicyFields) (authority : CandidateSelectionAuthority)
    (profile : StructuralBullishPilotProfile) (bought sold : OpportunityOption)
    (terms : PilotTerms) : VerticalCandidate where
  strategy := profile.strategy
  legs := [optionLeg bought .buyToOpen authority, optionLeg sold .sellToOpen authority]
  quantity := policy.maximumQuantity
  dte := daysUntil policy.selectedDecisionBoundary bought.expiry
  approvedLimit := terms.initialLimit
  candidateScore := terms.score
  selectionRank := 1
  buyingPowerSufficient := true
  maximumLimit := some terms.maximumLimit

def pilotPair (snapshot : OpportunityMarketSnapshot) (policy : OpportunityPolicyFields)
    (authority : CandidateSelectionAuthority) (profile : StructuralBullishPilotProfile)
    (pair : OpportunityOption × OpportunityOption) : Except Failure PairOutcome :=
  if pilotMatches profile pair.1 pair.2 = false then .ok .ineligible
  else do
    match ← structuralPilotTerms snapshot pair.1 pair.2 profile with
    | none => return .ineligible
    | some terms =>
        let quantity ←
          affordableQuantity policy policy.maximumQuantity authority terms.riskPerContract
        if quantity ≠ policy.maximumQuantity then return .unaffordable
        else
          let candidate := pilotCandidate policy authority profile pair.1 pair.2 terms
          return .ranked ⟨candidate, terms.riskPerContract⟩

/-! ## Ranking -/

def compareDecimal (a b : Decimal) : Ordering :=
  if a < b then .lt else if b < a then .gt else .eq

def compareDate (a b : Calendar.Date) : Ordering :=
  ((compare a.year b.year).then (compare a.month b.month)).then (compare a.day b.day)

/-- The order of two pairs of legs by their strikes and symbols. -/
def compareLegs (a b : List OptionLeg) : Ordering :=
  match a, b with
  | [bought, sold], [bought', sold'] =>
      ((compareDecimal bought.strike bought'.strike).then
        (compareDecimal sold.strike sold'.strike)).then
        ((compare bought.symbol bought'.symbol).then (compare sold.symbol sold'.symbol))
  | _, _ => .eq

/-- The order of the expiries of two pairs of legs. -/
def compareExpiry (a b : List OptionLeg) : Ordering :=
  match a, b with
  | bought :: _, bought' :: _ => compareDate bought.expiry bought'.expiry
  | _, _ => .eq

/-- The rank of two candidates under a policy. -/
def rankOrder (a b : RankedCandidate) : Ordering :=
  ((compare b.candidate.candidateScore a.candidate.candidateScore).then
    (compareDecimal a.riskPerContract b.riskPerContract)).then
    (((compare a.candidate.strategy.text b.candidate.strategy.text).then
      (compareExpiry a.candidate.legs b.candidate.legs)).then
      (compareLegs a.candidate.legs b.candidate.legs))

/-- The rank of two candidates of a structural pilot. -/
def pilotRankOrder (profile : StructuralBullishPilotProfile) (a b : RankedCandidate) : Ordering :=
  ((compare |a.candidate.dte - profile.targetDte| |b.candidate.dte - profile.targetDte|).then
    (compare b.candidate.candidateScore a.candidate.candidateScore)).then
    (((compareDecimal a.riskPerContract b.riskPerContract).then
      (compare a.candidate.dte b.candidate.dte)).then
      (compareLegs a.candidate.legs b.candidate.legs))

/-- The candidates that are ranked among the outcomes of pairs. -/
def rankedItems (outcomes : List PairOutcome) : List RankedCandidate :=
  outcomes.filterMap fun
    | .ranked item => some item
    | _ => none

/-- Whether some pair had an eligible geometry. -/
def hadEligibleGeometry (outcomes : List PairOutcome) : Bool :=
  outcomes.any fun
    | .ineligible => false
    | _ => true

/-- The result where no candidate is ranked. -/
def unselected (outcomes : List PairOutcome) : CandidateSelectionResult :=
  ⟨none, if hadEligibleGeometry outcomes then .riskAuthorityInsufficient else .noEligibleStructure⟩

/-- The first in rank under a policy, unless two share the first rank. -/
def selectRanked (outcomes : List PairOutcome) : CandidateSelectionResult :=
  match (rankedItems outcomes).mergeSort fun a b => (rankOrder a b).isLE with
  | [] => unselected outcomes
  | [first] => ⟨some first.candidate, .selected⟩
  | first :: second :: _ =>
      if rankOrder first second = .eq then ⟨none, .snapshotInvalid⟩
      else ⟨some first.candidate, .selected⟩

/-- The first in rank of a structural pilot. -/
def selectPilotRanked (profile : StructuralBullishPilotProfile) (outcomes : List PairOutcome) :
    CandidateSelectionResult :=
  match (rankedItems outcomes).mergeSort fun a b => (pilotRankOrder profile a b).isLE with
  | [] => unselected outcomes
  | first :: _ => ⟨some first.candidate, .selected⟩

/-! ## Selection -/

/-- Every option with every one behind it. -/
def laterPairs {α : Type} : List α → List (α × α)
  | [] => []
  | first :: rest => rest.map (Prod.mk first) ++ laterPairs rest

/-- Every option with every option. -/
def allPairs {α : Type} (items : List α) : List (α × α) :=
  items.flatMap fun first => items.map (Prod.mk first)

def selectStructuralPilot (snapshot : OpportunityMarketSnapshot)
    (policy : OpportunityPolicyFields) (authority : CandidateSelectionAuthority)
    (profile : StructuralBullishPilotProfile) : Except Failure CandidateSelectionResult :=
  if policy.underlying ≠ "SPY" then .ok ⟨none, .inputInvalid⟩
  else do
    let outcomes ← (allPairs snapshot.options).mapM (pilotPair snapshot policy authority profile)
    return selectPilotRanked profile outcomes

def selectVerticalCandidate [Digest] (snapshot : OpportunityMarketSnapshot)
    (policy : OpportunityPolicy) (direction : OpportunityDirection)
    (requestedMaximumQuantity : Int) (authority : CandidateSelectionAuthority) :
    Except Failure CandidateSelectionResult := do
  if ¬ InputsValid requestedMaximumQuantity authority then return ⟨none, .inputInvalid⟩
  else
    let profile := structuralPilotProfile policy.opportunityKey
    let valid ← snapshotValid snapshot policy.toOpportunityPolicyFields profile.isNone
    if valid = false then return ⟨none, .snapshotInvalid⟩
    else if ¬ AuthorityBound snapshot authority then return ⟨none, .inputInvalid⟩
    else
      match profile with
      | some profile =>
          selectStructuralPilot snapshot policy.toOpportunityPolicyFields authority profile
      | none => do
          let outcomes ← (laterPairs snapshot.options).mapM
            (policyPair policy.toOpportunityPolicyFields direction requestedMaximumQuantity
              authority)
          return selectRanked outcomes

end AlphaDecay.Selection
