import AlphaDecay.Selection.PairLists
import AlphaDecay.StrategyBriefs.ProtocolLaws
import AlphaDecay.StrategyBriefs.Selection

/-!
# The rules of a compiled selection

What a pair of options has to meet for a compiled protocol, and what an account has to afford, are
stated of a bought and a sold option by themselves. `compiledPair_comes` says that the selector
makes of an unordered pair what the one orientation of it that can have the structure of the
protocol meets.
-/

namespace AlphaDecay.StrategyBriefs

open Foundation Decimal Policy
open Selection (OpportunityMarketSnapshot OpportunityOption CandidateSelectionAuthority laterPairs
  maximum optionLeg compareDecimal comparesBy_decimal)

/-! ## Rules -/

/-- The value of the spread of an option in percent of its midpoint. -/
def spreadValue (option : OpportunityOption) : ℚ :=
  match relativeSpreadPercent option with
  | .ok spread => spread.value
  | .error _ => 0

/-- An option is quoted as a protocol asks: under the symbol of its contract, at a price, in sizes,
at an age and with a spread that are in its bounds. -/
structure QuoteMeets (protocol : CompiledStrategyProtocol) (snapshot : OpportunityMarketSnapshot)
    (option : OpportunityOption) : Prop where
  contract : ∃ parsed,
    Domain.parseStandardOptionContractSymbol option.symbol (some protocol.symbol) = .ok parsed ∧
      parsed.expirationDate = option.expiry ∧ parsed.right = option.right ∧
      parsed.strikePrice.value = option.strike.value
  underlying : option.underlying = protocol.symbol
  bid : 0 < option.bid.value
  ask : option.bid.value ≤ option.ask.value
  bidSize : protocol.definition.marketQuality.minimumLegBidSize ≤ option.bidSize
  askSize : protocol.definition.marketQuality.minimumLegAskSize ≤ option.askSize
  retrieved : option.quoteAt ≤ option.retrievedAt ∧ option.retrievedAt ≤ snapshot.trustedAt
  age : snapshot.trustedAt - option.quoteAt ≤
    Calendar.seconds protocol.definition.marketQuality.maximumOptionQuoteAgeSeconds
  spread : spreadValue option ≤
    protocol.definition.marketQuality.maximumRelativeSpreadPercent.value

structure StructureMeets (protocol : CompiledStrategyProtocol)
    (bought sold : OpportunityOption) : Prop where
  ordered : (protocol.structure_ = .bullCallDebitSpread ∧ bought.right = "C" ∧
      bought.strike.value < sold.strike.value) ∨
    (protocol.structure_ = .bearPutDebitSpread ∧ bought.right = "P" ∧
      sold.strike.value < bought.strike.value)
  right : sold.right = bought.right
  expiry : sold.expiry = bought.expiry

/-- A bought and a sold option are within the window, the width, the quality and the budget of a
protocol. -/
structure BoundsMeet (protocol : CompiledStrategyProtocol) (snapshot : OpportunityMarketSnapshot)
    (bought sold : OpportunityOption) : Prop where
  window : Calendar.dayOfDate protocol.definition.selection.minimumExpiry ≤
      Calendar.dayOfDate bought.expiry ∧
    Calendar.dayOfDate bought.expiry ≤
      Calendar.dayOfDate protocol.definition.selection.maximumExpiry
  dte : protocol.definition.selection.minimumDte ≤ compiledDte protocol bought ∧
    compiledDte protocol bought ≤ protocol.definition.selection.maximumDte
  strikes : ∀ option ∈ [bought, sold],
    protocol.definition.selection.minimumStrike.value ≤ option.strike.value ∧
      option.strike.value ≤ protocol.definition.selection.maximumStrike.value
  width : |bought.strike.value - sold.strike.value| =
    protocol.definition.selection.widthDollars.value
  quoted : ∀ option ∈ [bought, sold], QuoteMeets protocol snapshot option
  skew : |bought.quoteAt - sold.quoteAt| ≤
    Calendar.seconds protocol.definition.marketQuality.maximumLegQuoteSkewSeconds
  debit : 0 < (pairDebit bought sold).value
  debitBudget : (pairDebit bought sold).value ≤
    protocol.definition.selection.maximumDebitPerShare.value
  lossBudget : (totalRisk protocol bought sold).value ≤
    protocol.definition.selection.maximumLossDollars.value

/-- A bought and a sold option meet the rules of a protocol for geometry, quotes and budget. -/
structure Meets (protocol : CompiledStrategyProtocol) (snapshot : OpportunityMarketSnapshot)
    (bought sold : OpportunityOption) : Prop extends
    StructureMeets protocol bought sold, BoundsMeet protocol snapshot bought sold

/-- An account affords what a bought and a sold option can lose. -/
structure Affordable (protocol : CompiledStrategyProtocol)
    (authority : CandidateSelectionAuthority) (bought sold : OpportunityOption) : Prop where
  risk : (totalRisk protocol bought sold).value ≤ authority.availableRisk.value
  buyingPower : (totalRisk protocol bought sold).value ≤ authority.availableBuyingPower.value
  percent : ∀ limit ∈ protocol.definition.maximumAccountRiskPercent,
    (totalRisk protocol bought sold).value ≤ (authority.observedEquity * limit).value / 100

abbrev PairRank := ℤ ×ₗ ℚ ×ₗ ℚ ×ₗ ℚ ×ₗ ℚ ×ₗ ℚ ×ₗ String ×ₗ String

/-- The rank of a bought and a sold option: the distance to the target of days to expiry, the worst
spread, the seconds between the quotes, the debit, the strikes and the symbols. -/
def pairRank (protocol : CompiledStrategyProtocol) (bought sold : OpportunityOption) : PairRank :=
  toLex (|compiledDte protocol bought - protocol.definition.selection.targetDte|,
    toLex (max (spreadValue bought) (spreadValue sold),
    toLex (((bought.quoteAt - sold.quoteAt).natAbs : ℚ) / 10 ^ 6,
    toLex ((pairDebit bought sold).value,
    toLex (bought.strike.value,
    toLex (sold.strike.value,
    toLex (bought.symbol, sold.symbol)))))))

def protocolStrategy (protocol : CompiledStrategyProtocol) : VerticalStrategy :=
  if protocol.structure_ = .bullCallDebitSpread then .bullCallDebit else .bearPutDebit

structure CandidateOf (protocol : CompiledStrategyProtocol)
    (authority : CandidateSelectionAuthority) (bought sold : OpportunityOption)
    (candidate : VerticalCandidate) : Prop where
  legs : candidate.legs =
    [optionLeg bought .buyToOpen authority, optionLeg sold .sellToOpen authority]
  strategy : candidate.strategy = protocolStrategy protocol
  quantity : candidate.quantity = protocol.definition.selection.quantity
  dte : candidate.dte = compiledDte protocol bought
  limit : candidate.approvedLimit = pairDebit bought sold

/-! ## Ranks -/

def EligibleCandidate.rank (item : EligibleCandidate) : PairRank :=
  toLex (item.basis.targetDteDistance,
    toLex (item.basis.worstLegRelativeSpreadPercent.value,
    toLex (item.basis.quoteSkewSeconds.value,
    toLex (item.basis.debitPerShare.value,
    toLex (item.basis.boughtStrike.value,
    toLex (item.basis.soldStrike.value,
    toLex (item.basis.boughtSymbol, item.basis.soldSymbol)))))))

theorem comparesBy_rank (items : List EligibleCandidate) :
    ComparesBy EligibleCandidate.rank EligibleCandidate.rankOrder items :=
  (ComparesBy.of_compare _ _).andThen <| (comparesBy_decimal _ _).andThen <|
    (comparesBy_decimal _ _).andThen <| (comparesBy_decimal _ _).andThen <|
    (comparesBy_decimal _ _).andThen <| (comparesBy_decimal _ _).andThen <|
    (ComparesBy.of_compare _ _).andThen (ComparesBy.of_compare _ _)

/-- The larger of two decimals has the larger value. -/
theorem value_maximum (a b : Decimal) : (maximum a b).value = max a.value b.value := by
  unfold maximum
  split
  · rename_i hlt
    exact (max_eq_right (Decimal.lt_iff_value.mp hlt).le).symm
  · rename_i hnot
    rw [Decimal.lt_iff_value, not_lt] at hnot
    exact (max_eq_left hnot).symm

theorem value_secondsDecimal (duration : Nat) :
    (secondsDecimal duration).value = (duration : ℚ) / 10 ^ 6 := by
  have hmagnitude := stripZeros_magnitude 5 duration (-6)
  rw [value_of_positive rfl]
  show ((stripZeros 5 duration (-6)).1 : ℚ) * (10 : ℚ) ^ (stripZeros 5 duration (-6)).2 = _
  rw [hmagnitude]
  norm_num [div_eq_mul_inv]

/-! ## Quotes -/

section

variable {protocol : CompiledStrategyProtocol} {snapshot : OpportunityMarketSnapshot}
  {authority : CandidateSelectionAuthority} {bought sold option : OpportunityOption}

/-- The spread of an option with a price is computed. -/
theorem relativeSpreadPercent_ok (hbid : 0 < option.bid.value)
    (hask : option.bid.value ≤ option.ask.value) :
    ∃ spread, relativeSpreadPercent option = .ok spread ∧ spread.value = spreadValue option := by
  have hsum : 0 < (option.ask + option.bid).value := value_add_pos.mpr (by linarith)
  have htwo : 0 < (Decimal.ofInt 2).value := by
    rw [value_ofInt]
    norm_num
  obtain ⟨midpoint, hmidpoint⟩ := divide_isSome (a := option.ask + option.bid) htwo
  have hpos := value_div_pos (require_ok.mp hmidpoint) hsum htwo
  obtain ⟨spread, hspread⟩ :=
    divide_isSome (a := .ofInt 100 * (option.ask - option.bid)) hpos
  have hcomputed : relativeSpreadPercent option = .ok spread :=
    bind_ok.mpr ⟨midpoint, hmidpoint, hspread⟩
  refine ⟨spread, hcomputed, ?_⟩
  rw [spreadValue, hcomputed]

/-- The symbol of an option is found to be that of its terms. -/
theorem symbolMatches_iff : symbolMatches protocol option = true ↔ ∃ parsed,
    Domain.parseStandardOptionContractSymbol option.symbol (some protocol.symbol) = .ok parsed ∧
      parsed.expirationDate = option.expiry ∧ parsed.right = option.right ∧
      parsed.strikePrice.value = option.strike.value := by
  unfold symbolMatches
  split
  · rename_i parsed hparsed
    simp only [Bool.and_eq_true, decide_eq_true_iff, beq_iff_value, and_assoc]
    constructor
    · exact fun h => ⟨parsed, hparsed, h⟩
    · rintro ⟨other, hother, h⟩
      obtain rfl := Except.ok.inj (hparsed.symm.trans hother)
      exact h
  · rename_i failure hfailure
    constructor
    · rintro ⟨⟩
    · rintro ⟨parsed, hparsed, -⟩
      rw [hparsed] at hfailure
      cases hfailure

/-- An option is found eligible exactly when it is quoted as the protocol asks. -/
theorem optionEligible_ok (protocol : CompiledStrategyProtocol)
    (snapshot : OpportunityMarketSnapshot) (option : OpportunityOption) :
    ∃ eligible, optionEligible protocol snapshot option = .ok eligible ∧
      (eligible = true ↔ QuoteMeets protocol snapshot option) := by
  unfold optionEligible
  split
  · rename_i hquote
    obtain ⟨hcontract, hunderlying, ⟨hbid, hask⟩, hbidSize, haskSize, hretrieved, -, hage⟩ := hquote
    rw [Decimal.lt_iff_value, value_ofInt, Int.cast_zero] at hbid
    rw [Decimal.le_iff_value] at hask
    obtain ⟨spread, hspread, hvalue⟩ := relativeSpreadPercent_ok hbid hask
    refine ⟨_, bind_ok.mpr ⟨spread, hspread, rfl⟩, ?_⟩
    rw [decide_eq_true_iff, Decimal.le_iff_value, hvalue]
    constructor
    · intro hnarrow
      exact ⟨symbolMatches_iff.mp hcontract, hunderlying, hbid, hask, hbidSize, haskSize,
        hretrieved, hage, hnarrow⟩
    · exact fun h => h.spread
  · rename_i hquote
    refine ⟨false, rfl, ?_⟩
    constructor
    · rintro ⟨⟩
    · intro h
      refine absurd ⟨symbolMatches_iff.mpr h.contract, h.underlying, ⟨?_, ?_⟩, h.bidSize,
        h.askSize, h.retrieved, ?_, h.age⟩ hquote
      · rw [Decimal.lt_iff_value, value_ofInt, Int.cast_zero]
        exact h.bid
      · exact Decimal.le_iff_value.mpr h.ask
      · have hretrieved := h.retrieved
        omega

/-- The strike of an option with its own symbol is a whole number of thousandths. -/
theorem QuoteMeets.strike (h : QuoteMeets protocol snapshot option) :
    ∃ n : Nat, n < 10 ^ 8 ∧ option.strike.value = n / 1000 := by
  obtain ⟨parsed, hparsed, -, -, hstrike⟩ := h.contract
  obtain ⟨read, hread, hstandard⟩ := bind_ok.mp hparsed
  unfold Domain.requireStandard at hstandard
  obtain ⟨-, hstandard⟩ := check_bind_ok.mp hstandard
  obtain ⟨-, hstandard⟩ := check_bind_ok.mp hstandard
  obtain rfl := Except.ok.inj hstandard
  obtain ⟨root, expiration, right, strike, hwritten⟩ := Domain.readAs_of_ok hread
  have hlt := Text.decimalNumber_lt strike
  rw [hwritten.parts.strikeLength] at hlt
  exact ⟨_, hlt, hstrike.symm.trans hwritten.strikePrice⟩

/-- The width between two quoted options is computed without rounding. -/
theorem value_width (hbought : QuoteMeets protocol snapshot bought)
    (hsold : QuoteMeets protocol snapshot sold) :
    (bought.strike - sold.strike).abs.value = |bought.strike.value - sold.strike.value| := by
  obtain ⟨n, hn, hboughtStrike⟩ := hbought.strike
  obtain ⟨m, hm, hsoldStrike⟩ := hsold.strike
  have hrepresentable : Decimal.Representable (bought.strike.value - sold.strike.value) := by
    rw [hboughtStrike, hsoldStrike,
      show (n : ℚ) / 1000 - m / 1000 = ((n - m : Int) : ℚ) / 1000 by push_cast; ring]
    exact Selection.representable_thousandths (by omega)
  rw [value_abs (fits_sub _ _), hrepresentable.value_sub]

end

/-! ## Pairs -/

variable {protocol : CompiledStrategyProtocol} {snapshot : OpportunityMarketSnapshot}
  {authority : CandidateSelectionAuthority} {bought sold first second : OpportunityOption}
  {strategy : VerticalStrategy} {outcome : CompiledPairOutcome}

/-- What the geometry of a pair is found to be. -/
theorem geometryEligible_ok (protocol : CompiledStrategyProtocol)
    (snapshot : OpportunityMarketSnapshot) (bought sold : OpportunityOption) :
    ∃ eligible, geometryEligible protocol snapshot bought sold = .ok eligible ∧
      (eligible = true ↔ WindowEligible protocol bought sold ∧
        QuoteMeets protocol snapshot bought ∧ QuoteMeets protocol snapshot sold ∧
        |bought.quoteAt - sold.quoteAt| ≤
          Calendar.seconds protocol.definition.marketQuality.maximumLegQuoteSkewSeconds) := by
  obtain ⟨boughtEligible, hbought, hboughtMeets⟩ := optionEligible_ok protocol snapshot bought
  obtain ⟨soldEligible, hsold, hsoldMeets⟩ := optionEligible_ok protocol snapshot sold
  unfold geometryEligible
  split
  · rename_i hwindow
    rw [hbought, ok_bind]
    cases boughtEligible with
    | false => exact ⟨false, rfl, by simp [← hboughtMeets]⟩
    | true =>
        rw [if_pos rfl, hsold, ok_bind]
        exact ⟨_, rfl, by simp [hwindow, ← hboughtMeets, ← hsoldMeets]⟩
  · rename_i hwindow
    exact ⟨false, rfl, by simp [hwindow]⟩

/-- The geometry and the budget of a pair are found to be those of its rules. -/
theorem boundsMeet_iff : BoundsMeet protocol snapshot bought sold ↔
    (WindowEligible protocol bought sold ∧
      QuoteMeets protocol snapshot bought ∧ QuoteMeets protocol snapshot sold ∧
      |bought.quoteAt - sold.quoteAt| ≤
        Calendar.seconds protocol.definition.marketQuality.maximumLegQuoteSkewSeconds) ∧
    WithinBudget protocol bought sold := by
  constructor
  · intro h
    have hbought := h.quoted bought List.mem_cons_self
    have hsold := h.quoted sold (List.mem_cons_of_mem _ List.mem_cons_self)
    have hboughtStrike := h.strikes bought List.mem_cons_self
    have hsoldStrike := h.strikes sold (List.mem_cons_of_mem _ List.mem_cons_self)
    simp only [← Decimal.le_iff_value] at hboughtStrike hsoldStrike
    refine ⟨⟨⟨h.window, h.dte, hboughtStrike, hsoldStrike, ?_⟩, hbought, hsold, h.skew⟩, ?_, ?_, ?_⟩
    · rw [beq_iff_value, value_width hbought hsold]
      exact h.width
    · rw [Decimal.lt_iff_value, value_ofInt, Int.cast_zero]
      exact h.debit
    · exact Decimal.le_iff_value.mpr h.debitBudget
    · exact Decimal.le_iff_value.mpr h.lossBudget
  · rintro ⟨⟨⟨hwindow, hdte, hboughtStrike, hsoldStrike, hwidth⟩, hbought, hsold, hskew⟩, hdebit,
      hbudget, hloss⟩
    simp only [Decimal.le_iff_value] at hboughtStrike hsoldStrike hbudget hloss
    rw [Decimal.lt_iff_value, value_ofInt, Int.cast_zero] at hdebit
    rw [beq_iff_value, value_width hbought hsold] at hwidth
    exact ⟨hwindow, hdte, by simp [hboughtStrike, hsoldStrike], hwidth, by simp [hbought, hsold],
      hskew, hdebit, hbudget, hloss⟩

/-- The cap of an account in percent of its equity is computed without rounding. -/
theorem value_percentCap {amount cap : Decimal} (hfits : amount.Fits)
    (h : divide amount (.ofInt 100) = .ok cap) : cap.value = amount.value / 100 := by
  have hhundred : 0 < (Decimal.ofInt 100).value := by
    rw [value_ofInt]
    norm_num
  have hquotient : amount.value / (Decimal.ofInt 100).value = amount.value / 100 := by
    rw [value_ofInt]
    norm_num
  have hrepresentable : Decimal.Representable (amount.value / 100) := by
    refine ⟨{ amount with exponent := amount.exponent - 2 }, ?_, hfits⟩
    show (amount.significand : ℚ) * (10 : ℚ) ^ (amount.exponent - 2) =
      (amount.significand : ℚ) * (10 : ℚ) ^ amount.exponent / 100
    rw [zpow_sub₀ (by norm_num)]
    norm_num [mul_div_assoc]
  rw [← hquotient] at hrepresentable ⊢
  exact hrepresentable.value_div hhundred (require_ok.mp h)

/-- A risk is found to be available exactly when the account affords it. -/
theorem riskAvailable_ok (protocol : CompiledStrategyProtocol)
    (authority : CandidateSelectionAuthority) (bought sold : OpportunityOption) :
    ∃ available, riskAvailable protocol authority (totalRisk protocol bought sold) =
        .ok available ∧
      (available = true ↔ Affordable protocol authority bought sold) := by
  have hhundred : 0 < (Decimal.ofInt 100).value := by
    rw [value_ofInt]
    norm_num
  unfold riskAvailable
  simp only [Decimal.le_iff_value]
  split
  · rename_i hamounts
    cases hlimit : protocol.definition.maximumAccountRiskPercent with
    | none =>
        refine ⟨true, rfl, ?_⟩
        simp only [true_iff]
        exact ⟨hamounts.1, hamounts.2, by simp [hlimit]⟩
    | some limit =>
        obtain ⟨cap, hcap⟩ := divide_isSome (a := authority.observedEquity * limit) hhundred
        have hvalue : cap.value = (authority.observedEquity * limit).value / 100 :=
          value_percentCap (fits_round _) hcap
        refine ⟨_, bind_ok.mpr ⟨cap, hcap, rfl⟩, ?_⟩
        rw [decide_eq_true_iff, hvalue]
        constructor
        · exact fun hwithin => ⟨hamounts.1, hamounts.2, by simpa [hlimit] using hwithin⟩
        · exact fun h => h.percent limit (by rw [hlimit]; rfl)
  · rename_i hamounts
    refine ⟨false, rfl, ?_⟩
    constructor
    · rintro ⟨⟩
    · exact fun h => absurd ⟨h.risk, h.buyingPower⟩ hamounts

/-- What a bought and a sold option come to, by the rules that they meet. -/
inductive Comes (protocol : CompiledStrategyProtocol) (snapshot : OpportunityMarketSnapshot)
    (authority : CandidateSelectionAuthority) (bought sold : OpportunityOption) :
    CompiledPairOutcome → Prop where
  | ineligible (h : ¬ Meets protocol snapshot bought sold) :
      Comes protocol snapshot authority bought sold .ineligible
  | unaffordable (h : Meets protocol snapshot bought sold)
      (hnot : ¬ Affordable protocol authority bought sold) :
      Comes protocol snapshot authority bought sold .unaffordable
  | eligible (item : EligibleCandidate) (h : Meets protocol snapshot bought sold)
      (hafford : Affordable protocol authority bought sold)
      (hcandidate : CandidateOf protocol authority bought sold item.candidate)
      (hrank : item.rank = pairRank protocol bought sold)
      (hhashes : item.legHashes = [bought.sourceHash, sold.sourceHash]) :
      Comes protocol snapshot authority bought sold (.eligible item)

/-- The candidate of a pair with prices is computed. -/
theorem eligibleCandidate_ok (authority : CandidateSelectionAuthority)
    (hpositive : 0 < protocol.definition.marketQuality.maximumRelativeSpreadPercent.value)
    (hbought : QuoteMeets protocol snapshot bought) (hsold : QuoteMeets protocol snapshot sold)
    (hstrategy : strategy = protocolStrategy protocol) :
    ∃ item, eligibleCandidate protocol authority bought sold strategy = .ok item ∧
      CandidateOf protocol authority bought sold item.candidate ∧
      item.rank = pairRank protocol bought sold ∧
      item.legHashes = [bought.sourceHash, sold.sourceHash] := by
  obtain ⟨boughtSpread, hboughtSpread, hboughtValue⟩ :=
    relativeSpreadPercent_ok hbought.bid hbought.ask
  obtain ⟨soldSpread, hsoldSpread, hsoldValue⟩ := relativeSpreadPercent_ok hsold.bid hsold.ask
  obtain ⟨quotient, hquotient⟩ := divide_isSome
    (a := .ofInt 100 * (protocol.definition.marketQuality.maximumRelativeSpreadPercent -
      maximum boughtSpread soldSpread)) hpositive
  have hscore : compiledScore protocol.definition.marketQuality.maximumRelativeSpreadPercent
      (maximum boughtSpread soldSpread) = .ok quotient.floorInt :=
    bind_ok.mpr ⟨quotient, hquotient, rfl⟩
  refine ⟨_, bind_ok.mpr ⟨_, hboughtSpread, bind_ok.mpr ⟨_, hsoldSpread,
    bind_ok.mpr ⟨_, hscore, rfl⟩⟩⟩, ⟨rfl, hstrategy, rfl, rfl, rfl⟩, ?_, rfl⟩
  unfold EligibleCandidate.rank pairRank
  dsimp only
  rw [value_maximum, value_secondsDecimal, hboughtValue, hsoldValue]

/-- A bought and a sold option of the structure of a protocol come to what they meet. -/
theorem orientedPair_comes (snapshot : OpportunityMarketSnapshot)
    (authority : CandidateSelectionAuthority)
    (hpositive : 0 < protocol.definition.marketQuality.maximumRelativeSpreadPercent.value)
    (hstructure : StructureMeets protocol bought sold)
    (hstrategy : strategy = protocolStrategy protocol) :
    ∃ outcome, orientedPair protocol snapshot authority bought sold strategy = .ok outcome ∧
      Comes protocol snapshot authority bought sold outcome := by
  obtain ⟨eligible, heligible, hmeets⟩ := geometryEligible_ok protocol snapshot bought sold
  obtain ⟨available, havailable, hafford⟩ := riskAvailable_ok protocol authority bought sold
  have hbounds : (eligible = true ∧ WithinBudget protocol bought sold) ↔
      Meets protocol snapshot bought sold := by
    rw [hmeets, ← boundsMeet_iff]
    exact ⟨fun h => ⟨hstructure, h⟩, fun h => h.toBoundsMeet⟩
  unfold orientedPair
  rw [heligible, ok_bind]
  split
  · rename_i hnot
    refine ⟨.ineligible, rfl, .ineligible fun h => ?_⟩
    obtain ⟨htrue, hbudget⟩ := hbounds.mpr h
    rcases hnot with hfalse | hover
    · rw [htrue] at hfalse
      cases hfalse
    · exact hover hbudget
  · rename_i hall
    rw [not_or, not_not, Bool.not_eq_false] at hall
    have h := hbounds.mp hall
    rw [havailable, ok_bind]
    cases available with
    | false =>
        refine ⟨.unaffordable, rfl, .unaffordable h fun haffordable => ?_⟩
        cases hafford.mpr haffordable
    | true =>
        obtain ⟨item, hitem, hcandidate, hrank, hhashes⟩ := eligibleCandidate_ok authority
          hpositive (h.quoted bought List.mem_cons_self)
          (h.quoted sold (List.mem_cons_of_mem _ List.mem_cons_self)) hstrategy
        rw [if_pos rfl, hitem, ok_bind]
        exact ⟨.eligible item, rfl,
          .eligible item h (hafford.mp rfl) hcandidate hrank hhashes⟩

/-- The structure that is built of two options is one that they meet. -/
theorem structureMeets_of_structure
    (h : compiledStructure protocol first second = some (bought, sold, strategy)) :
    StructureMeets protocol bought sold ∧ bought.underlying = sold.underlying ∧
      ((bought = first ∧ sold = second) ∨ (bought = second ∧ sold = first)) ∧
      strategy = protocolStrategy protocol := by
  unfold compiledStructure at h
  by_cases hfamily : first.underlying ≠ second.underlying ∨ first.expiry ≠ second.expiry ∨
      first.right ≠ second.right ∨ (first.strike == second.strike) = true
  · rw [if_pos hfamily] at h
    cases h
  rw [if_neg hfamily] at h
  simp only [not_or, not_not, Bool.not_eq_true] at hfamily
  obtain ⟨hunderlying, hexpiry, hright, hstrike⟩ := hfamily
  have hne : first.strike.value ≠ second.strike.value := by
    intro heq
    rw [beq_iff_value.mpr heq] at hstrike
    cases hstrike
  obtain ⟨hoptions, hless⟩ := Selection.lower_higher hne
  dsimp only at h hoptions hless
  generalize (if second.strike < first.strike then second else first) = lower at *
  generalize (if second.strike < first.strike then first else second) = higher at *
  have hsame : lower.underlying = higher.underlying ∧ lower.expiry = higher.expiry ∧
      lower.right = first.right ∧ higher.right = first.right := by
    rcases hoptions with ⟨rfl, rfl⟩ | ⟨rfl, rfl⟩
    · exact ⟨hunderlying, hexpiry, rfl, hright.symm⟩
    · exact ⟨hunderlying.symm, hexpiry.symm, hright.symm, rfl⟩
  obtain ⟨hunderlyings, hexpiries, hlower, hhigher⟩ := hsame
  split at h
  · rename_i hcall
    obtain ⟨rfl, rfl, rfl⟩ := Option.some.inj h
    exact ⟨⟨.inl ⟨hcall.1, hlower.trans hcall.2, hless⟩, hhigher.trans hlower.symm,
      hexpiries.symm⟩, hunderlyings, hoptions, (if_pos hcall.1).symm⟩
  · split at h
    · rename_i hput
      obtain ⟨rfl, rfl, rfl⟩ := Option.some.inj h
      refine ⟨⟨.inr ⟨hput.1, hhigher.trans hput.2, hless⟩, hlower.trans hhigher.symm, hexpiries⟩,
        hunderlyings.symm, hoptions.symm.imp And.symm And.symm, (if_neg ?_).symm⟩
      rw [hput.1]
      decide
    · cases h

/-- What the comparisons of strikes say when one is lower. -/
theorem strikes_of_lt {first second : Decimal} (hless : first.value < second.value) :
    first < second ∧ ¬ second < first ∧ (first == second) = false ∧ (second == first) = false := by
  refine ⟨Decimal.lt_iff_value.mpr hless, ?_, ?_, ?_⟩
  · rw [Decimal.lt_iff_value, not_lt]
    exact hless.le
  · rw [Bool.eq_false_iff, Ne, beq_iff_value]
    exact hless.ne
  · rw [Bool.eq_false_iff, Ne, beq_iff_value]
    exact hless.ne'

/-- The structure that two options meet is built of them in either order. -/
theorem structure_of_meets (h : StructureMeets protocol bought sold)
    (hunderlying : bought.underlying = sold.underlying) :
    compiledStructure protocol bought sold = some (bought, sold, protocolStrategy protocol) ∧
      compiledStructure protocol sold bought = some (bought, sold, protocolStrategy protocol) := by
  have hexpiry := h.expiry
  have hright := h.right
  unfold compiledStructure protocolStrategy
  rcases h.ordered with ⟨hstructure, hcall, hless⟩ | ⟨hstructure, hput, hless⟩
  · obtain ⟨hlt, hnot, hne, hne'⟩ := strikes_of_lt hless
    simp [hstructure, hcall, hright, hexpiry, hunderlying, hlt, hnot, hne, hne']
  · obtain ⟨hlt, hnot, hne, hne'⟩ := strikes_of_lt hless
    simp [hstructure, hput, hright, hexpiry, hunderlying, hlt, hnot, hne, hne']

/-- Two options meet a structure in one order only. -/
theorem StructureMeets.asymm (h : StructureMeets protocol bought sold) :
    ¬ StructureMeets protocol sold bought := by
  intro hother
  rcases h.ordered with ⟨hcall, -, hless⟩ | ⟨hput, -, hless⟩
  · rcases hother.ordered with ⟨-, -, hgreater⟩ | ⟨hput, -, -⟩
    · exact lt_asymm hless hgreater
    · rw [hcall] at hput
      cases hput
  · rcases hother.ordered with ⟨hcall, -, -⟩ | ⟨-, -, hgreater⟩
    · rw [hput] at hcall
      cases hcall
    · exact lt_asymm hless hgreater

theorem BoundsMeet.underlying (h : BoundsMeet protocol snapshot bought sold) :
    bought.underlying = sold.underlying :=
  (h.quoted bought List.mem_cons_self).underlying.trans
    (h.quoted sold (List.mem_cons_of_mem _ List.mem_cons_self)).underlying.symm

/-- What two options come to does not depend on which one is first. -/
theorem compiledPair_comm (protocol : CompiledStrategyProtocol)
    (snapshot : OpportunityMarketSnapshot) (authority : CandidateSelectionAuthority)
    (first second : OpportunityOption) :
    compiledPair protocol snapshot authority (first, second) =
      compiledPair protocol snapshot authority (second, first) := by
  have hstructure : ∀ one two : OpportunityOption, ∀ found,
      compiledStructure protocol one two = some found →
        compiledStructure protocol two one = some found := by
    intro one two found hfound
    obtain ⟨bought, sold, strategy⟩ := found
    obtain ⟨hmeets, hunderlying, hoptions, rfl⟩ := structureMeets_of_structure hfound
    obtain ⟨hforward, hbackward⟩ := structure_of_meets hmeets hunderlying
    rcases hoptions with ⟨rfl, rfl⟩ | ⟨rfl, rfl⟩
    · exact hbackward
    · exact hforward
  have hsame : compiledStructure protocol first second = compiledStructure protocol second first :=
    Option.ext fun found => ⟨hstructure first second found, hstructure second first found⟩
  unfold compiledPair
  dsimp only
  rw [hsame]

/-- A pair of options comes to what its bought and its sold option meet, in the one order in which
it can have the structure of the protocol. -/
theorem compiledPair_comes (snapshot : OpportunityMarketSnapshot)
    (authority : CandidateSelectionAuthority)
    (hpositive : 0 < protocol.definition.marketQuality.maximumRelativeSpreadPercent.value)
    (first second : OpportunityOption) :
    ∃ outcome, compiledPair protocol snapshot authority (first, second) = .ok outcome ∧
      ∃ bought sold, ((bought = first ∧ sold = second) ∨ (bought = second ∧ sold = first)) ∧
        Comes protocol snapshot authority bought sold outcome ∧
        ¬ Meets protocol snapshot sold bought := by
  unfold compiledPair
  cases hstructure : compiledStructure protocol first second with
  | none =>
      have hnone : ∀ bought sold,
          ((bought = first ∧ sold = second) ∨ (bought = second ∧ sold = first)) →
            ¬ Meets protocol snapshot bought sold := by
        intro bought sold hoptions h
        obtain ⟨hforward, hbackward⟩ := structure_of_meets h.toStructureMeets h.underlying
        rcases hoptions with ⟨rfl, rfl⟩ | ⟨rfl, rfl⟩
        · rw [hforward] at hstructure
          cases hstructure
        · rw [hbackward] at hstructure
          cases hstructure
      exact ⟨.ineligible, rfl, first, second, .inl ⟨rfl, rfl⟩,
        .ineligible (hnone _ _ (.inl ⟨rfl, rfl⟩)), hnone _ _ (.inr ⟨rfl, rfl⟩)⟩
  | some found =>
      obtain ⟨bought, sold, strategy⟩ := found
      obtain ⟨hmeets, -, hoptions, hstrategy⟩ := structureMeets_of_structure hstructure
      obtain ⟨outcome, houtcome, hcomes⟩ := orientedPair_comes snapshot authority
        hpositive hmeets hstrategy
      exact ⟨outcome, houtcome, bought, sold, hoptions, hcomes,
        fun hother => hmeets.asymm hother.toStructureMeets⟩

end AlphaDecay.StrategyBriefs
