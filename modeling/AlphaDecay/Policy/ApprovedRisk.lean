import AlphaDecay.Foundation.VerticalSpread
import AlphaDecay.Policy.CandidateChecks
import Mathlib.Data.Real.Basic

/-!
# Approved risk and the loss at expiry

`lossAtExpiry` is the loss of the two legs of a candidate at a price of the underlying at expiry,
with the premium of a fill. The loss that a decision approves is positive, within the caps of the
policy, and, where no decimal that it is computed from needs more digits than the context keeps,
not below the loss at any price and any fill within the limits.
-/

namespace AlphaDecay.Policy

open Foundation Decimal

/-! ## The loss of a candidate -/

/-- What a leg pays at expiry to one who holds it. -/
noncomputable def OptionLeg.payoff (leg : OptionLeg) (price : ℝ) : ℝ :=
  match leg.right with
  | .call => VerticalSpread.callPayoff (leg.strike.value : ℝ) price
  | .put => VerticalSpread.putPayoff (leg.strike.value : ℝ) price

namespace VerticalCandidate

/-- What the legs of a candidate pay at expiry, each with the sign of its intent. -/
noncomputable def payoffAtExpiry (candidate : VerticalCandidate) (price : ℝ) : ℝ :=
  (candidate.legs.map fun leg => (leg.intent.direction : ℝ) * leg.payoff price).sum

/-- The premium that a fill pays: the fill of a debit, and the negated fill of a credit. -/
def premium (candidate : VerticalCandidate) (fill : ℝ) : ℝ :=
  if candidate.strategy.isDebit then fill else -fill

/-- The loss of a candidate at expiry, premium included. -/
noncomputable def lossAtExpiry (candidate : VerticalCandidate) (price fill : ℝ) : ℝ :=
  (candidate.premium fill - candidate.payoffAtExpiry price) * candidate.quantity * 100

/-- The fills that an order for the candidate allows: a debit between the approved and the highest
limit, and a credit of at least the approved limit. -/
def FillAllowed (candidate : VerticalCandidate) (fill : ℝ) : Prop :=
  (candidate.approvedLimit.value : ℝ) ≤ fill ∧
    (candidate.strategy.isDebit = true → fill ≤ candidate.highestLimit.value)

/-- The width between the strikes of a candidate, without rounding. -/
def strikeWidth (candidate : VerticalCandidate) : ℚ :=
  match candidate.legs with
  | first :: second :: _ => |first.strike.value - second.strike.value|
  | _ => 0

/-- No step of the largest loss needs more digits than the context keeps. -/
structure LossExact (candidate : VerticalCandidate) : Prop where
  debit : candidate.strategy.isDebit = true →
    Decimal.Representable (candidate.highestLimit.value * candidate.quantity)
  width : candidate.strategy.isDebit = false → Decimal.Representable candidate.strikeWidth
  net : candidate.strategy.isDebit = false →
    Decimal.Representable (candidate.strikeWidth - candidate.approvedLimit.value)
  credit : candidate.strategy.isDebit = false →
    Decimal.Representable
      ((candidate.strikeWidth - candidate.approvedLimit.value) * candidate.quantity)

end VerticalCandidate

section Payoffs

variable {candidate : VerticalCandidate} {bought sold : OptionLeg} {price : ℝ}

/-- The payoff of a vertical is that of its bought leg less that of its sold one. -/
theorem VerticalLegs.payoffAtExpiry (h : VerticalLegs candidate bought sold) (price : ℝ) :
    candidate.payoffAtExpiry price = bought.payoff price - sold.payoff price := by
  rcases h.legs with hlegs | hlegs
  · simp [VerticalCandidate.payoffAtExpiry, hlegs, h.boughtIntent, h.soldIntent,
      PositionIntent.direction, sub_eq_add_neg]
  · simp [VerticalCandidate.payoffAtExpiry, hlegs, h.boughtIntent, h.soldIntent,
      PositionIntent.direction, sub_eq_add_neg, add_comm]

/-- A vertical at a debit never pays less than nothing. -/
theorem VerticalLegs.payoff_nonneg (h : VerticalLegs candidate bought sold)
    (hdebit : candidate.strategy.isDebit = true) (price : ℝ) :
    0 ≤ candidate.payoffAtExpiry price := by
  have hordered := h.ordered
  have hright := h.right
  rw [h.payoffAtExpiry, sub_nonneg]
  unfold StrikesOrdered at hordered
  cases hstrategy : candidate.strategy with
  | bullCallDebit =>
      rw [hstrategy] at hordered
      obtain ⟨hcall, hstrike⟩ := hordered
      rw [hcall] at hright
      simp only [OptionLeg.payoff, hcall, ← hright]
      exact VerticalSpread.callPayoff_anti (Rat.cast_le.mpr (lt_iff_value.mp hstrike).le)
  | bearPutDebit =>
      rw [hstrategy] at hordered
      obtain ⟨hput, hstrike⟩ := hordered
      rw [hput] at hright
      simp only [OptionLeg.payoff, hput, ← hright]
      exact VerticalSpread.putPayoff_mono (Rat.cast_le.mpr (lt_iff_value.mp hstrike).le)
  | bullPutCredit =>
      rw [hstrategy] at hdebit
      cases hdebit
  | bearCallCredit =>
      rw [hstrategy] at hdebit
      cases hdebit

theorem VerticalLegs.strikeWidth (h : VerticalLegs candidate bought sold) :
    candidate.strikeWidth = |bought.strike.value - sold.strike.value| := by
  rcases h.legs with hlegs | hlegs
  · simp [VerticalCandidate.strikeWidth, hlegs]
  · simp [VerticalCandidate.strikeWidth, hlegs, abs_sub_comm]

/-- A vertical never pays less than what its width costs. -/
theorem VerticalLegs.neg_width_le_payoff (h : VerticalLegs candidate bought sold) (price : ℝ) :
    -(candidate.strikeWidth : ℝ) ≤ candidate.payoffAtExpiry price := by
  have hright := h.right
  rw [h.payoffAtExpiry, h.strikeWidth, Rat.cast_abs, Rat.cast_sub]
  cases hkind : bought.right with
  | call =>
      rw [hkind] at hright
      simp only [OptionLeg.payoff, hkind, ← hright]
      exact VerticalSpread.neg_width_le_call _ _ _
  | put =>
      rw [hkind] at hright
      simp only [OptionLeg.payoff, hkind, ← hright]
      exact VerticalSpread.neg_width_le_put _ _ _

end Payoffs

/-! ## The loss that is approved -/

section

variable {policy : OpportunityPolicyFields} {values : OpportunityInput}
  {candidate : VerticalCandidate} {bought sold : OptionLeg}

theorem fits_ofInt {n : Int} (h : n.natAbs < 10 ^ precision) : (Decimal.ofInt n).Fits := h

/-- A quotient of a decimal by a positive one is below one only when the decimal is smaller. -/
theorem lt_of_divide_lt_one {a b q : Decimal} (h : divide a b = .ok q) (hb : 0 < b.value)
    (hlt : q.value < 1) : a.value < b.value := by
  by_contra hnot
  have hone := le_value_div (x := Decimal.ofInt 1) (require_ok.mp h) (fits_ofInt (by decide)) hb
    (by rw [value_ofInt, Int.cast_one, one_mul]; exact not_lt.mp hnot)
  rw [value_ofInt, Int.cast_one] at hone
  exact absurd hlt (not_lt.mpr hone)

/-- A credit that passes its checks is below its width. -/
theorem CandidateAccepted.credit_lt_width (h : CandidateAccepted policy values candidate)
    (hcredit : candidate.strategy.isDebit = false) (hlegs : VerticalLegs candidate bought sold)
    (hbought : candidate.byIntent .buyToOpen = some bought)
    (hsold : candidate.byIntent .sellToOpen = some sold) :
    candidate.approvedLimit.value < (bought.strike - sold.strike).abs.value := by
  have hpayoff := h.payoff
  unfold payoffValid at hpayoff
  cases hprofile : structuralPilotProfile policy.opportunityKey with
  | some profile =>
      -- a structural pilot trades debits only
      rw [hprofile] at hpayoff
      have hvalid : structuralPilotPayoffValid policy candidate profile = true :=
        Except.ok.inj hpayoff
      unfold structuralPilotPayoffValid at hvalid
      split at hvalid
      · cases hvalid
      · rename_i hterms
        rw [not_or, not_not] at hterms
        rw [hterms.1] at hcredit
        unfold StructuralBullishPilotProfile.strategy at hcredit
        cases hdirection : profile.direction <;> rw [hdirection] at hcredit <;> cases hcredit
  | none =>
      rw [hprofile] at hpayoff
      simp only [payoffGeometryValid, hbought, hsold, require_some, ok_bind, hcredit,
        Bool.false_eq_true, if_false] at hpayoff
      obtain ⟨naturalFraction, -, hpayoff⟩ := bind_ok.mp hpayoff
      obtain ⟨approvedFraction, hfraction, hpayoff⟩ := bind_ok.mp hpayoff
      have hbounds := of_decide_eq_true (Except.ok.inj hpayoff)
      have hless := (hbounds.2 approvedFraction (by simp)).2
      rw [lt_iff_value, value_ofInt, Int.cast_one] at hless
      exact lt_of_divide_lt_one hfraction (value_abs_sub_pos hlegs.strikes) hless

/-- The largest loss of a credit is computed from its width. -/
theorem VerticalLegs.approvedMaxLoss_credit (hlegs : VerticalLegs candidate bought sold)
    (hcredit : candidate.strategy.isDebit = false) :
    ∃ width : Decimal, width.value = (bought.strike - sold.strike).abs.value ∧
      approvedMaxLoss candidate =
        (width - candidate.approvedLimit) * .ofInt candidate.quantity * .ofInt 100 := by
  rcases hlegs.legs with hlist | hlist
  · exact ⟨_, rfl, by simp [approvedMaxLoss, hcredit, hlist]⟩
  · exact ⟨_, value_abs_sub_comm _ _, by simp [approvedMaxLoss, hcredit, hlist]⟩

theorem approvedMaxLoss_debit (hdebit : candidate.strategy.isDebit = true) :
    approvedMaxLoss candidate =
      candidate.highestLimit * .ofInt candidate.quantity * .ofInt 100 := by
  simp [approvedMaxLoss, hdebit]

theorem hundreds_pos {a : Decimal} {quantity : Int} (ha : 0 < a.value) (hquantity : 1 ≤ quantity) :
    0 < (a * .ofInt quantity * .ofInt 100).value := by
  have hcast : (0 : ℚ) < quantity := by exact_mod_cast hquantity
  rw [value_mul_pos, value_ofInt]
  refine mul_pos (value_mul_pos.mpr ?_) (by norm_num)
  rw [value_ofInt]
  exact mul_pos ha hcast

theorem CandidateAccepted.approvedMaxLoss_pos (h : CandidateAccepted policy values candidate) :
    0 < (approvedMaxLoss candidate).value := by
  obtain ⟨bought, sold, hlegs, hbought, hsold⟩ := verticalLegs_of_isVertical h.terms.vertical
  cases hside : candidate.strategy.isDebit with
  | true =>
      rw [approvedMaxLoss_debit hside]
      exact hundreds_pos (h.terms.positive.trans_le h.terms.ordered) h.terms.quantity.1
  | false =>
      obtain ⟨width, hwidth, hloss⟩ := hlegs.approvedMaxLoss_credit hside
      rw [hloss]
      refine hundreds_pos (value_sub_pos.mpr ?_) h.terms.quantity.1
      rw [hwidth, sub_pos]
      exact h.credit_lt_width hside hlegs hbought hsold

/-- A decimal times a quantity of hundreds is exact where the product with the quantity fits. -/
theorem value_hundreds {a : Decimal} {quantity : Int}
    (h : Decimal.Representable (a.value * quantity)) :
    (a * .ofInt quantity * .ofInt 100).value = a.value * quantity * 100 := by
  have hproduct : (a * Decimal.ofInt quantity).value = a.value * quantity := by
    rw [Decimal.Representable.value_mul (by rwa [value_ofInt]), value_ofInt]
  have hscaled := h.scaled 2
  rw [Decimal.Representable.value_mul, hproduct, value_ofInt]
  · norm_num
  · rw [hproduct, value_ofInt]
    norm_num at hscaled ⊢
    exact hscaled

/-- The loss that is approved is the highest limit of a debit, or the width less the limit of a
credit, for every contract, where no step needs more digits than the context keeps. -/
theorem VerticalLegs.value_approvedMaxLoss (hlegs : VerticalLegs candidate bought sold)
    (hexact : candidate.LossExact) :
    (approvedMaxLoss candidate).value =
      (if candidate.strategy.isDebit then candidate.highestLimit.value
        else candidate.strikeWidth - candidate.approvedLimit.value) *
        candidate.quantity * 100 := by
  cases hside : candidate.strategy.isDebit with
  | true =>
      rw [approvedMaxLoss_debit hside, value_hundreds (hexact.debit hside), if_pos rfl]
  | false =>
      obtain ⟨width, hwidth, hloss⟩ := hlegs.approvedMaxLoss_credit hside
      have hdistance : width.value = candidate.strikeWidth := by
        have hfits := hexact.width hside
        rw [hwidth, value_abs (fits_sub _ _), hlegs.strikeWidth] at *
        rw [Decimal.Representable.value_sub]
        rcases abs_choice (bought.strike.value - sold.strike.value) with habs | habs
        · rwa [habs] at hfits
        · rw [habs] at hfits
          exact neg_neg (bought.strike.value - sold.strike.value) ▸ hfits.neg
      have hnet : (width - candidate.approvedLimit).value =
          candidate.strikeWidth - candidate.approvedLimit.value := by
        rw [Decimal.Representable.value_sub (by rw [hdistance]; exact hexact.net hside), hdistance]
      rw [hloss, value_hundreds (by rw [hnet]; exact hexact.credit hside), hnet]
      simp

/-- The loss that is approved is not below the loss at any price and any fill that is allowed. -/
theorem VerticalLegs.lossAtExpiry_le (hlegs : VerticalLegs candidate bought sold)
    (hexact : candidate.LossExact) (hquantity : 1 ≤ candidate.quantity) {price fill : ℝ}
    (hfill : candidate.FillAllowed fill) :
    candidate.lossAtExpiry price fill ≤ ((approvedMaxLoss candidate).value : ℝ) := by
  have hcast : (0 : ℝ) ≤ candidate.quantity := by
    have hnonneg : (0 : Int) ≤ candidate.quantity := by omega
    exact_mod_cast hnonneg
  rw [hlegs.value_approvedMaxLoss hexact, VerticalCandidate.lossAtExpiry, Rat.cast_mul,
    Rat.cast_mul, Rat.cast_intCast, Rat.cast_ofNat]
  refine mul_le_mul_of_nonneg_right (mul_le_mul_of_nonneg_right ?_ hcast) (by norm_num)
  unfold VerticalCandidate.premium
  cases hside : candidate.strategy.isDebit with
  | true =>
      have hpayoff := hlegs.payoff_nonneg hside price
      have hlimit := hfill.2 hside
      simp only [if_true]
      linarith
  | false =>
      have hpayoff := hlegs.neg_width_le_payoff price
      have hlimit := hfill.1
      simp only [Bool.false_eq_true, if_false, Rat.cast_sub]
      linarith

end

/-! ## The caps of the account -/

/-- The smaller of two decimals is not above either. -/
theorem minimum_le (a b : Decimal) :
    (minimum a b).value ≤ a.value ∧ (minimum a b).value ≤ b.value := by
  unfold minimum
  split
  · rename_i h
    exact ⟨(lt_iff_value.mp h).le, le_rfl⟩
  · rename_i h
    exact ⟨le_rfl, not_lt.mp fun hlt => h (lt_iff_value.mpr hlt)⟩

/-- A loss that passes the checks of the account is within the caps of the policy. -/
theorem loss_le_caps {policy : OpportunityPolicyFields} {values : OpportunityInput}
    {loss : Decimal} (h : accountFailure policy values loss = none) :
    loss.value ≤ policy.maximumPositionLoss.value ∧
      loss.value ≤ (values.account.cleanEquity * policy.maximumEquityRiskFraction).value ∧
      (values.account.lifetimeApprovedRisk + loss).value ≤ policy.maximumLifetimeRisk.value := by
  simp only [accountFailure, ite_some_eq_none, lt_iff_value, not_lt] at h
  obtain ⟨-, -, -, -, -, -, -, hlifetime, hposition, -⟩ := h
  have hcap := minimum_le policy.maximumPositionLoss
    (values.account.cleanEquity * policy.maximumEquityRiskFraction)
  exact ⟨hposition.trans hcap.1, hposition.trans hcap.2, hlifetime⟩

/-! ## Decisions that approve -/

section

variable [Digest] {policy : OpportunityPolicy} {values : OpportunityInput}
  {record : OpportunityDecisionRecord}

/-- An entry is approved only for a candidate that passes its checks, at its largest loss, which
passes the checks of the account. -/
theorem approved_candidate (h : evaluateOpportunity policy values = .ok record)
    (happroved : record.outcome = .entryApproved) :
    ∃ candidate, values.candidate = some candidate ∧
      CandidateAccepted policy.toOpportunityPolicyFields values candidate ∧
      accountFailure policy.toOpportunityPolicyFields values (approvedMaxLoss candidate) = none ∧
      record.approvedMaxLoss = some (approvedMaxLoss candidate) := by
  -- every record of a rejection says that nothing is traded
  have hrejected : ∀ {reason direction}, .ok (rejected policy values reason direction) =
      (.ok record : Except Failure OpportunityDecisionRecord) → False := by
    intro reason direction heq
    obtain rfl := Except.ok.inj heq
    cases happroved
  unfold evaluateOpportunity at h
  split at h
  · exact (hrejected h).elim
  · split at h
    · exact (hrejected h).elim
    · split at h
      · exact (hrejected h).elim
      · rename_i candidate hcandidate
        unfold evaluateCandidate at h
        split at h
        · exact (hrejected h).elim
        · obtain ⟨failure, hfailure, h⟩ := bind_ok.mp h
          cases failure with
          | some reason => exact (hrejected h).elim
          | none =>
              dsimp only at h
              split at h
              · exact (hrejected h).elim
              · rename_i haccount
                obtain rfl := Except.ok.inj h
                exact ⟨candidate, hcandidate, optionCandidateFailure_none.mp hfailure, haccount,
                  rfl⟩

/-- The loss that a decision approves is positive and at most the position cap. It is at most the
risk fraction of the equity, and the lifetime risk with it at most its cap, where these results fit
the precision. No price at expiry and no allowed fill loses more, where no step of the loss needs
more digits than the context keeps. -/
theorem approved_risk_bounds (h : evaluateOpportunity policy values = .ok record)
    (happroved : record.outcome = .entryApproved) :
    ∃ candidate loss, values.candidate = some candidate ∧ record.approvedMaxLoss = some loss ∧
      0 < loss.value ∧ loss.value ≤ policy.maximumPositionLoss.value ∧
      (Decimal.Representable
          (values.account.cleanEquity.value * policy.maximumEquityRiskFraction.value) →
        loss.value ≤ values.account.cleanEquity.value * policy.maximumEquityRiskFraction.value) ∧
      (Decimal.Representable (values.account.lifetimeApprovedRisk.value + loss.value) →
        values.account.lifetimeApprovedRisk.value + loss.value ≤
          policy.maximumLifetimeRisk.value) ∧
      (candidate.LossExact → ∀ price fill : ℝ, 0 ≤ price → candidate.FillAllowed fill →
        candidate.lossAtExpiry price fill ≤ (loss.value : ℝ)) := by
  obtain ⟨candidate, hcandidate, haccepted, haccount, hloss⟩ := approved_candidate h happroved
  obtain ⟨hposition, hequity, hlifetime⟩ := loss_le_caps haccount
  obtain ⟨bought, sold, hlegs, -, -⟩ := verticalLegs_of_isVertical haccepted.terms.vertical
  refine ⟨candidate, approvedMaxLoss candidate, hcandidate, hloss, haccepted.approvedMaxLoss_pos,
    hposition, fun hfits => ?_, fun hfits => ?_, fun hexact price fill _ hfill => ?_⟩
  · rwa [hfits.value_mul] at hequity
  · rwa [hfits.value_add] at hlifetime
  · exact hlegs.lossAtExpiry_le hexact haccepted.terms.quantity.1 hfill

end

/-! ## A bull call at a debit -/

section Rehearsed

@[reducible] def zeroDigest : Digest where
  authorityHash _ := String.ofList (List.replicate 64 '0')
  agentHash _ := String.ofList (List.replicate 64 '0')
  uuid5 _ := Uuid.ofNat 0
  authorityHash_isHash _ := by decide +kernel

attribute [local instance] zeroDigest

def rehearsedPolicy : OpportunityPolicy where
  version := "v1"
  opportunityKey := "EARNINGS"
  underlying := "SPY"
  selectedDecisionBoundary := Calendar.seconds 600
  lastEntryBoundary := Calendar.seconds 900
  maximumDecisionDelay := Calendar.seconds 60
  maximumUnderlyingAge := Calendar.seconds 60
  maximumCatalystAge := Calendar.seconds 60
  maximumOptionQuoteAge := Calendar.seconds 60
  maximumLegQuoteSkew := Calendar.seconds 5
  minimumVwapDistance := ⟨false, 1, -2⟩
  maximumVwapDistance := ⟨false, 9, -2⟩
  minimumRelativeReturn := ⟨false, 1, -2⟩
  minimumBeta := ⟨false, 5, -1⟩
  maximumBeta := ⟨false, 2, 0⟩
  requiredTrendHits := 2
  maximumFirstReaction := ⟨false, 1, -1⟩
  minimumCatalystScore := 50
  minimumCandidateScore := 50
  minimumDte := 10
  maximumDte := 60
  maximumRelativeSpread := ⟨false, 1, -1⟩
  minimumDebitWidthFraction := ⟨false, 1, -1⟩
  maximumDebitWidthFraction := ⟨false, 6, -1⟩
  minimumCreditWidthFraction := ⟨false, 1, -1⟩
  maximumPositionLoss := .ofInt 500
  maximumEquityRiskFraction := ⟨false, 5, -2⟩
  maximumLifetimeEntries := 5
  maximumLifetimeRisk := .ofInt 2000
  equityFloor := .ofInt 1000
  maximumQuantity := 2
  valid := by decide +kernel

def rehearsedLeg (symbol : String) (intent : PositionIntent) (strike bid ask : Decimal) :
    OptionLeg where
  instrumentKind := .option
  symbol := symbol
  underlying := "SPY"
  right := .call
  strike := strike
  expiry := ⟨1, 2, 1⟩
  intent := intent
  ratio := 1
  multiplier := 100
  active := true
  tradable := true
  bid := bid
  ask := ask
  bidSize := 10
  askSize := 10
  quoteAt := Calendar.seconds 600
  feed := .indicativeModified
  greeksComplete := true
  greekUnitsVerified := true

/-- A bull call of four dollars width at an approved limit. -/
def rehearsedCandidate (limit : Decimal) : VerticalCandidate where
  strategy := .bullCallDebit
  legs := [
    rehearsedLeg "SPY100" .buyToOpen (.ofInt 100) ⟨false, 195, -2⟩ ⟨false, 200, -2⟩,
    rehearsedLeg "SPY104" .sellToOpen (.ofInt 104) ⟨false, 50, -2⟩ ⟨false, 51, -2⟩]
  quantity := 1
  dte := 31
  approvedLimit := limit
  candidateScore := 80
  selectionRank := 1
  buyingPowerSufficient := true

/-- The input that offers the candidate. -/
def rehearsedInput (limit : Decimal) : OpportunityInput where
  opportunityKey := "EARNINGS"
  underlying := "SPY"
  observedDecisionBoundary := Calendar.seconds 600
  evaluatedAt := Calendar.seconds 610
  completedBarAt := Calendar.seconds 600
  decisionBoundaryComplete := true
  priorDecisionOutcome := none
  dataQuality := .complete
  marketOpen := true
  tradingHalted := .notHalted
  underlyingObservedAt := Calendar.seconds 600
  catalystObservedAt := Calendar.seconds 600
  catalystQuality := .clear
  catalystScore := 80
  vwapDistance := ⟨false, 5, -2⟩
  relativeReturn := ⟨false, 5, -2⟩
  beta := ⟨false, 1, 0⟩
  bullTrendHits := 3
  bearTrendHits := 0
  absoluteFirstReaction := ⟨false, 5, -2⟩
  candidate := some (rehearsedCandidate limit)
  account := {
    accountRole := .submission
    bookFingerprint := String.ofList (List.replicate 64 'a')
    baselineClean := true
    cleanEquity := .ofInt 100000
    openPositionCount := 0
    openOrderCount := 0
    filledEntryCount := 0
    lifetimeApprovedRisk := .ofInt 0
    entryReservationActive := false
    reservedApprovedRisk := .ofInt 0
    eventAlreadyAttempted := false }

def dollarLimit : Decimal := ⟨false, 100, -2⟩

/-- A limit above one dollar by less than the context keeps. -/
def longLimit : Decimal := ⟨false, 10 ^ 28 + 1, -28⟩

theorem rehearsed_evaluated : ∀ limit ∈ [dollarLimit, longLimit],
    evaluateOpportunity rehearsedPolicy (rehearsedInput limit) =
      .ok (entryApproved rehearsedPolicy (rehearsedInput limit) .bullish
        (rehearsedCandidate limit)) := by
  decide +kernel

/-- In the rehearsal at one dollar no step of the loss needs more digits. -/
theorem dollar_lossExact : (rehearsedCandidate dollarLimit).LossExact where
  debit _ := by
    obtain ⟨d, hvalue, hfits⟩ := @exists_fits 1 1 0 (by norm_num)
      (by norm_num) (by decide)
    refine ⟨d, hvalue.trans ?_, hfits⟩
    norm_num [rehearsedCandidate, dollarLimit, VerticalCandidate.highestLimit, value, significand]
  width h := nomatch h
  net h := nomatch h
  credit h := nomatch h

/-- In the rehearsal the entry at one dollar is approved, and no price loses more than its loss. -/
theorem approved_risk_rehearsed :
    ∃ candidate loss, (rehearsedInput dollarLimit).candidate = some candidate ∧
      (entryApproved rehearsedPolicy (rehearsedInput dollarLimit) .bullish
        (rehearsedCandidate dollarLimit)).approvedMaxLoss = some loss ∧
      0 < loss.value ∧ loss.value ≤ rehearsedPolicy.maximumPositionLoss.value ∧
      ∀ price fill : ℝ, 0 ≤ price → candidate.FillAllowed fill →
        candidate.lossAtExpiry price fill ≤ (loss.value : ℝ) := by
  obtain ⟨candidate, loss, hcandidate, hloss, hpos, hcap, -, -, hbound⟩ :=
    approved_risk_bounds (rehearsed_evaluated dollarLimit (by simp)) rfl
  obtain rfl := Option.some.inj hcandidate
  exact ⟨_, loss, hcandidate, hloss, hpos, hcap, hbound dollar_lossExact⟩

/-- In the rehearsal at a limit of twenty-nine digits the loss that is approved is below the loss
at a price of zero and a fill at the limit. -/
theorem approved_risk_exceeded :
    ∃ candidate loss, evaluateOpportunity rehearsedPolicy (rehearsedInput longLimit) =
        .ok (entryApproved rehearsedPolicy (rehearsedInput longLimit) .bullish candidate) ∧
      (entryApproved rehearsedPolicy (rehearsedInput longLimit) .bullish
        candidate).approvedMaxLoss = some loss ∧
      ∃ price fill : ℝ, 0 ≤ price ∧ candidate.FillAllowed fill ∧
        (loss.value : ℝ) < candidate.lossAtExpiry price fill := by
  refine ⟨rehearsedCandidate longLimit, approvedMaxLoss (rehearsedCandidate longLimit),
    rehearsed_evaluated longLimit (by simp), rfl, 0, ((longLimit.value : ℚ) : ℝ), le_rfl,
    ⟨le_rfl, fun _ => le_rfl⟩, ?_⟩
  have hloss : approvedMaxLoss (rehearsedCandidate longLimit) = ⟨false, 10 ^ 27, -25⟩ := by
    decide +kernel
  have hlimit : longLimit.value = 1 + 1 / 10 ^ 28 := by
    norm_num [longLimit, value, significand]
  have hrounded : (⟨false, 10 ^ 27, -25⟩ : Decimal).value = 100 := by
    norm_num [value, significand]
  have hpayoff : (rehearsedCandidate longLimit).payoffAtExpiry 0 = 0 := by
    norm_num [VerticalCandidate.payoffAtExpiry, rehearsedCandidate, rehearsedLeg,
      OptionLeg.payoff, VerticalSpread.callPayoff, PositionIntent.direction]
  rw [hloss, hrounded, VerticalCandidate.lossAtExpiry, hpayoff]
  norm_num [VerticalCandidate.premium, rehearsedCandidate, VerticalStrategy.isDebit, hlimit]

end Rehearsed

end AlphaDecay.Policy
