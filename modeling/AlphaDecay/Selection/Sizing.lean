import AlphaDecay.Policy.ApprovedRisk
import AlphaDecay.Selection.Select

/-!
# The size of a selected candidate

A candidate is sized by the whole number of contracts that its position cap affords. Where cap and
loss share a unit with few enough digits, the rounded quotient reaches no whole number that the
exact one does not reach, so that the largest loss is within every amount of the cap.
-/

namespace AlphaDecay.Selection

open Foundation Decimal Policy

variable {policy : OpportunityPolicyFields} {authority : CandidateSelectionAuthority}
  {candidate : VerticalCandidate}

/-- What one share of a candidate loses at most: the highest limit of a debit, or the width less
the limit of a credit. -/
def shareLoss (candidate : VerticalCandidate) : Decimal :=
  if candidate.strategy.isDebit then candidate.highestLimit
  else match candidate.legs with
    | first :: second :: _ => (first.strike - second.strike).abs - candidate.approvedLimit
    | _ => Decimal.ofInt 0 - candidate.approvedLimit

/-- The largest loss of a candidate is that of its shares. -/
theorem approvedMaxLoss_eq (candidate : VerticalCandidate) :
    approvedMaxLoss candidate =
      shareLoss candidate * .ofInt candidate.quantity * .ofInt 100 := by
  unfold approvedMaxLoss shareLoss
  cases candidate.strategy.isDebit with
  | true => rfl
  | false =>
      simp only [Bool.false_eq_true, if_false]
      generalize candidate.legs = legs
      rcases legs with _ | ⟨first, _ | ⟨second, rest⟩⟩ <;> rfl

/-- The sizing of a candidate needs no rounding: the risk fraction of the equity fits the
precision, and the position cap and the loss of one contract are whole multiples of one unit, of
which the loss has at most twenty-six digits. -/
structure ExactSizing (policy : OpportunityPolicyFields) (authority : CandidateSelectionAuthority)
    (candidate : VerticalCandidate) : Prop where
  equity : Decimal.Representable
    (authority.observedEquity.value * policy.maximumEquityRiskFraction.value)
  scale : ∃ (places : Nat) (cap risk : Int),
    (positionCap policy authority).value = cap / 10 ^ places ∧
    (shareLoss candidate * .ofInt 100).value = risk / 10 ^ places ∧ risk < 10 ^ 26

structure Sized (policy : OpportunityPolicyFields) (authority : CandidateSelectionAuthority)
    (candidate : VerticalCandidate) : Prop where
  fits : (shareLoss candidate).Fits
  positive : 0 < (shareLoss candidate * .ofInt 100).value
  quantity : 1 ≤ candidate.quantity ∧ candidate.quantity ≤ maxStructuralOptionQuantity
  affordable : ∃ quotient,
    divide (positionCap policy authority) (shareLoss candidate * .ofInt 100) = .ok quotient ∧
      candidate.quantity ≤ quotient.floorInt

/-- A position cap is not above any of the amounts it is taken from. -/
theorem positionCap_le (policy : OpportunityPolicyFields)
    (authority : CandidateSelectionAuthority) :
    (positionCap policy authority).value ≤ policy.maximumPositionLoss.value ∧
      (positionCap policy authority).value ≤
        (authority.observedEquity * policy.maximumEquityRiskFraction).value ∧
      (positionCap policy authority).value ≤ authority.availableRisk.value ∧
      (positionCap policy authority).value ≤ authority.availableBuyingPower.value := by
  unfold positionCap
  have hfirst := minimum_le policy.maximumPositionLoss
    (authority.observedEquity * policy.maximumEquityRiskFraction)
  have hsecond := minimum_le (minimum policy.maximumPositionLoss
    (authority.observedEquity * policy.maximumEquityRiskFraction)) authority.availableRisk
  have hthird := minimum_le (minimum (minimum policy.maximumPositionLoss
    (authority.observedEquity * policy.maximumEquityRiskFraction)) authority.availableRisk)
    authority.availableBuyingPower
  exact ⟨hthird.1.trans (hsecond.1.trans hfirst.1), hthird.1.trans (hsecond.1.trans hfirst.2),
    hthird.1.trans hsecond.2, hthird.2⟩

/-- A whole number that a rounded quotient reaches is reached by the exact one, where dividend and
divisor share a unit of which the divisor has at most twenty-six digits. -/
theorem mul_le_of_le_floor {a b quotient : Decimal} {n cap risk : Int} {places : Nat}
    (h : divide a b = .ok quotient) (hn : 1 ≤ n) (hmost : n ≤ 100) (hle : n ≤ quotient.floorInt)
    (ha : a.value = cap / 10 ^ places) (hb : b.value = risk / 10 ^ places) (hpos : 0 < b.value)
    (hrisk : risk < 10 ^ 26) : n * b.value ≤ a.value := by
  have hten : (0 : ℚ) < 10 ^ places := by positivity
  rw [ha, hb, mul_div_assoc', div_le_div_iff_of_pos_right hten]
  by_contra hnot
  have hint : cap + 1 ≤ n * risk := by
    have hlt : (cap : ℚ) < ((n * risk : Int) : ℚ) := by
      push_cast
      exact not_le.mp hnot
    exact_mod_cast hlt
  -- the decimal just below the whole number
  let below : Decimal := ⟨false, (n * 10 ^ 26 - 1).toNat, -26⟩
  have hfits : below.Fits := by
    show (n * 10 ^ 26 - 1).toNat < 10 ^ 28
    omega
  have hbelow : below.value = n - 1 / 10 ^ 26 := by
    have hnat : (((n * 10 ^ 26 - 1).toNat : Int) : ℚ) = n * 10 ^ 26 - 1 := by
      rw [Int.toNat_of_nonneg (by omega)]
      push_cast
      ring
    show (((n * 10 ^ 26 - 1).toNat : Int) : ℚ) * (10 : ℚ) ^ (-26 : Int) = _
    rw [hnat]
    norm_num
    ring
  have hupper := value_div_le (require_ok.mp h) hfits hpos (by
    rw [ha, hb, hbelow, mul_div_assoc', div_le_div_iff_of_pos_right hten]
    have hcast : (cap : ℚ) + 1 ≤ n * risk := by exact_mod_cast hint
    have hsmall : (risk : ℚ) ≤ 10 ^ 26 := by exact_mod_cast hrisk.le
    linarith)
  rw [hbelow] at hupper
  rw [floorInt_eq] at hle
  have hreach : (n : ℚ) ≤ quotient.value := Int.le_floor.mp hle
  linarith

/-- The largest loss of a candidate is within every amount by which it was sized, in exact
arithmetic. -/
theorem Sized.loss_le (h : Sized policy authority candidate)
    (hexact : ExactSizing policy authority candidate) :
    (approvedMaxLoss candidate).value ≤ policy.maximumPositionLoss.value ∧
      (approvedMaxLoss candidate).value ≤
        authority.observedEquity.value * policy.maximumEquityRiskFraction.value ∧
      (approvedMaxLoss candidate).value ≤ authority.availableRisk.value ∧
      (approvedMaxLoss candidate).value ≤ authority.availableBuyingPower.value := by
  obtain ⟨places, cap, risk, hcap, hrisk, hdigits⟩ := hexact.scale
  obtain ⟨quotient, hquotient, hfloor⟩ := h.affordable
  have hmost : candidate.quantity ≤ 100 := h.quantity.2
  have hbound := mul_le_of_le_floor hquotient h.quantity.1 hmost hfloor hcap hrisk h.positive
    hdigits
  -- one contract is a hundred shares, exactly
  have hshare : Decimal.Representable (shareLoss candidate).value := ⟨_, rfl, h.fits⟩
  have hcontract : (shareLoss candidate * Decimal.ofInt 100).value =
      (shareLoss candidate).value * 100 := by
    have hscaled := hshare.scaled 2
    norm_num at hscaled
    rw [Decimal.Representable.value_mul (by rw [value_ofInt]; exact_mod_cast hscaled), value_ofInt]
    norm_num
  have hrepresentable :
      Decimal.Representable ((shareLoss candidate).value * candidate.quantity) := by
    have hten : (10 : ℚ) ^ places ≠ 0 := by positivity
    have hvalue : (shareLoss candidate).value * candidate.quantity =
        ((risk * candidate.quantity : Int) : ℚ) * (10 : ℚ) ^ (-(places + 2 : Nat) : Int) := by
      have hshares : (shareLoss candidate).value * 100 = risk / 10 ^ places :=
        hcontract.symm.trans hrisk
      rw [zpow_neg, zpow_natCast, pow_add]
      field_simp at hshares ⊢
      push_cast
      rw [← hshares]
      ring
    have hsign : 0 < risk := by
      have hpositive := h.positive
      rw [hrisk] at hpositive
      have hcast : (0 : ℚ) < risk := by
        by_contra hnot
        exact absurd hpositive (not_lt.mpr (div_nonpos_of_nonpos_of_nonneg (not_lt.mp hnot)
          (by positivity)))
      exact_mod_cast hcast
    have hproduct : risk * candidate.quantity < 10 ^ 28 := by
      have hone := h.quantity.1
      nlinarith
    have hproduct' : 0 ≤ risk * candidate.quantity :=
      Int.mul_nonneg hsign.le (by have hone := h.quantity.1; omega)
    refine ⟨ofScaled (risk * candidate.quantity) (-(places + 2 : Nat) : Int) false, ?_, ?_⟩
    · rw [value_ofScaled, hvalue]
    · show (risk * candidate.quantity).natAbs < 10 ^ 28
      omega
  have hloss : (approvedMaxLoss candidate).value =
      candidate.quantity * (shareLoss candidate * Decimal.ofInt 100).value := by
    rw [approvedMaxLoss_eq, value_hundreds hrepresentable, hcontract]
    ring
  obtain ⟨hposition, hequity, havailable, hpower⟩ := positionCap_le policy authority
  rw [hexact.equity.value_mul] at hequity
  rw [hloss]
  exact ⟨hbound.trans hposition, hbound.trans hequity, hbound.trans havailable,
    hbound.trans hpower⟩

/-- A quantity that is afforded is within its three bounds. -/
theorem affordableQuantity_ok {requested quantity : Int} {risk : Decimal}
    (h : affordableQuantity policy requested authority risk = .ok quantity) :
    quantity ≤ policy.maximumQuantity ∧ ∃ quotient,
      divide (positionCap policy authority) risk = .ok quotient ∧
        quantity ≤ quotient.floorInt := by
  obtain ⟨quotient, hquotient, h⟩ := bind_ok.mp h
  obtain rfl := Except.ok.inj h
  exact ⟨(min_le_left _ _).trans (min_le_right _ _), quotient, hquotient, min_le_right _ _⟩

end AlphaDecay.Selection
