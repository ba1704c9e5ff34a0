import AlphaDecay.Policy.ApprovedRisk

/-!
# The order of the legs

Most checks find the legs of a candidate by their intents, or ask the same of both. The payoff of a
structural pilot reads them by their position. `legOrder_iff` says exactly when swapping the legs
changes the decision: when a candidate reaches that payoff and its highest limit is within what one
order of the legs pays but not within what the other pays.
-/

namespace AlphaDecay.Policy

open Foundation

/-- The candidate with its legs in the opposite order. -/
def VerticalCandidate.swapped (candidate : VerticalCandidate) : VerticalCandidate :=
  { candidate with legs := candidate.legs.reverse }

/-- The input that offers the candidate with its legs in the opposite order. -/
def OpportunityInput.swapped (values : OpportunityInput) : OpportunityInput :=
  { values with candidate := values.candidate.map VerticalCandidate.swapped }

structure SameDecision (left right : OpportunityDecisionRecord) : Prop where
  outcome : left.outcome = right.outcome
  reasonCodes : left.reasonCodes = right.reasonCodes
  direction : left.direction = right.direction
  strategy : left.strategy = right.strategy
  quantity : left.quantity = right.quantity
  approvedMaxLoss : left.approvedMaxLoss.map Decimal.value = right.approvedMaxLoss.map Decimal.value

section Swapped

variable {policy : OpportunityPolicyFields} {values : OpportunityInput}
  {candidate : VerticalCandidate} {first second : OptionLeg}

variable {profile : StructuralBullishPilotProfile}

theorem swapped_legs (hlegs : candidate.legs = [first, second]) :
    candidate.swapped.legs = [second, first] := by
  rw [VerticalCandidate.swapped, hlegs]
  rfl

theorem VerticalCandidate.swapped_swapped (candidate : VerticalCandidate) :
    candidate.swapped.swapped = candidate := by
  simp only [swapped, List.reverse_reverse]

/-! ## Checks that do not depend on the order -/

theorem exists_leg_swapped {p : OptionLeg → Prop} :
    (∃ leg ∈ candidate.swapped.legs, p leg) ↔ ∃ leg ∈ candidate.legs, p leg := by
  simp only [VerticalCandidate.swapped, List.mem_reverse]

theorem legsPair_comm : LegsPair first second ↔ LegsPair second first := by
  have hone : ∀ {first second : OptionLeg}, LegsPair first second → LegsPair second first := by
    rintro first second ⟨hsymbol, hunderlying, hright, hexpiry, hstrike, hm, hm', hr, hr'⟩
    refine ⟨hsymbol.symm, hunderlying.symm, hright.symm, hexpiry.symm, ?_, hm', hm, hr', hr⟩
    rw [← Bool.not_eq_true, Decimal.beq_iff_value] at hstrike ⊢
    exact fun h => hstrike h.symm
  exact ⟨hone, hone⟩

/-- The leg with an intent does not depend on the order when the legs have different intents. -/
theorem byIntent_swapped (hlegs : candidate.legs = [first, second])
    (hintent : first.intent ≠ second.intent) (intent : PositionIntent) :
    candidate.swapped.byIntent intent = candidate.byIntent intent := by
  simp only [VerticalCandidate.byIntent, swapped_legs hlegs, hlegs, List.reverse_cons,
    List.reverse_nil, List.nil_append, List.cons_append, List.find?_cons, List.find?_nil]
  by_cases hfirst : first.intent = intent
  · have hsecond : second.intent ≠ intent := fun h => hintent (hfirst.trans h.symm)
    simp [hfirst, hsecond]
  · by_cases hsecond : second.intent = intent <;> simp [hfirst, hsecond]

theorem isVertical_same_intent (hlegs : candidate.legs = [first, second])
    (hintent : first.intent = second.intent) : isVertical candidate = false := by
  by_contra hvertical
  obtain ⟨bought, sold, h, -, -⟩ :=
    verticalLegs_of_isVertical (Bool.eq_true_of_not_eq_false hvertical)
  have hb := h.boughtIntent
  have hs := h.soldIntent
  rcases h.legs with hpair | hpair
  · rw [hlegs] at hpair
    obtain ⟨rfl, rfl⟩ : first = bought ∧ second = sold := by simpa using hpair
    rw [← hintent, hb] at hs
    cases hs
  · rw [hlegs] at hpair
    obtain ⟨rfl, rfl⟩ : first = sold ∧ second = bought := by simpa using hpair
    rw [hintent, hb] at hs
    cases hs

/-- A vertical is one in either order of its legs. -/
theorem isVertical_swapped (hlegs : candidate.legs = [first, second]) :
    isVertical candidate.swapped = isVertical candidate := by
  by_cases hintent : first.intent = second.intent
  · rw [isVertical_same_intent hlegs hintent,
      isVertical_same_intent (swapped_legs hlegs) hintent.symm]
  · simp only [isVertical, swapped_legs hlegs, hlegs, byIntent_swapped hlegs hintent,
      decide_eq_decide.mpr (show LegsPair second first ↔ LegsPair first second from legsPair_comm)]
    rfl

theorem quoteSkew_swapped (hlegs : candidate.legs = [first, second]) :
    quoteSkew candidate.swapped.legs = quoteSkew candidate.legs := by
  simp only [swapped_legs hlegs, hlegs, quoteSkew, List.map_cons, List.map_nil, List.foldl_cons,
    List.foldl_nil, max_comm second.quoteAt, min_comm second.quoteAt]

/-- The checks of the terms do not depend on the order of the legs. -/
theorem candidateTermsFailure_swapped (hlegs : candidate.legs = [first, second]) :
    candidateTermsFailure policy values candidate.swapped =
      candidateTermsFailure policy values candidate := by
  have hlength : candidate.swapped.legs.length = candidate.legs.length := List.length_reverse
  by_cases hvertical : isVertical candidate = true
  · have hexpiry : first.expiry = second.expiry := by
      unfold isVertical at hvertical
      rw [hlegs] at hvertical
      simp only [Bool.and_eq_true, decide_eq_true_eq] at hvertical
      exact hvertical.1.2.2.2.1
    have hhead : (∃ leg ∈ candidate.swapped.legs.head?,
        candidate.swapped.dte ≠ daysUntil values.observedDecisionBoundary leg.expiry) ↔
        ∃ leg ∈ candidate.legs.head?,
          candidate.dte ≠ daysUntil values.observedDecisionBoundary leg.expiry := by
      simp only [swapped_legs hlegs, hlegs, List.head?_cons, Option.mem_some_iff, exists_eq_left',
        hexpiry]
      exact Iff.rfl
    simp only [candidateTermsFailure, exists_leg_swapped, isVertical_swapped hlegs, hlength,
      quoteSkew_swapped hlegs, hhead]
    rfl
  · have hnone := Bool.eq_false_of_not_eq_true hvertical
    simp only [candidateTermsFailure, exists_leg_swapped, isVertical_swapped hlegs, hlength, hnone,
      if_true]
    rfl

/-- The spread of a valid quote is decided to be too wide, or not. -/
theorem quoteTooWide_isSome {leg : OptionLeg} (h : QuoteValid leg) (maximum : Decimal) :
    ∃ wide, quoteTooWide maximum leg = .ok wide := by
  obtain ⟨⟨hbid, hask⟩, -, -⟩ := h
  rw [Decimal.lt_iff_value, Decimal.value_ofInt, Int.cast_zero] at hbid
  rw [Decimal.le_iff_value] at hask
  have hsum : 0 < (leg.bid + leg.ask).value := Decimal.value_add_pos.mpr (by linarith)
  have htwo : 0 < (Decimal.ofInt 2).value := by
    rw [Decimal.value_ofInt]
    norm_num
  obtain ⟨midpoint, hmidpoint⟩ := Decimal.div_isSome htwo (a := leg.bid + leg.ask)
  have hpositive : 0 < midpoint.value := Decimal.value_div_pos hmidpoint hsum htwo
  obtain ⟨spread, hspread⟩ := Decimal.div_isSome hpositive (a := leg.ask - leg.bid)
  refine ⟨decide (maximum < spread), ?_⟩
  simp only [quoteTooWide, relativeSpread, divide, hmidpoint, hspread, require, ok_bind]
  rfl

/-- Whether a quote of two valid ones is too wide does not depend on the order of the legs. -/
theorem wide_swapped (hlegs : candidate.legs = [first, second])
    (hquoted : ∀ leg ∈ candidate.legs, QuoteValid leg) (maximum : Decimal) :
    ∃ wide, candidate.legs.anyM (quoteTooWide maximum) = .ok wide ∧
      candidate.swapped.legs.anyM (quoteTooWide maximum) = .ok wide := by
  rw [swapped_legs hlegs, hlegs]
  rw [hlegs] at hquoted
  obtain ⟨left, hleft⟩ := quoteTooWide_isSome (hquoted first (by simp)) maximum
  obtain ⟨right, hright⟩ := quoteTooWide_isSome (hquoted second (by simp)) maximum
  refine ⟨left || right, ?_, ?_⟩
  · simp only [List.anyM, hleft, hright, ok_bind]
    cases left <;> cases right <;> rfl
  · simp only [List.anyM, hleft, hright, ok_bind]
    cases left <;> cases right <;> rfl

/-! ## The payoff -/

/-- What a structural pilot asks of the payoff of a candidate but for the order of its legs. -/
structure PilotTerms (policy : OpportunityPolicyFields) (candidate : VerticalCandidate)
    (profile : StructuralBullishPilotProfile) (first second : OptionLeg) : Prop where
  strategy : candidate.strategy = profile.strategy
  quantity : candidate.quantity = policy.maximumQuantity
  rights : first.right = profile.right ∧ second.right = profile.right
  width : (second.strike - first.strike).abs.value = profile.width.value
  limits : 0 < candidate.approvedLimit.value ∧
    candidate.approvedLimit.value ≤ candidate.highestLimit.value
  debit : candidate.highestLimit.value ≤ profile.maximumDebit.value
  reward : (profile.minimumRewardToRisk * candidate.highestLimit).value ≤
    ((second.strike - first.strike).abs - candidate.highestLimit).value

/-- What a structural pilot asks besides does not depend on the order. -/
theorem PilotTerms.swapped (h : PilotTerms policy candidate profile first second) :
    PilotTerms policy candidate.swapped profile second first where
  strategy := h.strategy
  quantity := h.quantity
  rights := h.rights.symm
  width := by rw [Decimal.value_abs_sub_comm, h.width]
  limits := h.limits
  debit := h.debit
  reward := by
    refine h.reward.trans_eq ?_
    exact Decimal.value_sub_congr (Decimal.value_abs_sub_comm _ _) rfl

/-- The payoff of a structural pilot reads the legs by their position. -/
theorem structuralPilotPayoffValid_iff (hlegs : candidate.legs = [first, second]) :
    structuralPilotPayoffValid policy candidate profile = true ↔
      PilotTerms policy candidate profile first second ∧
        candidate.highestLimit ≤ first.ask - second.bid := by
  unfold structuralPilotPayoffValid
  rw [hlegs]
  by_cases hmismatch : candidate.strategy ≠ profile.strategy ∨
      candidate.quantity ≠ policy.maximumQuantity
  · rw [if_pos hmismatch]
    refine iff_of_false Bool.false_ne_true ?_
    rintro ⟨h, -⟩
    rcases hmismatch with hstrategy | hquantity
    · exact hstrategy h.strategy
    · exact hquantity h.quantity
  · rw [if_neg hmismatch]
    rw [not_or, not_not, not_not] at hmismatch
    simp only [decide_eq_true_eq, Decimal.beq_iff_value, Decimal.lt_iff_value,
      Decimal.le_iff_value, Decimal.value_ofInt, Int.cast_zero]
    constructor
    · rintro ⟨hfirst, hsecond, hwidth, ⟨hpositive, hordered, hpaid⟩, hdebit, hreward⟩
      exact ⟨⟨hmismatch.1, hmismatch.2, ⟨hfirst, hsecond⟩, hwidth, ⟨hpositive, hordered⟩, hdebit,
        hreward⟩, hpaid⟩
    · rintro ⟨h, hpaid⟩
      exact ⟨h.rights.1, h.rights.2, h.width, ⟨h.limits.1, h.limits.2, hpaid⟩, h.debit, h.reward⟩

/-- The payoff of a vertical within the fractions of the policy is decided, and the legs are found
by their intents. -/
theorem payoffGeometryValid_swapped (hlegs : candidate.legs = [first, second])
    (hvertical : isVertical candidate = true) :
    ∃ valid, payoffGeometryValid policy candidate = .ok valid ∧
      payoffGeometryValid policy candidate.swapped = .ok valid := by
  have hintent : first.intent ≠ second.intent := by
    intro hsame
    rw [isVertical_same_intent hlegs hsame] at hvertical
    cases hvertical
  obtain ⟨bought, sold, h, hbought, hsold⟩ := verticalLegs_of_isVertical hvertical
  have hwidth : 0 < (bought.strike - sold.strike).abs.value := Decimal.value_abs_sub_pos h.strikes
  have hsame : payoffGeometryValid policy candidate.swapped =
      payoffGeometryValid policy candidate := by
    simp only [payoffGeometryValid, byIntent_swapped hlegs hintent]
    rfl
  simp only [hsame, and_self]
  unfold payoffGeometryValid
  simp only [hbought, hsold, require, ok_bind]
  split
  · obtain ⟨natural, hnatural⟩ := divide_isSome (a := bought.ask - sold.bid) hwidth
    obtain ⟨approved, happroved⟩ := divide_isSome (a := candidate.approvedLimit) hwidth
    obtain ⟨highest, hhighest⟩ := divide_isSome (a := candidate.highestLimit) hwidth
    rw [hnatural, ok_bind, happroved, ok_bind, hhighest, ok_bind]
    exact ⟨_, rfl⟩
  · obtain ⟨natural, hnatural⟩ := divide_isSome (a := sold.bid - bought.ask) hwidth
    obtain ⟨approved, happroved⟩ := divide_isSome (a := candidate.approvedLimit) hwidth
    rw [hnatural, ok_bind, happroved, ok_bind]
    exact ⟨_, rfl⟩

/-- The payoff is that of a structural pilot but for the order of the legs, and only one order pays
the highest limit. -/
def PayoffByPosition (policy : OpportunityPolicyFields) (candidate : VerticalCandidate)
    (first second : OptionLeg) : Prop :=
  ∃ profile, structuralPilotProfile policy.opportunityKey = some profile ∧
    PilotTerms policy candidate profile first second ∧
    ¬(candidate.highestLimit ≤ first.ask - second.bid ↔
      candidate.highestLimit ≤ second.ask - first.bid)

/-- The payoff of a vertical is decided for both orders of its legs, and differs exactly when it is
read by position. -/
theorem payoffValid_swapped (policy : OpportunityPolicyFields)
    (hlegs : candidate.legs = [first, second]) (hvertical : isVertical candidate = true) :
    ∃ valid other, payoffValid policy candidate = .ok valid ∧
      payoffValid policy candidate.swapped = .ok other ∧
      (valid = other ↔ ¬PayoffByPosition policy candidate first second) := by
  unfold payoffValid PayoffByPosition
  cases hprofile : structuralPilotProfile policy.opportunityKey with
  | none =>
      obtain ⟨valid, hvalid, hswapped⟩ := payoffGeometryValid_swapped hlegs hvertical
      refine ⟨valid, valid, hvalid, hswapped, iff_of_true rfl ?_⟩
      rintro ⟨profile, hother, -⟩
      cases hother
  | some profile =>
      refine ⟨_, _, rfl, rfl, ?_⟩
      rw [Bool.eq_iff_iff, structuralPilotPayoffValid_iff hlegs,
        structuralPilotPayoffValid_iff (swapped_legs hlegs)]
      have hterms : PilotTerms policy candidate.swapped profile second first ↔
          PilotTerms policy candidate profile first second :=
        ⟨fun h => candidate.swapped_swapped ▸ h.swapped, fun h => h.swapped⟩
      have hlimit : candidate.swapped.highestLimit = candidate.highestLimit := rfl
      rw [hterms, hlimit, and_congr_right_iff]
      constructor
      · rintro h ⟨other, hother, hpilot, hdiffers⟩
        cases hother
        exact hdiffers (h hpilot)
      · intro h hpilot
        by_contra hdiffers
        exact h ⟨profile, rfl, hpilot, hdiffers⟩

/-! ## The checks of the candidate -/

/-- A candidate passes all the checks before the one of its payoff. -/
structure ReachesPayoff (policy : OpportunityPolicyFields) (values : OpportunityInput)
    (candidate : VerticalCandidate) : Prop where
  terms : candidateTermsFailure policy values candidate = none
  narrow : candidate.legs.anyM
    (quoteTooWide (candidateBounds policy).maximumRelativeSpread) = .ok false
  greeks : ∀ leg ∈ candidate.legs, leg.greeksComplete = true ∧ leg.greekUnitsVerified = true

def payoffReason (valid : Bool) : Option OpportunityReason :=
  if valid = true then none else some .optionPayoffInvalid

/-- A candidate with two legs fails the same check before its payoff in both orders, or reaches its
payoff in both. -/
theorem optionCandidateFailure_swapped (policy : OpportunityPolicyFields)
    (values : OpportunityInput) (hlegs : candidate.legs = [first, second]) :
    (¬ReachesPayoff policy values candidate ∧ ∃ reason,
      optionCandidateFailure policy values candidate = .ok (some reason) ∧
      optionCandidateFailure policy values candidate.swapped = .ok (some reason)) ∨
    (ReachesPayoff policy values candidate ∧ ∃ valid other,
      optionCandidateFailure policy values candidate = .ok (payoffReason valid) ∧
      optionCandidateFailure policy values candidate.swapped = .ok (payoffReason other) ∧
      (valid = other ↔ ¬PayoffByPosition policy candidate first second)) := by
  cases hterms : candidateTermsFailure policy values candidate with
  | some reason =>
      refine .inl ⟨fun h => ?_, reason, ?_, ?_⟩
      · rw [h.terms] at hterms
        cases hterms
      · rw [optionCandidateFailure, hterms]
      · rw [optionCandidateFailure, candidateTermsFailure_swapped hlegs, hterms]
  | none =>
      have haccepted := candidateTermsFailure_none.mp hterms
      obtain ⟨wide, hwide, hwideSwapped⟩ := wide_swapped hlegs haccepted.quoted
        (candidateBounds policy).maximumRelativeSpread
      cases wide with
      | true =>
          refine .inl ⟨fun h => ?_, .optionQuoteTooWide, ?_, ?_⟩
          · rw [h.narrow] at hwide
            cases hwide
          · simp only [optionCandidateFailure, hterms, hwide, ok_bind, if_true]
            rfl
          · simp only [optionCandidateFailure, candidateTermsFailure_swapped hlegs, hterms,
              hwideSwapped, ok_bind, if_true]
            rfl
      | false =>
          by_cases hmissing : ∃ leg ∈ candidate.legs,
              leg.greeksComplete = false ∨ leg.greekUnitsVerified = false
          · refine .inl ⟨fun h => ?_, .optionGreeksMissing, ?_, ?_⟩
            · obtain ⟨leg, hleg, hmissing⟩ := hmissing
              obtain ⟨hcomplete, hverified⟩ := h.greeks leg hleg
              rw [hcomplete, hverified] at hmissing
              rcases hmissing with hmissing | hmissing <;> cases hmissing
            · simp only [optionCandidateFailure, hterms, hwide, ok_bind, Bool.false_eq_true,
                if_false, hmissing, if_true]
              rfl
            · simp only [optionCandidateFailure, candidateTermsFailure_swapped hlegs, hterms,
                hwideSwapped, ok_bind, Bool.false_eq_true, if_false, exists_leg_swapped, hmissing,
                if_true]
              rfl
          · obtain ⟨valid, other, hvalid, hother, hsame⟩ :=
              payoffValid_swapped policy hlegs haccepted.vertical
            refine .inr ⟨⟨hterms, hwide, ?_⟩, valid, other, ?_, ?_, hsame⟩
            · intro leg hleg
              simp only [not_exists, not_and, not_or, Bool.not_eq_false] at hmissing
              exact hmissing leg hleg
            · simp only [optionCandidateFailure, hterms, hwide, ok_bind, Bool.false_eq_true,
                if_false, hmissing, hvalid]
              rfl
            · simp only [optionCandidateFailure, candidateTermsFailure_swapped hlegs, hterms,
                hwideSwapped, ok_bind, Bool.false_eq_true, if_false, exists_leg_swapped, hmissing,
                hother]
              rfl

end Swapped

/-! ## The decision -/

section

variable {policy : OpportunityPolicy} {values : OpportunityInput}
  {candidate : VerticalCandidate} {first second : OptionLeg}
variable {reason : OpportunityReason}

variable {fields : OpportunityPolicyFields}

/-- The order of the legs matters to the decision: the candidate reaches its payoff, which is read
by position, and only one order of the legs pays the highest limit. -/
structure OrderMatters (policy : OpportunityPolicy) (values : OpportunityInput)
    (candidate : VerticalCandidate) (first second : OptionLeg) : Prop where
  input : inputFailure policy values = none
  reaches : ReachesPayoff policy.toOpportunityPolicyFields values candidate
  payoff : PayoffByPosition policy.toOpportunityPolicyFields candidate first second

def OpportunityInput.signals (values : OpportunityInput) : DirectionSignals where
  vwapDistance := values.vwapDistance
  relativeReturn := values.relativeReturn
  bullTrendHits := values.bullTrendHits
  bearTrendHits := values.bearTrendHits

/-- Where the order matters, the direction is that of the structural pilot, and the strategy of the
candidate is one of that direction. -/
theorem OrderMatters.direction (h : OrderMatters policy values candidate first second) :
    ∃ direction, deriveOpportunityDirection policy.toOpportunityPolicyFields values.signals =
      some direction ∧ candidate.strategy ∈ directionStrategies direction := by
  obtain ⟨profile, hprofile, hpilot, -⟩ := h.payoff
  have hspy : policy.underlying = "SPY" := by
    have hinput := h.input
    simp only [inputFailure, ite_some_eq_none, hprofile, Option.isSome_some, true_and, not_or,
      ne_eq, not_not] at hinput
    exact hinput.1.2.2
  refine ⟨profile.direction, ?_, ?_⟩
  · simp only [deriveOpportunityDirection, hprofile, hspy, decide_true]
  · rw [hpilot.strategy, StructuralBullishPilotProfile.strategy]
    cases profile.direction <;> decide

theorem accountFailure_congr {loss other : Decimal} (h : loss.value = other.value) :
    accountFailure fields values loss = accountFailure fields values other := by
  have hsum := Decimal.value_add_congr (rfl : values.account.lifetimeApprovedRisk.value = _) h
  simp only [accountFailure, Decimal.lt_iff_value (b := loss), Decimal.lt_iff_value (b := other),
    Decimal.lt_iff_value (b := values.account.lifetimeApprovedRisk + loss),
    Decimal.lt_iff_value (b := values.account.lifetimeApprovedRisk + other), hsum, h]

/-- No check of the account names the payoff. -/
theorem accountFailure_ne {loss : Decimal} :
    accountFailure fields values loss ≠ some .optionPayoffInvalid := by
  have hchain : ∀ {condition : Prop} [Decidable condition] {reason : OpportunityReason}
      {rest : Option OpportunityReason}, reason ≠ .optionPayoffInvalid →
      rest ≠ some .optionPayoffInvalid →
      (if condition then some reason else rest) ≠ some .optionPayoffInvalid := by
    intro condition _ reason rest hreason hrest
    split
    · exact fun h => hreason (Option.some.inj h)
    · exact hrest
  unfold accountFailure
  repeat refine hchain (by decide) ?_
  exact nofun

/-- The largest loss does not depend on the order of the legs. -/
theorem approvedMaxLoss_swapped (hlegs : candidate.legs = [first, second]) :
    (approvedMaxLoss candidate.swapped).value = (approvedMaxLoss candidate).value := by
  have hstrategy : candidate.swapped.strategy = candidate.strategy := rfl
  unfold approvedMaxLoss
  rw [swapped_legs hlegs, hlegs, hstrategy]
  by_cases hdebit : candidate.strategy.isDebit = true
  · rw [if_pos hdebit, if_pos hdebit]
    rfl
  · rw [if_neg hdebit, if_neg hdebit]
    refine Decimal.value_mul_congr (Decimal.value_mul_congr ?_ rfl) rfl
    exact Decimal.value_sub_congr (Decimal.value_abs_sub_comm _ _) rfl

variable [Digest]

theorem sameDecision_rejected (reason : OpportunityReason)
    (direction : Option OpportunityDirection) :
    SameDecision (rejected policy values reason direction)
      (rejected policy values.swapped reason direction) :=
  ⟨rfl, rfl, rfl, rfl, rfl, rfl⟩

/-- The decision on a candidate whose payoff is valid: the account rejects it, or it is approved. -/
def accountDecision (policy : OpportunityPolicy) (values : OpportunityInput)
    (direction : OpportunityDirection) (candidate : VerticalCandidate) :
    OpportunityDecisionRecord :=
  match accountFailure policy.toOpportunityPolicyFields values (approvedMaxLoss candidate) with
  | some reason => rejected policy values reason (some direction)
  | none => entryApproved policy values direction candidate

/-- The decision on a candidate that reaches its payoff. -/
def payoffDecision (policy : OpportunityPolicy) (values : OpportunityInput)
    (direction : OpportunityDirection) (candidate : VerticalCandidate) (valid : Bool) :
    OpportunityDecisionRecord :=
  if valid = true then accountDecision policy values direction candidate
  else rejected policy values .optionPayoffInvalid (some direction)

/-- A candidate with valid payoff is decided by the account the same in both orders. -/
theorem sameDecision_account (hlegs : candidate.legs = [first, second])
    (direction : OpportunityDirection) :
    SameDecision (accountDecision policy values direction candidate)
      (accountDecision policy values.swapped direction candidate.swapped) := by
  have hloss := approvedMaxLoss_swapped hlegs
  have hfailure : accountFailure policy.toOpportunityPolicyFields values.swapped
      (approvedMaxLoss candidate.swapped) =
        accountFailure policy.toOpportunityPolicyFields values (approvedMaxLoss candidate) :=
    accountFailure_congr hloss
  unfold accountDecision
  rw [hfailure]
  cases accountFailure policy.toOpportunityPolicyFields values (approvedMaxLoss candidate) with
  | some reason => exact sameDecision_rejected reason (some direction)
  | none => exact ⟨rfl, rfl, rfl, rfl, rfl, congrArg some hloss.symm⟩

/-- A decision of the account does not name the payoff. -/
theorem accountDecision_reason (direction : OpportunityDirection) :
    (accountDecision policy values direction candidate).reasonCodes ≠ [.optionPayoffInvalid] := by
  unfold accountDecision
  cases hfailure : accountFailure policy.toOpportunityPolicyFields values
      (approvedMaxLoss candidate) with
  | some reason =>
      intro h
      have hreason : reason = .optionPayoffInvalid := (List.cons.inj h).1
      exact accountFailure_ne (hreason ▸ hfailure)
  | none =>
      intro h
      cases (List.cons.inj h).1

/-- A candidate that reaches its payoff is decided the same in both orders exactly when its payoff
is. -/
theorem sameDecision_payoff (hlegs : candidate.legs = [first, second])
    (direction : OpportunityDirection) (valid other : Bool) :
    SameDecision (payoffDecision policy values direction candidate valid)
      (payoffDecision policy values.swapped direction candidate.swapped other) ↔
      valid = other := by
  constructor
  · intro h
    cases valid with
    | true =>
        cases other with
        | true => rfl
        | false => exact absurd h.reasonCodes (accountDecision_reason direction)
    | false =>
        cases other with
        | true => exact absurd h.reasonCodes.symm (accountDecision_reason direction)
        | false => rfl
  · rintro rfl
    cases valid with
    | true => exact sameDecision_account hlegs direction
    | false => exact sameDecision_rejected .optionPayoffInvalid (some direction)

/-- The decision on a candidate that reaches its payoff follows from its payoff. -/
theorem evaluateCandidate_payoff {direction : OpportunityDirection} {valid : Bool}
    (hstrategy : candidate.strategy ∈ directionStrategies direction)
    (h : optionCandidateFailure policy.toOpportunityPolicyFields values candidate =
      .ok (payoffReason valid)) :
    evaluateCandidate policy values direction candidate =
      .ok (payoffDecision policy values direction candidate valid) := by
  unfold evaluateCandidate
  rw [if_neg (not_not.mpr hstrategy), h, ok_bind]
  cases valid with
  | false => rfl
  | true =>
      simp only [payoffReason, payoffDecision, accountDecision, if_true]
      cases accountFailure policy.toOpportunityPolicyFields values (approvedMaxLoss candidate) <;>
        rfl

/-- The decision on a candidate that fails an earlier check names its reason. -/
theorem evaluateCandidate_reason {direction : OpportunityDirection}
    (hstrategy : candidate.strategy ∈ directionStrategies direction)
    (h : optionCandidateFailure policy.toOpportunityPolicyFields values candidate =
      .ok (some reason)) :
    evaluateCandidate policy values direction candidate =
      .ok (rejected policy values reason (some direction)) := by
  unfold evaluateCandidate
  rw [if_neg (not_not.mpr hstrategy), h, ok_bind]
  rfl

/-- Both orders of the legs are decided. -/
def DecidedAlike (policy : OpportunityPolicy) (values : OpportunityInput) : Prop :=
  ∃ left right, evaluateOpportunity policy values = .ok left ∧
    evaluateOpportunity policy values.swapped = .ok right ∧ SameDecision left right

theorem DecidedAlike.of_rejected {direction : Option OpportunityDirection}
    (h : evaluateOpportunity policy values = .ok (rejected policy values reason direction))
    (hswapped : evaluateOpportunity policy values.swapped =
      .ok (rejected policy values.swapped reason direction)) : DecidedAlike policy values :=
  ⟨_, _, h, hswapped, sameDecision_rejected reason direction⟩

theorem evaluateOpportunity_input (hfailure : inputFailure policy values = some reason) :
    evaluateOpportunity policy values = .ok (rejected policy values reason none) := by
  rw [evaluateOpportunity, hfailure]

/-- An input without a direction is rejected. -/
theorem evaluateOpportunity_direction (hfailure : inputFailure policy values = none)
    (hdirection : deriveOpportunityDirection policy.toOpportunityPolicyFields values.signals =
      none) :
    evaluateOpportunity policy values =
      .ok (rejected policy values .directionNotConfirmed none) := by
  rw [OpportunityInput.signals] at hdirection
  rw [evaluateOpportunity, hfailure]
  simp only [hdirection]

/-- An input with a direction is decided by its candidate. -/
theorem evaluateOpportunity_candidate {direction : OpportunityDirection}
    (hfailure : inputFailure policy values = none)
    (hdirection : deriveOpportunityDirection policy.toOpportunityPolicyFields values.signals =
      some direction) (hcandidate : values.candidate = some candidate) :
    evaluateOpportunity policy values = evaluateCandidate policy values direction candidate := by
  rw [OpportunityInput.signals] at hdirection
  rw [evaluateOpportunity, hfailure]
  simp only [hdirection, hcandidate]

/-- The decision does not depend on the order of the legs exactly when that does not matter. -/
theorem decidedAlike_iff (hcandidate : values.candidate = some candidate)
    (hlegs : candidate.legs = [first, second]) :
    DecidedAlike policy values ↔ ¬OrderMatters policy values candidate first second := by
  have hswapped : values.swapped.candidate = some candidate.swapped := by
    rw [OpportunityInput.swapped, hcandidate]
    rfl
  have hinput : inputFailure policy values.swapped = inputFailure policy values := rfl
  have hsignals : values.swapped.signals = values.signals := rfl
  cases hfailure : inputFailure policy values with
  | some reason =>
      refine iff_of_true (.of_rejected (evaluateOpportunity_input hfailure)
        (evaluateOpportunity_input (hinput.trans hfailure))) fun h => ?_
      rw [h.input] at hfailure
      cases hfailure
  | none =>
      cases hdirection : deriveOpportunityDirection policy.toOpportunityPolicyFields
          values.signals with
      | none =>
          refine iff_of_true (.of_rejected (evaluateOpportunity_direction hfailure hdirection)
            (evaluateOpportunity_direction (hinput.trans hfailure)
              (hsignals ▸ hdirection))) fun h => ?_
          obtain ⟨direction, hderived, -⟩ := h.direction
          rw [hderived] at hdirection
          cases hdirection
      | some direction =>
          have hleft := evaluateOpportunity_candidate hfailure hdirection hcandidate
          have hright := evaluateOpportunity_candidate (hinput.trans hfailure)
            (hsignals ▸ hdirection) hswapped
          by_cases hstrategy : candidate.strategy ∈ directionStrategies direction
          · have hstrategySwapped : candidate.swapped.strategy ∈ directionStrategies direction :=
              hstrategy
            rcases optionCandidateFailure_swapped policy.toOpportunityPolicyFields values hlegs with
              ⟨hearlier, reason, hreason, hother⟩ | ⟨hreaches, valid, other, hvalid, hother, hsame⟩
            · have hother : optionCandidateFailure policy.toOpportunityPolicyFields values.swapped
                  candidate.swapped = .ok (some reason) := hother
              refine iff_of_true (.of_rejected
                (hleft.trans (evaluateCandidate_reason hstrategy hreason))
                (hright.trans (evaluateCandidate_reason hstrategySwapped hother))) fun h => ?_
              exact hearlier h.reaches
            · have hother : optionCandidateFailure policy.toOpportunityPolicyFields values.swapped
                  candidate.swapped = .ok (payoffReason other) := hother
              rw [evaluateCandidate_payoff hstrategy hvalid] at hleft
              rw [evaluateCandidate_payoff hstrategySwapped hother] at hright
              have hdecided : DecidedAlike policy values ↔ valid = other := by
                rw [← sameDecision_payoff hlegs direction valid other]
                constructor
                · rintro ⟨left, right, hl, hr, hdecision⟩
                  rw [hleft] at hl
                  rw [hright] at hr
                  cases hl
                  cases hr
                  exact hdecision
                · intro hdecision
                  exact ⟨_, _, hleft, hright, hdecision⟩
              rw [hdecided, hsame, not_iff_not]
              exact ⟨fun h => ⟨hfailure, hreaches, h⟩, fun h => h.payoff⟩
          · have hmismatch : ∀ {values : OpportunityInput} {candidate : VerticalCandidate},
                candidate.strategy ∉ directionStrategies direction →
                evaluateCandidate policy values direction candidate =
                  .ok (rejected policy values .verticalDirectionMismatch (some direction)) := by
              intro values candidate hnot
              rw [evaluateCandidate, if_pos hnot]
              rfl
            refine iff_of_true (.of_rejected (hleft.trans (hmismatch hstrategy))
              (hright.trans (hmismatch hstrategy))) fun h => ?_
            obtain ⟨derived, hderived, hallowed⟩ := h.direction
            rw [hdirection] at hderived
            cases hderived
            exact hstrategy hallowed

/-- Every debit that is approved has limits in order and at most what its legs pay, with the legs
found by their intents. -/
def DebitWithinNatural (policy : OpportunityPolicy) (values : OpportunityInput)
    (candidate : VerticalCandidate) : Prop :=
  ∀ record, evaluateOpportunity policy values = .ok record → record.outcome = .entryApproved →
    candidate.strategy.isDebit = true →
      ∃ bought sold, VerticalLegs candidate bought sold ∧
        candidate.approvedLimit ≤ candidate.highestLimit ∧
        candidate.highestLimit ≤ bought.ask - sold.bid

omit [Digest] in
/-- The payoff of an accepted debit whose order does not matter is within what its legs pay. -/
theorem CandidateAccepted.withinNatural
    (h : CandidateAccepted policy.toOpportunityPolicyFields values candidate)
    (hinput : inputFailure policy values = none) (hlegs : candidate.legs = [first, second])
    (horder : ¬OrderMatters policy values candidate first second)
    (hdebit : candidate.strategy.isDebit = true) :
    ∃ bought sold, VerticalLegs candidate bought sold ∧
      candidate.highestLimit ≤ bought.ask - sold.bid := by
  obtain ⟨bought, sold, hvertical, hbought, hsold⟩ := verticalLegs_of_isVertical h.terms.vertical
  refine ⟨bought, sold, hvertical, ?_⟩
  have hpayoff := h.payoff
  unfold payoffValid at hpayoff
  cases hprofile : structuralPilotProfile policy.opportunityKey with
  | none =>
      -- the legs are found by their intents
      rw [hprofile] at hpayoff
      simp only [payoffGeometryValid, hbought, hsold, require_some, ok_bind, hdebit,
        if_true] at hpayoff
      obtain ⟨naturalFraction, -, hpayoff⟩ := bind_ok.mp hpayoff
      obtain ⟨approvedFraction, -, hpayoff⟩ := bind_ok.mp hpayoff
      obtain ⟨maximumFraction, -, hpayoff⟩ := bind_ok.mp hpayoff
      exact (of_decide_eq_true (Except.ok.inj hpayoff)).2.1
  | some profile =>
      -- the legs are read by their position, and their order does not matter
      rw [hprofile] at hpayoff
      have hvalid : structuralPilotPayoffValid policy.toOpportunityPolicyFields candidate profile =
          true := Except.ok.inj hpayoff
      obtain ⟨hterms, hfirst⟩ := (structuralPilotPayoffValid_iff hlegs).mp hvalid
      have hboth : candidate.highestLimit ≤ first.ask - second.bid ↔
          candidate.highestLimit ≤ second.ask - first.bid := by
        by_contra hdiffer
        exact horder ⟨hinput, ⟨candidateTermsFailure_none.mpr h.terms, h.narrow, h.greeks⟩,
          profile, hprofile, hterms, hdiffer⟩
      rcases hvertical.legs with hpair | hpair
      · rw [hlegs] at hpair
        obtain ⟨rfl, rfl⟩ : first = bought ∧ second = sold := by simpa using hpair
        exact hfirst
      · rw [hlegs] at hpair
        obtain ⟨rfl, rfl⟩ : first = sold ∧ second = bought := by simpa using hpair
        exact hboth.mp hfirst

/-- An entry that is approved passed the checks of its input. -/
theorem approved_input {record : OpportunityDecisionRecord}
    (h : evaluateOpportunity policy values = .ok record)
    (happroved : record.outcome = .entryApproved) : inputFailure policy values = none := by
  cases hfailure : inputFailure policy values with
  | none => rfl
  | some reason =>
      rw [evaluateOpportunity_input hfailure] at h
      obtain rfl := Except.ok.inj h
      cases happroved

/-- The order of the legs of a candidate does not matter to the decision, and an approved debit is
within what its legs pay, exactly when no structural pilot reaches a payoff that only one order
pays. -/
theorem legOrder_iff (hcandidate : values.candidate = some candidate)
    (hlegs : candidate.legs = [first, second]) :
    (DecidedAlike policy values ∧ DebitWithinNatural policy values candidate) ↔
      ¬OrderMatters policy values candidate first second := by
  rw [← decidedAlike_iff hcandidate hlegs]
  refine ⟨fun h => h.1, fun halike => ⟨halike, fun record hrecord happroved hdebit => ?_⟩⟩
  have horder := (decidedAlike_iff hcandidate hlegs).mp halike
  obtain ⟨accepted, haccepted, h, -, -⟩ := approved_candidate hrecord happroved
  rw [hcandidate] at haccepted
  obtain rfl := Option.some.inj haccepted
  obtain ⟨bought, sold, hvertical, hnatural⟩ :=
    h.withinNatural (approved_input hrecord happroved) hlegs horder hdebit
  refine ⟨bought, sold, hvertical, ?_, hnatural⟩
  exact Decimal.le_iff_value.mpr h.terms.ordered

end

/-! ## A pilot with its legs in either order -/

section Rehearsed

attribute [local instance] zeroDigest

/-- The rehearsed policy of a structural pilot. -/
def pilotPolicy : OpportunityPolicy :=
  { rehearsedPolicy with
    opportunityKey := "SPY_STRUCTURAL_BULLISH_BETA_PILOT_V1"
    valid := by decide +kernel }

/-- The input that offers the pilot two of the rehearsed bull calls for a dollar. -/
def pilotInput (legs : List OptionLeg) : OpportunityInput :=
  { rehearsedInput dollarLimit with
    opportunityKey := "SPY_STRUCTURAL_BULLISH_BETA_PILOT_V1"
    candidate := some { rehearsedCandidate dollarLimit with legs := legs, quantity := 2 } }

def boughtLeg (bid ask : Decimal) : OptionLeg :=
  rehearsedLeg "SPY100" .buyToOpen (.ofInt 100) bid ask

def soldLeg (bid ask : Decimal) : OptionLeg :=
  rehearsedLeg "SPY104" .sellToOpen (.ofInt 104) bid ask

/-- The legs of the pilot, the bought one first. -/
def orderedLegs : List OptionLeg :=
  [boughtLeg ⟨false, 195, -2⟩ ⟨false, 200, -2⟩, soldLeg ⟨false, 50, -2⟩ ⟨false, 51, -2⟩]

/-- Legs of the pilot whose sold one is quoted above the bought one, the sold one first. -/
def invertedLegs : List OptionLeg :=
  [soldLeg ⟨false, 195, -2⟩ ⟨false, 200, -2⟩, boughtLeg ⟨false, 50, -2⟩ ⟨false, 51, -2⟩]

/-- The pilot approves both lists of legs, and rejects the first in the opposite order. -/
theorem pilot_evaluated :
    (∀ legs ∈ [orderedLegs, invertedLegs],
      evaluateOpportunity pilotPolicy (pilotInput legs) =
        .ok (entryApproved pilotPolicy (pilotInput legs) .bullish
          { rehearsedCandidate dollarLimit with legs := legs, quantity := 2 })) ∧
      evaluateOpportunity pilotPolicy (pilotInput orderedLegs).swapped =
        .ok (rejected pilotPolicy (pilotInput orderedLegs).swapped .optionPayoffInvalid
          (some .bullish)) := by
  decide +kernel

/-- In the rehearsal without a pilot the order of the legs does not matter, and the debit that is
approved is within what its legs pay. -/
theorem legOrder_rehearsed :
    DecidedAlike rehearsedPolicy (rehearsedInput dollarLimit) ∧
      DebitWithinNatural rehearsedPolicy (rehearsedInput dollarLimit)
        (rehearsedCandidate dollarLimit) := by
  refine (legOrder_iff rfl rfl).mpr fun h => ?_
  obtain ⟨profile, hprofile, -⟩ := h.payoff
  cases hprofile

/-- In the rehearsal with a pilot a candidate is approved in one order of its legs and rejected in
the other, and a debit is approved above what its legs pay. -/
theorem legOrder_differs :
    (¬∀ (policy : OpportunityPolicy) (values : OpportunityInput) (candidate : VerticalCandidate),
      values.candidate = some candidate → candidate.legs.length = 2 →
        DecidedAlike policy values) ∧
    ¬∀ (policy : OpportunityPolicy) (values : OpportunityInput) (candidate : VerticalCandidate),
      values.candidate = some candidate → candidate.legs.length = 2 →
        DebitWithinNatural policy values candidate := by
  obtain ⟨happroved, hrejected⟩ := pilot_evaluated
  constructor
  · intro h
    obtain ⟨left, right, hleft, hright, hsame⟩ := h pilotPolicy (pilotInput orderedLegs) _ rfl rfl
    rw [happroved orderedLegs (by simp)] at hleft
    rw [hrejected] at hright
    obtain rfl := Except.ok.inj hleft
    obtain rfl := Except.ok.inj hright
    cases hsame.outcome
  · intro h
    obtain ⟨bought, sold, hlegs, -, hnatural⟩ := h pilotPolicy (pilotInput invertedLegs) _ rfl rfl
      _ (happroved invertedLegs (by simp)) rfl rfl
    rcases hlegs.legs with hpair | hpair
    · obtain ⟨rfl, rfl⟩ : soldLeg ⟨false, 195, -2⟩ ⟨false, 200, -2⟩ = bought ∧
          boughtLeg ⟨false, 50, -2⟩ ⟨false, 51, -2⟩ = sold := by
        simpa [invertedLegs] using hpair
      exact absurd hlegs.boughtIntent (by decide)
    · obtain ⟨rfl, rfl⟩ : soldLeg ⟨false, 195, -2⟩ ⟨false, 200, -2⟩ = sold ∧
          boughtLeg ⟨false, 50, -2⟩ ⟨false, 51, -2⟩ = bought := by
        simpa [invertedLegs] using hpair
      exact absurd hnatural (by decide +kernel)

end Rehearsed

end AlphaDecay.Policy
