import AlphaDecay.Selection.PolicyPairs

/-!
# Pairs of a structural pilot

The strikes of a pair of a structural pilot are read from contract symbols, so that they lie
exactly its width apart. Its limits, from the midpoint up and from the natural price down to whole
cents, make a payoff that the policy takes.
-/

namespace AlphaDecay.Selection

open Foundation Decimal Policy

/-! ## Strikes -/

/-- A whole number of thousandths with few digits fits. -/
theorem representable_thousandths {m : Int} (h : m.natAbs < 10 ^ 28) :
    Decimal.Representable ((m : ℚ) / 1000) := by
  refine ⟨ofScaled m (-3) false, ?_, h⟩
  rw [value_ofScaled]
  norm_num
  ring

/-- The strike of an option with its own symbol is a whole number of thousandths. -/
theorem strike_of_occMatches {option : OpportunityOption} (h : occMatches option = true) :
    ∃ n : Nat, n < 10 ^ 8 ∧ option.strike.value = n / 1000 := by
  unfold occMatches at h
  split at h
  · rename_i parsed hparsed
    rw [Bool.and_eq_true, beq_iff_value] at h
    have hvalue := h.2
    unfold parseStandardOptionContractSymbol at hparsed
    obtain ⟨symbol, hsymbol, hrest⟩ := bind_ok.mp hparsed
    obtain ⟨-, hrest⟩ := check_bind_ok.mp hrest
    obtain ⟨-, hrest⟩ := check_bind_ok.mp hrest
    obtain rfl := Except.ok.inj hrest
    unfold parseOptionContractSymbol at hsymbol
    obtain ⟨hshape, hrest⟩ := check_bind_ok.mp hsymbol
    obtain ⟨date, -, hrest⟩ := require_bind_ok.mp hrest
    obtain ⟨thousandths, hread, hrest⟩ := require_bind_ok.mp hrest
    obtain ⟨strike, hstrike, hrest⟩ := bind_ok.mp hrest
    obtain rfl := Except.ok.inj hrest
    rw [raiseIf_ok, Bool.not_eq_false'] at hshape
    simp only [Bool.and_eq_true] at hshape
    have hlength := of_decide_eq_true hshape.1.1.1.2
    have hlt := Text.readDigits_lt hread
    rw [List.length_drop, hlength] at hlt
    -- the quotient is the number itself, moved by three places
    have hpos : 0 < (Decimal.ofInt 1000).value := by
      rw [value_ofInt]
      norm_num
    have hwhole : (⟨false, thousandths, 0⟩ : Decimal).value = thousandths := by
      show ((thousandths : Int) : ℚ) * (10 : ℚ) ^ (0 : Int) = _
      simp
    have hquotient : (⟨false, thousandths, 0⟩ : Decimal).value / (Decimal.ofInt 1000).value =
        thousandths / 1000 := by
      rw [hwhole, value_ofInt]
      norm_num
    have hfits : Decimal.Representable ((thousandths : ℚ) / 1000) :=
      representable_thousandths (m := thousandths) (lt_trans hlt (by norm_num))
    refine ⟨thousandths, hlt, hvalue.symm.trans ?_⟩
    rw [← hquotient] at hfits ⊢
    exact hfits.value_div hpos (require_ok.mp hstrike)
  · cases h

/-! ## Pairs of a structural pilot -/

variable {snapshot : OpportunityMarketSnapshot} {policy : OpportunityPolicyFields}
  {authority : CandidateSelectionAuthority} {profile : StructuralBullishPilotProfile}
  {bought sold : OpportunityOption}

/-- What every structural pilot shares. -/
theorem structuralPilotProfile_some {key : String}
    (h : structuralPilotProfile key = some profile) :
    profile.width = ⟨false, 4, 0⟩ ∧ profile.minimumDte = 30 ∧
      profile.maximumRelativeSpread = ⟨false, 5, -2⟩ := by
  unfold structuralPilotProfile at h
  split at h
  · obtain rfl := Option.some.inj h
    exact ⟨rfl, rfl, rfl⟩
  · obtain rfl := Option.some.inj h
    exact ⟨rfl, rfl, rfl⟩
  · obtain rfl := Option.some.inj h
    exact ⟨rfl, rfl, rfl⟩
  · cases h

structure PilotPairOf (profile : StructuralBullishPilotProfile)
    (bought sold : OpportunityOption) : Prop where
  boughtRight : bought.right = pilotRight profile
  soldRight : sold.right = pilotRight profile
  expiry : sold.expiry = bought.expiry
  strikes : sold.strike.value = (bought.strike + strikeOffset profile).value

theorem pilotPairOf_matches (h : pilotMatches profile bought sold = true) :
    PilotPairOf profile bought sold := by
  unfold pilotMatches at h
  simp only [Bool.and_eq_true] at h
  obtain ⟨⟨⟨⟨hbought, -⟩, hsold⟩, hexpiry⟩, hstrike⟩ := h
  exact ⟨of_decide_eq_true hbought, of_decide_eq_true hsold, of_decide_eq_true hexpiry,
    beq_iff_value.mp hstrike⟩

/-- The strikes of a structural pilot lie four dollars apart, in the order of its direction. -/
theorem PilotPairOf.strike_distance (h : PilotPairOf profile bought sold)
    (hoption : occMatches bought = true) (hwidth : profile.width = ⟨false, 4, 0⟩) :
    sold.strike.value - bought.strike.value =
      (match profile.direction with | .bullish => 4 | .bearish => -4) := by
  obtain ⟨n, hn, hstrike⟩ := strike_of_occMatches hoption
  have hsold := h.strikes
  have hfour : (⟨false, 4, 0⟩ : Decimal).value = 4 := by
    norm_num [value, significand]
  have hnegative : (⟨false, 4, 0⟩ : Decimal).neg.round.value = -4 := by
    rw [round_of_neg, value_neg, round_eq_self (by decide), hfour]
  unfold strikeOffset at hsold
  rw [hwidth] at hsold
  cases hdirection : profile.direction with
  | bullish =>
      rw [hdirection] at hsold
      dsimp only at hsold ⊢
      have hrepresentable : Decimal.Representable (bought.strike.value +
        (⟨false, 4, 0⟩ : Decimal).value) := by
        rw [hstrike, hfour, show (n : ℚ) / 1000 + 4 = ((n + 4000 : Int) : ℚ) / 1000 by
          push_cast; ring]
        exact representable_thousandths (by omega)
      rw [hsold, hrepresentable.value_add, hfour]
      ring
  | bearish =>
      rw [hdirection] at hsold
      dsimp only at hsold ⊢
      have hrepresentable : Decimal.Representable
          (bought.strike.value + (⟨false, 4, 0⟩ : Decimal).neg.round.value) := by
        rw [hstrike, hnegative,
          show (n : ℚ) / 1000 + -4 = ((n - 4000 : Int) : ℚ) / 1000 by push_cast; ring]
        exact representable_thousandths (by omega)
      rw [hsold, hrepresentable.value_add, hnegative]
      ring

theorem PilotPairOf.width (h : PilotPairOf profile bought sold)
    (hoption : occMatches bought = true) (hwidth : profile.width = ⟨false, 4, 0⟩) :
    (sold.strike - bought.strike).abs.value = profile.width.value := by
  have hdistance := h.strike_distance hoption hwidth
  have hfour : (⟨false, 4, 0⟩ : Decimal).value = 4 := by
    norm_num [value, significand]
  rw [value_abs (fits_sub _ _), hwidth, hfour]
  cases hdirection : profile.direction with
  | bullish =>
      rw [hdirection] at hdistance
      dsimp only at hdistance
      have hrepresentable : Decimal.Representable (sold.strike.value - bought.strike.value) := by
        rw [hdistance]
        exact ⟨⟨false, 4, 0⟩, hfour, show 4 < 10 ^ precision by decide⟩
      rw [hrepresentable.value_sub, hdistance]
      norm_num
  | bearish =>
      rw [hdirection] at hdistance
      dsimp only at hdistance
      have hrepresentable : Decimal.Representable (sold.strike.value - bought.strike.value) := by
        rw [hdistance]
        exact ⟨⟨true, 4, 0⟩, by norm_num [value, significand],
          show 4 < 10 ^ precision by decide⟩
      rw [hrepresentable.value_sub, hdistance]
      norm_num

structure PilotQuotedOf (snapshot : OpportunityMarketSnapshot)
    (profile : StructuralBullishPilotProfile) (bought sold : OpportunityOption) : Prop where
  dte : profile.minimumDte ≤ daysUntil snapshot.underlyingBar.completedAt bought.expiry ∧
    daysUntil snapshot.underlyingBar.completedAt bought.expiry ≤ profile.maximumDte
  boughtAge : snapshot.trustedAt - bought.quoteAt ≤ profile.maximumQuoteAge
  soldAge : snapshot.trustedAt - sold.quoteAt ≤ profile.maximumQuoteAge
  skew : |bought.quoteAt - sold.quoteAt| ≤ profile.maximumQuoteSkew
  boughtSpread : ∃ spread, relativeSpread bought = .ok spread ∧
    spread.value ≤ profile.maximumRelativeSpread.value
  soldSpread : ∃ spread, relativeSpread sold = .ok spread ∧
    spread.value ≤ profile.maximumRelativeSpread.value

/-- Quotes that are within the bounds of a structural pilot. -/
theorem pilotQuotedOf_quoted (h : pilotQuoted snapshot bought sold profile = .ok true) :
    PilotQuotedOf snapshot profile bought sold := by
  unfold pilotQuoted at h
  dsimp only at h
  split at h
  · cases h
  rename_i hbounds
  simp only [not_or, not_not, not_lt] at hbounds
  obtain ⟨boughtSpread, hbought, h⟩ := bind_ok.mp h
  split at h
  · cases h
  rename_i hnarrow
  obtain ⟨soldSpread, hsold, h⟩ := bind_ok.mp h
  have hnarrow' := of_decide_eq_true (Except.ok.inj h)
  rw [lt_iff_value, not_lt] at hnarrow hnarrow'
  exact ⟨hbounds.1, hbounds.2.1, hbounds.2.2.1, hbounds.2.2.2, ⟨boughtSpread, hbought, hnarrow⟩,
    ⟨soldSpread, hsold, hnarrow'⟩⟩

structure PilotTermsOf (profile : StructuralBullishPilotProfile)
    (bought sold : OpportunityOption) (terms : PilotTerms) : Prop where
  positive : 0 < terms.initialLimit.value
  ordered : terms.initialLimit.value ≤ terms.maximumLimit.value
  natural : terms.maximumLimit.value ≤ (bought.ask - sold.bid).value
  fits : terms.maximumLimit.Fits
  debit : terms.maximumLimit.value ≤ profile.maximumDebit.value
  reward : (profile.minimumRewardToRisk * terms.maximumLimit).value ≤
    (profile.width - terms.maximumLimit).value
  risk : terms.riskPerContract = terms.maximumLimit * .ofInt 100
  score : ∃ boughtSpread soldSpread, relativeSpread bought = .ok boughtSpread ∧
    relativeSpread sold = .ok soldSpread ∧
    spreadScore profile.maximumRelativeSpread (maximum boughtSpread soldSpread) = .ok terms.score

/-- The terms of a pair of a structural pilot are quoted and within its limits. -/
theorem pilotTermsOf_terms {terms : PilotTerms}
    (h : structuralPilotTerms snapshot bought sold profile = .ok (some terms)) :
    PilotQuotedOf snapshot profile bought sold ∧ PilotTermsOf profile bought sold terms := by
  unfold structuralPilotTerms at h
  obtain ⟨quoted, hquoted, h⟩ := bind_ok.mp h
  split at h
  · cases h
  rename_i htrue
  rw [Bool.eq_true_of_not_eq_false htrue] at hquoted
  obtain ⟨midpoint, -, h⟩ := bind_ok.mp h
  obtain ⟨initial, -, h⟩ := require_bind_ok.mp h
  obtain ⟨highest, hhighest, h⟩ := require_bind_ok.mp h
  split at h
  · cases h
  rename_i hlimits
  simp only [not_or, le_iff_value, lt_iff_value, not_le, not_lt, value_ofInt,
    Int.cast_zero] at hlimits
  obtain ⟨boughtSpread, hbought, h⟩ := bind_ok.mp h
  obtain ⟨soldSpread, hsold, h⟩ := bind_ok.mp h
  obtain ⟨score, hscore, h⟩ := bind_ok.mp h
  obtain rfl := Option.some.inj (Except.ok.inj h)
  obtain ⟨-, hfits, hfloor, -⟩ := quantizeFloor_spec hhighest
  exact ⟨pilotQuotedOf_quoted hquoted, hlimits.1, hlimits.2.1, hfloor, hfits, hlimits.2.2.1,
    hlimits.2.2.2, rfl, boughtSpread, soldSpread, hbought, hsold, hscore⟩

theorem pilotPair_ranked {pair : OpportunityOption × OpportunityOption} {item : RankedCandidate}
    (h : pilotPair snapshot policy authority profile pair = .ok (.ranked item)) :
    PilotPairOf profile pair.1 pair.2 ∧ ∃ terms,
      PilotQuotedOf snapshot profile pair.1 pair.2 ∧ PilotTermsOf profile pair.1 pair.2 terms ∧
      affordableQuantity policy policy.maximumQuantity authority terms.riskPerContract =
        .ok policy.maximumQuantity ∧
      item.candidate = pilotCandidate policy authority profile pair.1 pair.2 terms := by
  unfold pilotPair at h
  split at h
  · cases h
  rename_i hmatches
  obtain ⟨found, hfound, h⟩ := bind_ok.mp h
  cases found with
  | none => cases h
  | some terms =>
      dsimp only at h
      obtain ⟨quantity, hquantity, h⟩ := bind_ok.mp h
      split at h
      · cases h
      · rename_i hfull
        rw [not_not.mp hfull] at hquantity
        obtain rfl := PairOutcome.ranked.inj (Except.ok.inj h)
        obtain ⟨hquoted, hterms⟩ := pilotTermsOf_terms hfound
        exact ⟨pilotPairOf_matches (Bool.eq_true_of_not_eq_false hmatches), terms, hquoted, hterms,
          hquantity, rfl⟩

/-- The strikes of a pair of a structural pilot are in the order of its strategy. -/
theorem PilotPairOf.ordered (h : PilotPairOf profile bought sold)
    (hoption : occMatches bought = true) (hwidth : profile.width = ⟨false, 4, 0⟩) :
    StrikesOrdered profile.strategy (optionLeg bought .buyToOpen authority)
      (optionLeg sold .sellToOpen authority) := by
  have hdistance := h.strike_distance hoption hwidth
  have hright := h.boughtRight
  unfold pilotRight at hright
  unfold StructuralBullishPilotProfile.strategy StrikesOrdered
  cases hdirection : profile.direction with
  | bullish =>
      rw [hdirection] at hdistance hright
      dsimp only at hdistance hright ⊢
      exact ⟨leg_right_call hright _, lt_iff_value.mpr
        (show bought.strike.value < sold.strike.value by linarith)⟩
  | bearish =>
      rw [hdirection] at hdistance hright
      dsimp only at hdistance hright ⊢
      exact ⟨leg_right_put (by rw [hright]; decide) _, lt_iff_value.mpr
        (show sold.strike.value < bought.strike.value by linarith)⟩

/-- The legs of a pair of a structural pilot have its right. -/
theorem leg_right_pilot {option : OpportunityOption} (h : option.right = pilotRight profile)
    (intent : PositionIntent) : (optionLeg option intent authority).right = profile.right := by
  unfold pilotRight at h
  unfold StructuralBullishPilotProfile.right
  cases hdirection : profile.direction with
  | bullish =>
      rw [hdirection] at h
      exact leg_right_call h _
  | bearish =>
      rw [hdirection] at h
      exact leg_right_put (by rw [h]; decide) _

/-- The payoff of a candidate of a structural pilot is one that the policy takes. -/
theorem PilotTermsOf.payoffValid {terms : PilotTerms} (h : PilotTermsOf profile bought sold terms)
    (hpair : PilotPairOf profile bought sold) (hoption : occMatches bought = true)
    (hprofile : structuralPilotProfile policy.opportunityKey = some profile) :
    payoffValid policy (pilotCandidate policy authority profile bought sold terms) = .ok true := by
  have hwidth := hpair.width hoption (structuralPilotProfile_some hprofile).1
  unfold Policy.payoffValid
  rw [hprofile]
  refine congrArg Except.ok ?_
  unfold structuralPilotPayoffValid
  rw [if_neg (fun hne => hne.elim (fun h => h rfl) fun h => h rfl)]
  refine decide_eq_true ⟨leg_right_pilot hpair.boughtRight _, leg_right_pilot hpair.soldRight _,
    beq_iff_value.mpr hwidth, ⟨?_, ?_, ?_⟩, ?_, ?_⟩
  · rw [lt_iff_value, value_ofInt, Int.cast_zero]
    exact h.positive
  · exact le_iff_value.mpr h.ordered
  · exact le_iff_value.mpr h.natural
  · exact le_iff_value.mpr h.debit
  · rw [le_iff_value]
    refine h.reward.trans_eq (value_sub_congr hwidth.symm rfl)

end AlphaDecay.Selection
