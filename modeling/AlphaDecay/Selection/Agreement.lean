import AlphaDecay.Selection.PilotPairs
import AlphaDecay.Selection.Sizing

/-!
# Selected candidates pass the checks of the policy

Each kind of selection ranks a candidate only for a quoted pair whose payoff is the one that the
policy checks, so that a candidate that is selected passes `optionCandidateFailure` at the trusted
time of its snapshot, and its strategy is one of the direction. Its largest loss is within every
amount by which it was sized.
-/

namespace AlphaDecay.Selection

open Foundation Decimal Policy

/-! ## Ranked candidates -/

/-- What a selection promises of a candidate that it ranks. -/
structure Agreed (snapshot : OpportunityMarketSnapshot) (policy : OpportunityPolicyFields)
    (direction : OpportunityDirection) (authority : CandidateSelectionAuthority)
    (candidate : VerticalCandidate) : Prop where
  accepted : ∀ values : OpportunityInput, values.underlying = policy.underlying →
    values.observedDecisionBoundary = policy.selectedDecisionBoundary →
    values.evaluatedAt = snapshot.trustedAt → CandidateAccepted policy values candidate
  allowed : candidate.strategy ∈ directionStrategies direction
  sized : Sized policy authority candidate

/-- A pair of an option and a later one is of two options, related as the list relates them. -/
theorem mem_laterPairs {α : Type} {items : List α} {pair : α × α} (h : pair ∈ laterPairs items) :
    pair.1 ∈ items ∧ pair.2 ∈ items ∧
      ∀ {R : α → α → Prop}, items.Pairwise R → R pair.1 pair.2 := by
  induction items with
  | nil => exact absurd h List.not_mem_nil
  | cons first rest ih =>
      rw [laterPairs, List.mem_append] at h
      rcases h with hfirst | hlater
      · obtain ⟨second, hsecond, rfl⟩ := List.mem_map.mp hfirst
        exact ⟨List.mem_cons_self, List.mem_cons_of_mem _ hsecond,
          fun hpairs => (List.pairwise_cons.mp hpairs).1 second hsecond⟩
      · obtain ⟨hone, htwo, hrelated⟩ := ih hlater
        exact ⟨List.mem_cons_of_mem _ hone, List.mem_cons_of_mem _ htwo,
          fun hpairs => hrelated (List.pairwise_cons.mp hpairs).2⟩

theorem mem_allPairs {α : Type} {items : List α} {pair : α × α} (h : pair ∈ allPairs items) :
    pair.1 ∈ items ∧ pair.2 ∈ items := by
  obtain ⟨first, hfirst, h⟩ := List.mem_flatMap.mp h
  obtain ⟨second, hsecond, rfl⟩ := List.mem_map.mp h
  exact ⟨hfirst, hsecond⟩

theorem OpportunityPolicy.bounded (policy : OpportunityPolicy) : policy.Bounded := by
  have hvalid := policy.valid
  rw [OpportunityPolicyFields.postInit, raiseIf_ok, Bool.not_eq_false'] at hvalid
  exact of_decide_eq_true hvalid

/-- An eligible option is within the age, the days to expiry and the spread of the policy. -/
theorem policyEligible_ok {option : OpportunityOption} {snapshot : OpportunityMarketSnapshot}
    {policy : OpportunityPolicyFields} (h : policyEligible option snapshot policy = .ok true) :
    snapshot.trustedAt - option.quoteAt ≤ policy.maximumOptionQuoteAge ∧
      (policy.minimumDte ≤ daysUntil policy.selectedDecisionBoundary option.expiry ∧
        daysUntil policy.selectedDecisionBoundary option.expiry ≤ policy.maximumDte) ∧
      ∃ spread, relativeSpread option = .ok spread ∧
        spread.value ≤ policy.maximumRelativeSpread.value := by
  unfold policyEligible at h
  dsimp only at h
  split at h
  · rename_i hbounds
    obtain ⟨spread, hspread, h⟩ := bind_ok.mp h
    exact ⟨hbounds.1, hbounds.2, spread, hspread,
      le_iff_value.mp (of_decide_eq_true (Except.ok.inj h))⟩
  · cases h

/-- The evidence that the greeks of an authority are verified. -/
theorem InputsValid.verified {requested : Int} {authority : CandidateSelectionAuthority}
    (h : InputsValid requested authority) :
    authority.greekUnitConvention = .alpacaGopriceoptionsRawV1 ∧
      isHash authority.greekUnitEvidenceHash = true := by
  obtain ⟨-, -, -, hconvention, hhashes⟩ := h
  exact ⟨hconvention, List.all_eq_true.mp hhashes _ (by simp)⟩

theorem maximum_nonneg {a b : Decimal} (ha : 0 ≤ a.value) (hb : 0 ≤ b.value) :
    0 ≤ (maximum a b).value := by
  rcases maximum_cases a b with h | h <;> rw [h]
  · exact ha
  · exact hb

section Ranked

variable {snapshot : OpportunityMarketSnapshot} {policy : OpportunityPolicy}
  {direction : OpportunityDirection} {authority : CandidateSelectionAuthority} {requested : Int}
  {pair : OpportunityOption × OpportunityOption} {item : RankedCandidate}

/-- A candidate that is ranked under a policy passes its checks. -/
theorem policyPair_agreed (hprofile : structuralPilotProfile policy.opportunityKey = none)
    (hknown : OptionsKnown snapshot policy.toOpportunityPolicyFields true)
    (hinputs : InputsValid requested authority) (hpair : pair ∈ laterPairs snapshot.options)
    (h : policyPair policy.toOpportunityPolicyFields direction requested authority pair =
      .ok (.ranked item)) :
    Agreed snapshot policy.toOpportunityPolicyFields direction authority item.candidate := by
  obtain ⟨strategy, bought, sold, terms, quantity, hstructure, hterms, hscore, hquantity, hone,
    hcandidate⟩ := policyPair_ranked h
  obtain ⟨hmost, quotient, hquotient, hfloor⟩ := affordableQuantity_ok hquantity
  obtain ⟨hfirst, hsecond, hrelated⟩ := mem_laterPairs hpair
  obtain ⟨-, -, -, -, -, -, -, -, hminimum, hdte, hspread, -, -, -, -, -, -, -, hcount⟩ :=
    OpportunityPolicy.bounded policy
  have hbounds : candidateBounds policy.toOpportunityPolicyFields = {
      minimumDte := policy.minimumDte
      maximumDte := policy.maximumDte
      maximumQuoteAge := policy.maximumOptionQuoteAge
      maximumQuoteSkew := policy.maximumLegQuoteSkew
      maximumRelativeSpread := policy.maximumRelativeSpread } := by
    unfold candidateBounds
    rw [hprofile]
  have hmembers : bought ∈ snapshot.options ∧ sold ∈ snapshot.options ∧
      bought.symbol ≠ sold.symbol := by
    have hsymbols := hrelated hknown.symbols
    rcases hstructure.options with ⟨rfl, rfl⟩ | ⟨rfl, rfl⟩
    · exact ⟨hfirst, hsecond, hsymbols⟩
    · exact ⟨hsecond, hfirst, hsymbols.symm⟩
  have hbought := hknown.quoted bought hmembers.1
  have hsold := hknown.quoted sold hmembers.2.1
  obtain ⟨hboughtAge, hboughtDte, hboughtSpread⟩ :=
    policyEligible_ok (hknown.eligible rfl bought hmembers.1)
  obtain ⟨hsoldAge, -, hsoldSpread⟩ := policyEligible_ok (hknown.eligible rfl sold hmembers.2.1)
  have hquoted : PairQuoted snapshot policy.toOpportunityPolicyFields authority bought sold := {
    boughtQuoted := hbought
    soldQuoted := hsold
    symbols := hmembers.2.2
    right := hstructure.right
    expiry := hstructure.expiry
    strikes := hstructure.strikes
    boughtAge := by rw [hbounds]; exact hboughtAge
    soldAge := by rw [hbounds]; exact hsoldAge
    skew := by rw [hbounds]; exact hterms.skew
    boughtSpread := by rw [hbounds]; exact hboughtSpread
    soldSpread := by rw [hbounds]; exact hsoldSpread
    dte := by rw [hbounds]; exact hboughtDte
    verified := hinputs.verified }
  have hwidest : 0 < policy.maximumRelativeSpread.value := by
    have hpositive := hspread.1
    rwa [lt_iff_value, value_ofInt, Int.cast_zero] at hpositive
  have hhundred : terms.score ≤ 100 := by
    obtain ⟨boughtSpread, soldSpread, hb, hs, hspreadScore⟩ := hterms.score
    exact spreadScore_le hspreadScore hwidest
      (maximum_nonneg (relativeSpread_nonneg hbought hb) (relativeSpread_nonneg hsold hs))
  have hmade : PairCandidate policy.toOpportunityPolicyFields authority bought sold
      item.candidate := by
    rw [hcandidate]
    exact {
      legs := rfl
      dte := rfl
      rank := rfl
      buyingPower := rfl
      ordered := hstructure.ordered hbought.2.1 authority
      positive := hterms.positive
      limits := le_rfl
      quantity := ⟨hone, hmost⟩
      score := ⟨hminimum.1.trans hscore, hhundred⟩
      scored := fun _ => hscore }
  have hloss : shareLoss item.candidate * .ofInt 100 = terms.riskPerContract := by
    rw [hterms.risk, hcandidate]
    unfold shareLoss contractRisk
    cases hside : strategy.isDebit <;>
      simp [policyCandidate, hside, VerticalCandidate.highestLimit, optionLeg]
  refine ⟨fun values hunderlying hboundary hevaluated => ?_, ?_, ?_⟩
  · refine hquoted.candidateAccepted hmade (by rw [hbounds]; exact hdte.1) hunderlying hboundary
      hevaluated ?_
    rw [hcandidate] at hmade ⊢
    exact hterms.payoffValid hprofile rfl rfl rfl hmade
  · rw [hcandidate]
    exact hstructure.allowed
  · refine ⟨?_, hloss ▸ hterms.riskPositive, ?_, quotient, hloss ▸ hquotient, ?_⟩
    · rw [hcandidate]
      unfold shareLoss
      cases hside : strategy.isDebit with
      | true =>
          simp only [policyCandidate, hside, if_true]
          show terms.approvedLimit.Fits
          rw [hterms.limit, naturalPrice, if_pos hside]
          exact fits_sub _ _
      | false =>
          simp only [policyCandidate, hside, Bool.false_eq_true, if_false]
          exact fits_sub _ _
    · rw [hcandidate]
      exact ⟨hone, hmost.trans hcount.2⟩
    · rw [hcandidate]
      exact hfloor

/-- A candidate that is ranked for a structural pilot passes its checks. -/
theorem pilotPair_agreed {profile : StructuralBullishPilotProfile}
    (hprofile : structuralPilotProfile policy.opportunityKey = some profile)
    (hknown : OptionsKnown snapshot policy.toOpportunityPolicyFields false)
    (hinputs : InputsValid requested authority) (hpair : pair ∈ allPairs snapshot.options)
    (h : pilotPair snapshot policy.toOpportunityPolicyFields authority profile pair =
      .ok (.ranked item)) :
    Agreed snapshot policy.toOpportunityPolicyFields profile.direction authority
      item.candidate := by
  obtain ⟨bought, sold⟩ := pair
  obtain ⟨hmatched, terms, hpilot, hterms, hquantity, hcandidate⟩ := pilotPair_ranked h
  obtain ⟨-, quotient, hquotient, hfloor⟩ := affordableQuantity_ok hquantity
  obtain ⟨hfirst, hsecond⟩ := mem_allPairs hpair
  obtain ⟨hfixed, hminimum, hwidestSpread⟩ := structuralPilotProfile_some hprofile
  obtain ⟨-, -, -, -, -, -, -, -, -, -, -, -, -, -, -, -, -, -, hcount⟩ :=
    OpportunityPolicy.bounded policy
  have hbounds : candidateBounds policy.toOpportunityPolicyFields = {
      minimumDte := profile.minimumDte
      maximumDte := profile.maximumDte
      maximumQuoteAge := profile.maximumQuoteAge
      maximumQuoteSkew := profile.maximumQuoteSkew
      maximumRelativeSpread := profile.maximumRelativeSpread } := by
    unfold candidateBounds
    rw [hprofile]
  have hbought := hknown.quoted bought hfirst
  have hsold := hknown.quoted sold hsecond
  have hoption : occMatches bought = true := hbought.2.2.1
  have hstrikes : bought.strike.value ≠ sold.strike.value := by
    have hdistance := hmatched.strike_distance hoption hfixed
    intro heq
    rw [heq, sub_self] at hdistance
    cases hdirection : profile.direction <;> rw [hdirection] at hdistance <;>
      norm_num at hdistance
  have hsymbols : bought.symbol ≠ sold.symbol := by
    have : Std.Symm fun first second : OpportunityOption => first.symbol ≠ second.symbol :=
      ⟨fun _ _ hne => hne.symm⟩
    refine hknown.symbols.forall hfirst hsecond fun heq => ?_
    exact hstrikes (by rw [show bought = sold from heq])
  have hboundary : snapshot.underlyingBar.completedAt = policy.selectedDecisionBoundary :=
    hknown.framed.2.1
  have hquoted : PairQuoted snapshot policy.toOpportunityPolicyFields authority bought sold := {
    boughtQuoted := hbought
    soldQuoted := hsold
    symbols := hsymbols
    right := hmatched.boughtRight.trans hmatched.soldRight.symm
    expiry := hmatched.expiry.symm
    strikes := hstrikes
    boughtAge := by rw [hbounds]; exact hpilot.boughtAge
    soldAge := by rw [hbounds]; exact hpilot.soldAge
    skew := by rw [hbounds]; exact hpilot.skew
    boughtSpread := by rw [hbounds]; exact hpilot.boughtSpread
    soldSpread := by rw [hbounds]; exact hpilot.soldSpread
    dte := by rw [hbounds, ← hboundary]; exact hpilot.dte
    verified := hinputs.verified }
  have hwidest : 0 < profile.maximumRelativeSpread.value := by
    rw [hwidestSpread]
    norm_num [value, significand]
  have hscore : 0 ≤ terms.score ∧ terms.score ≤ 100 := by
    obtain ⟨boughtSpread, soldSpread, hb, hs, hspreadScore⟩ := hterms.score
    refine ⟨spreadScore_nonneg hspreadScore hwidest ?_, spreadScore_le hspreadScore hwidest
      (maximum_nonneg (relativeSpread_nonneg hbought hb) (relativeSpread_nonneg hsold hs))⟩
    obtain ⟨_, hb', hboughtLe⟩ := hpilot.boughtSpread
    obtain ⟨_, hs', hsoldLe⟩ := hpilot.soldSpread
    obtain rfl := Except.ok.inj (hb.symm.trans hb')
    obtain rfl := Except.ok.inj (hs.symm.trans hs')
    rcases maximum_cases boughtSpread soldSpread with hmax | hmax <;> rw [hmax]
    · exact hboughtLe
    · exact hsoldLe
  have hmade : PairCandidate policy.toOpportunityPolicyFields authority bought sold
      item.candidate := by
    rw [hcandidate]
    exact {
      legs := rfl
      dte := rfl
      rank := rfl
      buyingPower := rfl
      ordered := hmatched.ordered hoption hfixed
      positive := hterms.positive
      limits := hterms.ordered
      quantity := ⟨hcount.1, le_rfl⟩
      score := hscore
      scored := fun hnone => by rw [hprofile] at hnone; cases hnone }
  have hdebit : profile.strategy.isDebit = true := by
    unfold StructuralBullishPilotProfile.strategy
    cases profile.direction <;> rfl
  have hshare : shareLoss item.candidate = terms.maximumLimit := by
    rw [hcandidate]
    exact if_pos hdebit
  refine ⟨fun values hunderlying hboundary hevaluated => ?_, ?_, ?_⟩
  · refine hquoted.candidateAccepted hmade (by rw [hbounds]; show 1 ≤ profile.minimumDte; omega)
      hunderlying hboundary hevaluated ?_
    rw [hcandidate]
    exact hterms.payoffValid hmatched hoption hprofile
  · rw [hcandidate]
    show profile.strategy ∈ _
    unfold StructuralBullishPilotProfile.strategy
    cases profile.direction <;> simp [directionStrategies]
  · refine ⟨hshare ▸ hterms.fits, ?_, ?_, quotient, ?_, ?_⟩
    · rw [hshare, value_mul_pos, value_ofInt]
      exact mul_pos (hterms.positive.trans_le hterms.ordered) (by norm_num)
    · rw [hcandidate]
      exact ⟨hcount.1, hcount.2⟩
    · rw [hshare, ← hterms.risk]
      exact hquotient
    · rw [hcandidate]
      exact hfloor

end Ranked

/-! ## The selected candidate -/

variable {outcomes : List PairOutcome}

/-- A ranked item is the outcome of some pair. -/
theorem ranked_of_mem {item : RankedCandidate} (h : item ∈ rankedItems outcomes) :
    PairOutcome.ranked item ∈ outcomes := by
  obtain ⟨outcome, houtcome, hitem⟩ := List.mem_filterMap.mp h
  cases outcome with
  | ineligible => cases hitem
  | unaffordable => cases hitem
  | ranked other =>
      obtain rfl := Option.some.inj hitem
      exact houtcome

theorem mem_of_sorted {items rest : List RankedCandidate} {first : RankedCandidate}
    {before : RankedCandidate → RankedCandidate → Bool}
    (h : items.mergeSort before = first :: rest) : first ∈ items :=
  List.mem_mergeSort.mp (h ▸ List.mem_cons_self)

variable {candidate : VerticalCandidate}

/-- A candidate that is selected under a policy is ranked. -/
theorem selectRanked_some {reason : SelectionReason}
    (h : selectRanked outcomes = ⟨some candidate, reason⟩) :
    ∃ item, .ranked item ∈ outcomes ∧ item.candidate = candidate := by
  unfold selectRanked at h
  split at h
  · cases congrArg CandidateSelectionResult.candidate h
  · rename_i first hsorted
    exact ⟨first, ranked_of_mem (mem_of_sorted hsorted),
      Option.some.inj (congrArg CandidateSelectionResult.candidate h)⟩
  · rename_i first second rest hsorted
    split at h
    · cases congrArg CandidateSelectionResult.candidate h
    · exact ⟨first, ranked_of_mem (mem_of_sorted hsorted),
        Option.some.inj (congrArg CandidateSelectionResult.candidate h)⟩

theorem selectPilotRanked_some {profile : StructuralBullishPilotProfile} {reason : SelectionReason}
    (h : selectPilotRanked profile outcomes = ⟨some candidate, reason⟩) :
    ∃ item, .ranked item ∈ outcomes ∧ item.candidate = candidate := by
  unfold selectPilotRanked at h
  split at h
  · cases congrArg CandidateSelectionResult.candidate h
  · rename_i first rest hsorted
    exact ⟨first, ranked_of_mem (mem_of_sorted hsorted),
      Option.some.inj (congrArg CandidateSelectionResult.candidate h)⟩

section Selected

variable [Digest] {snapshot : OpportunityMarketSnapshot} {policy : OpportunityPolicy}
  {direction : OpportunityDirection} {authority : CandidateSelectionAuthority} {requested : Int}
  {candidate : VerticalCandidate}

/-- A candidate that is selected agrees with the policy. -/
theorem selected_agreed
    (h : selectVerticalCandidate snapshot policy direction requested authority =
      .ok ⟨some candidate, .selected⟩)
    (hdirection : ∀ profile ∈ structuralPilotProfile policy.opportunityKey,
      direction = profile.direction) :
    Agreed snapshot policy.toOpportunityPolicyFields direction authority candidate := by
  unfold selectVerticalCandidate at h
  split at h
  · cases congrArg CandidateSelectionResult.candidate (Except.ok.inj h)
  rename_i hinputs
  rw [not_not] at hinputs
  dsimp only at h
  obtain ⟨valid, hvalid, h⟩ := bind_ok.mp h
  split at h
  · cases congrArg CandidateSelectionResult.candidate (Except.ok.inj h)
  rename_i htrue
  rw [Bool.eq_true_of_not_eq_false htrue] at hvalid
  have hknown := optionsKnown_of_valid hvalid
  split at h
  · cases congrArg CandidateSelectionResult.candidate (Except.ok.inj h)
  split at h
  · rename_i profile hprofile
    rw [hprofile] at hknown
    rw [hdirection profile hprofile]
    unfold selectStructuralPilot at h
    split at h
    · cases congrArg CandidateSelectionResult.candidate (Except.ok.inj h)
    · obtain ⟨outcomes, houtcomes, h⟩ := bind_ok.mp h
      obtain ⟨item, hitem, rfl⟩ := selectPilotRanked_some (Except.ok.inj h)
      obtain ⟨pair, hpair, hranked⟩ := mem_of_mapM_ok houtcomes hitem
      exact pilotPair_agreed hprofile hknown hinputs hpair hranked
  · rename_i hprofile
    rw [hprofile] at hknown
    obtain ⟨outcomes, houtcomes, h⟩ := bind_ok.mp h
    obtain ⟨item, hitem, rfl⟩ := selectRanked_some (Except.ok.inj h)
    obtain ⟨pair, hpair, hranked⟩ := mem_of_mapM_ok houtcomes hitem
    exact policyPair_agreed hprofile hknown hinputs hpair hranked

end Selected

/-! ## Two calls of one expiry -/

section Rehearsed

attribute [local instance] zeroDigest

/-- A digest of zeros, as text. -/
def zeros : String := String.ofList (List.replicate 64 '0')

def rehearsedBoundary : Int :=
  Calendar.dayOfDate ⟨2026, 9, 4⟩ * Calendar.microsPerDay + Calendar.seconds (14 * 3600 + 30 * 60)

def boundaryPolicy : OpportunityPolicy where
  toOpportunityPolicyFields := { rehearsedPolicy.toOpportunityPolicyFields with
    selectedDecisionBoundary := rehearsedBoundary
    lastEntryBoundary := rehearsedBoundary }
  valid := by decide +kernel

def rehearsedBar (symbol : String) : OpportunityBar where
  symbol := symbol
  startedAt := rehearsedBoundary - barLength
  completedAt := rehearsedBoundary
  openPrice := .ofInt 500
  high := .ofInt 501
  low := .ofInt 499
  closePrice := .ofInt 500
  volume := .ofInt 1000
  vwap := .ofInt 500
  sourceHash := zeros

def rehearsedOption (symbol : String) (strike bid ask : Decimal) : OpportunityOption where
  symbol := symbol
  underlying := "SPY"
  expiry := ⟨2026, 10, 5⟩
  right := "C"
  strike := strike
  bid := bid
  ask := ask
  bidSize := 10
  askSize := 10
  quoteAt := rehearsedBoundary
  retrievedAt := rehearsedBoundary
  impliedVolatility := ⟨false, 2, -1⟩
  delta := ⟨false, 5, -1⟩
  gamma := ⟨false, 1, -2⟩
  thetaPerDay := ⟨true, 5, -2⟩
  vegaPerIvPoint := ⟨false, 1, -1⟩
  sourceHash := zeros

def rehearsedSnapshot : OpportunityMarketSnapshot where
  trustedAt := rehearsedBoundary + Calendar.seconds 10
  accountBook := {
    account := {
      role := .submission
      paper := true
      equity := .ofInt 100000
      buyingPower := .ofInt 50000
      baselineStatus := .complete
      autonomousEnabled := true }
    positions := .object []
    openOrders := []
    accountFingerprint := zeros
    sourceHash := zeros }
  session := {
    sessionDate := ⟨2026, 9, 4⟩
    openAt := rehearsedBoundary - Calendar.seconds 3600
    closeAt := rehearsedBoundary + Calendar.seconds 3600
    clockAt := rehearsedBoundary + Calendar.seconds 10
    marketOpen := true
    nextOpenAt := rehearsedBoundary + Calendar.seconds 90000
    nextCloseAt := rehearsedBoundary + Calendar.seconds 3600
    sourceHash := zeros }
  underlyingBar := rehearsedBar "SPY"
  benchmarkBar := rehearsedBar "QQQ"
  options := [
    rehearsedOption "SPY261005C00500000" (.ofInt 500) ⟨false, 195, -2⟩ ⟨false, 200, -2⟩,
    rehearsedOption "SPY261005C00504000" (.ofInt 504) ⟨false, 50, -2⟩ ⟨false, 51, -2⟩]
  requestHash := zeros
  sourceHash := zeros

def rehearsedAuthority : CandidateSelectionAuthority where
  snapshotRequestHash := zeros
  snapshotSourceHash := zeros
  accountFingerprint := zeros
  observedEquity := .ofInt 100000
  observedBuyingPower := .ofInt 50000
  availableRisk := .ofInt 400
  availableBuyingPower := .ofInt 50000
  greekUnitConvention := .alpacaGopriceoptionsRawV1
  greekUnitEvidenceHash := zeros

def selectedOf : Except Failure CandidateSelectionResult → Option VerticalCandidate
  | .ok ⟨some candidate, .selected⟩ => some candidate
  | _ => none

/-- A candidate that is selected from a result is that of the result. -/
theorem selectedOf_some {result : Except Failure CandidateSelectionResult}
    {candidate : VerticalCandidate} (h : selectedOf result = some candidate) :
    result = .ok ⟨some candidate, .selected⟩ := by
  unfold selectedOf at h
  split at h
  · obtain rfl := Option.some.inj h
    rfl
  · cases h

/-- The candidate that the rehearsal selects: two contracts at a debit of a dollar and a half. -/
def rehearsedSelected : VerticalCandidate :=
  policyCandidate boundaryPolicy.toOpportunityPolicyFields rehearsedAuthority .bullCallDebit
    (rehearsedOption "SPY261005C00500000" (.ofInt 500) ⟨false, 195, -2⟩ ⟨false, 200, -2⟩)
    (rehearsedOption "SPY261005C00504000" (.ofInt 504) ⟨false, 50, -2⟩ ⟨false, 51, -2⟩)
    ⟨⟨false, 150, -2⟩, ⟨false, 15000, -2⟩, 74⟩ 2

theorem rehearsed_selected :
    selectVerticalCandidate rehearsedSnapshot boundaryPolicy .bullish 2 rehearsedAuthority =
      .ok ⟨some rehearsedSelected, .selected⟩ :=
  selectedOf_some (by decide +kernel)

/-- The sizing of the rehearsal needs no rounding. -/
theorem rehearsed_exactSizing :
    ExactSizing boundaryPolicy.toOpportunityPolicyFields rehearsedAuthority rehearsedSelected where
  equity := by
    refine ⟨.ofInt 5000, ?_, fits_ofInt (by decide)⟩
    show (Decimal.ofInt 5000).value = (Decimal.ofInt 100000).value * (⟨false, 5, -2⟩ :
      Decimal).value
    rw [value_ofInt, value_ofInt]
    norm_num [value, significand]
  scale := by
    have hcap : positionCap boundaryPolicy.toOpportunityPolicyFields rehearsedAuthority =
        .ofInt 400 := by decide +kernel
    have hloss : shareLoss rehearsedSelected * .ofInt 100 = ⟨false, 15000, -2⟩ := by
      decide +kernel
    refine ⟨0, 400, 150, ?_, ?_, by norm_num⟩
    · rw [hcap, value_ofInt]
      norm_num
    · rw [hloss]
      norm_num [value, significand]

end Rehearsed

end AlphaDecay.Selection
