import AlphaDecay.Policy.ApprovedRisk
import AlphaDecay.Selection.Select

/-!
# Quoted pairs of options

What the selector knows of a pair of options of a valid snapshot, and what it makes of the pair, is
enough for every check that the policy makes of a candidate but that of its payoff:
`PairQuoted.candidateAccepted`. The scores that it computes are between zero and one hundred.
-/

namespace AlphaDecay.Selection

open Foundation Decimal Policy

/-- Every result of a list of computations is that of one item. -/
theorem mem_of_mapM_ok {ε α β : Type} {f : α → Except ε β} {items : List α} {results : List β}
    {result : β} (h : items.mapM f = .ok results) (hresult : result ∈ results) :
    ∃ item ∈ items, f item = .ok result := by
  induction items generalizing results with
  | nil =>
      rw [List.mapM_nil] at h
      obtain rfl := Except.ok.inj h
      exact absurd hresult List.not_mem_nil
  | cons item rest ih =>
      rw [List.mapM_cons] at h
      obtain ⟨first, hfirst, h⟩ := bind_ok.mp h
      obtain ⟨later, hlater, h⟩ := bind_ok.mp h
      obtain rfl := Except.ok.inj h
      rcases List.mem_cons.mp hresult with rfl | hmem
      · exact ⟨item, List.mem_cons_self, hfirst⟩
      · obtain ⟨other, hother, hok⟩ := ih hlater hmem
        exact ⟨other, List.mem_cons_of_mem _ hother, hok⟩

/-! ## Options of a valid snapshot -/

section

variable {snapshot : OpportunityMarketSnapshot} {policy : OpportunityPolicyFields}
  {enforce : Bool}

/-- An option that is valid is quoted, and eligible where the policy is enforced. -/
theorem optionValid_ok {option : OpportunityOption}
    (h : optionValid option snapshot policy enforce = .ok true) :
    OptionQuoted option snapshot policy ∧
      (enforce = true → policyEligible option snapshot policy = .ok true) := by
  unfold optionValid at h
  split at h
  · rename_i hquoted
    refine ⟨hquoted, fun henforce => ?_⟩
    obtain ⟨eligible, heligible, h⟩ := bind_ok.mp h
    rw [enforcedEligible, if_pos henforce] at heligible
    have hboth : (eligible && isHash option.sourceHash) = true := Except.ok.inj h
    rw [(Bool.and_eq_true_iff.mp hboth).1] at heligible
    exact heligible
  · cases h

/-- Options that pass their check are valid, and different contracts. -/
theorem optionsValid_ok {seen rest : List OpportunityOption}
    (h : optionsValid snapshot policy enforce seen rest = .ok true) :
    (∀ option ∈ rest, optionValid option snapshot policy enforce = .ok true ∧
      ∀ other ∈ seen, sameContract option other = false) ∧
    rest.Pairwise fun first second => sameContract second first = false := by
  induction rest generalizing seen with
  | nil => exact ⟨fun _ h => absurd h List.not_mem_nil, List.Pairwise.nil⟩
  | cons option rest ih =>
      rw [optionsValid] at h
      split at h
      · cases h
      · rename_i hseen
        obtain ⟨valid, hvalid, h⟩ := bind_ok.mp h
        split at h
        · rename_i htrue
          rw [htrue] at hvalid
          obtain ⟨hrest, hpairs⟩ := ih h
          refine ⟨fun item hitem => ?_, List.pairwise_cons.mpr ⟨fun other hother => ?_, hpairs⟩⟩
          · rcases List.mem_cons.mp hitem with rfl | hlater
            · refine ⟨hvalid, fun other hother => ?_⟩
              have hnone := List.any_eq_false.mp (Bool.eq_false_of_not_eq_true hseen) other hother
              exact Bool.eq_false_of_not_eq_true hnone
            · obtain ⟨hok, hdistinct⟩ := hrest item hlater
              exact ⟨hok, fun other hother => hdistinct other (List.mem_cons_of_mem _ hother)⟩
          · exact (hrest other hother).2 option List.mem_cons_self
        · cases h

/-- What a valid snapshot says of its frame and of its options. -/
structure OptionsKnown (snapshot : OpportunityMarketSnapshot) (policy : OpportunityPolicyFields)
    (enforce : Bool) : Prop where
  framed : SnapshotFramed snapshot policy
  quoted : ∀ option ∈ snapshot.options, OptionQuoted option snapshot policy
  eligible : enforce = true →
    ∀ option ∈ snapshot.options, policyEligible option snapshot policy = .ok true
  symbols : snapshot.options.Pairwise fun first second => first.symbol ≠ second.symbol

theorem optionsKnown_of_valid [Digest] (h : snapshotValid snapshot policy enforce = .ok true) :
    OptionsKnown snapshot policy enforce := by
  unfold snapshotValid at h
  split at h
  · rename_i hframe
    obtain ⟨valid, hvalid, h⟩ := bind_ok.mp h
    have hboth := (Bool.and_eq_true_iff.mp (Except.ok.inj h)).1
    rw [hboth] at hvalid
    obtain ⟨heach, hpairs⟩ := optionsValid_ok hvalid
    refine ⟨hframe.1, fun option hoption => (optionValid_ok (heach option hoption).1).1,
      fun henforce option hoption => (optionValid_ok (heach option hoption).1).2 henforce,
      hpairs.imp fun hdistinct heq => ?_⟩
    rw [sameContract, Bool.or_eq_false_iff] at hdistinct
    exact of_decide_eq_false hdistinct.1 heq.symm
  · cases h

end

/-! ## Quoted pairs -/

/-- The spread that the selector computes is the one that the policy computes. -/
theorem relativeSpread_leg (option : OpportunityOption) (intent : PositionIntent)
    (authority : CandidateSelectionAuthority) :
    Policy.relativeSpread (optionLeg option intent authority) = relativeSpread option := by
  unfold Policy.relativeSpread relativeSpread
  show (divide (option.bid + option.ask) (.ofInt 2) >>= _) = _
  rw [sum_comm]
  rfl

/-- The spread of a quoted option is not negative. -/
theorem relativeSpread_nonneg {option : OpportunityOption} {snapshot : OpportunityMarketSnapshot}
    {policy : OpportunityPolicyFields} (hquoted : OptionQuoted option snapshot policy)
    {spread : Decimal} (h : relativeSpread option = .ok spread) : 0 ≤ spread.value := by
  obtain ⟨-, -, -, -, ⟨hbid, hask⟩, -⟩ := hquoted
  rw [lt_iff_value, value_ofInt, Int.cast_zero] at hbid
  rw [le_iff_value] at hask
  obtain ⟨midpoint, hmidpoint, h⟩ := bind_ok.mp h
  have hsum : 0 < (option.ask + option.bid).value := value_add_pos.mpr (by linarith)
  have hmiddle := value_div_pos (require_ok.mp hmidpoint) hsum (by rw [value_ofInt]; norm_num)
  refine value_div_nonneg (require_ok.mp h) ?_ hmiddle
  obtain ⟨exact, hvalue, hround⟩ := value_sub option.ask option.bid
  rw [hround, value_round_nonneg, hvalue]
  linarith

/-- What a selection knows of the options of a pair: both are quoted, they are two strikes of one
expiry and right, and they are within the bounds under which the policy checks a candidate. -/
structure PairQuoted (snapshot : OpportunityMarketSnapshot) (policy : OpportunityPolicyFields)
    (authority : CandidateSelectionAuthority) (bought sold : OpportunityOption) : Prop where
  boughtQuoted : OptionQuoted bought snapshot policy
  soldQuoted : OptionQuoted sold snapshot policy
  symbols : bought.symbol ≠ sold.symbol
  right : bought.right = sold.right
  expiry : bought.expiry = sold.expiry
  strikes : bought.strike.value ≠ sold.strike.value
  boughtAge : snapshot.trustedAt - bought.quoteAt ≤ (candidateBounds policy).maximumQuoteAge
  soldAge : snapshot.trustedAt - sold.quoteAt ≤ (candidateBounds policy).maximumQuoteAge
  skew : |bought.quoteAt - sold.quoteAt| ≤ (candidateBounds policy).maximumQuoteSkew
  boughtSpread : ∃ spread, relativeSpread bought = .ok spread ∧
    spread.value ≤ (candidateBounds policy).maximumRelativeSpread.value
  soldSpread : ∃ spread, relativeSpread sold = .ok spread ∧
    spread.value ≤ (candidateBounds policy).maximumRelativeSpread.value
  dte : (candidateBounds policy).minimumDte ≤
      daysUntil policy.selectedDecisionBoundary bought.expiry ∧
    daysUntil policy.selectedDecisionBoundary bought.expiry ≤ (candidateBounds policy).maximumDte
  verified : authority.greekUnitConvention = .alpacaGopriceoptionsRawV1 ∧
    isHash authority.greekUnitEvidenceHash = true

/-- What a selection makes of a pair: two legs under the terms that it fixes. -/
structure PairCandidate (policy : OpportunityPolicyFields)
    (authority : CandidateSelectionAuthority) (bought sold : OpportunityOption)
    (candidate : VerticalCandidate) : Prop where
  legs : candidate.legs =
    [optionLeg bought .buyToOpen authority, optionLeg sold .sellToOpen authority]
  dte : candidate.dte = daysUntil policy.selectedDecisionBoundary bought.expiry
  rank : candidate.selectionRank = 1
  buyingPower : candidate.buyingPowerSufficient = true
  ordered : StrikesOrdered candidate.strategy (optionLeg bought .buyToOpen authority)
    (optionLeg sold .sellToOpen authority)
  positive : 0 < candidate.approvedLimit.value
  limits : candidate.approvedLimit.value ≤ candidate.highestLimit.value
  quantity : 1 ≤ candidate.quantity ∧ candidate.quantity ≤ policy.maximumQuantity
  score : 0 ≤ candidate.candidateScore ∧ candidate.candidateScore ≤ 100
  scored : structuralPilotProfile policy.opportunityKey = none →
    policy.minimumCandidateScore ≤ candidate.candidateScore

section Paired

variable {snapshot : OpportunityMarketSnapshot} {policy : OpportunityPolicyFields}
  {authority : CandidateSelectionAuthority} {bought sold : OpportunityOption}
  {candidate : VerticalCandidate}
variable {option : OpportunityOption}

/-- A property of both legs of a pair holds of every leg of its candidate. -/
theorem PairCandidate.forall_legs (h : PairCandidate policy authority bought sold candidate)
    {property : OptionLeg → Prop} (hbought : property (optionLeg bought .buyToOpen authority))
    (hsold : property (optionLeg sold .sellToOpen authority)) :
    ∀ leg ∈ candidate.legs, property leg := by
  rw [h.legs]
  intro leg hleg
  rcases List.mem_pair.mp hleg with rfl | rfl
  · exact hbought
  · exact hsold

/-- The legs of a pair are found by their intents. -/
theorem PairCandidate.byIntent (h : PairCandidate policy authority bought sold candidate) :
    candidate.byIntent .buyToOpen = some (optionLeg bought .buyToOpen authority) ∧
      candidate.byIntent .sellToOpen = some (optionLeg sold .sellToOpen authority) := by
  unfold VerticalCandidate.byIntent
  rw [h.legs]
  exact ⟨rfl, rfl⟩

theorem PairQuoted.isVertical (h : PairQuoted snapshot policy authority bought sold)
    (hcandidate : PairCandidate policy authority bought sold candidate) :
    isVertical candidate = true := by
  have hunderlying : bought.underlying = sold.underlying :=
    h.boughtQuoted.1.trans h.soldQuoted.1.symm
  have hright : (optionLeg bought .buyToOpen authority).right =
      (optionLeg sold .sellToOpen authority).right := by
    show (if bought.right = "C" then OptionRight.call else .put) =
      if sold.right = "C" then OptionRight.call else .put
    rw [h.right]
  have hstrikes : (bought.strike == sold.strike) = false := by
    by_contra hnot
    exact h.strikes (beq_iff_value.mp (Bool.eq_true_of_not_eq_false hnot))
  have hpair : LegsPair (optionLeg bought .buyToOpen authority)
      (optionLeg sold .sellToOpen authority) :=
    ⟨h.symbols, hunderlying, hright, h.expiry, hstrikes, rfl, rfl, rfl, rfl⟩
  unfold Policy.isVertical
  rw [hcandidate.legs]
  dsimp only
  rw [hcandidate.byIntent.1, hcandidate.byIntent.2, Bool.and_eq_true]
  exact ⟨decide_eq_true hpair, decide_eq_true hcandidate.ordered⟩

/-- The quote times of a pair span the distance of its two quotes. -/
theorem PairCandidate.quoteSkew (h : PairCandidate policy authority bought sold candidate) :
    quoteSkew candidate.legs = |bought.quoteAt - sold.quoteAt| := by
  rw [h.legs]
  show max bought.quoteAt sold.quoteAt - min bought.quoteAt sold.quoteAt = _
  rcases le_total bought.quoteAt sold.quoteAt with hle | hle
  · rw [max_eq_right hle, min_eq_left hle, abs_sub_comm, abs_of_nonneg (by omega)]
  · rw [max_eq_left hle, min_eq_right hle, abs_of_nonneg (by omega)]

theorem quoteValid_leg (h : OptionQuoted option snapshot policy) (intent : PositionIntent) :
    QuoteValid (optionLeg option intent authority) := by
  obtain ⟨-, -, -, -, hquote, hbidSize, haskSize, -⟩ := h
  exact ⟨hquote, hbidSize, haskSize⟩

/-- A symbol that is read has a character. -/
theorem symbol_ne_empty (h : OptionQuoted option snapshot policy) : option.symbol ≠ "" := by
  obtain ⟨-, -, hmatches, -⟩ := h
  intro hempty
  unfold occMatches at hmatches
  rw [hempty] at hmatches
  have herror : parseStandardOptionContractSymbol "" option.underlying =
      .error (.value "OPTION_CONTRACT_SYMBOL_MALFORMED") := rfl
  rw [herror] at hmatches
  cases hmatches

theorem freshAt_leg (h : OptionQuoted option snapshot policy) {maximumAge : Int}
    (hage : snapshot.trustedAt - option.quoteAt ≤ maximumAge) :
    FreshAt option.quoteAt snapshot.trustedAt maximumAge := by
  obtain ⟨-, -, -, -, -, -, -, -, -, -, -, -, -, -, hskew⟩ := h
  exact ⟨hskew, hage⟩

/-- The terms of the candidate of a quoted pair pass their checks. -/
theorem PairQuoted.termsAccepted (h : PairQuoted snapshot policy authority bought sold)
    (hcandidate : PairCandidate policy authority bought sold candidate)
    (hdte : 1 ≤ (candidateBounds policy).minimumDte) {values : OpportunityInput}
    (hunderlying : values.underlying = policy.underlying)
    (hboundary : values.observedDecisionBoundary = policy.selectedDecisionBoundary)
    (hevaluated : values.evaluatedAt = snapshot.trustedAt) :
    TermsAccepted policy values candidate where
  positive := hcandidate.positive
  ordered := hcandidate.limits
  score := hcandidate.score
  notExpired := by
    have hlow := h.dte.1
    rw [hcandidate.dte]
    omega
  two := by
    rw [hcandidate.legs]
    rfl
  options := hcandidate.forall_legs rfl rfl
  rank := hcandidate.rank
  quantity := hcandidate.quantity
  scored := hcandidate.scored
  buyingPower := hcandidate.buyingPower
  dte := by
    rw [hcandidate.dte]
    exact h.dte
  eligible := hcandidate.forall_legs
    ⟨rfl, rfl, symbol_ne_empty h.boughtQuoted, h.boughtQuoted.1.trans hunderlying.symm⟩
    ⟨rfl, rfl, symbol_ne_empty h.soldQuoted, h.soldQuoted.1.trans hunderlying.symm⟩
  vertical := h.isVertical hcandidate
  expiry := by
    rw [hcandidate.legs, hcandidate.dte, hboundary]
    intro leg hleg
    obtain rfl := Option.some.inj hleg
    rfl
  indicative := hcandidate.forall_legs rfl rfl
  quoted := hcandidate.forall_legs (quoteValid_leg h.boughtQuoted _)
    (quoteValid_leg h.soldQuoted _)
  fresh := by
    rw [hevaluated]
    exact hcandidate.forall_legs (freshAt_leg h.boughtQuoted h.boughtAge)
      (freshAt_leg h.soldQuoted h.soldAge)
  synchronized := by
    rw [hcandidate.quoteSkew]
    exact h.skew

/-- A leg whose spread is within a bound is not too wide. -/
theorem quoteTooWide_leg {widest : Decimal}
    (h : ∃ spread, relativeSpread option = .ok spread ∧ spread.value ≤ widest.value)
    (intent : PositionIntent) :
    quoteTooWide widest (optionLeg option intent authority) = .ok false := by
  obtain ⟨spread, hspread, hle⟩ := h
  unfold quoteTooWide
  rw [relativeSpread_leg, hspread, ok_bind]
  have hnot : ¬ widest < spread := by
    rw [lt_iff_value]
    exact not_lt.mpr hle
  rw [decide_eq_false hnot]
  rfl

/-- The candidate of a quoted pair passes every check, where its payoff does. -/
theorem PairQuoted.candidateAccepted (h : PairQuoted snapshot policy authority bought sold)
    (hcandidate : PairCandidate policy authority bought sold candidate)
    (hdte : 1 ≤ (candidateBounds policy).minimumDte) {values : OpportunityInput}
    (hunderlying : values.underlying = policy.underlying)
    (hboundary : values.observedDecisionBoundary = policy.selectedDecisionBoundary)
    (hevaluated : values.evaluatedAt = snapshot.trustedAt)
    (hpayoff : payoffValid policy candidate = .ok true) :
    CandidateAccepted policy values candidate where
  terms := h.termsAccepted hcandidate hdte hunderlying hboundary hevaluated
  narrow := by
    rw [hcandidate.legs]
    simp only [List.anyM, quoteTooWide_leg h.boughtSpread, quoteTooWide_leg h.soldSpread, ok_bind]
    rfl
  greeks := by
    have hverified : (optionLeg bought .buyToOpen authority).greekUnitsVerified = true := by
      show (decide (authority.greekUnitConvention = .alpacaGopriceoptionsRawV1) && _) = true
      rw [Bool.and_eq_true]
      exact ⟨decide_eq_true h.verified.1, h.verified.2⟩
    exact hcandidate.forall_legs ⟨rfl, hverified⟩ ⟨rfl, hverified⟩
  payoff := hpayoff

end Paired

/-! ## Scores -/

theorem maximum_cases (a b : Decimal) : maximum a b = a ∨ maximum a b = b := by
  unfold maximum
  split
  · exact Or.inr rfl
  · exact Or.inl rfl

/-- A score is not above one hundred, where the spread is not negative. -/
theorem spreadScore_le {widest worst : Decimal} {score : Int}
    (h : spreadScore widest worst = .ok score) (hwidest : 0 < widest.value)
    (hworst : 0 ≤ worst.value) : score ≤ 100 := by
  obtain ⟨quotient, hquotient, h⟩ := bind_ok.mp h
  obtain rfl := Except.ok.inj h
  -- two roundings move the product by far less than half a point
  obtain ⟨difference, hdifference, hround⟩ := value_sub widest worst
  obtain ⟨product, hproduct, hround'⟩ := value_mul (Decimal.ofInt 100) (widest - worst)
  have hfirst : (widest - worst).value ≤ widest.value * (1 + 1 / 10 ^ 27) := by
    rw [hround]
    exact value_round_le_slack (by rw [hdifference]; linarith) hwidest.le
  have hsecond : (Decimal.ofInt 100 * (widest - worst)).value ≤
      100 * (widest.value * (1 + 1 / 10 ^ 27)) * (1 + 1 / 10 ^ 27) := by
    rw [hround']
    refine value_round_le_slack ?_ (by positivity)
    rw [hproduct, value_ofInt]
    push_cast
    linarith
  have hfits : (⟨false, 1005, -1⟩ : Decimal).Fits := show 1005 < 10 ^ precision by decide
  have hvalue : (⟨false, 1005, -1⟩ : Decimal).value = 1005 / 10 := by
    norm_num [value, significand]
  have hle := value_div_le (require_ok.mp hquotient) hfits hwidest (by
    rw [hvalue]
    refine hsecond.trans ?_
    nlinarith)
  rw [hvalue] at hle
  rw [floorInt_eq]
  refine Int.lt_add_one_iff.mp (Int.floor_lt.mpr ?_)
  norm_num at hle ⊢
  linarith

/-- A score is not negative, where the spread is not above the widest. -/
theorem spreadScore_nonneg {widest worst : Decimal} {score : Int}
    (h : spreadScore widest worst = .ok score) (hwidest : 0 < widest.value)
    (hworst : worst.value ≤ widest.value) : 0 ≤ score := by
  obtain ⟨quotient, hquotient, h⟩ := bind_ok.mp h
  obtain rfl := Except.ok.inj h
  obtain ⟨difference, hdifference, hround⟩ := value_sub widest worst
  obtain ⟨product, hproduct, hround'⟩ := value_mul (Decimal.ofInt 100) (widest - worst)
  have hfirst : 0 ≤ (widest - worst).value := by
    rw [hround, value_round_nonneg, hdifference]
    linarith
  have hsecond : 0 ≤ (Decimal.ofInt 100 * (widest - worst)).value := by
    rw [hround', value_round_nonneg, hproduct, value_ofInt]
    exact mul_nonneg (by norm_num) hfirst
  rw [floorInt_eq]
  exact Int.floor_nonneg.mpr (value_div_nonneg (require_ok.mp hquotient) hsecond hwidest)

end AlphaDecay.Selection
