import AlphaDecay.Selection.QuotedPairs

/-!
# Pairs under a policy

What the selector builds from two options of one expiry and right: a structure with its strikes in
the order of its strategy, and terms at its natural price, whose payoff is one that the policy
takes.
-/

namespace AlphaDecay.Selection

open Foundation Decimal Policy

variable {snapshot : OpportunityMarketSnapshot} {policy : OpportunityPolicyFields}
  {authority : CandidateSelectionAuthority} {direction : OpportunityDirection} {requested : Int}
  {first second bought sold : OpportunityOption} {strategy : VerticalStrategy}

/-- A structure takes the two options of its pair, of one right and expiry and at two strikes. -/
structure StructureOf (first second : OpportunityOption) (direction : OpportunityDirection)
    (strategy : VerticalStrategy) (bought sold : OpportunityOption) : Prop where
  options : (bought = first ∧ sold = second) ∨ (bought = second ∧ sold = first)
  right : bought.right = sold.right
  expiry : bought.expiry = sold.expiry
  strikes : bought.strike.value ≠ sold.strike.value
  allowed : strategy ∈ directionStrategies direction
  ordered : (bought.right = "C" ∨ bought.right = "P") → ∀ authority,
    StrikesOrdered strategy (optionLeg bought .buyToOpen authority)
      (optionLeg sold .sellToOpen authority)

/-- The lower and the higher strike of a pair, in the order that a comparison gives. -/
theorem lower_higher (hne : first.strike.value ≠ second.strike.value) :
    let lower := if second.strike < first.strike then second else first
    let higher := if second.strike < first.strike then first else second
    ((lower = first ∧ higher = second) ∨ (lower = second ∧ higher = first)) ∧
      lower.strike.value < higher.strike.value := by
  dsimp only
  by_cases h : second.strike < first.strike
  · rw [if_pos h, if_pos h]
    exact ⟨Or.inr ⟨rfl, rfl⟩, lt_iff_value.mp h⟩
  · rw [if_neg h, if_neg h]
    rw [lt_iff_value, not_lt] at h
    exact ⟨Or.inl ⟨rfl, rfl⟩, lt_of_le_of_ne h hne⟩

theorem leg_right_call {option : OpportunityOption} (h : option.right = "C")
    (intent : PositionIntent) : (optionLeg option intent authority).right = .call :=
  if_pos h

theorem leg_right_put {option : OpportunityOption} (h : option.right ≠ "C")
    (intent : PositionIntent) : (optionLeg option intent authority).right = .put :=
  if_neg h

/-- A structure that is built is one of its pair. -/
theorem structureOf_build (h : buildStructure first second direction =
    some (strategy, bought, sold)) : StructureOf first second direction strategy bought sold := by
  unfold buildStructure at h
  by_cases hfamily : first.underlying ≠ second.underlying ∨ first.right ≠ second.right ∨
      first.expiry ≠ second.expiry ∨ (first.strike == second.strike) = true
  · rw [if_pos hfamily] at h
    cases h
  rw [if_neg hfamily] at h
  simp only [not_or, not_not, Bool.not_eq_true] at hfamily
  obtain ⟨-, hright, hexpiry, hstrike⟩ := hfamily
  have hne : first.strike.value ≠ second.strike.value := by
    intro heq
    rw [beq_iff_value.mpr heq] at hstrike
    cases hstrike
  obtain ⟨hoptions, hless⟩ := lower_higher hne
  dsimp only at h hoptions hless
  generalize (if second.strike < first.strike then second else first) = lower at *
  generalize (if second.strike < first.strike then first else second) = higher at *
  have hrights : lower.right = first.right ∧ higher.right = first.right := by
    rcases hoptions with ⟨rfl, rfl⟩ | ⟨rfl, rfl⟩
    · exact ⟨rfl, hright.symm⟩
    · exact ⟨hright.symm, rfl⟩
  have hexpiries : lower.expiry = higher.expiry := by
    rcases hoptions with ⟨rfl, rfl⟩ | ⟨rfl, rfl⟩
    · exact hexpiry
    · exact hexpiry.symm
  have hswapped : (higher = first ∧ lower = second) ∨ (higher = second ∧ lower = first) := by
    rcases hoptions with ⟨hl, hh⟩ | ⟨hl, hh⟩
    · exact Or.inr ⟨hh, hl⟩
    · exact Or.inl ⟨hh, hl⟩
  have hstrikes : lower.strike < higher.strike := lt_iff_value.mpr hless
  cases direction with
  | bullish =>
      dsimp only at h
      by_cases hcall : first.right = "C"
      · rw [if_pos hcall] at h
        obtain ⟨rfl, rfl, rfl⟩ := Option.some.inj h
        exact {
          options := hoptions
          right := hrights.1.trans hrights.2.symm
          expiry := hexpiries
          strikes := hless.ne
          allowed := by simp [directionStrategies]
          ordered := fun _ _ => ⟨leg_right_call (hrights.1.trans hcall) _, hstrikes⟩ }
      · rw [if_neg hcall] at h
        obtain ⟨rfl, rfl, rfl⟩ := Option.some.inj h
        exact {
          options := hoptions
          right := hrights.1.trans hrights.2.symm
          expiry := hexpiries
          strikes := hless.ne
          allowed := by simp [directionStrategies]
          ordered := fun _ _ => ⟨leg_right_put (hrights.1 ▸ hcall) _, hstrikes⟩ }
  | bearish =>
      dsimp only at h
      by_cases hput : first.right = "P"
      · rw [if_pos hput] at h
        obtain ⟨rfl, rfl, rfl⟩ := Option.some.inj h
        exact {
          options := hswapped
          right := hrights.2.trans hrights.1.symm
          expiry := hexpiries.symm
          strikes := hless.ne'
          allowed := by simp [directionStrategies]
          ordered := fun _ _ =>
            ⟨leg_right_put (by rw [hrights.2, hput]; decide) _, hstrikes⟩ }
      · rw [if_neg hput] at h
        obtain ⟨rfl, rfl, rfl⟩ := Option.some.inj h
        refine {
          options := hswapped
          right := hrights.2.trans hrights.1.symm
          expiry := hexpiries.symm
          strikes := hless.ne'
          allowed := by simp [directionStrategies]
          ordered := fun hkind _ => ⟨leg_right_call ?_ _, hstrikes⟩ }
        rcases hkind with hcall | hother
        · exact hcall
        · exact absurd (hrights.2.symm.trans hother) hput

/-- What the terms of a pair say of its prices. -/
structure TermsOf (policy : OpportunityPolicyFields) (bought sold : OpportunityOption)
    (strategy : VerticalStrategy) (terms : CandidateTerms) : Prop where
  skew : |bought.quoteAt - sold.quoteAt| ≤ policy.maximumLegQuoteSkew
  limit : terms.approvedLimit = naturalPrice strategy bought sold
  positive : 0 < terms.approvedLimit.value
  fraction : ∃ fraction,
    divide terms.approvedLimit (bought.strike - sold.strike).abs = .ok fraction ∧
      withinFractions policy strategy fraction = true
  risk : terms.riskPerContract =
    contractRisk strategy (bought.strike - sold.strike).abs terms.approvedLimit
  riskPositive : 0 < terms.riskPerContract.value
  score : ∃ boughtSpread soldSpread, relativeSpread bought = .ok boughtSpread ∧
    relativeSpread sold = .ok soldSpread ∧
    spreadScore policy.maximumRelativeSpread (maximum boughtSpread soldSpread) = .ok terms.score

/-- The terms of a pair are those of its natural price. -/
theorem termsOf_candidateTerms {terms : CandidateTerms}
    (h : candidateTerms policy bought sold strategy = .ok (some terms)) :
    TermsOf policy bought sold strategy terms := by
  unfold candidateTerms at h
  dsimp only at h
  split at h
  · cases h
  rename_i hskew
  split at h
  · cases h
  rename_i hprices
  obtain ⟨fraction, hfraction, h⟩ := bind_ok.mp h
  split at h
  · cases h
  rename_i hwithin
  obtain ⟨boughtSpread, hbought, h⟩ := bind_ok.mp h
  obtain ⟨soldSpread, hsold, h⟩ := bind_ok.mp h
  obtain ⟨score, hscore, h⟩ := bind_ok.mp h
  obtain rfl := Option.some.inj (Except.ok.inj h)
  rw [not_or, le_iff_value, not_le, value_ofInt, Int.cast_zero] at hprices
  rw [not_or, Bool.not_eq_false, le_iff_value, not_le, value_ofInt, Int.cast_zero] at hwithin
  exact ⟨not_lt.mp hskew, rfl, hprices.1, ⟨fraction, hfraction, hwithin.1⟩, rfl, hwithin.2,
    boughtSpread, soldSpread, hbought, hsold, hscore⟩

theorem policyPair_ranked {pair : OpportunityOption × OpportunityOption} {item : RankedCandidate}
    (h : policyPair policy direction requested authority pair = .ok (.ranked item)) :
    ∃ strategy bought sold terms quantity,
      StructureOf pair.1 pair.2 direction strategy bought sold ∧
      TermsOf policy bought sold strategy terms ∧
      policy.minimumCandidateScore ≤ terms.score ∧
      affordableQuantity policy requested authority terms.riskPerContract = .ok quantity ∧
      1 ≤ quantity ∧
      item.candidate = policyCandidate policy authority strategy bought sold terms quantity := by
  unfold policyPair at h
  split at h
  · cases h
  · rename_i strategy bought sold hstructure
    obtain ⟨found, hfound, h⟩ := bind_ok.mp h
    cases found with
    | none => cases h
    | some terms =>
        dsimp only at h
        split at h
        · cases h
        · rename_i hscore
          obtain ⟨quantity, hquantity, h⟩ := bind_ok.mp h
          split at h
          · cases h
          · rename_i hone
            obtain rfl := PairOutcome.ranked.inj (Except.ok.inj h)
            exact ⟨strategy, bought, sold, terms, quantity, structureOf_build hstructure,
              termsOf_candidateTerms hfound, not_lt.mp hscore, hquantity, not_lt.mp hone, rfl⟩

/-- The payoff of a candidate at its natural price is one that the policy takes. -/
theorem TermsOf.payoffValid {terms : CandidateTerms} (h : TermsOf policy bought sold strategy terms)
    (hprofile : structuralPilotProfile policy.opportunityKey = none)
    {candidate : VerticalCandidate} (hstrategy : candidate.strategy = strategy)
    (hlimit : candidate.approvedLimit = terms.approvedLimit)
    (hhighest : candidate.highestLimit = terms.approvedLimit)
    (hcandidate : PairCandidate policy authority bought sold candidate) :
    payoffValid policy candidate = .ok true := by
  obtain ⟨fraction, hfraction, hwithin⟩ := h.fraction
  have hnatural := h.limit
  unfold Policy.payoffValid payoffGeometryValid
  unfold naturalPrice at hnatural
  unfold withinFractions at hwithin
  rw [hprofile]
  dsimp only
  rw [hcandidate.byIntent.1, hcandidate.byIntent.2, require_some, ok_bind, require_some, ok_bind,
    hstrategy, hlimit, hhighest]
  cases hside : strategy.isDebit with
  | true =>
      rw [hside, if_pos rfl] at hwithin
      rw [hside, if_pos rfl] at hnatural
      have hbounds := of_decide_eq_true hwithin
      have hsame : (optionLeg bought .buyToOpen authority).ask -
          (optionLeg sold .sellToOpen authority).bid = terms.approvedLimit := hnatural.symm
      have hwidth : divide terms.approvedLimit ((optionLeg bought .buyToOpen authority).strike -
          (optionLeg sold .sellToOpen authority).strike).abs = .ok fraction := hfraction
      simp only [if_true, hsame, hwidth, ok_bind]
      refine congrArg Except.ok (decide_eq_true ⟨?_, ?_, ?_⟩)
      · exact le_iff_value.mpr le_rfl
      · exact le_iff_value.mpr le_rfl
      · simpa using hbounds
  | false =>
      rw [hside, if_neg Bool.false_ne_true] at hwithin
      rw [hside, if_neg Bool.false_ne_true] at hnatural
      have hbounds := of_decide_eq_true hwithin
      have hsame : (optionLeg sold .sellToOpen authority).bid -
          (optionLeg bought .buyToOpen authority).ask = terms.approvedLimit := hnatural.symm
      have hwidth : divide terms.approvedLimit ((optionLeg bought .buyToOpen authority).strike -
          (optionLeg sold .sellToOpen authority).strike).abs = .ok fraction := hfraction
      simp only [Bool.false_eq_true, if_false, hsame, hwidth, ok_bind]
      refine congrArg Except.ok (decide_eq_true ⟨?_, ?_⟩)
      · exact le_iff_value.mpr le_rfl
      · simpa using hbounds

end AlphaDecay.Selection
