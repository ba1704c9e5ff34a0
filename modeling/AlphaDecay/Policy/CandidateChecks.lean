import AlphaDecay.Policy.Opportunity

/-!
# What a candidate meets that passes its checks

The checks of a candidate end in no reason exactly when every one of them passes:
`TermsAccepted` for the terms of its contracts, `CandidateAccepted` for all of them.
-/

namespace AlphaDecay.Policy

open Foundation

theorem ite_some_eq_none {α : Type} {condition : Prop} [Decidable condition] {reason : α}
    {rest : Option α} :
    (if condition then some reason else rest) = none ↔ ¬ condition ∧ rest = none := by
  by_cases h : condition <;> simp [h]

variable {policy : OpportunityPolicyFields} {values : OpportunityInput}
  {candidate : VerticalCandidate}

/-- What the terms of a candidate meet that passes its checks, up to its quotes. -/
structure TermsAccepted (policy : OpportunityPolicyFields) (values : OpportunityInput)
    (candidate : VerticalCandidate) : Prop where
  positive : 0 < candidate.approvedLimit.value
  ordered : candidate.approvedLimit.value ≤ candidate.highestLimit.value
  score : 0 ≤ candidate.candidateScore ∧ candidate.candidateScore ≤ 100
  notExpired : 0 ≤ candidate.dte
  two : candidate.legs.length = 2
  options : ∀ leg ∈ candidate.legs, leg.instrumentKind = .option
  rank : candidate.selectionRank = 1
  quantity : 1 ≤ candidate.quantity ∧ candidate.quantity ≤ policy.maximumQuantity
  scored : structuralPilotProfile policy.opportunityKey = none →
    policy.minimumCandidateScore ≤ candidate.candidateScore
  buyingPower : candidate.buyingPowerSufficient = true
  dte : (candidateBounds policy).minimumDte ≤ candidate.dte ∧
    candidate.dte ≤ (candidateBounds policy).maximumDte
  eligible : ∀ leg ∈ candidate.legs, leg.active = true ∧ leg.tradable = true ∧ leg.symbol ≠ "" ∧
    leg.underlying = values.underlying
  vertical : isVertical candidate = true
  expiry : ∀ leg ∈ candidate.legs.head?,
    candidate.dte = daysUntil values.observedDecisionBoundary leg.expiry
  indicative : ∀ leg ∈ candidate.legs, leg.feed = .indicativeModified
  quoted : ∀ leg ∈ candidate.legs, QuoteValid leg
  fresh : ∀ leg ∈ candidate.legs,
    FreshAt leg.quoteAt values.evaluatedAt (candidateBounds policy).maximumQuoteAge
  synchronized : quoteSkew candidate.legs ≤ (candidateBounds policy).maximumQuoteSkew

/-- The terms of a candidate pass their checks exactly when they meet all of them. -/
theorem candidateTermsFailure_none :
    candidateTermsFailure policy values candidate = none ↔
      TermsAccepted policy values candidate := by
  simp only [candidateTermsFailure, ite_some_eq_none, not_or, not_exists, not_and, not_not, not_lt,
    Classical.not_imp, Decimal.le_iff_value, Decimal.lt_iff_value, not_le, Bool.not_eq_false,
    and_true, ne_eq, Decimal.value_ofInt, Int.cast_zero, Option.isSome_eq_false_iff,
    Option.isNone_iff_eq_none]
  constructor
  · rintro ⟨⟨hpositive, hordered, hscore, hdate⟩, htwo, hoptions, hrank, hquantity, hscored, hpower,
      hdte, heligible, hvertical, hexpiry, hfeed, hquoted, hfresh, hskew⟩
    exact ⟨hpositive, hordered, hscore, hdate, htwo, hoptions, hrank, hquantity, hscored, hpower,
      hdte, heligible, hvertical, hexpiry, hfeed, hquoted, hfresh, hskew⟩
  · intro h
    exact ⟨⟨h.positive, h.ordered, h.score, h.notExpired⟩, h.two, h.options, h.rank, h.quantity,
      h.scored, h.buyingPower, h.dte, h.eligible, h.vertical, h.expiry, h.indicative, h.quoted,
      h.fresh, h.synchronized⟩

/-- What a candidate meets that passes all of its checks. -/
structure CandidateAccepted (policy : OpportunityPolicyFields) (values : OpportunityInput)
    (candidate : VerticalCandidate) : Prop where
  terms : TermsAccepted policy values candidate
  narrow : candidate.legs.anyM
    (quoteTooWide (candidateBounds policy).maximumRelativeSpread) = .ok false
  greeks : ∀ leg ∈ candidate.legs, leg.greeksComplete = true ∧ leg.greekUnitsVerified = true
  payoff : payoffValid policy candidate = .ok true

/-- A candidate passes its checks exactly when it meets all of them. -/
theorem optionCandidateFailure_none :
    optionCandidateFailure policy values candidate = .ok none ↔
      CandidateAccepted policy values candidate := by
  unfold optionCandidateFailure
  constructor
  · intro h
    split at h
    · cases h
    · rename_i hterms
      obtain ⟨wide, hwide, h⟩ := bind_ok.mp h
      by_cases hw : wide = true
      · rw [if_pos hw] at h
        cases h
      · rw [if_neg hw] at h
        split at h
        · cases h
        · rename_i hgreeks
          obtain ⟨valid, hvalid, h⟩ := bind_ok.mp h
          have hv : valid = true := by
            by_contra hnot
            rw [if_neg hnot] at h
            cases h
          refine ⟨candidateTermsFailure_none.mp hterms, ?_, ?_, hv ▸ hvalid⟩
          · rw [hwide, Bool.eq_false_of_not_eq_true hw]
          · intro leg hleg
            by_contra hnot
            refine hgreeks ⟨leg, hleg, ?_⟩
            rcases Bool.eq_false_or_eq_true leg.greeksComplete with hc | hc
            · exact Or.inr (Bool.eq_false_of_not_eq_true fun hu => hnot ⟨hc, hu⟩)
            · exact Or.inl hc
  · intro h
    have hgreeks : ¬ ∃ leg ∈ candidate.legs,
        leg.greeksComplete = false ∨ leg.greekUnitsVerified = false := by
      rintro ⟨leg, hleg, hmissing⟩
      have hpresent := h.greeks leg hleg
      rcases hmissing with hmissing | hmissing
      · rw [hpresent.1] at hmissing
        cases hmissing
      · rw [hpresent.2] at hmissing
        cases hmissing
    rw [candidateTermsFailure_none.mpr h.terms]
    dsimp only
    rw [h.narrow, ok_bind, if_neg Bool.false_ne_true, if_neg hgreeks, h.payoff]
    rfl

/-! ## The two legs -/

/-- The legs of a vertical by their intents: one is bought, one is sold, and their strikes are in
the order of the strategy. -/
structure VerticalLegs (candidate : VerticalCandidate) (bought sold : OptionLeg) : Prop where
  legs : candidate.legs = [bought, sold] ∨ candidate.legs = [sold, bought]
  boughtIntent : bought.intent = .buyToOpen
  soldIntent : sold.intent = .sellToOpen
  right : bought.right = sold.right
  strikes : bought.strike.value ≠ sold.strike.value
  ordered : StrikesOrdered candidate.strategy bought sold

theorem byIntent_mem {intent : PositionIntent} {leg : OptionLeg}
    (h : candidate.byIntent intent = some leg) : leg ∈ candidate.legs ∧ leg.intent = intent := by
  have hintent := List.find?_some h
  exact ⟨List.mem_reverse.mp (List.mem_of_find?_eq_some h), of_decide_eq_true hintent⟩

/-- A vertical has one leg that is bought and one that is sold. -/
theorem verticalLegs_of_isVertical (h : isVertical candidate = true) :
    ∃ bought sold, VerticalLegs candidate bought sold ∧
      candidate.byIntent .buyToOpen = some bought ∧ candidate.byIntent .sellToOpen = some sold := by
  unfold isVertical at h
  split at h
  · rename_i first second hlegs
    rw [Bool.and_eq_true] at h
    obtain ⟨hpair, h⟩ := h
    obtain ⟨-, -, hright, -, hstrike, -⟩ := of_decide_eq_true hpair
    have hne : first.strike.value ≠ second.strike.value := by
      intro heq
      rw [Decimal.beq_iff_value.mpr heq] at hstrike
      cases hstrike
    split at h
    · rename_i bought sold hbought hsold
      have hb := byIntent_mem hbought
      have hs := byIntent_mem hsold
      have hdistinct : bought ≠ sold := by
        intro heq
        rw [heq, hs.2] at hb
        exact absurd hb.2 (by decide)
      refine ⟨bought, sold, ?_, hbought, hsold⟩
      have horder := of_decide_eq_true h
      rw [hlegs] at hb hs
      rcases List.mem_pair.mp hb.1 with rfl | rfl <;> rcases List.mem_pair.mp hs.1 with rfl | rfl
      · exact absurd rfl hdistinct
      · exact ⟨Or.inl hlegs, hb.2, hs.2, hright, hne, horder⟩
      · exact ⟨Or.inr hlegs, hb.2, hs.2, hright.symm, hne.symm, horder⟩
      · exact absurd rfl hdistinct
    · cases h
  · cases h

end AlphaDecay.Policy
