import AlphaDecay.Foundation.DecimalNearness
import AlphaDecay.Lifecycle.Validation

/-!
# What the checks of a lifecycle tick establish

A context that was accepted holds a vertical spread of a whole number of contracts for its account,
and the options that were accepted quote that spread with a bid below the ask, both in bounds.
-/

namespace AlphaDecay.Lifecycle

open Foundation

/-! ## Vertical spreads -/

@[simp] theorem value_zero : zero.value = 0 := by
  simp [zero]

/-- A whole number within the limit of contracts has an exact magnitude. -/
theorem validQuantity_spec {quantity : Decimal} (h : validQuantity quantity = true) :
    ∃ n : Int, quantity.value = n ∧ n ≠ 0 ∧ |n| ≤ 100 ∧ quantity.abs.value = |(n : ℚ)| := by
  simp only [validQuantity, Bool.and_eq_true, decide_eq_true_eq] at h
  obtain ⟨⟨hne, hintegral⟩, hlimit⟩ := h
  obtain ⟨n, hn⟩ := Decimal.isIntegral_iff.mp hintegral
  have hmagnitude : ({ quantity with negative := false } : Decimal).value = |(n : ℚ)| := by
    rw [Decimal.value_unsigned, hn]
  have hfits : (Decimal.ofInt 101).Fits := by
    show 101 < 10 ^ Decimal.precision
    decide
  have hbound : |n| ≤ 100 := by
    by_contra hlarge
    have hone : (101 : ℚ) ≤ |(n : ℚ)| := by exact_mod_cast not_le.mp hlarge
    have hle := Decimal.le_value_round hfits (d := { quantity with negative := false }) (by
      rw [hmagnitude, Decimal.value_ofInt]
      exact_mod_cast hone)
    have hcap := Decimal.le_iff_value.mp hlimit
    rw [Decimal.value_ofInt] at hle hcap
    have habs : quantity.abs.value =
        (Decimal.round { quantity with negative := false }).value := rfl
    rw [habs, show ((maxStructuralOptionQuantity : Int) : ℚ) = 100 from by
      norm_num [maxStructuralOptionQuantity]] at hcap
    push_cast at hle
    linarith
  refine ⟨n, hn, ?_, hbound, ?_⟩
  · rintro rfl
    have hzero : (quantity == zero) = true := by
      rw [Decimal.beq_iff_value, hn, value_zero, Int.cast_zero]
    rw [bne, hzero] at hne
    cases hne
  · have hrepresentable : Decimal.Representable |(n : ℚ)| := by
      refine @Decimal.exists_fits _ 3 0 ?_ ?_ (by decide)
      · rw [pow_zero, mul_one, ← Int.cast_abs]
        exact Rat.den_intCast _
      · rw [abs_abs]
        have hcast : |(n : ℚ)| ≤ 100 := by exact_mod_cast hbound
        linarith
    show (Decimal.round { quantity with negative := false }).value = |(n : ℚ)|
    rw [← hmagnitude] at hrepresentable ⊢
    exact hrepresentable.value_round

structure VerticalSpread (first second : RetainedOptionPosition) (parsed : ParsedVertical)
    (quantity : Int) : Prop where
  nonzero : quantity ≠ 0
  limit : |quantity| ≤ 100
  long : first.signedQuantity.value = quantity
  short : second.signedQuantity.value = -quantity
  magnitude : first.signedQuantity.abs.value = |(quantity : ℚ)|
  distinct : first.symbol ≠ second.symbol
  width : 0 < (parsed.upper.strike - parsed.lower.strike).value

theorem parseVertical_spread {positions : List RetainedOptionPosition} {parsed : ParsedVertical}
    (h : parseVertical positions = .ok parsed) :
    ∃ first second quantity, positions = [first, second] ∧
      VerticalSpread first second parsed quantity := by
  unfold parseVertical at h
  split at h
  · rename_i first second
    obtain ⟨lower, hlower, h⟩ := bind_ok.mp h
    obtain ⟨upper, hupper, h⟩ := bind_ok.mp h
    obtain ⟨hcheck, h⟩ := check_bind_ok.mp h
    obtain rfl := Except.ok.inj h
    rw [raiseIf_ok, Bool.not_eq_false'] at hcheck
    simp only [isVertical, Bool.and_eq_true, decide_eq_true_eq] at hcheck
    obtain ⟨⟨⟨⟨⟨⟨⟨-, hstrike⟩, -⟩, -⟩, hfirst⟩, hsecond⟩, hsides⟩, hmagnitudes⟩ := hcheck
    obtain ⟨n, hn, hne, hlimit, hcontracts⟩ := validQuantity_spec hfirst
    obtain ⟨m, hm, -, -, hother⟩ := validQuantity_spec hsecond
    rw [Decimal.beq_iff_value, hcontracts, hother] at hmagnitudes
    have hopposite : m = -n := by
      have habs : |n| = |m| := by exact_mod_cast hmagnitudes
      rcases abs_eq_abs.mp habs with hsame | hneg
      · -- both would be long, or both short
        subst hsame
        have heq : decide (zero < first.signedQuantity) =
          decide (zero < second.signedQuantity) := by
          rw [decide_eq_decide, Decimal.lt_iff_value, Decimal.lt_iff_value, hn, hm]
        rw [heq, bne, beq_self_eq_true] at hsides
        cases hsides
      · omega
    have hdistinct : first.symbol ≠ second.symbol := by
      intro hsame
      rw [hsame, hupper] at hlower
      obtain rfl := Except.ok.inj hlower
      exact absurd (Decimal.lt_iff_value.mp hstrike) (lt_irrefl _)
    refine ⟨first, second, n, rfl, hne, hlimit, hn, ?_, hcontracts, hdistinct, ?_⟩
    · rw [hm, hopposite, Int.cast_neg]
    · rw [Decimal.value_sub_pos]
      have hlt := Decimal.lt_iff_value.mp hstrike
      linarith
  · cases h

theorem asAcquisitionFailure_ok {α : Type} {code : String} {check : Except Failure α} {value : α} :
    asAcquisitionFailure code check = .ok value ↔ check = .ok value := by
  unfold asAcquisitionFailure
  split <;> simp

/-! ## The retained context -/

structure AcceptedContext (context : RetainedLifecycleContext)
    (authority : ObservedPaperAccountAuthority) (parsed : ParsedVertical) : Prop where
  spread : parseVertical context.expectedPositions = .ok parsed
  role : context.accountRole = authority.role
  executable : context.accountRole ≠ .replay
  fingerprint : context.accountFingerprint = authority.accountFingerprint
  policy : isHash context.policyHash = true
  approvedMaxLoss : Decimal.ofInt 0 < context.approvedMaxLoss ∧
    context.approvedMaxLoss ≤ maxStructuralApprovedRisk
  frozen : context.thesisFrozenAt ≤ context.lifecycleOriginAt

variable {trustedAt : Int} {context : RetainedLifecycleContext}
  {authority : ObservedPaperAccountAuthority}

/-- A context that passes its check is accepted. -/
theorem validateContext_accepted [Digest] (h : validateContext context authority = .ok ()) :
    ∃ parsed, AcceptedContext context authority parsed := by
  obtain ⟨parsed, hparsed, h⟩ := bind_ok.mp h
  obtain ⟨hidentity, h⟩ := check_bind_ok.mp h
  obtain ⟨fingerprint, -, h⟩ := bind_ok.mp h
  rw [raiseIf_ok, Bool.not_eq_false'] at hidentity h
  simp only [RetainedLifecycleContext.identityFits, RetainedLifecycleContext.thesisFits,
    Bool.and_eq_true, beq_iff_eq, bne_iff_ne, decide_eq_true_eq] at hidentity
  simp only [RetainedLifecycleContext.boundsFit, Bool.and_eq_true, decide_eq_true_eq] at h
  exact ⟨parsed, asAcquisitionFailure_ok.mp hparsed, hidentity.1.1.1.1.1.1.1.2,
    hidentity.1.1.1.1.1.1.1.1, hidentity.1.1.1.1.1.1.2, hidentity.1.1.1.1.1.2,
    h.1.1.2.1.2, hidentity.2.1.1.2⟩

/-! ## Options -/

structure QuoteInBounds (item : LifecycleOptionObservation) : Prop where
  positive : 0 < item.bidPrice.value
  ordered : item.bidPrice.value ≤ item.askPrice.value
  bounded : item.askPrice.value ≤ 10 ^ 9

/-- An option that passes its check is quoted in bounds. -/
theorem validateOption_bounds {authority : GreekAuthorityEvidence}
    {item : LifecycleOptionObservation} (h : validateOption trustedAt authority item = .ok ()) :
    QuoteInBounds item := by
  obtain ⟨hbounds, -⟩ := check_bind_ok.mp h
  rw [raiseIf_ok, Bool.not_eq_false'] at hbounds
  simp only [LifecycleOptionObservation.isInBounds, Bool.and_eq_true, decide_eq_true_eq] at hbounds
  obtain ⟨⟨hpositive, hordered⟩, hbounded⟩ := hbounds.1.1.1.1.1.1.1.1.1.1.1.1.1
  rw [Decimal.lt_iff_value, value_zero] at hpositive
  rw [Decimal.le_iff_value] at hordered hbounded
  refine ⟨hpositive.2, hordered, ?_⟩
  rw [maxNumericMagnitude, Decimal.value_ofInt] at hbounded
  exact_mod_cast hbounded

structure AcceptedOptions (first second : RetainedOptionPosition)
    (lower upper : LifecycleOptionObservation) : Prop where
  lowerSymbol : lower.symbol = first.symbol
  upperSymbol : upper.symbol = second.symbol
  lowerQuantity : lower.signedQuantity.value = first.signedQuantity.value
  upperQuantity : upper.signedQuantity.value = second.signedQuantity.value
  lowerQuote : QuoteInBounds lower
  upperQuote : QuoteInBounds upper

/-- Options that pass their check are those of the spread, quoted in bounds. -/
theorem validateOptionEvidence_accepted {first second : RetainedOptionPosition}
    {options accepted : List LifecycleOptionObservation} {authority : GreekAuthorityEvidence}
    (h : validateOptionEvidence [first, second] options trustedAt authority = .ok accepted) :
    ∃ lower upper, options = [lower, upper] ∧ AcceptedOptions first second lower upper := by
  unfold validateOptionEvidence at h
  obtain ⟨parsed, -, h⟩ := bind_ok.mp h
  obtain ⟨hmatch, h⟩ := check_bind_ok.mp h
  obtain ⟨hoptions, -⟩ := check_bind_ok.mp h
  rw [raiseIf_ok, Bool.not_eq_false'] at hmatch
  simp only [optionsMatch, Bool.and_eq_true, beq_iff_eq] at hmatch
  obtain ⟨⟨hlength, hsymbols⟩, hquantities⟩ := hmatch
  obtain ⟨lower, upper, rfl⟩ := List.length_eq_two.mp hlength
  rw [checkEach_ok] at hoptions
  simp only [List.map_cons, List.map_nil, List.cons.injEq, and_true] at hsymbols
  simp only [List.map_cons, List.map_nil, List.cons_beq_cons, Bool.and_eq_true,
    Decimal.beq_iff_value] at hquantities
  exact ⟨lower, upper, rfl, hsymbols.1, hsymbols.2, hquantities.1, hquantities.2.1,
    validateOption_bounds (hoptions lower List.mem_cons_self),
    validateOption_bounds (hoptions upper (List.mem_cons_of_mem _ List.mem_cons_self))⟩

/-- An observation that passes its check quotes the positions of the context. -/
theorem validateObservation_options {observation : LifecycleProviderObservation}
    {normalized : ValidatedObservation}
    (h : validateObservation context observation authority trustedAt = .ok normalized) :
    ∃ accepted, validateOptionEvidence context.expectedPositions observation.options trustedAt
      context.greekAuthority = .ok accepted := by
  obtain ⟨-, h⟩ := check_bind_ok.mp h
  obtain ⟨accepted, haccepted, -⟩ := bind_ok.mp h
  exact ⟨accepted, haccepted⟩

end AlphaDecay.Lifecycle
