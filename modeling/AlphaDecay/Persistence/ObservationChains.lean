import AlphaDecay.Foundation.DecimalRounding
import AlphaDecay.Persistence.Checks

/-!
# Chains of observations

Each observation of an attempt may follow the one before it. `observationChain_continues` says what
holds between any two of them, however many lie in between: identities stay, fills do not regress
and a terminal state is never left. Absolute values are rounded to the precision of the decimal
context, so a cash flow with more digits may shrink below its last one, as
`observationChain_shrinks` shows.
-/

namespace AlphaDecay

open Foundation

/-- An attempt as a step leaves it: the broker has given it an id and a quantity, and its fill fits
its state. -/
structure Observed (attempt : OrderAttempt) : Prop where
  providerOrderId : attempt.providerOrderId.isSome
  quantity : 0 < attempt.quantity
  filled : 0 ≤ attempt.filledQuantity ∧ attempt.filledQuantity ≤ attempt.quantity
  fits : ∃ state, attempt.state = .broker state ∧
    brokerStateMatchesFill state attempt.filledQuantity attempt.quantity = true

/-- A cash flow that is not zero goes on: it keeps its sign and does not shrink in absolute value,
rounded as the decimal context rounds it. -/
structure CashFlowGoesOn (flow later : Decimal) : Prop where
  nonzero : later.value ≠ 0
  sign : later.negative = flow.negative
  grows : flow.abs.value ≤ later.abs.value

/-- What holds between an attempt and an observation of it that comes later. -/
structure Continues (earlier later : OrderAttempt) : Prop where
  providerOrderId : earlier.providerOrderId.isSome →
    later.providerOrderId = earlier.providerOrderId
  quantity : 0 < earlier.quantity → later.quantity = earlier.quantity
  filled : earlier.filledQuantity ≤ later.filledQuantity
  cashFlow : ∀ flow, earlier.fillCashFlow = some flow → flow.value ≠ 0 →
    ∃ next, later.fillCashFlow = some next ∧ CashFlowGoesOn flow next
  terminal : earlier.state.satisfies BrokerOrderState.isTerminal = true →
    later.state = earlier.state

/-! ## One observation -/

section

variable {existing observed : OrderAttempt}

/-- An accepted observation is a well-formed one. -/
theorem validateAttemptObservation_observed
    (h : validateAttemptObservation existing observed = .ok ()) : Observed observed := by
  have hfits := validateAttemptObservation_state h
  simp only [validateAttemptObservation, require_bind_ok, check_bind_ok, raiseIf_ok,
    Bool.or_eq_false_iff, decide_eq_false_iff_not, not_le] at h
  obtain ⟨state, -, providerOrderId, hid, -, -, ⟨⟨-, hquantity⟩, -⟩, -⟩ := h
  obtain ⟨broker, hstate, hmatches⟩ := hfits
  exact {
    providerOrderId := by rw [hid]; rfl
    quantity := hquantity
    filled := brokerStateMatchesFill_bounds hmatches
    fits := ⟨broker, hstate, hmatches⟩ }

/-- An accepted cash flow goes on from the one on record. -/
theorem cashFlowGoesOn_of_continues {flow : Decimal} {later : Option Decimal}
    (hflow : flow.value ≠ 0) (h : cashFlowContinues (some flow) later = true) :
    ∃ next, later = some next ∧ CashFlowGoesOn flow next := by
  cases later with
  | none => cases h
  | some next =>
      simp only [cashFlowContinues, Bool.and_eq_true, beq_iff_eq, decide_eq_true_eq] at h
      obtain ⟨hsign, habs⟩ := h
      have hgrows : flow.abs.value ≤ next.abs.value := Decimal.le_iff_value.mp habs
      have hpos : 0 < next.abs.value := lt_of_lt_of_le (Decimal.value_abs_pos.mpr hflow) hgrows
      exact ⟨next, rfl, Decimal.value_abs_pos.mp hpos, hsign.symm, hgrows⟩

/-- An accepted observation continues the attempt on record. -/
theorem validateAttemptObservation_continues
    (h : validateAttemptObservation existing observed = .ok ()) : Continues existing observed := by
  simp only [validateAttemptObservation, require_bind_ok, check_bind_ok, raiseIf_ok,
    Bool.or_eq_false_iff, Bool.and_eq_false_iff, decide_eq_false_iff_not, not_le, not_lt] at h
  obtain ⟨state, -, providerOrderId, hid, -, hsame, ⟨-, hquantity⟩, hfilled, -, -, hcash,
    hterminal, -⟩ := h
  refine ⟨?_, ?_, hfilled, ?_, ?_⟩
  · intro hset
    obtain ⟨id, hexisting⟩ := Option.isSome_iff_exists.mp hset
    rw [hexisting, Option.any_some, bne_eq_false_iff_eq] at hsame
    rw [hid, hexisting, hsame]
  · intro hpositive
    rcases hquantity with hzero | hequal
    · omega
    · exact bne_eq_false_iff_eq.mp hequal
  · intro flow hflow hnonzero
    rw [hflow] at hcash
    have hkept : isZeroCashFlow (some flow) = false := by
      rw [isZeroCashFlow, ← Bool.not_eq_true, Decimal.beq_iff_value, Decimal.value_ofInt,
        Int.cast_zero]
      exact hnonzero
    rw [hkept] at hcash
    refine cashFlowGoesOn_of_continues hnonzero ?_
    simpa using hcash
  · intro hset
    rw [hset] at hterminal
    simpa using hterminal

end

/-! ## Any number of observations -/

theorem CashFlowGoesOn.trans {flow middle later : Decimal} (h : CashFlowGoesOn flow middle)
    (hlater : CashFlowGoesOn middle later) : CashFlowGoesOn flow later :=
  ⟨hlater.nonzero, hlater.sign.trans h.sign, h.grows.trans hlater.grows⟩

theorem Continues.trans {earlier middle later : OrderAttempt} (h : Continues earlier middle)
    (hlater : Continues middle later) : Continues earlier later := by
  refine ⟨?_, ?_, h.filled.trans hlater.filled, ?_, ?_⟩
  · intro hset
    have hmiddle := h.providerOrderId hset
    rw [hlater.providerOrderId (by rw [hmiddle]; exact hset), hmiddle]
  · intro hpositive
    have hmiddle := h.quantity hpositive
    rw [hlater.quantity (by omega), hmiddle]
  · intro flow hflow hnonzero
    obtain ⟨next, hnext, hgoes⟩ := h.cashFlow flow hflow hnonzero
    obtain ⟨last, hlast, hgoesOn⟩ := hlater.cashFlow next hnext hgoes.nonzero
    exact ⟨last, hlast, hgoes.trans hgoesOn⟩
  · intro hset
    have hmiddle := h.terminal hset
    rw [hlater.terminal (by rw [hmiddle]; exact hset), hmiddle]

instance : Trans Continues Continues Continues :=
  ⟨Continues.trans⟩

/-- A sequence of attempts in which each may follow the one before it. -/
def ObservationChain (attempts : List OrderAttempt) : Prop :=
  attempts.IsChain fun existing observed => validateAttemptObservation existing observed = .ok ()

/-- Every attempt of a chain but the first is a well-formed observation. -/
theorem ObservationChain.observed {first : OrderAttempt} {rest : List OrderAttempt}
    (h : ObservationChain (first :: rest)) : ∀ attempt ∈ rest, Observed attempt := by
  induction rest generalizing first with
  | nil => exact fun attempt hattempt => absurd hattempt List.not_mem_nil
  | cons next rest ih =>
      obtain ⟨hstep, htail⟩ := List.isChain_cons_cons.mp h
      intro attempt hattempt
      rcases List.mem_cons.mp hattempt with rfl | hmem
      · exact validateAttemptObservation_observed hstep
      · exact ih htail attempt hmem

theorem ObservationChain.continues {attempts : List OrderAttempt} (h : ObservationChain attempts) :
    attempts.Pairwise Continues :=
  List.isChain_iff_pairwise.mp (h.imp fun _ _ => validateAttemptObservation_continues)

/-- In a chain of observations every attempt after the first is well formed and continues all the
attempts before it, and a cash flow that fits the decimal context does not shrink at all to one
that fits it. -/
theorem observationChain_continues {first : OrderAttempt} {rest : List OrderAttempt}
    (h : ObservationChain (first :: rest)) :
    (∀ attempt ∈ rest, Observed attempt) ∧ (first :: rest).Pairwise Continues ∧
      (first :: rest).Pairwise fun earlier later =>
        ∀ flow next, earlier.fillCashFlow = some flow → later.fillCashFlow = some next →
          flow.Fits → next.Fits → |flow.value| ≤ |next.value| := by
  refine ⟨h.observed, h.continues, h.continues.imp ?_⟩
  intro earlier later hcontinues flow next hflow hnext hfits hnextFits
  by_cases hzero : flow.value = 0
  · rw [hzero, abs_zero]
    exact abs_nonneg _
  · obtain ⟨other, hother, hgoes⟩ := hcontinues.cashFlow flow hflow hzero
    rw [hnext] at hother
    cases hother
    rw [← Decimal.value_abs hfits, ← Decimal.value_abs hnextFits]
    exact hgoes.grows

section Rehearsed

/-- An attempt of an order of two contracts. -/
def attemptIn (state : AttemptState) (quantity filledQuantity : Int)
    (fillCashFlow : Option Decimal) : OrderAttempt where
  intentId := ⟨0⟩
  ordinal := 0
  clientOrderId := "ad-1"
  requestHash := "1"
  state := state
  providerOrderId := if state = .prepared then none else some "P0"
  filledQuantity := filledQuantity
  quantity := quantity
  fillCashFlow := fillCashFlow

/-- An order that is accepted, filled in two parts and looked up once more. -/
def filledInParts : List OrderAttempt := [
  attemptIn .prepared 0 0 none,
  attemptIn (.broker .new) 2 0 none,
  attemptIn (.broker .partiallyFilled) 2 1 (some ⟨true, 125, 0⟩),
  attemptIn (.broker .filled) 2 2 (some ⟨true, 250, 0⟩),
  attemptIn (.broker .filled) 2 2 (some ⟨true, 250, 0⟩)]

/-- In the rehearsal the order is filled in two parts, and every attempt continues the ones before
it. -/
theorem observationChain_rehearsed :
    ObservationChain filledInParts ∧ filledInParts.Pairwise Continues := by
  have hchain : ObservationChain filledInParts := by
    unfold ObservationChain filledInParts
    simp only [List.isChain_cons_cons, List.isChain_singleton, and_true]
    decide +kernel
  exact ⟨hchain, (observationChain_continues hchain).2.1⟩

/-- A cash flow of twenty-nine digits is followed by a smaller one, and an attempt that no step
observed holds more fills than its quantity. -/
theorem observationChain_shrinks :
    ObservationChain [
      attemptIn (.broker .partiallyFilled) 2 1 (some ⟨true, 10 ^ 28 + 9, 0⟩),
      attemptIn (.broker .partiallyFilled) 2 1 (some ⟨true, 10 ^ 28 + 6, 0⟩)] ∧
    |(⟨true, 10 ^ 28 + 6, 0⟩ : Decimal).value| < |(⟨true, 10 ^ 28 + 9, 0⟩ : Decimal).value| ∧
    ObservationChain [
      attemptIn (.broker .partiallyFilled) 0 1 none,
      attemptIn (.broker .partiallyFilled) 2 1 (some ⟨true, 125, 0⟩)] := by
  unfold ObservationChain
  simp only [List.isChain_cons_cons, List.isChain_singleton, and_true]
  refine ⟨by decide +kernel, ?_, by decide +kernel⟩
  norm_num [Decimal.value, Decimal.significand, Decimal.sign, abs_of_neg]

end Rehearsed

end AlphaDecay
