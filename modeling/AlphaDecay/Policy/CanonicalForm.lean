import AlphaDecay.Policy.ApprovedRisk
import AlphaDecay.StrategyBriefs.ProtocolCodec

/-!
# Canonical documents

The canonical documents of inputs and of policies have one text exactly when the values have equal
fields, where decimals are compared as numbers. A function that tells decimals apart by their
values only stands for that comparison: it is mapped over the decimals of both values.
-/

namespace AlphaDecay.Policy

open Foundation Foundation.Json

/-! ## Decimals as numbers -/

/-- A function tells decimals apart by their values only. -/
def ByValue (f : Decimal → Decimal) : Prop :=
  ∀ a b, f a = f b ↔ a.value = b.value

section Map

variable (f : Decimal → Decimal)

/-- A policy with its decimals mapped. -/
def OpportunityPolicyFields.map (policy : OpportunityPolicyFields) : OpportunityPolicyFields :=
  { policy with
    minimumVwapDistance := f policy.minimumVwapDistance
    maximumVwapDistance := f policy.maximumVwapDistance
    minimumRelativeReturn := f policy.minimumRelativeReturn
    minimumBeta := f policy.minimumBeta
    maximumBeta := f policy.maximumBeta
    maximumFirstReaction := f policy.maximumFirstReaction
    maximumRelativeSpread := f policy.maximumRelativeSpread
    minimumDebitWidthFraction := f policy.minimumDebitWidthFraction
    maximumDebitWidthFraction := f policy.maximumDebitWidthFraction
    minimumCreditWidthFraction := f policy.minimumCreditWidthFraction
    maximumPositionLoss := f policy.maximumPositionLoss
    maximumEquityRiskFraction := f policy.maximumEquityRiskFraction
    maximumLifetimeRisk := f policy.maximumLifetimeRisk
    equityFloor := f policy.equityFloor }

/-- A leg with its decimals mapped. -/
def OptionLeg.map (leg : OptionLeg) : OptionLeg :=
  { leg with strike := f leg.strike, bid := f leg.bid, ask := f leg.ask }

/-- A candidate with its decimals mapped. -/
def VerticalCandidate.map (candidate : VerticalCandidate) : VerticalCandidate :=
  { candidate with
    legs := candidate.legs.map (OptionLeg.map f)
    approvedLimit := f candidate.approvedLimit
    maximumLimit := candidate.maximumLimit.map f }

/-- The state of an account with its decimals mapped. -/
def AccountOpportunityState.map (account : AccountOpportunityState) : AccountOpportunityState :=
  { account with
    cleanEquity := f account.cleanEquity
    lifetimeApprovedRisk := f account.lifetimeApprovedRisk
    reservedApprovedRisk := f account.reservedApprovedRisk }

/-- An input with its decimals mapped. -/
def OpportunityInput.map (values : OpportunityInput) : OpportunityInput :=
  { values with
    vwapDistance := f values.vwapDistance
    relativeReturn := f values.relativeReturn
    beta := f values.beta
    absoluteFirstReaction := f values.absoluteFirstReaction
    candidate := values.candidate.map (VerticalCandidate.map f)
    account := values.account.map f }

end Map

/-! ## Dates of the calendar -/

/-- The instants of a policy are instants of the calendar. -/
def OpportunityPolicyFields.Dated (policy : OpportunityPolicyFields) : Prop :=
  Calendar.InRange policy.selectedDecisionBoundary ∧ Calendar.InRange policy.lastEntryBoundary

/-- The expiry and the quote time of a leg are of the calendar. -/
def OptionLeg.Dated (leg : OptionLeg) : Prop :=
  leg.expiry.isValid = true ∧ Calendar.InRange leg.quoteAt

/-- The instants of an input and the dates of its legs are of the calendar. -/
def OpportunityInput.Dated (values : OpportunityInput) : Prop :=
  Calendar.InRange values.observedDecisionBoundary ∧ Calendar.InRange values.evaluatedAt ∧
    Calendar.InRange values.completedBarAt ∧ Calendar.InRange values.underlyingObservedAt ∧
    Calendar.InRange values.catalystObservedAt ∧
    ∀ candidate ∈ values.candidate, ∀ leg ∈ candidate.legs, leg.Dated

/-! ## Leaves -/

section

variable {f : Decimal → Decimal}

theorem policyNumber_inj (hf : ByValue f) {a b : Decimal} :
    policyNumber a = policyNumber b ↔ f a = f b := by
  rw [hf, policyNumber, policyNumber, text.injEq]
  constructor
  · intro h
    have hread := congrArg (fun text => Decimal.parse text.toList) h
    simp only [canonicalDecimal, String.toList_ofList] at hread
    obtain ⟨read, hleft, hvalue⟩ := Decimal.parse_canonical a
    obtain ⟨read', hright, hvalue'⟩ := Decimal.parse_canonical b
    rw [hleft, hright, Option.some.injEq] at hread
    rw [← Decimal.beq_iff_value.mp hvalue, hread, Decimal.beq_iff_value.mp hvalue']
  · intro h
    rw [canonicalDecimal, canonicalDecimal,
      Decimal.canonical_congr (Decimal.beq_iff_value.mpr h)]

/-- Instants of the calendar have different documents. -/
theorem policyInstant_inj {a b : Int} (ha : Calendar.InRange a) (hb : Calendar.InRange b) :
    policyInstant a = policyInstant b ↔ a = b := by
  constructor
  · intro h
    rw [policyInstant, policyInstant, ofChars, ofChars, text.injEq, String.ofList_inj] at h
    -- the parts have fixed widths
    obtain ⟨hyear, h⟩ := List.append_inj h (by simp)
    obtain ⟨hmonth, h⟩ := List.append_inj (List.cons.inj h).2 (by simp)
    obtain ⟨hday, h⟩ := List.append_inj (List.cons.inj h).2 (by simp)
    obtain ⟨hhour, h⟩ := List.append_inj (List.cons.inj h).2 (by simp)
    obtain ⟨hminute, h⟩ := List.append_inj (List.cons.inj h).2 (by simp)
    obtain ⟨hsecond, h⟩ := List.append_inj (List.cons.inj h).2 (by simp)
    obtain ⟨hmicros, -⟩ := List.append_inj (List.cons.inj h).2 (by simp)
    have hsame := congrArg (Text.readDigits 10) hmicros
    rw [Text.readDigits_fixedDigits (by decide) (by decide),
      Text.readDigits_fixedDigits (by decide) (by decide), Option.some.injEq] at hsame
    have htext : Calendar.isoformat a = Calendar.isoformat b := by
      have hzero : a.toNat % Calendar.microsPerDay % 1000000 =
          b.toNat % Calendar.microsPerDay % 1000000 := by omega
      rw [Calendar.isoformat, Calendar.isoformat]
      simp only [hyear, hmonth, hday, hhour, hminute, hsecond, hzero]
    have hread := congrArg Calendar.fromIsoformat htext
    rw [Calendar.fromIsoformat_isoformat ha, Calendar.fromIsoformat_isoformat hb] at hread
    exact Option.some.inj hread
  · exact congrArg policyInstant

theorem policyDate_inj {a b : Calendar.Date} (ha : a.isValid = true) (hb : b.isValid = true) :
    policyDate a = policyDate b ↔ a = b := by
  refine ⟨fun h => ?_, congrArg policyDate⟩
  rw [policyDate, policyDate, ofChars, ofChars, text.injEq] at h
  have hread := congrArg Calendar.readDate h
  rw [Calendar.readDate_written ha, Calendar.readDate_written hb] at hread
  exact Option.some.inj hread

theorem sorted_policyDuration {a b : Int} :
    (policyDuration a).sorted = (policyDuration b).sorted ↔ a = b := by
  refine ⟨fun h => ?_, fun h => by rw [h]⟩
  replace h := (sorted_object_iff (by simp) (by rfl)).mp h
  simp only [List.map_cons, List.map_nil, sortedPair, List.cons.injEq, Prod.mk.injEq, true_and,
    and_true, sorted, number.injEq, Calendar.microsPerDay] at h
  omega

end

/-! ## Written forms -/

theorem OptionRight.text_inj {a b : OptionRight} : a.text = b.text ↔ a = b := by
  cases a <;> cases b <;> decide

theorem PositionIntent.text_inj {a b : PositionIntent} : a.text = b.text ↔ a = b := by
  cases a <;> cases b <;> decide

theorem InstrumentKind.text_inj {a b : InstrumentKind} : a.text = b.text ↔ a = b := by
  cases a <;> cases b <;> decide

theorem OptionFeed.text_inj {a b : OptionFeed} : a.text = b.text ↔ a = b := by
  cases a <;> cases b <;> decide

theorem VerticalStrategy.text_inj {a b : VerticalStrategy} : a.text = b.text ↔ a = b := by
  cases a <;> cases b <;> decide

theorem AccountRole.text_inj {a b : AccountRole} : a.text = b.text ↔ a = b := by
  cases a <;> cases b <;> decide

theorem DataQuality.text_inj {a b : DataQuality} : a.text = b.text ↔ a = b := by
  cases a <;> cases b <;> decide

theorem CatalystQuality.text_inj {a b : CatalystQuality} : a.text = b.text ↔ a = b := by
  cases a <;> cases b <;> decide

theorem TradingHaltState.document_inj {a b : TradingHaltState} :
    a.document.sorted = b.document.sorted ↔ a = b := by
  cases a <;> cases b <;> simp [TradingHaltState.document, sorted]

/-! ## Documents -/

section

variable {f : Decimal → Decimal}

theorem sorted_policyNumber (hf : ByValue f) {a b : Decimal} :
    (policyNumber a).sorted = (policyNumber b).sorted ↔ f a = f b :=
  policyNumber_inj hf

theorem sorted_policyInstant {a b : Int} (ha : Calendar.InRange a) (hb : Calendar.InRange b) :
    (policyInstant a).sorted = (policyInstant b).sorted ↔ a = b :=
  policyInstant_inj ha hb

/-- Documents of policies are sorted alike exactly when the policies have equal fields. -/
theorem OpportunityPolicyFields.sorted_iff (hf : ByValue f) {left right : OpportunityPolicyFields}
    (hleft : left.Dated) (hright : right.Dated) :
    left.document.sorted = right.document.sorted ↔ left.map f = right.map f := by
  rw [document, document, sorted_object_iff (by simp) (by rfl)]
  simp only [List.map_cons, List.map_nil, sortedPair, List.cons.injEq, Prod.mk.injEq, true_and,
    and_true, sorted_policyNumber hf, sorted_policyInstant hleft.1 hright.1,
    sorted_policyInstant hleft.2 hright.2, sorted_policyDuration, sorted, text.injEq, number.injEq,
    OpportunityPolicyFields.map, OpportunityPolicyFields.mk.injEq]

/-- Documents of legs are sorted alike exactly when the legs have equal fields. -/
theorem OptionLeg.sorted_iff (hf : ByValue f) {left right : OptionLeg} (hleft : left.Dated)
    (hright : right.Dated) :
    left.document.sorted = right.document.sorted ↔ left.map f = right.map f := by
  have hdate : (policyDate left.expiry).sorted = (policyDate right.expiry).sorted ↔
      left.expiry = right.expiry := policyDate_inj hleft.1 hright.1
  rw [document, document, sorted_object_iff (by simp) (by rfl)]
  simp only [List.map_cons, List.map_nil, sortedPair, List.cons.injEq, Prod.mk.injEq, true_and,
    and_true, sorted_policyNumber hf, sorted_policyInstant hleft.2 hright.2, hdate, sorted,
    text.injEq, number.injEq, bool.injEq, OptionRight.text_inj, PositionIntent.text_inj,
    InstrumentKind.text_inj, OptionFeed.text_inj, OptionLeg.map, OptionLeg.mk.injEq]

/-- Documents of lists of legs are sorted alike exactly when the legs are the same. -/
theorem legs_sorted_iff (hf : ByValue f) {left right : List OptionLeg}
    (hleft : ∀ leg ∈ left, leg.Dated) (hright : ∀ leg ∈ right, leg.Dated) :
    (Json.array (left.map OptionLeg.document)).sorted =
        (Json.array (right.map OptionLeg.document)).sorted ↔
      left.map (OptionLeg.map f) = right.map (OptionLeg.map f) := by
  simp only [sorted, array.injEq, sortedItems_eq, List.map_map]
  induction left generalizing right with
  | nil => cases right <;> simp
  | cons leg left ih =>
      cases right with
      | nil => simp
      | cons other right =>
          rw [List.forall_mem_cons] at hleft hright
          simp only [List.map_cons, List.cons.injEq, Function.comp_apply,
            OptionLeg.sorted_iff hf hleft.1 hright.1]
          exact and_congr_right' (ih hleft.2 hright.2)

/-- Documents of candidates are sorted alike exactly when the candidates have equal fields. -/
theorem VerticalCandidate.sorted_iff (hf : ByValue f) {left right : VerticalCandidate}
    (hleft : ∀ leg ∈ left.legs, leg.Dated) (hright : ∀ leg ∈ right.legs, leg.Dated) :
    left.document.sorted = right.document.sorted ↔ left.map f = right.map f := by
  obtain ⟨strategy, legs, quantity, dte, limit, score, rank, sufficient, maximum⟩ := left
  obtain ⟨strategy', legs', quantity', dte', limit', score', rank', sufficient', maximum'⟩ := right
  have hshort : ∀ {members others : List (String × Json)}, (object members).sorted =
      (object others).sorted → members.length = others.length := by
    intro members others h
    rw [sorted, sorted, object.injEq] at h
    have hperm : (members.map sortedPair).Perm (others.map sortedPair) := by
      refine (sorted_perm members).symm.trans ?_
      rw [h]
      exact sorted_perm others
    simpa using hperm.length_eq
  cases maximum with
  | none =>
      cases maximum' with
      | some =>
          refine iff_of_false (fun h => ?_) (by simp [VerticalCandidate.map])
          cases hshort h
      | none =>
          rw [document, document, sorted_object_iff (by simp) (by rfl)]
          simp only [List.append_nil, List.map_cons, List.map_nil, sortedPair, List.cons.injEq,
            Prod.mk.injEq, true_and, and_true, sorted_policyNumber hf,
            legs_sorted_iff hf hleft hright]
          simp only [sorted, text.injEq, number.injEq, bool.injEq, VerticalStrategy.text_inj,
            VerticalCandidate.map, VerticalCandidate.mk.injEq, and_true, Option.map_none]
  | some maximum =>
      cases maximum' with
      | none =>
          refine iff_of_false (fun h => ?_) (by simp [VerticalCandidate.map])
          cases hshort h
      | some maximum' =>
          rw [document, document, sorted_object_iff (by simp) (by rfl)]
          simp only [List.cons_append, List.nil_append, List.map_cons, List.map_nil, sortedPair,
            List.cons.injEq, Prod.mk.injEq, true_and, and_true, sorted_policyNumber hf,
            legs_sorted_iff hf hleft hright]
          simp only [sorted, text.injEq, number.injEq, bool.injEq, VerticalStrategy.text_inj,
            VerticalCandidate.map, VerticalCandidate.mk.injEq, Option.map_some, Option.some.injEq]

/-- Documents of accounts are sorted alike exactly when the accounts have equal fields. -/
theorem AccountOpportunityState.sorted_iff (hf : ByValue f) {left right : AccountOpportunityState} :
    left.document.sorted = right.document.sorted ↔ left.map f = right.map f := by
  rw [document, document, sorted_object_iff (by simp) (by rfl)]
  simp only [List.map_cons, List.map_nil, sortedPair, List.cons.injEq, Prod.mk.injEq, true_and,
    and_true, sorted_policyNumber hf, sorted, text.injEq, number.injEq, bool.injEq,
    AccountRole.text_inj, AccountOpportunityState.map, AccountOpportunityState.mk.injEq]

/-- Documents of inputs are sorted alike exactly when the inputs have equal fields. -/
theorem OpportunityInput.sorted_iff (hf : ByValue f) {left right : OpportunityInput}
    (hleft : left.Dated) (hright : right.Dated) :
    left.document.sorted = right.document.sorted ↔ left.map f = right.map f := by
  obtain ⟨hboundary, hevaluated, hbar, hunderlying, hcatalyst, hlegs⟩ := hleft
  obtain ⟨hboundary', hevaluated', hbar', hunderlying', hcatalyst', hlegs'⟩ := hright
  have houtcome : (ofOptional (fun outcome : OpportunityOutcome => Json.text outcome.text)
      left.priorDecisionOutcome).sorted = (ofOptional (fun outcome => .text outcome.text)
      right.priorDecisionOutcome).sorted ↔
      left.priorDecisionOutcome = right.priorDecisionOutcome := by
    rcases left.priorDecisionOutcome with _ | ⟨⟨⟩⟩ <;>
      rcases right.priorDecisionOutcome with _ | ⟨⟨⟩⟩ <;>
        simp [ofOptional, sorted, OpportunityOutcome.text]
  have hcandidate : (ofOptional VerticalCandidate.document left.candidate).sorted =
      (ofOptional VerticalCandidate.document right.candidate).sorted ↔
      left.candidate.map (VerticalCandidate.map f) =
        right.candidate.map (VerticalCandidate.map f) := by
    generalize left.candidate = candidate at hlegs ⊢
    generalize right.candidate = candidate' at hlegs' ⊢
    cases candidate with
    | none =>
        cases candidate' with
        | none => simp
        | some other => simp [ofOptional, sorted, VerticalCandidate.document]
    | some candidate =>
        cases candidate' with
        | none => simp [ofOptional, sorted, VerticalCandidate.document]
        | some other =>
            rw [Option.map_some, Option.map_some, Option.some.injEq]
            exact VerticalCandidate.sorted_iff hf (hlegs candidate rfl) (hlegs' other rfl)
  rw [document, document, sorted_object_iff (by simp) (by rfl)]
  simp only [List.map_cons, List.map_nil, sortedPair, List.cons.injEq, Prod.mk.injEq, true_and,
    and_true, sorted_policyNumber hf, sorted_policyInstant hboundary hboundary',
    sorted_policyInstant hevaluated hevaluated', sorted_policyInstant hbar hbar',
    sorted_policyInstant hunderlying hunderlying', sorted_policyInstant hcatalyst hcatalyst',
    houtcome, hcandidate, AccountOpportunityState.sorted_iff hf, TradingHaltState.document_inj]
  simp only [sorted, text.injEq, number.injEq, bool.injEq, DataQuality.text_inj,
    CatalystQuality.text_inj, OpportunityInput.map, OpportunityInput.mk.injEq]

end

/-! ## Names of members -/

section

/-- An object is keyed when its names differ and its values are keyed. -/
theorem keyed_object {members : List (String × Json)} (hnames : (members.map (·.1)).Nodup)
    (h : (members.map (·.2)).Forall Keyed) : Keyed (object members) := by
  refine .object hnames fun pair hpair => ?_
  exact (List.forall_iff_forall_mem.mp h) _ (List.mem_map_of_mem hpair)

theorem keyed_policyDuration (duration : Int) : Keyed (policyDuration duration) :=
  keyed_object (by simp) ⟨.number _, .number _, .number _⟩

theorem OpportunityPolicyFields.keyed (policy : OpportunityPolicyFields) : Keyed policy.document :=
  keyed_object (by simp) (by
    simp [policyNumber, policyInstant, ofChars, Keyed.text, Keyed.number, keyed_policyDuration])

theorem OptionLeg.keyed (leg : OptionLeg) : Keyed leg.document :=
  keyed_object (by simp) (by
    simp [policyNumber, policyInstant, policyDate, ofChars, Keyed.text, Keyed.number, Keyed.bool])

theorem VerticalCandidate.keyed (candidate : VerticalCandidate) : Keyed candidate.document := by
  have hlegs : Keyed (.array (candidate.legs.map OptionLeg.document)) := by
    refine .array fun item hitem => ?_
    obtain ⟨leg, -, rfl⟩ := List.mem_map.mp hitem
    exact leg.keyed
  rw [document]
  cases candidate.maximumLimit with
  | none => exact keyed_object (by simp) (by
      simp [policyNumber, Keyed.text, Keyed.number, Keyed.bool, hlegs])
  | some limit => exact keyed_object (by simp) (by
      simp [policyNumber, Keyed.text, Keyed.number, Keyed.bool, hlegs])

theorem OpportunityInput.keyed (values : OpportunityInput) : Keyed values.document := by
  have haccount : Keyed values.account.document := keyed_object (by simp) (by
    simp [policyNumber, Keyed.text, Keyed.number, Keyed.bool])
  have hcandidate : Keyed (ofOptional VerticalCandidate.document values.candidate) := by
    cases values.candidate with
    | none => exact .null
    | some candidate => exact candidate.keyed
  have houtcome : Keyed (ofOptional (fun outcome : OpportunityOutcome => .text outcome.text)
      values.priorDecisionOutcome) := by
    cases values.priorDecisionOutcome with
    | none => exact .null
    | some outcome => exact .text _
  have hhalted : Keyed values.tradingHalted.document := by
    cases values.tradingHalted <;> constructor
  exact keyed_object (by simp) (by
    simp [policyNumber, policyInstant, ofChars, Keyed.text, Keyed.number, Keyed.bool, haccount,
      hcandidate, houtcome, hhalted])

end

/-! ## Results -/

def hashMaterial (domain : String) (value : Json) : Json :=
  .object [("domain", .text domain), ("value", value)]

/-- The materials of values have one text exactly when the values do. -/
theorem hashMaterial_text_iff {domain : String} {value other : Json} (h : Keyed value)
    (h' : Keyed other) :
    (hashMaterial domain value).canonicalText true =
        (hashMaterial domain other).canonicalText true ↔
      value.canonicalText true = other.canonicalText true := by
  have hkeyed : ∀ {value}, Keyed value → Keyed (hashMaterial domain value) :=
    fun h => keyed_object (by simp) ⟨.text _, h⟩
  rw [canonicalText_eq_iff (hkeyed h) (hkeyed h'), canonicalText_eq_iff h h', hashMaterial,
    hashMaterial, sorted_object_iff (by simp) (by rfl)]
  simp [sortedPair]

/-- Inputs, and policies, have one canonical text, alone and as the material of their hash, exactly
when their fields are equal with decimals compared by value. -/
theorem canonical_text_iff {f : Decimal → Decimal} (hf : ByValue f) :
    (∀ left right : OpportunityInput, left.Dated → right.Dated →
      (left.document.canonicalText true = right.document.canonicalText true ↔
        left.map f = right.map f) ∧
      ∀ domain, (hashMaterial domain left.document).canonicalText true =
        (hashMaterial domain right.document).canonicalText true ↔ left.map f = right.map f) ∧
    ∀ left right : OpportunityPolicyFields, left.Dated → right.Dated →
      (left.document.canonicalText true = right.document.canonicalText true ↔
        left.map f = right.map f) ∧
      ∀ domain, (hashMaterial domain left.document).canonicalText true =
        (hashMaterial domain right.document).canonicalText true ↔ left.map f = right.map f := by
  refine ⟨fun left right hleft hright => ?_, fun left right hleft hright => ?_⟩
  · have htext := (@canonicalText_eq_iff true _ _ left.keyed right.keyed).trans
      (OpportunityInput.sorted_iff hf hleft hright)
    exact ⟨htext, fun domain => (hashMaterial_text_iff left.keyed right.keyed).trans htext⟩
  · have htext := (@canonicalText_eq_iff true _ _ left.keyed right.keyed).trans
      (OpportunityPolicyFields.sorted_iff hf hleft hright)
    exact ⟨htext, fun domain => (hashMaterial_text_iff left.keyed right.keyed).trans htext⟩

section Rehearsed

/-- The rehearsed inputs are of the calendar. -/
theorem rehearsedInput_dated (limit : Decimal) : (rehearsedInput limit).Dated := by
  have hboundary : Calendar.InRange (Calendar.seconds 600) := by decide
  have hevaluated : Calendar.InRange (Calendar.seconds 610) := by decide
  refine ⟨hboundary, hevaluated, hboundary, hboundary, hboundary, fun candidate hcandidate => ?_⟩
  obtain rfl := Option.some.inj hcandidate
  intro leg hleg
  rcases List.mem_cons.mp hleg with rfl | hleg
  · exact ⟨by decide, by decide⟩
  · obtain rfl := List.mem_singleton.mp hleg
    exact ⟨by decide, by decide⟩

/-- In the rehearsal a limit of one dollar is written in one way, with cents and without, and a
limit just above it in another. -/
theorem canonical_text_iff_rehearsed :
    (rehearsedInput dollarLimit).document.canonicalText true =
        (rehearsedInput (.ofInt 1)).document.canonicalText true ∧
      (rehearsedInput dollarLimit).document.canonicalText true ≠
        (rehearsedInput longLimit).document.canonicalText true := by
  have hf : ByValue StrategyBriefs.canonicalForm := fun _ _ => StrategyBriefs.canonicalForm_eq_iff
  have hsame : StrategyBriefs.canonicalForm dollarLimit = StrategyBriefs.canonicalForm (.ofInt 1) :=
    (hf _ _).mpr (by
      rw [Decimal.value_ofInt]
      norm_num [dollarLimit, Decimal.value, Decimal.significand])
  refine ⟨?_, fun htext => ?_⟩
  · rw [((canonical_text_iff hf).1 _ _ (rehearsedInput_dated _) (rehearsedInput_dated _)).1]
    simp only [OpportunityInput.map, rehearsedInput, VerticalCandidate.map, rehearsedCandidate,
      Option.map_some, hsame]
  · replace htext := ((canonical_text_iff hf).1 _ _ (rehearsedInput_dated _)
      (rehearsedInput_dated _)).1.mp htext
    have hcandidate := Option.some.inj (congrArg OpportunityInput.candidate htext)
    have hvalue := (hf dollarLimit longLimit).mp
      (congrArg VerticalCandidate.approvedLimit hcandidate)
    norm_num [dollarLimit, longLimit, Decimal.value, Decimal.significand] at hvalue

end Rehearsed

end AlphaDecay.Policy
