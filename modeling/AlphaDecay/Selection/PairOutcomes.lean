import AlphaDecay.Selection.Agreement
import AlphaDecay.Selection.PairLists

/-!
# What pairs come to

A pair of options is eligible when it has geometry and score, and it is ranked when the amounts of
the authority size it. Under a policy every pair of quoted options comes to one of the two, or to
neither, whichever option is first. A structural pilot raises for a pair whose prices have no whole
cents within the precision.
-/

namespace AlphaDecay.Selection

open Foundation Decimal Policy

/-! ## Rules -/

/-- A pair has geometry and score under a policy: the structure that it builds has terms with a
score that the policy takes. -/
structure PolicyTerms (policy : OpportunityPolicyFields) (direction : OpportunityDirection)
    (first second : OpportunityOption) (strategy : VerticalStrategy)
    (bought sold : OpportunityOption) (terms : CandidateTerms) : Prop where
  built : buildStructure first second direction = some (strategy, bought, sold)
  computed : candidateTerms policy bought sold strategy = .ok (some terms)
  score : policy.minimumCandidateScore ≤ terms.score

def PolicyEligible (policy : OpportunityPolicyFields) (direction : OpportunityDirection)
    (first second : OpportunityOption) : Prop :=
  ∃ strategy bought sold terms, PolicyTerms policy direction first second strategy bought sold terms

/-- An eligible pair is sized and ranked under a policy. -/
def PolicyRanks (policy : OpportunityPolicyFields) (direction : OpportunityDirection)
    (requested : Int) (authority : CandidateSelectionAuthority)
    (first second : OpportunityOption) (item : RankedCandidate) : Prop :=
  ∃ strategy bought sold terms quantity,
    PolicyTerms policy direction first second strategy bought sold terms ∧
    affordableQuantity policy requested authority terms.riskPerContract = .ok quantity ∧
    1 ≤ quantity ∧
    item = ⟨policyCandidate policy authority strategy bought sold terms quantity,
      terms.riskPerContract⟩

structure PilotPairTerms (snapshot : OpportunityMarketSnapshot)
    (profile : StructuralBullishPilotProfile) (bought sold : OpportunityOption)
    (terms : PilotTerms) : Prop where
  geometry : pilotMatches profile bought sold = true
  computed : structuralPilotTerms snapshot bought sold profile = .ok (some terms)

def PilotEligible (snapshot : OpportunityMarketSnapshot) (profile : StructuralBullishPilotProfile)
    (bought sold : OpportunityOption) : Prop :=
  ∃ terms, PilotPairTerms snapshot profile bought sold terms

/-- An eligible pair is sized in full and ranked for a structural pilot. -/
def PilotRanks (snapshot : OpportunityMarketSnapshot) (policy : OpportunityPolicyFields)
    (authority : CandidateSelectionAuthority) (profile : StructuralBullishPilotProfile)
    (bought sold : OpportunityOption) (item : RankedCandidate) : Prop :=
  ∃ terms, PilotPairTerms snapshot profile bought sold terms ∧
    affordableQuantity policy policy.maximumQuantity authority terms.riskPerContract =
      .ok policy.maximumQuantity ∧
    item = ⟨pilotCandidate policy authority profile bought sold terms, terms.riskPerContract⟩

/-- The prices of a quoted pair of a structural pilot have no whole cents within the precision. -/
structure Unquantizable (snapshot : OpportunityMarketSnapshot)
    (profile : StructuralBullishPilotProfile) (bought sold : OpportunityOption) : Prop where
  geometry : pilotMatches profile bought sold = true
  quoted : pilotQuoted snapshot bought sold profile = .ok true
  prices : (∃ midpoint, divide ((bought.bid + bought.ask) - (sold.bid + sold.ask)) (.ofInt 2) =
      .ok midpoint ∧ midpoint.quantizeCeiling centExponent = none) ∨
    (bought.ask - sold.bid).quantizeFloor centExponent = none

/-- What a pair comes to, by rules of eligibility and of ranking. -/
inductive Judged (eligible : OpportunityOption → OpportunityOption → Prop)
    (ranks : OpportunityOption → OpportunityOption → RankedCandidate → Prop)
    (first second : OpportunityOption) : PairOutcome → Prop where
  | ineligible (h : ¬ eligible first second) : Judged eligible ranks first second .ineligible
  | unaffordable (h : eligible first second) (hnot : ∀ item, ¬ ranks first second item) :
      Judged eligible ranks first second .unaffordable
  | ranked (item : RankedCandidate) (h : eligible first second)
      (hranks : ∀ other, ranks first second other ↔ other = item) :
      Judged eligible ranks first second (.ranked item)

/-! ## Spreads and scores -/

variable {snapshot : OpportunityMarketSnapshot} {policy : OpportunityPolicyFields}
  {authority : CandidateSelectionAuthority} {direction : OpportunityDirection} {requested : Int}
  {profile : StructuralBullishPilotProfile} {first second bought sold : OpportunityOption}
  {strategy : VerticalStrategy} {outcome : PairOutcome}

/-- The spread of a quoted option is computed. -/
theorem relativeSpread_ok {option : OpportunityOption} (h : OptionQuoted option snapshot policy) :
    ∃ spread, relativeSpread option = .ok spread := by
  obtain ⟨-, -, -, -, ⟨hbid, hask⟩, -⟩ := h
  rw [lt_iff_value, value_ofInt, Int.cast_zero] at hbid
  rw [le_iff_value] at hask
  have htwo : 0 < (Decimal.ofInt 2).value := by
    rw [value_ofInt]
    norm_num
  have hsum : 0 < (option.ask + option.bid).value := value_add_pos.mpr (by linarith)
  obtain ⟨midpoint, hmidpoint⟩ := divide_isSome (a := option.ask + option.bid) htwo
  obtain ⟨spread, hspread⟩ := divide_isSome (a := option.ask - option.bid)
    (value_div_pos (require_ok.mp hmidpoint) hsum htwo)
  exact ⟨spread, bind_ok.mpr ⟨midpoint, hmidpoint, hspread⟩⟩

theorem spreadScore_ok {widest : Decimal} (h : 0 < widest.value) (worst : Decimal) :
    ∃ score, spreadScore widest worst = .ok score := by
  obtain ⟨quotient, hquotient⟩ := divide_isSome (a := .ofInt 100 * (widest - worst)) h
  exact ⟨_, bind_ok.mpr ⟨quotient, hquotient, rfl⟩⟩

theorem affordableQuantity_isOk {risk : Decimal} (h : 0 < risk.value) :
    ∃ quantity, affordableQuantity policy requested authority risk = .ok quantity := by
  obtain ⟨quotient, hquotient⟩ := divide_isSome (a := positionCap policy authority) h
  exact ⟨_, bind_ok.mpr ⟨quotient, hquotient, rfl⟩⟩

/-! ## Pairs under a policy -/

/-- The terms of quoted options are computed. -/
theorem candidateTerms_isOk (hwidest : 0 < policy.maximumRelativeSpread.value)
    (hbought : OptionQuoted bought snapshot policy) (hsold : OptionQuoted sold snapshot policy) :
    ∃ terms, candidateTerms policy bought sold strategy = .ok terms := by
  unfold candidateTerms
  dsimp only
  split
  · exact ⟨none, rfl⟩
  split
  · exact ⟨none, rfl⟩
  rename_i hprices
  simp only [not_or, le_iff_value, not_le, value_ofInt, Int.cast_zero] at hprices
  obtain ⟨fraction, hfraction⟩ :=
    divide_isSome (a := naturalPrice strategy bought sold) hprices.2
  rw [hfraction, ok_bind]
  split
  · exact ⟨none, rfl⟩
  obtain ⟨boughtSpread, hboughtSpread⟩ := relativeSpread_ok hbought
  obtain ⟨soldSpread, hsoldSpread⟩ := relativeSpread_ok hsold
  obtain ⟨score, hscore⟩ := spreadScore_ok hwidest (maximum boughtSpread soldSpread)
  rw [hboughtSpread, ok_bind, hsoldSpread, ok_bind, hscore, ok_bind]
  exact ⟨_, rfl⟩

/-- A structure is built of two options in either order. -/
theorem buildStructure_comm (first second : OpportunityOption) (direction : OpportunityDirection) :
    buildStructure first second direction = buildStructure second first direction := by
  unfold buildStructure
  by_cases hfamily : first.underlying ≠ second.underlying ∨ first.right ≠ second.right ∨
      first.expiry ≠ second.expiry ∨ (first.strike == second.strike) = true
  · have hother : second.underlying ≠ first.underlying ∨ second.right ≠ first.right ∨
        second.expiry ≠ first.expiry ∨ (second.strike == first.strike) = true := by
      rw [beq_iff_value] at hfamily ⊢
      simpa only [ne_comm, eq_comm] using hfamily
    rw [if_pos hfamily, if_pos hother]
  · have hother : ¬ (second.underlying ≠ first.underlying ∨ second.right ≠ first.right ∨
        second.expiry ≠ first.expiry ∨ (second.strike == first.strike) = true) := by
      rw [beq_iff_value] at hfamily ⊢
      simpa only [ne_comm, eq_comm] using hfamily
    rw [if_neg hfamily, if_neg hother]
    simp only [not_or, not_not, beq_iff_value] at hfamily
    obtain ⟨-, hright, -, hstrike⟩ := hfamily
    rcases lt_or_gt_of_ne hstrike with hless | hgreater
    · have hlt : first.strike < second.strike := lt_iff_value.mpr hless
      have hnot : ¬ second.strike < first.strike := by
        rw [lt_iff_value, not_lt]
        exact hless.le
      simp only [if_pos hlt, if_neg hnot, hright]
    · have hlt : second.strike < first.strike := lt_iff_value.mpr hgreater
      have hnot : ¬ first.strike < second.strike := by
        rw [lt_iff_value, not_lt]
        exact hgreater.le
      simp only [if_pos hlt, if_neg hnot, hright]

theorem policyPair_comm (first second : OpportunityOption) :
    policyPair policy direction requested authority (first, second) =
      policyPair policy direction requested authority (second, first) := by
  unfold policyPair
  dsimp only
  rw [buildStructure_comm]

/-- What a pair comes to under a policy is judged by its rules. -/
theorem policyPair_judged
    (h : policyPair policy direction requested authority (first, second) = .ok outcome) :
    Judged (PolicyEligible policy direction) (PolicyRanks policy direction requested authority)
      first second outcome := by
  unfold policyPair at h
  dsimp only at h
  cases hbuilt : buildStructure first second direction with
  | none =>
      rw [hbuilt] at h
      obtain rfl := Except.ok.inj h
      refine .ineligible ?_
      rintro ⟨strategy, bought, sold, terms, hterms⟩
      rw [hterms.built] at hbuilt
      cases hbuilt
  | some found =>
      obtain ⟨strategy, bought, sold⟩ := found
      rw [hbuilt] at h
      dsimp only at h
      obtain ⟨found, hfound, h⟩ := bind_ok.mp h
      -- The structure and its terms are the only ones of the pair.
      have honly : ∀ strategy' bought' sold' terms',
          PolicyTerms policy direction first second strategy' bought' sold' terms' →
            strategy' = strategy ∧ bought' = bought ∧ sold' = sold ∧ found = some terms' ∧
              policy.minimumCandidateScore ≤ terms'.score := by
        intro strategy' bought' sold' terms' hterms
        obtain ⟨rfl, rfl, rfl⟩ : strategy = strategy' ∧ bought = bought' ∧ sold = sold' := by
          simpa using hbuilt.symm.trans hterms.built
        exact ⟨rfl, rfl, rfl, Except.ok.inj (hfound.symm.trans hterms.computed), hterms.score⟩
      cases found with
      | none =>
          obtain rfl := Except.ok.inj h
          refine .ineligible ?_
          rintro ⟨strategy', bought', sold', terms', hterms⟩
          cases (honly _ _ _ _ hterms).2.2.2.1
      | some terms =>
          dsimp only at h
          split at h
          · rename_i hlow
            obtain rfl := Except.ok.inj h
            refine .ineligible ?_
            rintro ⟨strategy', bought', sold', terms', hterms⟩
            obtain ⟨-, -, -, hsame, hscore⟩ := honly _ _ _ _ hterms
            obtain rfl := Option.some.inj hsame
            exact absurd hscore (not_le.mpr hlow)
          · rename_i hscore
            have hterms : PolicyTerms policy direction first second strategy bought sold terms :=
              ⟨hbuilt, hfound, not_lt.mp hscore⟩
            have heligible : PolicyEligible policy direction first second :=
              ⟨strategy, bought, sold, terms, hterms⟩
            obtain ⟨quantity, hquantity, h⟩ := bind_ok.mp h
            split at h
            · rename_i hnone
              obtain rfl := Except.ok.inj h
              refine .unaffordable heligible ?_
              rintro item
                ⟨strategy', bought', sold', terms', quantity', hterms', hquantity', hone, -⟩
              obtain ⟨-, -, -, hsame, -⟩ := honly _ _ _ _ hterms'
              obtain rfl := Option.some.inj hsame
              obtain rfl := Except.ok.inj (hquantity.symm.trans hquantity')
              omega
            · rename_i hone
              obtain rfl := Except.ok.inj h
              refine .ranked _ heligible fun other => ⟨?_, ?_⟩
              · rintro ⟨strategy', bought', sold', terms', quantity', hterms', hquantity', -, rfl⟩
                obtain ⟨rfl, rfl, rfl, hsame, -⟩ := honly _ _ _ _ hterms'
                obtain rfl := Option.some.inj hsame
                obtain rfl := Except.ok.inj (hquantity.symm.trans hquantity')
                rfl
              · rintro rfl
                exact ⟨strategy, bought, sold, terms, quantity, hterms, hquantity, not_lt.mp hone,
                  rfl⟩

/-- The two options of a structure are those of its pair. -/
theorem quoted_of_build (h : buildStructure first second direction = some (strategy, bought, sold))
    (hfirst : OptionQuoted first snapshot policy) (hsecond : OptionQuoted second snapshot policy) :
    OptionQuoted bought snapshot policy ∧ OptionQuoted sold snapshot policy := by
  rcases (structureOf_build h).options with ⟨rfl, rfl⟩ | ⟨rfl, rfl⟩
  · exact ⟨hfirst, hsecond⟩
  · exact ⟨hsecond, hfirst⟩

/-- A pair of quoted options comes to something under a policy. -/
theorem policyPair_isOk (hwidest : 0 < policy.maximumRelativeSpread.value)
    (hfirst : OptionQuoted first snapshot policy) (hsecond : OptionQuoted second snapshot policy) :
    ∃ outcome, policyPair policy direction requested authority (first, second) = .ok outcome := by
  unfold policyPair
  dsimp only
  cases hbuilt : buildStructure first second direction with
  | none => exact ⟨.ineligible, rfl⟩
  | some found =>
      obtain ⟨strategy, bought, sold⟩ := found
      obtain ⟨hbought, hsold⟩ := quoted_of_build hbuilt hfirst hsecond
      obtain ⟨terms, hterms⟩ := @candidateTerms_isOk snapshot policy bought sold strategy hwidest
        hbought hsold
      dsimp only
      rw [hterms, ok_bind]
      cases terms with
      | none => exact ⟨.ineligible, rfl⟩
      | some terms =>
          dsimp only
          split
          · exact ⟨.ineligible, rfl⟩
          · obtain ⟨quantity, hquantity⟩ := @affordableQuantity_isOk policy authority requested _
              (termsOf_candidateTerms hterms).riskPositive
            rw [hquantity, ok_bind]
            split
            · exact ⟨.unaffordable, rfl⟩
            · exact ⟨_, rfl⟩

/-! ## Pairs of a structural pilot -/

/-- Whether the quotes of quoted options are within a structural pilot is computed. -/
theorem pilotQuoted_isOk (hbought : OptionQuoted bought snapshot policy)
    (hsold : OptionQuoted sold snapshot policy) :
    ∃ quoted, pilotQuoted snapshot bought sold profile = .ok quoted := by
  obtain ⟨boughtSpread, hboughtSpread⟩ := relativeSpread_ok hbought
  obtain ⟨soldSpread, hsoldSpread⟩ := relativeSpread_ok hsold
  unfold pilotQuoted
  dsimp only
  split
  · exact ⟨false, rfl⟩
  rw [hboughtSpread, ok_bind]
  split
  · exact ⟨false, rfl⟩
  rw [hsoldSpread, ok_bind]
  exact ⟨_, rfl⟩

/-- The terms of a pair of quoted options are computed, unless its prices have no whole cents. -/
theorem structuralPilotTerms_cases (hwidest : 0 < profile.maximumRelativeSpread.value)
    (hbought : OptionQuoted bought snapshot policy) (hsold : OptionQuoted sold snapshot policy)
    (hgeometry : pilotMatches profile bought sold = true) :
    (∃ terms, structuralPilotTerms snapshot bought sold profile = .ok terms) ∨
      (structuralPilotTerms snapshot bought sold profile = .error .arithmetic ∧
        Unquantizable snapshot profile bought sold) := by
  have htwo : 0 < (Decimal.ofInt 2).value := by
    rw [value_ofInt]
    norm_num
  obtain ⟨quoted, hquoted⟩ := @pilotQuoted_isOk snapshot policy profile bought sold hbought hsold
  unfold structuralPilotTerms
  rw [hquoted, ok_bind]
  cases quoted with
  | false => exact .inl ⟨none, rfl⟩
  | true =>
      obtain ⟨midpoint, hmidpoint⟩ :=
        divide_isSome (a := (bought.bid + bought.ask) - (sold.bid + sold.ask)) htwo
      rw [if_neg (by simp)]
      dsimp only
      rw [hmidpoint, ok_bind]
      cases hinitial : midpoint.quantizeCeiling centExponent with
      | none => exact .inr ⟨rfl, hgeometry, hquoted, .inl ⟨midpoint, hmidpoint, hinitial⟩⟩
      | some initial =>
          rw [require_some, ok_bind]
          cases hhighest : (bought.ask - sold.bid).quantizeFloor centExponent with
          | none => exact .inr ⟨rfl, hgeometry, hquoted, .inr hhighest⟩
          | some highest =>
              refine .inl ?_
              rw [require_some, ok_bind]
              split
              · exact ⟨none, rfl⟩
              obtain ⟨boughtSpread, hboughtSpread⟩ := relativeSpread_ok hbought
              obtain ⟨soldSpread, hsoldSpread⟩ := relativeSpread_ok hsold
              obtain ⟨score, hscore⟩ := spreadScore_ok hwidest (maximum boughtSpread soldSpread)
              rw [hboughtSpread, ok_bind, hsoldSpread, ok_bind, hscore, ok_bind]
              exact ⟨_, rfl⟩

/-- A pair of quoted options comes to something for a structural pilot, unless its prices have no
whole cents. -/
theorem pilotPair_cases (hwidest : 0 < profile.maximumRelativeSpread.value)
    (hbought : OptionQuoted bought snapshot policy) (hsold : OptionQuoted sold snapshot policy) :
    (∃ outcome, pilotPair snapshot policy authority profile (bought, sold) = .ok outcome) ∨
      (pilotPair snapshot policy authority profile (bought, sold) = .error .arithmetic ∧
        Unquantizable snapshot profile bought sold) := by
  unfold pilotPair
  dsimp only
  cases hgeometry : pilotMatches profile bought sold with
  | false => exact .inl ⟨.ineligible, rfl⟩
  | true =>
      rw [if_neg (by simp)]
      rcases structuralPilotTerms_cases hwidest hbought hsold hgeometry with
        ⟨found, hfound⟩ | ⟨hraised, hunquantizable⟩
      · refine .inl ?_
        rw [hfound, ok_bind]
        cases found with
        | none => exact ⟨.ineligible, rfl⟩
        | some terms =>
            obtain ⟨-, hterms⟩ := pilotTermsOf_terms hfound
            have hpositive : 0 < terms.maximumLimit.value := hterms.positive.trans_le hterms.ordered
            have hrisk : 0 < terms.riskPerContract.value := by
              rw [hterms.risk, value_mul_pos, value_ofInt]
              exact mul_pos hpositive (by norm_num)
            obtain ⟨quantity, hquantity⟩ :=
              @affordableQuantity_isOk policy authority policy.maximumQuantity _ hrisk
            dsimp only
            rw [hquantity, ok_bind]
            split
            · exact ⟨.unaffordable, rfl⟩
            · exact ⟨_, rfl⟩
      · refine .inr ⟨?_, hunquantizable⟩
        rw [hraised]
        rfl

/-- A pair of a structural pilot whose prices have no whole cents raises. -/
theorem Unquantizable.raises (h : Unquantizable snapshot profile bought sold) :
    pilotPair snapshot policy authority profile (bought, sold) = .error .arithmetic := by
  have htwo : 0 < (Decimal.ofInt 2).value := by
    rw [value_ofInt]
    norm_num
  obtain ⟨middle, hmiddle⟩ :=
    divide_isSome (a := (bought.bid + bought.ask) - (sold.bid + sold.ask)) htwo
  have hterms : structuralPilotTerms snapshot bought sold profile = .error .arithmetic := by
    unfold structuralPilotTerms
    rw [h.quoted, ok_bind, if_neg (by simp)]
    dsimp only
    rw [hmiddle, ok_bind]
    rcases h.prices with ⟨midpoint, hmidpoint, hnone⟩ | hnone
    · obtain rfl := Except.ok.inj (hmiddle.symm.trans hmidpoint)
      rw [hnone]
      rfl
    · rw [hnone]
      cases middle.quantizeCeiling centExponent <;> rfl
  unfold pilotPair
  dsimp only
  rw [h.geometry, if_neg (by simp), hterms]
  rfl

/-- What a pair comes to for a structural pilot is judged by its rules. -/
theorem pilotPair_judged
    (h : pilotPair snapshot policy authority profile (bought, sold) = .ok outcome) :
    Judged (PilotEligible snapshot profile) (PilotRanks snapshot policy authority profile)
      bought sold outcome := by
  unfold pilotPair at h
  dsimp only at h
  split at h
  · rename_i hgeometry
    obtain rfl := Except.ok.inj h
    refine .ineligible ?_
    rintro ⟨terms, hterms⟩
    rw [hterms.geometry] at hgeometry
    cases hgeometry
  · rename_i hgeometry
    rw [Bool.not_eq_false] at hgeometry
    obtain ⟨found, hfound, h⟩ := bind_ok.mp h
    cases found with
    | none =>
        obtain rfl := Except.ok.inj h
        refine .ineligible ?_
        rintro ⟨terms, hterms⟩
        cases Except.ok.inj (hfound.symm.trans hterms.computed)
    | some terms =>
        have hterms : PilotPairTerms snapshot profile bought sold terms := ⟨hgeometry, hfound⟩
        have honly : ∀ terms', PilotPairTerms snapshot profile bought sold terms' →
            terms = terms' := fun terms' hterms' =>
          Option.some.inj (Except.ok.inj (hfound.symm.trans hterms'.computed))
        dsimp only at h
        obtain ⟨quantity, hquantity, h⟩ := bind_ok.mp h
        split at h
        · rename_i hpart
          obtain rfl := Except.ok.inj h
          refine .unaffordable ⟨terms, hterms⟩ ?_
          rintro item ⟨terms', hterms', hfull, -⟩
          obtain rfl := honly _ hterms'
          exact hpart (Except.ok.inj (hquantity.symm.trans hfull))
        · rename_i hfull
          rw [not_not] at hfull
          subst hfull
          obtain rfl := Except.ok.inj h
          refine .ranked _ ⟨terms, hterms⟩ fun other => ⟨?_, ?_⟩
          · rintro ⟨terms', hterms', -, rfl⟩
            obtain rfl := honly _ hterms'
            rfl
          · rintro rfl
            exact ⟨terms, hterms, hquantity, rfl⟩

end AlphaDecay.Selection
