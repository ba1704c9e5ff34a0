import AlphaDecay.Selection.PairOutcomes

/-!
# Selection is exhaustive and independent of order

For valid inputs the selector finds the least in rank of all items that pairs of options are ranked
for, whichever way a pair is ordered, and nothing only where no pair is ranked. It finds the same
of the options in another order. A structural pilot may also raise, for prices without whole cents
within the precision.
-/

namespace AlphaDecay.Selection

open Foundation Decimal Policy

/-! ## Ranks -/

abbrev DateRank := (ℕ ×ₗ ℕ) ×ₗ ℕ

/-- The rank of a date: the year, the month and the day. -/
def dateRank (date : Calendar.Date) : DateRank :=
  toLex (toLex (date.year, date.month), date.day)

abbrev LegsRank := (ℚ ×ₗ ℚ) ×ₗ String ×ₗ String

/-- The rank of two legs: their strikes and their symbols. -/
def legsRank : List OptionLeg → LegsRank
  | [bought, sold] =>
      toLex (toLex (bought.strike.value, sold.strike.value), toLex (bought.symbol, sold.symbol))
  | _ => toLex (toLex (0, 0), toLex ("", ""))

/-- The rank of the expiry of two legs. -/
def expiryRank : List OptionLeg → DateRank
  | bought :: _ => dateRank bought.expiry
  | [] => toLex (toLex (0, 0), 0)

/-- What an item is ranked by under a policy. -/
abbrev PolicyRank := (ℤ ×ₗ ℚ) ×ₗ (String ×ₗ DateRank) ×ₗ LegsRank

/-- The rank of an item under a policy: the best score, the least risk, the strategy, the expiry,
the strikes and the symbols. -/
def policyRank (item : RankedCandidate) : PolicyRank :=
  toLex (toLex (-item.candidate.candidateScore, item.riskPerContract.value),
    toLex (toLex (item.candidate.strategy.text, expiryRank item.candidate.legs),
      legsRank item.candidate.legs))

/-- What an item of a structural pilot is ranked by. -/
abbrev PilotRank := (ℤ ×ₗ ℤ) ×ₗ (ℚ ×ₗ ℤ) ×ₗ LegsRank

/-- The rank of an item of a structural pilot: the distance to the target of days to expiry, the
best score, the least risk, the days to expiry, the strikes and the symbols. -/
def pilotRank (profile : StructuralBullishPilotProfile) (item : RankedCandidate) : PilotRank :=
  toLex (toLex (|item.candidate.dte - profile.targetDte|, -item.candidate.candidateScore),
    toLex (toLex (item.riskPerContract.value, item.candidate.dte), legsRank item.candidate.legs))

def TwoLegged (item : RankedCandidate) : Prop :=
  ∃ bought sold, item.candidate.legs = [bought, sold]

section Ranks

variable {items : List RankedCandidate} {profile : StructuralBullishPilotProfile}

/-- Two pairs of legs are compared by their ranks. -/
theorem compareLegs_iff (bought sold bought' sold' : OptionLeg) :
    (compareLegs [bought, sold] [bought', sold'] = .lt ↔
      legsRank [bought, sold] < legsRank [bought', sold']) ∧
    (compareLegs [bought, sold] [bought', sold'] = .eq ↔
      legsRank [bought, sold] = legsRank [bought', sold']) := by
  have hcompares := ((comparesBy_decimal (fun legs : OptionLeg × OptionLeg => legs.1.strike)
      [(bought, sold), (bought', sold')]).andThen
      (comparesBy_decimal (fun legs => legs.2.strike) _)).andThen
    ((ComparesBy.of_compare (fun legs => legs.1.symbol) _).andThen
      (ComparesBy.of_compare (fun legs => legs.2.symbol) _))
  exact ⟨hcompares.lt_iff (bought, sold) (by simp) (bought', sold') (by simp),
    hcompares.eq_iff (bought, sold) (by simp) (bought', sold') (by simp)⟩

/-- The legs of items are compared by their ranks. -/
theorem comparesBy_legs (h : ∀ item ∈ items, TwoLegged item) :
    ComparesBy (fun item => legsRank item.candidate.legs)
      (fun a b => compareLegs a.candidate.legs b.candidate.legs) items where
  lt_iff a ha b hb := by
    obtain ⟨bought, sold, hlegs⟩ := h a ha
    obtain ⟨bought', sold', hlegs'⟩ := h b hb
    rw [hlegs, hlegs']
    exact (compareLegs_iff bought sold bought' sold').1
  eq_iff a ha b hb := by
    obtain ⟨bought, sold, hlegs⟩ := h a ha
    obtain ⟨bought', sold', hlegs'⟩ := h b hb
    rw [hlegs, hlegs']
    exact (compareLegs_iff bought sold bought' sold').2

theorem compareDate_iff (date date' : Calendar.Date) :
    (compareDate date date' = .lt ↔ dateRank date < dateRank date') ∧
      (compareDate date date' = .eq ↔ dateRank date = dateRank date') := by
  have hcompares := ((ComparesBy.of_compare (fun date : Calendar.Date => date.year)
      [date, date']).andThen (ComparesBy.of_compare (fun date => date.month) _)).andThen
    (ComparesBy.of_compare (fun date => date.day) _)
  exact ⟨hcompares.lt_iff date (by simp) date' (by simp),
    hcompares.eq_iff date (by simp) date' (by simp)⟩

/-- The expiries of items are compared by their ranks. -/
theorem comparesBy_expiry (h : ∀ item ∈ items, TwoLegged item) :
    ComparesBy (fun item => expiryRank item.candidate.legs)
      (fun a b => compareExpiry a.candidate.legs b.candidate.legs) items where
  lt_iff a ha b hb := by
    obtain ⟨bought, sold, hlegs⟩ := h a ha
    obtain ⟨bought', sold', hlegs'⟩ := h b hb
    rw [hlegs, hlegs']
    exact (compareDate_iff bought.expiry bought'.expiry).1
  eq_iff a ha b hb := by
    obtain ⟨bought, sold, hlegs⟩ := h a ha
    obtain ⟨bought', sold', hlegs'⟩ := h b hb
    rw [hlegs, hlegs']
    exact (compareDate_iff bought.expiry bought'.expiry).2

theorem comparesBy_policyRank (h : ∀ item ∈ items, TwoLegged item) :
    ComparesBy policyRank rankOrder items :=
  ((comparesBy_down _ _).andThen (comparesBy_decimal _ _)).andThen
    (((ComparesBy.of_compare _ _).andThen (comparesBy_expiry h)).andThen (comparesBy_legs h))

theorem comparesBy_pilotRank (h : ∀ item ∈ items, TwoLegged item) :
    ComparesBy (pilotRank profile) (pilotRankOrder profile) items :=
  ((ComparesBy.of_compare _ _).andThen (comparesBy_down _ _)).andThen
    (((comparesBy_decimal _ _).andThen (ComparesBy.of_compare _ _)).andThen (comparesBy_legs h))

end Ranks

/-! ## Results -/

/-- A result is that of the least item that pairs of options are ranked for, if there is one. -/
structure SelectsLeast {κ : Type} [LinearOrder κ] (rank : RankedCandidate → κ)
    (eligible : OpportunityOption → OpportunityOption → Prop)
    (ranks : OpportunityOption → OpportunityOption → RankedCandidate → Prop)
    (options : List OpportunityOption) (result : CandidateSelectionResult) : Prop where
  candidate_iff : ∀ candidate, result.candidate = some candidate ↔ ∃ item,
    item.candidate = candidate ∧
    (∃ first ∈ options, ∃ second ∈ options, ranks first second item) ∧
    ∀ first ∈ options, ∀ second ∈ options, ∀ other, ranks first second other →
      rank item ≤ rank other
  selected_iff : result.reason = .selected ↔
    ∃ first ∈ options, ∃ second ∈ options, ∃ item, ranks first second item
  noEligible_iff : result.reason = .noEligibleStructure ↔
    ∀ first ∈ options, ∀ second ∈ options, ¬ eligible first second
  insufficient_iff : result.reason = .riskAuthorityInsufficient ↔
    (∃ first ∈ options, ∃ second ∈ options, eligible first second) ∧
    ∀ first ∈ options, ∀ second ∈ options, ∀ item, ¬ ranks first second item

structure OutcomesOf (eligible : OpportunityOption → OpportunityOption → Prop)
    (ranks : OpportunityOption → OpportunityOption → RankedCandidate → Prop)
    (options : List OpportunityOption) (outcomes : List PairOutcome) : Prop where
  complete : ∀ first ∈ options, ∀ second ∈ options, eligible first second →
    ∃ outcome ∈ outcomes, Judged eligible ranks first second outcome
  sound : ∀ outcome ∈ outcomes, ∃ first ∈ options, ∃ second ∈ options,
    Judged eligible ranks first second outcome
  eligible_of_ranks : ∀ first second item, ranks first second item → eligible first second
  twoLegged : ∀ first second item, ranks first second item → TwoLegged item

section Outcomes

variable {κ : Type} [LinearOrder κ] {rank : RankedCandidate → κ}
  {eligible : OpportunityOption → OpportunityOption → Prop}
  {ranks : OpportunityOption → OpportunityOption → RankedCandidate → Prop}
  {options : List OpportunityOption} {outcomes : List PairOutcome} {item : RankedCandidate}

theorem OutcomesOf.mem_rankedItems (h : OutcomesOf eligible ranks options outcomes) :
    item ∈ rankedItems outcomes ↔
      ∃ first ∈ options, ∃ second ∈ options, ranks first second item := by
  constructor
  · intro hitem
    obtain ⟨first, hfirst, second, hsecond, hjudged⟩ := h.sound _ (ranked_of_mem hitem)
    cases hjudged with
    | ranked _ _ hranks => exact ⟨first, hfirst, second, hsecond, (hranks item).mpr rfl⟩
  · rintro ⟨first, hfirst, second, hsecond, hranks⟩
    obtain ⟨outcome, houtcome, hjudged⟩ := h.complete first hfirst second hsecond
      (h.eligible_of_ranks first second item hranks)
    cases hjudged with
    | ineligible hnot => exact absurd (h.eligible_of_ranks first second item hranks) hnot
    | unaffordable _ hnot => exact absurd hranks (hnot item)
    | ranked other _ honly =>
        obtain rfl := (honly item).mp hranks
        exact List.mem_filterMap.mpr ⟨_, houtcome, rfl⟩

/-- Some pair had an eligible geometry exactly when two options are eligible. -/
theorem OutcomesOf.hadEligibleGeometry_iff (h : OutcomesOf eligible ranks options outcomes) :
    hadEligibleGeometry outcomes = true ↔
      ∃ first ∈ options, ∃ second ∈ options, eligible first second := by
  unfold hadEligibleGeometry
  rw [List.any_eq_true]
  constructor
  · rintro ⟨outcome, houtcome, hseen⟩
    obtain ⟨first, hfirst, second, hsecond, hjudged⟩ := h.sound outcome houtcome
    cases hjudged with
    | ineligible _ => cases hseen
    | unaffordable heligible _ => exact ⟨first, hfirst, second, hsecond, heligible⟩
    | ranked _ heligible _ => exact ⟨first, hfirst, second, hsecond, heligible⟩
  · rintro ⟨first, hfirst, second, hsecond, heligible⟩
    obtain ⟨outcome, houtcome, hjudged⟩ := h.complete first hfirst second hsecond heligible
    refine ⟨outcome, houtcome, ?_⟩
    cases hjudged with
    | ineligible hnot => exact absurd heligible hnot
    | unaffordable _ _ => rfl
    | ranked _ _ _ => rfl

/-- The result of outcomes whose least item is known. -/
def resultOf (outcomes : List PairOutcome) : Least RankedCandidate → CandidateSelectionResult
  | .none => unselected outcomes
  | .tied => ⟨none, .snapshotInvalid⟩
  | .one item => ⟨some item.candidate, .selected⟩

/-- The selection under a policy is that of the least item. -/
theorem selectRanked_eq (outcomes : List PairOutcome) :
    selectRanked outcomes = resultOf outcomes (leastOf (fun a b => (rankOrder a b).isLE)
      (fun a b => decide (rankOrder a b = .eq)) (rankedItems outcomes)) := by
  unfold selectRanked leastOf
  generalize ((rankedItems outcomes).mergeSort fun a b => (rankOrder a b).isLE) = sorted
  rcases sorted with _ | ⟨first, _ | ⟨second, rest⟩⟩
  · rfl
  · rfl
  · dsimp only
    by_cases htied : rankOrder first second = .eq
    · rw [if_pos htied, if_pos (decide_eq_true htied)]
      rfl
    · rw [if_neg htied, if_neg (by simpa using htied)]
      rfl

/-- The selection of a structural pilot is that of the least item, where no two are tied. -/
theorem selectPilotRanked_eq {profile : StructuralBullishPilotProfile}
    {outcomes : List PairOutcome}
    (hfree : leastOf (fun a b => (pilotRankOrder profile a b).isLE)
      (fun a b => decide (pilotRankOrder profile a b = .eq)) (rankedItems outcomes) ≠ .tied) :
    selectPilotRanked profile outcomes =
      resultOf outcomes (leastOf (fun a b => (pilotRankOrder profile a b).isLE)
        (fun a b => decide (pilotRankOrder profile a b = .eq)) (rankedItems outcomes)) := by
  unfold selectPilotRanked
  unfold leastOf at hfree ⊢
  generalize ((rankedItems outcomes).mergeSort fun a b => (pilotRankOrder profile a b).isLE) =
    sorted at *
  rcases sorted with _ | ⟨first, _ | ⟨second, rest⟩⟩
  · rfl
  · rfl
  · dsimp only at hfree ⊢
    by_cases htied : pilotRankOrder profile first second = .eq
    · rw [if_pos (decide_eq_true htied)] at hfree
      exact absurd rfl hfree
    · rw [if_neg (by simpa using htied)]
      rfl

/-- Items of different ranks come to a result that is that of the least one. -/
theorem OutcomesOf.selectsLeast (h : OutcomesOf eligible ranks options outcomes)
    {order : RankedCandidate → RankedCandidate → Ordering}
    (hcompares : ComparesBy rank order (rankedItems outcomes))
    (hdistinct : (rankedItems outcomes).Pairwise fun a b => rank a ≠ rank b) :
    SelectsLeast rank eligible ranks options (resultOf outcomes (leastOf
      (fun a b => (order a b).isLE) (fun a b => decide (order a b = .eq))
      (rankedItems outcomes))) := by
  have hranked := hcompares.ranked
  have hseen := h.hadEligibleGeometry_iff
  cases hleast : leastOf (fun a b => (order a b).isLE) (fun a b => decide (order a b = .eq))
      (rankedItems outcomes) with
  | tied => exact absurd hleast (hranked.leastOf_ne_tied hdistinct)
  | none =>
      have hnil := RankedBy.leastOf_eq_none.mp hleast
      have hnone : ∀ first ∈ options, ∀ second ∈ options, ∀ item, ¬ ranks first second item := by
        intro first hfirst second hsecond item hranks
        have hitem := h.mem_rankedItems.mpr ⟨first, hfirst, second, hsecond, hranks⟩
        rw [hnil] at hitem
        cases hitem
      have hno : ¬ ∃ first ∈ options, ∃ second ∈ options, ∃ item, ranks first second item := by
        rintro ⟨first, hfirst, second, hsecond, item, hranks⟩
        exact hnone first hfirst second hsecond item hranks
      unfold resultOf unselected
      dsimp only
      refine ⟨?_, ?_, ?_, ?_⟩
      · intro candidate
        constructor
        · rintro ⟨⟩
        · rintro ⟨item, -, ⟨first, hfirst, second, hsecond, hranks⟩, -⟩
          exact absurd hranks (hnone first hfirst second hsecond item)
      · split <;> simp [hno]
      · cases hgeometry : hadEligibleGeometry outcomes with
        | true =>
            obtain ⟨first, hfirst, second, hsecond, heligible⟩ := hseen.mp hgeometry
            simp only [if_true, reduceCtorEq, false_iff]
            exact fun hnever => hnever first hfirst second hsecond heligible
        | false =>
            rw [hgeometry] at hseen
            simp only [Bool.false_eq_true, if_false, true_iff]
            intro first hfirst second hsecond heligible
            cases hseen.mpr ⟨first, hfirst, second, hsecond, heligible⟩
      · cases hgeometry : hadEligibleGeometry outcomes with
        | true => simpa using ⟨hseen.mp hgeometry, hnone⟩
        | false =>
            rw [hgeometry] at hseen
            simp only [Bool.false_eq_true, if_false, reduceCtorEq, false_iff]
            rintro ⟨hexists, -⟩
            cases hseen.mpr hexists
  | one item =>
      obtain ⟨others, hothers, hbehind⟩ := hranked.leastOf_eq_one.mp hleast
      have hmem : item ∈ rankedItems outcomes := hothers.mem_iff.mpr List.mem_cons_self
      obtain ⟨first, hfirst, second, hsecond, hranks⟩ := h.mem_rankedItems.mp hmem
      have hleastOf : ∀ other ∈ rankedItems outcomes, other = item ∨ rank item < rank other := by
        intro other hother
        rcases List.mem_cons.mp (hothers.mem_iff.mp hother) with hsame | hlater
        · exact .inl hsame
        · exact .inr (hbehind other hlater)
      unfold resultOf
      dsimp only
      refine ⟨?_, ?_, ?_, ?_⟩
      · intro candidate
        constructor
        · intro hcandidate
          refine ⟨item, Option.some.inj hcandidate, ⟨first, hfirst, second, hsecond, hranks⟩, ?_⟩
          intro one hone two htwo other hother
          rcases hleastOf other (h.mem_rankedItems.mpr ⟨one, hone, two, htwo, hother⟩) with
            rfl | hlt
          · exact le_rfl
          · exact hlt.le
        · rintro ⟨other, rfl, hother, hminimal⟩
          rcases hleastOf other (h.mem_rankedItems.mpr hother) with rfl | hlt
          · rfl
          · exact absurd (hminimal first hfirst second hsecond item hranks) (not_le.mpr hlt)
      · simpa using ⟨first, hfirst, second, hsecond, item, hranks⟩
      · simp only [reduceCtorEq, false_iff]
        exact fun hnever => hnever first hfirst second hsecond
          (h.eligible_of_ranks first second item hranks)
      · simp only [reduceCtorEq, false_iff]
        rintro ⟨-, hnone⟩
        exact hnone first hfirst second hsecond item hranks

end Outcomes

/-! ## Outcomes of pairs -/

section

variable {snapshot : OpportunityMarketSnapshot} {policy : OpportunityPolicyFields}
  {authority : CandidateSelectionAuthority} {direction : OpportunityDirection} {requested : Int}
  {profile : StructuralBullishPilotProfile} {options : List OpportunityOption}
  {outcomes : List PairOutcome} {first second : OpportunityOption} {item : RankedCandidate}

/-- An item that a pair is ranked for under a policy has the two options as its legs. -/
theorem PolicyRanks.legs (h : PolicyRanks policy direction requested authority first second item) :
    ∃ bought sold, ((bought = first ∧ sold = second) ∨ (bought = second ∧ sold = first)) ∧
      item.candidate.legs =
        [optionLeg bought .buyToOpen authority, optionLeg sold .sellToOpen authority] := by
  obtain ⟨strategy, bought, sold, terms, quantity, hterms, -, -, rfl⟩ := h
  exact ⟨bought, sold, (structureOf_build hterms.built).options, rfl⟩

theorem PilotRanks.legs (h : PilotRanks snapshot policy authority profile first second item) :
    item.candidate.legs =
      [optionLeg first .buyToOpen authority, optionLeg second .sellToOpen authority] := by
  obtain ⟨terms, -, -, rfl⟩ := h
  rfl

/-- Options that are eligible under a policy are different. -/
theorem PolicyEligible.ne (h : PolicyEligible policy direction first second) : first ≠ second := by
  obtain ⟨strategy, bought, sold, terms, hterms⟩ := h
  have hstructure := structureOf_build hterms.built
  rintro rfl
  rcases hstructure.options with ⟨rfl, rfl⟩ | ⟨rfl, rfl⟩
  · exact hstructure.strikes rfl
  · exact hstructure.strikes rfl

/-- The outcomes of unordered pairs are those of two options under a policy. -/
theorem policyOutcomes
    (h : (laterPairs options).mapM (policyPair policy direction requested authority) =
      .ok outcomes) :
    OutcomesOf (PolicyEligible policy direction) (PolicyRanks policy direction requested authority)
      options outcomes where
  complete first hfirst second hsecond heligible := by
    rcases mem_laterPairs_of_ne hfirst hsecond heligible.ne with hforward | hbackward
    · obtain ⟨outcome, houtcome, hok⟩ := mem_results h hforward
      exact ⟨outcome, houtcome, policyPair_judged hok⟩
    · obtain ⟨outcome, houtcome, hok⟩ := mem_results h hbackward
      rw [policyPair_comm] at hok
      exact ⟨outcome, houtcome, policyPair_judged hok⟩
  sound outcome houtcome := by
    obtain ⟨pair, hpair, hok⟩ := mem_of_mapM_ok h houtcome
    obtain ⟨hone, htwo, -⟩ := mem_laterPairs hpair
    exact ⟨pair.1, hone, pair.2, htwo, policyPair_judged hok⟩
  eligible_of_ranks first second item hranks := by
    obtain ⟨strategy, bought, sold, terms, quantity, hterms, -⟩ := hranks
    exact ⟨strategy, bought, sold, terms, hterms⟩
  twoLegged first second item hranks := by
    obtain ⟨bought, sold, -, hlegs⟩ := hranks.legs
    exact ⟨_, _, hlegs⟩

/-- The outcomes of ordered pairs are those of two options for a structural pilot. -/
theorem pilotOutcomes
    (h : (allPairs options).mapM (pilotPair snapshot policy authority profile) = .ok outcomes) :
    OutcomesOf (PilotEligible snapshot profile) (PilotRanks snapshot policy authority profile)
      options outcomes where
  complete first hfirst second hsecond _ := by
    have hpair : (first, second) ∈ allPairs options :=
      List.mem_flatMap.mpr ⟨first, hfirst, List.mem_map.mpr ⟨second, hsecond, rfl⟩⟩
    obtain ⟨outcome, houtcome, hok⟩ := mem_results h hpair
    exact ⟨outcome, houtcome, pilotPair_judged hok⟩
  sound outcome houtcome := by
    obtain ⟨pair, hpair, hok⟩ := mem_of_mapM_ok h houtcome
    obtain ⟨hone, htwo⟩ := mem_allPairs hpair
    exact ⟨pair.1, hone, pair.2, htwo, pilotPair_judged hok⟩
  eligible_of_ranks first second item hranks := by
    obtain ⟨terms, hterms, -⟩ := hranks
    exact ⟨terms, hterms⟩
  twoLegged first second item hranks := ⟨_, _, hranks.legs⟩

/-- Ranked items are related as the pairs that they are ranked for. -/
theorem pairwise_ranked {f : OpportunityOption × OpportunityOption → Except Failure PairOutcome}
    {pairs : List (OpportunityOption × OpportunityOption)}
    {R : OpportunityOption × OpportunityOption → OpportunityOption × OpportunityOption → Prop}
    {S : RankedCandidate → RankedCandidate → Prop} (h : pairs.mapM f = .ok outcomes)
    (hpairs : pairs.Pairwise R)
    (hrelated : ∀ one two a b, f one = .ok (.ranked a) → f two = .ok (.ranked b) → R one two →
      S a b) : (rankedItems outcomes).Pairwise S := by
  unfold rankedItems
  refine pairwise_collected h hpairs ?_
  rintro one two a b ⟨left, hleft, ha⟩ ⟨right, hright, hb⟩ hne
  cases left with
  | ineligible => cases ha
  | unaffordable => cases ha
  | ranked item =>
      obtain rfl := Option.some.inj ha
      cases right with
      | ineligible => cases hb
      | unaffordable => cases hb
      | ranked other =>
          obtain rfl := Option.some.inj hb
          exact hrelated one two item other hleft hright hne

theorem symbols_of_legsRank {bought sold bought' sold' : OptionLeg}
    (h : legsRank [bought, sold] = legsRank [bought', sold']) :
    bought.symbol = bought'.symbol ∧ sold.symbol = sold'.symbol := by
  simp only [legsRank, EmbeddingLike.apply_eq_iff_eq, Prod.mk.injEq] at h
  exact h.2

/-- Items of options with different symbols have legs of different ranks under a policy. -/
theorem policy_distinct
    (h : (laterPairs options).mapM (policyPair policy direction requested authority) =
      .ok outcomes) (hsymbols : (options.map (·.symbol)).Nodup) :
    (rankedItems outcomes).Pairwise fun a b =>
      legsRank a.candidate.legs ≠ legsRank b.candidate.legs := by
  have hpairs := laterPairs_nodup hsymbols
  rw [laterPairs_map, List.pairwise_map] at hpairs
  refine pairwise_ranked h hpairs fun one two a b ha hb hne hrank => hne ?_
  have hlegs : ∀ pair item,
      policyPair policy direction requested authority pair = .ok (.ranked item) →
        ∃ bought sold : OptionLeg, item.candidate.legs = [bought, sold] ∧
          s(pair.1.symbol, pair.2.symbol) = s(bought.symbol, sold.symbol) := by
    intro pair item hitem
    have hjudged := @policyPair_judged policy authority direction requested pair.1 pair.2 _ hitem
    cases hjudged with
    | ranked _ _ hranks =>
        obtain ⟨bought, sold, hoptions, hlegs⟩ := ((hranks item).mpr rfl).legs
        refine ⟨_, _, hlegs, ?_⟩
        rcases hoptions with ⟨rfl, rfl⟩ | ⟨rfl, rfl⟩
        · rfl
        · exact Sym2.eq_swap
  obtain ⟨bought, sold, hlegsOne, hone⟩ := hlegs one a ha
  obtain ⟨bought', sold', hlegsTwo, htwo⟩ := hlegs two b hb
  rw [hlegsOne, hlegsTwo] at hrank
  obtain ⟨hbought, hsold⟩ := symbols_of_legsRank hrank
  show s(one.1.symbol, one.2.symbol) = s(two.1.symbol, two.2.symbol)
  rw [hone, htwo, hbought, hsold]

/-- Items of options with different symbols have legs of different ranks in a structural pilot. -/
theorem pilot_distinct
    (h : (allPairs options).mapM (pilotPair snapshot policy authority profile) = .ok outcomes)
    (hsymbols : (options.map (·.symbol)).Nodup) :
    (rankedItems outcomes).Pairwise fun a b =>
      legsRank a.candidate.legs ≠ legsRank b.candidate.legs := by
  have hpairs := allPairs_nodup hsymbols
  rw [allPairs_map, List.Nodup, List.pairwise_map] at hpairs
  refine pairwise_ranked h hpairs fun one two a b ha hb hne hrank => hne ?_
  have hlegs : ∀ pair item,
      pilotPair snapshot policy authority profile pair = .ok (.ranked item) →
        item.candidate.legs =
          [optionLeg pair.1 .buyToOpen authority, optionLeg pair.2 .sellToOpen authority] := by
    intro pair item hitem
    have hjudged := @pilotPair_judged snapshot policy authority profile pair.1 pair.2 _ hitem
    cases hjudged with
    | ranked _ _ hranks => exact ((hranks item).mpr rfl).legs
  rw [hlegs one a ha, hlegs two b hb] at hrank
  obtain ⟨hbought, hsold⟩ := symbols_of_legsRank hrank
  exact Prod.ext hbought hsold

end

/-! ## Options in another order -/

theorem foldl_max_le_iff {first bound : Int} {rest : List Int} :
    rest.foldl max first ≤ bound ↔ ∀ x ∈ first :: rest, x ≤ bound := by
  induction rest generalizing first with
  | nil => simp
  | cons next rest ih =>
      rw [List.foldl_cons, ih]
      simp only [List.forall_mem_cons, max_le_iff, and_assoc]

theorem le_foldl_min_iff {first bound : Int} {rest : List Int} :
    bound ≤ rest.foldl min first ↔ ∀ x ∈ first :: rest, bound ≤ x := by
  induction rest generalizing first with
  | nil => simp
  | cons next rest ih =>
      rw [List.foldl_cons, ih]
      simp only [List.forall_mem_cons, le_min_iff, and_assoc]

/-- The quote times of options span at most a bound when any two of them do. -/
theorem optionSkew_le_iff {options : List OpportunityOption} {bound : Int}
    (hsome : options ≠ []) : optionSkew options ≤ bound ↔
      ∀ one ∈ options, ∀ two ∈ options, one.quoteAt - two.quoteAt ≤ bound := by
  cases options with
  | nil => exact absurd rfl hsome
  | cons first rest =>
      rw [optionSkew, sub_le_iff_le_add, foldl_max_le_iff]
      show (∀ x ∈ (first :: rest).map (·.quoteAt), _) ↔ _
      rw [List.forall_mem_map]
      refine forall₂_congr fun one _ => ?_
      rw [← sub_le_iff_le_add', le_foldl_min_iff]
      show (∀ x ∈ (first :: rest).map (·.quoteAt), _) ↔ _
      rw [List.forall_mem_map]
      exact forall₂_congr fun two _ => by omega

theorem sameContract_comm (first second : OpportunityOption) :
    sameContract first second = sameContract second first := by
  have hstrike : (first.strike == second.strike) = (second.strike == first.strike) := by
    rw [Bool.eq_iff_iff, beq_iff_value, beq_iff_value, eq_comm]
  unfold sameContract
  rw [hstrike]
  simp only [eq_comm]

/-- Options that are valid and different contracts pass their check. -/
theorem optionsValid_of_forall {snapshot : OpportunityMarketSnapshot}
    {policy : OpportunityPolicyFields} {enforce : Bool} {seen rest : List OpportunityOption}
    (hvalid : ∀ option ∈ rest, optionValid option snapshot policy enforce = .ok true ∧
      ∀ other ∈ seen, sameContract option other = false)
    (hpairs : rest.Pairwise fun first second => sameContract second first = false) :
    optionsValid snapshot policy enforce seen rest = .ok true := by
  induction rest generalizing seen with
  | nil => rfl
  | cons option rest ih =>
      obtain ⟨⟨hok, hseen⟩, hrest⟩ := List.forall_mem_cons.mp hvalid
      obtain ⟨hlater, htail⟩ := List.pairwise_cons.mp hpairs
      have hnone : seen.any (sameContract option) = false := by
        rw [List.any_eq_false]
        intro other hother
        rw [hseen other hother]
        exact Bool.false_ne_true
      rw [optionsValid, hnone, if_neg Bool.false_ne_true, hok, ok_bind, if_pos rfl]
      refine ih (fun other hother => ⟨(hrest other hother).1, ?_⟩) htail
      exact List.forall_mem_cons.mpr ⟨hlater other hother, (hrest other hother).2⟩

/-- The least item that the pairs of some options are ranked for is the only one. -/
theorem SelectsLeast.unique {κ : Type} [LinearOrder κ] {rank : RankedCandidate → κ}
    {eligible : OpportunityOption → OpportunityOption → Prop}
    {ranks : OpportunityOption → OpportunityOption → RankedCandidate → Prop}
    {options options' : List OpportunityOption} {result result' : CandidateSelectionResult}
    (hsame : ∀ option, option ∈ options' ↔ option ∈ options)
    (h : SelectsLeast rank eligible ranks options result)
    (h' : SelectsLeast rank eligible ranks options' result') : result' = result := by
  have hcandidate : result'.candidate = result.candidate := by
    refine Option.ext fun candidate => ?_
    rw [h.candidate_iff, h'.candidate_iff]
    simp only [hsame]
  have hreason : result'.reason = result.reason := by
    have hselected := h.selected_iff
    have hnone := h.noEligible_iff
    have hinsufficient := h.insufficient_iff
    have hselected' := h'.selected_iff
    have hnone' := h'.noEligible_iff
    have hinsufficient' := h'.insufficient_iff
    simp only [hsame] at hselected' hnone' hinsufficient'
    by_cases hranks : ∃ first ∈ options, ∃ second ∈ options, ∃ item, ranks first second item
    · rw [hselected.mpr hranks, hselected'.mpr hranks]
    by_cases heligible : ∃ first ∈ options, ∃ second ∈ options, eligible first second
    · have hall : (∃ first ∈ options, ∃ second ∈ options, eligible first second) ∧
          ∀ first ∈ options, ∀ second ∈ options, ∀ item, ¬ ranks first second item := by
        refine ⟨heligible, fun first hfirst second hsecond item hitem => hranks ?_⟩
        exact ⟨first, hfirst, second, hsecond, item, hitem⟩
      rw [hinsufficient.mpr hall, hinsufficient'.mpr hall]
    · have hall : ∀ first ∈ options, ∀ second ∈ options, ¬ eligible first second :=
        fun first hfirst second hsecond h => heligible ⟨first, hfirst, second, hsecond, h⟩
      rw [hnone.mpr hall, hnone'.mpr hall]
  cases result
  cases result'
  exact congr (congrArg _ hcandidate) hreason

/-! ## Valid inputs -/

theorem OpportunityPolicy.widest_pos (policy : OpportunityPolicy) :
    0 < policy.maximumRelativeSpread.value := by
  have hbounded := OpportunityPolicy.bounded policy
  obtain ⟨-, -, -, -, -, -, -, -, -, -, ⟨hpositive, -⟩, -⟩ := hbounded
  rw [lt_iff_value, value_ofInt, Int.cast_zero] at hpositive
  exact hpositive

section Valid

variable [Digest] {snapshot : OpportunityMarketSnapshot} {policy : OpportunityPolicy}
  {authority : CandidateSelectionAuthority} {direction : OpportunityDirection} {requested : Int}
  {profile : StructuralBullishPilotProfile} {options : List OpportunityOption}

structure ValidInputs (snapshot : OpportunityMarketSnapshot) (policy : OpportunityPolicy)
    (requested : Int) (authority : CandidateSelectionAuthority) : Prop where
  inputs : InputsValid requested authority
  valid : snapshotValid snapshot policy.toOpportunityPolicyFields
    (structuralPilotProfile policy.opportunityKey).isNone = .ok true
  bound : AuthorityBound snapshot authority
  pilot : (structuralPilotProfile policy.opportunityKey).isSome = true → policy.underlying = "SPY"

/-- For valid inputs a policy without a structural pilot selects from its unordered pairs. -/
theorem ValidInputs.select_policy (h : ValidInputs snapshot policy requested authority)
    (hprofile : structuralPilotProfile policy.opportunityKey = none) :
    selectVerticalCandidate snapshot policy direction requested authority =
      ((laterPairs snapshot.options).mapM (policyPair policy.toOpportunityPolicyFields direction
        requested authority)).map selectRanked := by
  have hsnapshot := h.valid
  unfold selectVerticalCandidate
  rw [if_neg (not_not.mpr h.inputs)]
  dsimp only
  rw [hsnapshot, ok_bind, if_neg (by simp), if_neg (not_not.mpr h.bound), hprofile]
  cases (laterPairs snapshot.options).mapM (policyPair policy.toOpportunityPolicyFields direction
    requested authority) <;> rfl

theorem ValidInputs.select_pilot (h : ValidInputs snapshot policy requested authority)
    (hprofile : structuralPilotProfile policy.opportunityKey = some profile) :
    selectVerticalCandidate snapshot policy direction requested authority =
      ((allPairs snapshot.options).mapM (pilotPair snapshot policy.toOpportunityPolicyFields
        authority profile)).map (selectPilotRanked profile) := by
  have hsnapshot := h.valid
  have hunderlying := h.pilot (by rw [hprofile]; rfl)
  unfold selectVerticalCandidate
  rw [if_neg (not_not.mpr h.inputs)]
  dsimp only
  rw [hsnapshot, ok_bind, if_neg (by simp), if_neg (not_not.mpr h.bound), hprofile]
  dsimp only [selectStructuralPilot]
  rw [if_neg (not_not.mpr hunderlying)]
  cases (allPairs snapshot.options).mapM (pilotPair snapshot policy.toOpportunityPolicyFields
    authority profile) <;> rfl

theorem ValidInputs.symbols (h : ValidInputs snapshot policy requested authority) :
    (snapshot.options.map (·.symbol)).Nodup :=
  List.pairwise_map.mpr (optionsKnown_of_valid h.valid).symbols

/-- The hashes of a snapshot stay those of its parts with its options in another order. -/
theorem snapshotHashesValid_reordered (hperm : options.Perm snapshot.options)
    (h : snapshotHashesValid snapshot = true) :
    snapshotHashesValid (reorderedSnapshot snapshot options) = true := by
  unfold snapshotHashesValid at h ⊢
  simp only [Bool.and_eq_true, decide_eq_true_iff, List.all_eq_true, List.mem_append] at h ⊢
  obtain ⟨⟨⟨⟨⟨hshapes, hbook⟩, hsession⟩, hbars⟩, hoptions⟩, -⟩ := h
  refine ⟨⟨⟨⟨⟨?_, hbook⟩, hsession⟩, hbars⟩, ?_⟩, rfl⟩
  · rintro hash (hfixed | hoption)
    · rcases List.mem_cons.mp hfixed with rfl | hlater
      · exact hshapes _ (.inl List.mem_cons_self)
      · rcases List.mem_cons.mp hlater with rfl | hrest
        · exact Digest.authorityHash_isHash _
        · exact hshapes _ (.inl (List.mem_cons_of_mem _ (List.mem_cons_of_mem _ hrest)))
    · exact hshapes _ (.inr ((hperm.map _).mem_iff.mp hoption))
  · exact fun option hoption => hoptions option (hperm.mem_iff.mp hoption)

/-- A valid snapshot is valid with its options in another order. -/
theorem snapshotValid_reordered {policy : OpportunityPolicyFields} {enforce : Bool}
    (hperm : options.Perm snapshot.options)
    (h : snapshotValid snapshot policy enforce = .ok true) :
    snapshotValid (reorderedSnapshot snapshot options) policy enforce = .ok true := by
  unfold snapshotValid at h
  split at h
  case isFalse => cases h
  rename_i hframe
  obtain ⟨hframed, hhashes, hsome⟩ := hframe
  obtain ⟨valid, hvalid, h⟩ := bind_ok.mp h
  obtain ⟨htrue, hskew⟩ := Bool.and_eq_true_iff.mp (Except.ok.inj h)
  rw [htrue] at hvalid
  obtain ⟨heach, hpairs⟩ := optionsValid_ok hvalid
  have hne : snapshot.options ≠ [] := by simpa using hsome
  have hne' : options ≠ [] := fun hnil => hne (by rw [hnil] at hperm; exact hperm.nil_eq.symm)
  have hvalid' : optionsValid (reorderedSnapshot snapshot options) policy enforce [] options =
      .ok true := by
    refine optionsValid_of_forall (fun option hoption => ⟨?_, by simp⟩) ?_
    · exact (heach option (hperm.mem_iff.mp hoption)).1
    · refine (hperm.pairwise_iff ?_).mpr hpairs
      intro first second hdiffer
      rw [sameContract_comm]
      exact hdiffer
  have hhashes' := snapshotHashesValid_reordered hperm hhashes
  unfold snapshotValid
  rw [if_pos ⟨hframed, hhashes', by simpa [reorderedSnapshot] using hne'⟩]
  rw [show (reorderedSnapshot snapshot options).options = options from rfl, hvalid', ok_bind]
  refine congrArg Except.ok ?_
  rw [Bool.true_and]
  cases enforce with
  | false => rfl
  | true =>
      simp only [Bool.not_true, Bool.false_or, decide_eq_true_iff] at hskew ⊢
      rw [optionSkew_le_iff hne] at hskew
      rw [optionSkew_le_iff hne']
      exact fun one hone two htwo =>
        hskew one (hperm.mem_iff.mp hone) two (hperm.mem_iff.mp htwo)

/-- Valid inputs are valid with the options in another order. -/
theorem ValidInputs.reordered (h : ValidInputs snapshot policy requested authority)
    (hperm : options.Perm snapshot.options) :
    ValidInputs (reorderedSnapshot snapshot options) policy requested
      (reorderedAuthority snapshot authority options) where
  inputs := by
    obtain ⟨hpositive, hamounts, hequity, hconvention, hhashes⟩ := h.inputs
    refine ⟨hpositive, hamounts, hequity, hconvention, ?_⟩
    simp only [List.all_cons, List.all_nil, Bool.and_true, Bool.and_eq_true] at hhashes ⊢
    exact ⟨hhashes.1, Digest.authorityHash_isHash _, hhashes.2.2⟩
  valid := snapshotValid_reordered hperm h.valid
  bound := by
    obtain ⟨hrequest, -, hrest⟩ := h.bound
    exact ⟨hrequest, rfl, hrest⟩
  pilot := h.pilot

/-- Nothing else than the rules of a policy decides what is selected under it. -/
theorem policy_selectsLeast (direction : OpportunityDirection)
    (h : ValidInputs snapshot policy requested authority)
    (hprofile : structuralPilotProfile policy.opportunityKey = none) :
    ∃ result, selectVerticalCandidate snapshot policy direction requested authority = .ok result ∧
      SelectsLeast policyRank (PolicyEligible policy.toOpportunityPolicyFields direction)
        (PolicyRanks policy.toOpportunityPolicyFields direction requested authority)
        snapshot.options result := by
  have hquoted := (optionsKnown_of_valid h.valid).quoted
  obtain ⟨outcomes, houtcomes⟩ : ∃ outcomes, (laterPairs snapshot.options).mapM
      (policyPair policy.toOpportunityPolicyFields direction requested authority) =
        .ok outcomes := by
    refine exists_mapM_ok fun pair hpair => ?_
    obtain ⟨hone, htwo, -⟩ := mem_laterPairs hpair
    exact policyPair_isOk (OpportunityPolicy.widest_pos policy) (hquoted _ hone) (hquoted _ htwo)
  have hrules := policyOutcomes houtcomes
  have hlegs : ∀ item ∈ rankedItems outcomes, TwoLegged item := by
    intro item hitem
    obtain ⟨first, -, second, -, hranks⟩ := hrules.mem_rankedItems.mp hitem
    exact hrules.twoLegged first second item hranks
  refine ⟨selectRanked outcomes, ?_, ?_⟩
  · rw [h.select_policy hprofile, houtcomes]
    rfl
  · rw [selectRanked_eq]
    refine hrules.selectsLeast (comparesBy_policyRank hlegs) ?_
    refine (policy_distinct houtcomes h.symbols).imp fun hne hrank => hne ?_
    simp only [policyRank, EmbeddingLike.apply_eq_iff_eq, Prod.mk.injEq] at hrank
    exact hrank.2.2

/-- A structural pilot raises exactly when the prices of a pair have no whole cents. -/
theorem pilot_raises_iff (direction : OpportunityDirection)
    (h : ValidInputs snapshot policy requested authority)
    (hprofile : structuralPilotProfile policy.opportunityKey = some profile) :
    selectVerticalCandidate snapshot policy direction requested authority = .error .arithmetic ↔
      ∃ bought ∈ snapshot.options, ∃ sold ∈ snapshot.options,
        Unquantizable snapshot profile bought sold := by
  have hquoted := (optionsKnown_of_valid h.valid).quoted
  have hwidest : 0 < profile.maximumRelativeSpread.value := by
    rw [(structuralPilotProfile_some hprofile).2.2]
    norm_num [value, significand]
  rw [h.select_pilot hprofile]
  constructor
  · intro hraises
    cases houtcomes : (allPairs snapshot.options).mapM (pilotPair snapshot
        policy.toOpportunityPolicyFields authority profile) with
    | ok outcomes =>
        rw [houtcomes] at hraises
        cases hraises
    | error failure =>
        obtain ⟨pair, hpair, hraised⟩ := mapM_error houtcomes
        obtain ⟨hone, htwo⟩ := mem_allPairs hpair
        rcases @pilotPair_cases snapshot policy.toOpportunityPolicyFields authority profile pair.1
          pair.2 hwidest (hquoted _ hone) (hquoted _ htwo) with ⟨outcome, hok⟩ | ⟨-, hcents⟩
        · rw [hok] at hraised
          cases hraised
        · exact ⟨pair.1, hone, pair.2, htwo, hcents⟩
  · rintro ⟨bought, hbought, sold, hsold, hcents⟩
    have hpair : (bought, sold) ∈ allPairs snapshot.options :=
      List.mem_flatMap.mpr ⟨bought, hbought, List.mem_map.mpr ⟨sold, hsold, rfl⟩⟩
    cases houtcomes : (allPairs snapshot.options).mapM (pilotPair snapshot
        policy.toOpportunityPolicyFields authority profile) with
    | ok outcomes =>
        obtain ⟨outcome, -, hok⟩ := mem_results houtcomes hpair
        rw [hcents.raises] at hok
        cases hok
    | error failure =>
        obtain ⟨pair, hother, hraised⟩ := mapM_error houtcomes
        obtain ⟨hone, htwo⟩ := mem_allPairs hother
        rcases @pilotPair_cases snapshot policy.toOpportunityPolicyFields authority profile pair.1
          pair.2 hwidest (hquoted _ hone) (hquoted _ htwo) with ⟨outcome, hok⟩ | ⟨hsame, -⟩
        · rw [hok] at hraised
          cases hraised
        · obtain rfl := Except.error.inj (hsame.symm.trans hraised)
          rfl

/-- Nothing else than the rules of a structural pilot decides what is selected for it, where the
prices of all pairs have whole cents. -/
theorem pilot_selectsLeast (direction : OpportunityDirection)
    (h : ValidInputs snapshot policy requested authority)
    (hprofile : structuralPilotProfile policy.opportunityKey = some profile)
    (hcents : ¬ ∃ bought ∈ snapshot.options, ∃ sold ∈ snapshot.options,
      Unquantizable snapshot profile bought sold) :
    ∃ result, selectVerticalCandidate snapshot policy direction requested authority =
        .ok result ∧
      SelectsLeast (pilotRank profile) (PilotEligible snapshot profile)
        (PilotRanks snapshot policy.toOpportunityPolicyFields authority profile)
        snapshot.options result := by
  have hquoted := (optionsKnown_of_valid h.valid).quoted
  have hwidest : 0 < profile.maximumRelativeSpread.value := by
    rw [(structuralPilotProfile_some hprofile).2.2]
    norm_num [value, significand]
  obtain ⟨outcomes, houtcomes⟩ : ∃ outcomes, (allPairs snapshot.options).mapM (pilotPair snapshot
      policy.toOpportunityPolicyFields authority profile) = .ok outcomes := by
    refine exists_mapM_ok fun pair hpair => ?_
    obtain ⟨hone, htwo⟩ := mem_allPairs hpair
    rcases @pilotPair_cases snapshot policy.toOpportunityPolicyFields authority profile pair.1
      pair.2 hwidest (hquoted _ hone) (hquoted _ htwo) with hok | ⟨-, hunquantizable⟩
    · exact hok
    · exact absurd ⟨pair.1, hone, pair.2, htwo, hunquantizable⟩ hcents
  have hrules := pilotOutcomes houtcomes
  have hlegs : ∀ item ∈ rankedItems outcomes, TwoLegged item := by
    intro item hitem
    obtain ⟨first, -, second, -, hranks⟩ := hrules.mem_rankedItems.mp hitem
    exact hrules.twoLegged first second item hranks
  have hcompares := @comparesBy_pilotRank _ profile hlegs
  have hdistinct : (rankedItems outcomes).Pairwise fun a b =>
      pilotRank profile a ≠ pilotRank profile b := by
    refine (pilot_distinct houtcomes h.symbols).imp fun hne hrank => hne ?_
    simp only [pilotRank, EmbeddingLike.apply_eq_iff_eq, Prod.mk.injEq] at hrank
    exact hrank.2.2
  refine ⟨selectPilotRanked profile outcomes, ?_, ?_⟩
  · rw [h.select_pilot hprofile, houtcomes]
    rfl
  · rw [selectPilotRanked_eq (hcompares.ranked.leastOf_ne_tied hdistinct)]
    exact hrules.selectsLeast hcompares hdistinct

end Valid

/-! ## Rehearsal -/

section Rehearsed

attribute [local instance] zeroDigest

theorem rehearsed_validInputs :
    ValidInputs rehearsedSnapshot boundaryPolicy 2 rehearsedAuthority where
  inputs := by decide +kernel
  valid := by decide +kernel
  bound := by decide +kernel
  pilot := by decide +kernel

/-- The policy of a structural pilot at the boundary of the rehearsal. -/
def pilotPolicy : OpportunityPolicy where
  toOpportunityPolicyFields := { boundaryPolicy.toOpportunityPolicyFields with
    opportunityKey := "SPY_STRUCTURAL_BULLISH_BETA_PILOT_V1" }
  valid := by decide +kernel

/-- The snapshot of the rehearsal with an option whose price has twenty-eight digits. -/
def dearSnapshot : OpportunityMarketSnapshot :=
  let dear := rehearsedOption "SPY261005C00500000" (.ofInt 500) ⟨false, 1, 27⟩ ⟨false, 1, 27⟩
  { rehearsedSnapshot with
    options := [
      { dear with delta := ⟨false, 6, -1⟩ },
      rehearsedOption "SPY261005C00504000" (.ofInt 504) ⟨false, 50, -2⟩ ⟨false, 51, -2⟩] }

end Rehearsed

end AlphaDecay.Selection
