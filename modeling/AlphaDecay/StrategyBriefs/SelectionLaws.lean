import AlphaDecay.StrategyBriefs.SelectionRules

/-!
# Compiled candidates are the least of all pairs

Whatever is selected for a compiled protocol is within its bounds and those of the account, and no
other pair of quoted options that is has a lesser rank. Nothing is selected only when no pair meets
the rules, when none of those that do is affordable, or when two of them share the least rank, for
which two options must share a symbol. The order of the options does not matter.
-/

namespace AlphaDecay.StrategyBriefs

open Foundation Decimal Policy
open Selection (OpportunityMarketSnapshot OpportunityOption CandidateSelectionAuthority laterPairs
  subperm_pair_iff mem_laterPairs_iff reorderedSnapshot reorderedAuthority)

/-! ## Outcomes -/

section

variable {protocol : CompiledStrategyProtocol} {snapshot : OpportunityMarketSnapshot}
  {authority : CandidateSelectionAuthority} {outcomes : List CompiledPairOutcome}
  {bought sold : OpportunityOption}

def OutcomesOf (protocol : CompiledStrategyProtocol) (snapshot : OpportunityMarketSnapshot)
    (authority : CandidateSelectionAuthority) (outcomes : List CompiledPairOutcome) : Prop :=
  (laterPairs snapshot.options).mapM (compiledPair protocol snapshot authority) = .ok outcomes

/-- Two options that meet the rules have their outcome among those of all pairs. -/
theorem OutcomesOf.exists_outcome (h : OutcomesOf protocol snapshot authority outcomes)
    (hpositive : 0 < protocol.definition.marketQuality.maximumRelativeSpreadPercent.value)
    (hpair : [bought, sold].Subperm snapshot.options)
    (hmeets : Meets protocol snapshot bought sold) :
    ∃ outcome ∈ outcomes, Comes protocol snapshot authority bought sold outcome := by
  obtain ⟨outcome, houtcome, one, two, hoptions, hcomes, hnot⟩ :=
    compiledPair_comes snapshot authority hpositive bought sold
  have horiented : one = bought ∧ two = sold := by
    rcases hoptions with hsame | ⟨rfl, rfl⟩
    · exact hsame
    · exact absurd hmeets hnot
  obtain ⟨rfl, rfl⟩ := horiented
  have hresults : ∀ pair ∈ laterPairs snapshot.options,
      compiledPair protocol snapshot authority pair = .ok outcome → outcome ∈ outcomes := by
    intro pair hpair hresult
    obtain ⟨other, hother, hok⟩ := Selection.mem_results h hpair
    obtain rfl := Except.ok.inj (hresult.symm.trans hok)
    exact hother
  rcases subperm_pair_iff.mp hpair with hforward | hbackward
  · exact ⟨outcome, hresults _ hforward houtcome, hcomes⟩
  · rw [compiledPair_comm] at houtcome
    exact ⟨outcome, hresults _ hbackward houtcome, hcomes⟩

/-- Every outcome is that of two options. -/
theorem OutcomesOf.exists_pair (h : OutcomesOf protocol snapshot authority outcomes)
    (hpositive : 0 < protocol.definition.marketQuality.maximumRelativeSpreadPercent.value)
    {outcome : CompiledPairOutcome} (houtcome : outcome ∈ outcomes) :
    ∃ bought sold, [bought, sold].Subperm snapshot.options ∧
      Comes protocol snapshot authority bought sold outcome := by
  obtain ⟨⟨first, second⟩, hpair, hok⟩ := Selection.mem_of_mapM_ok h houtcome
  obtain ⟨other, hother, bought, sold, hoptions, hcomes, -⟩ :=
    compiledPair_comes snapshot authority hpositive first second
  obtain rfl := Except.ok.inj (hother.symm.trans hok)
  refine ⟨bought, sold, subperm_pair_iff.mpr ?_, hcomes⟩
  rcases hoptions with ⟨rfl, rfl⟩ | ⟨rfl, rfl⟩
  · exact .inl hpair
  · exact .inr hpair

/-- The candidates that can be selected are those of eligible outcomes. -/
theorem mem_eligibleItems {item : EligibleCandidate} :
    item ∈ eligibleItems outcomes ↔ CompiledPairOutcome.eligible item ∈ outcomes := by
  unfold eligibleItems
  rw [List.mem_filterMap]
  unfold eligibleItem
  constructor
  · rintro ⟨outcome, houtcome, hitem⟩
    cases outcome with
    | eligible other =>
        obtain rfl := Option.some.inj hitem
        exact houtcome
    | ineligible => cases hitem
    | unaffordable => cases hitem
  · exact fun h => ⟨_, h, rfl⟩

/-- Some pair is seen to be eligible exactly when some two options meet the rules. -/
theorem OutcomesOf.geometrySeen_iff (h : OutcomesOf protocol snapshot authority outcomes)
    (hpositive : 0 < protocol.definition.marketQuality.maximumRelativeSpreadPercent.value) :
    geometrySeen outcomes = true ↔ ∃ bought sold, [bought, sold].Subperm snapshot.options ∧
      Meets protocol snapshot bought sold := by
  unfold geometrySeen
  rw [List.any_eq_true]
  constructor
  · rintro ⟨outcome, houtcome, hseen⟩
    obtain ⟨bought, sold, hpair, hcomes⟩ := h.exists_pair hpositive houtcome
    cases hcomes with
    | ineligible _ => cases hseen
    | unaffordable hmeets _ => exact ⟨bought, sold, hpair, hmeets⟩
    | eligible item hmeets _ _ _ _ => exact ⟨bought, sold, hpair, hmeets⟩
  · rintro ⟨bought, sold, hpair, hmeets⟩
    obtain ⟨outcome, houtcome, hcomes⟩ := h.exists_outcome hpositive hpair hmeets
    refine ⟨outcome, houtcome, ?_⟩
    cases hcomes with
    | ineligible hnot => exact absurd hmeets hnot
    | unaffordable _ _ => rfl
    | eligible item _ _ _ _ _ => rfl

/-- No candidate can be selected exactly when no two options that meet the rules are
affordable. -/
theorem OutcomesOf.eligibleItems_eq_nil (h : OutcomesOf protocol snapshot authority outcomes)
    (hpositive : 0 < protocol.definition.marketQuality.maximumRelativeSpreadPercent.value) :
    eligibleItems outcomes = [] ↔ ∀ bought sold, [bought, sold].Subperm snapshot.options →
      Meets protocol snapshot bought sold → ¬ Affordable protocol authority bought sold := by
  rw [List.eq_nil_iff_forall_not_mem]
  constructor
  · intro hnone bought sold hpair hmeets hafford
    obtain ⟨outcome, houtcome, hcomes⟩ := h.exists_outcome hpositive hpair hmeets
    cases hcomes with
    | ineligible hnot => exact hnot hmeets
    | unaffordable _ hnot => exact hnot hafford
    | eligible item _ _ _ _ _ => exact hnone item (mem_eligibleItems.mpr houtcome)
  · intro hnone item hitem
    obtain ⟨bought, sold, hpair, hcomes⟩ := h.exists_pair hpositive (mem_eligibleItems.mp hitem)
    cases hcomes with
    | eligible _ hmeets hafford _ _ _ => exact hnone bought sold hpair hmeets hafford

/-- Candidates of options with different symbols have different ranks. -/
theorem OutcomesOf.pairwise_rank (h : OutcomesOf protocol snapshot authority outcomes)
    (hpositive : 0 < protocol.definition.marketQuality.maximumRelativeSpreadPercent.value)
    (hsymbols : (snapshot.options.map (·.symbol)).Nodup) :
    (eligibleItems outcomes).Pairwise fun a b => a.rank ≠ b.rank := by
  have hpairs := Selection.laterPairs_nodup hsymbols
  rw [Selection.laterPairs_map, List.pairwise_map] at hpairs
  have hsymbolsOf : ∀ pair item,
      (∃ outcome, compiledPair protocol snapshot authority pair = .ok outcome ∧
        eligibleItem outcome = some item) →
        s(pair.1.symbol, pair.2.symbol) = s(item.basis.boughtSymbol, item.basis.soldSymbol) := by
    rintro pair item ⟨outcome, hok, hitem⟩
    obtain ⟨other, hother, bought, sold, hoptions, hcomes, -⟩ :=
      compiledPair_comes snapshot authority hpositive pair.1 pair.2
    obtain rfl := Except.ok.inj (hother.symm.trans hok)
    cases hcomes with
    | ineligible _ => cases hitem
    | unaffordable _ _ => cases hitem
    | eligible found _ _ _ hrank _ =>
        obtain rfl := Option.some.inj hitem
        simp only [EligibleCandidate.rank, pairRank, EmbeddingLike.apply_eq_iff_eq,
          Prod.mk.injEq] at hrank
        obtain ⟨-, -, -, -, -, -, hbought, hsold⟩ := hrank
        rw [hbought, hsold]
        rcases hoptions with ⟨rfl, rfl⟩ | ⟨rfl, rfl⟩
        · rfl
        · exact Sym2.eq_swap
  refine Selection.pairwise_collected h hpairs fun one two a b ha hb hne hrank => hne ?_
  simp only [EligibleCandidate.rank, EmbeddingLike.apply_eq_iff_eq, Prod.mk.injEq] at hrank
  obtain ⟨-, -, -, -, -, -, hbought, hsold⟩ := hrank
  show s(one.1.symbol, one.2.symbol) = s(two.1.symbol, two.2.symbol)
  rw [hsymbolsOf one a ha, hsymbolsOf two b hb, hbought, hsold]

theorem exists_outcomes (snapshot : OpportunityMarketSnapshot)
    (authority : CandidateSelectionAuthority)
    (hpositive : 0 < protocol.definition.marketQuality.maximumRelativeSpreadPercent.value) :
    ∃ outcomes, OutcomesOf protocol snapshot authority outcomes := by
  refine Selection.exists_mapM_ok fun pair _ => ?_
  obtain ⟨outcome, houtcome, -⟩ := compiledPair_comes snapshot authority hpositive pair.1 pair.2
  exact ⟨outcome, houtcome⟩

theorem chosenOf_perm {outcomes' : List CompiledPairOutcome} (h : outcomes.Perm outcomes') :
    chosenOf outcomes = chosenOf outcomes' := by
  have hitems : (eligibleItems outcomes).Perm (eligibleItems outcomes') := h.filterMap _
  have hseen : geometrySeen outcomes = geometrySeen outcomes' := h.any_eq
  unfold chosenOf
  rw [(comparesBy_rank _).ranked.leastOf_perm hitems, hseen]

structure ChosenBy (protocol : CompiledStrategyProtocol) (snapshot : OpportunityMarketSnapshot)
    (authority : CandidateSelectionAuthority)
    (chosen : CompiledCandidateReason × Option EligibleCandidate) : Prop where
  selected : chosen.1 = .selected → ∃ bought sold item, chosen.2 = some item ∧
    [bought, sold].Subperm snapshot.options ∧
    Comes protocol snapshot authority bought sold (.eligible item) ∧
    ∀ bought' sold', [bought', sold'].Subperm snapshot.options →
      Meets protocol snapshot bought' sold' → Affordable protocol authority bought' sold' →
        pairRank protocol bought sold ≤ pairRank protocol bought' sold'
  noEligible : chosen.1 = .noEligibleCandidate ↔
    ∀ bought sold, [bought, sold].Subperm snapshot.options → ¬ Meets protocol snapshot bought sold
  insufficient : chosen.1 = .riskAuthorityInsufficient ↔
    (∃ bought sold, [bought, sold].Subperm snapshot.options ∧
      Meets protocol snapshot bought sold) ∧
    ∀ bought sold, [bought, sold].Subperm snapshot.options → Meets protocol snapshot bought sold →
      ¬ Affordable protocol authority bought sold
  tied : chosen.1 = .unresolvedTie → ¬ (snapshot.options.map (·.symbol)).Nodup

/-- The outcomes of all pairs come to a choice that its reason describes. -/
theorem OutcomesOf.chosenBy (h : OutcomesOf protocol snapshot authority outcomes)
    (hpositive : 0 < protocol.definition.marketQuality.maximumRelativeSpreadPercent.value) :
    ChosenBy protocol snapshot authority (chosenOf outcomes) := by
  have hranked := (comparesBy_rank (eligibleItems outcomes)).ranked
  have hnil := h.eligibleItems_eq_nil hpositive
  have hseen := h.geometrySeen_iff hpositive
  unfold chosenOf
  cases hleast : leastOf (fun a b => (EligibleCandidate.rankOrder a b).isLE)
      (fun a b => decide (EligibleCandidate.rankOrder a b = .eq)) (eligibleItems outcomes) with
  | none =>
      have hnone := hnil.mp (RankedBy.leastOf_eq_none.mp hleast)
      dsimp only
      cases hgeometry : geometrySeen outcomes with
      | true =>
          have hexists := hseen.mp hgeometry
          exact {
            selected := by simp
            noEligible := by
              simp only [if_true, reduceCtorEq, false_iff, not_forall, not_not]
              obtain ⟨bought, sold, hpair, hmeets⟩ := hexists
              exact ⟨bought, sold, hpair, hmeets⟩
            insufficient := by simpa using ⟨hexists, hnone⟩
            tied := by simp }
      | false =>
          rw [hgeometry] at hseen
          have hnever : ∀ bought sold, [bought, sold].Subperm snapshot.options →
              ¬ Meets protocol snapshot bought sold := by
            intro bought sold hpair hmeets
            cases hseen.mpr ⟨bought, sold, hpair, hmeets⟩
          exact {
            selected := by simp
            noEligible := by simpa using hnever
            insufficient := by
              simp only [Bool.false_eq_true, if_false, reduceCtorEq, false_iff]
              rintro ⟨⟨bought, sold, hpair, hmeets⟩, -⟩
              exact hnever bought sold hpair hmeets
            tied := by simp }
  | tied =>
      have hsome : ¬ ∀ bought sold, [bought, sold].Subperm snapshot.options →
          Meets protocol snapshot bought sold → ¬ Affordable protocol authority bought sold := by
        intro hnone
        rw [RankedBy.leastOf_eq_none.mpr (hnil.mpr hnone)] at hleast
        cases hleast
      exact {
        selected := by simp
        noEligible := by
          simp only [reduceCtorEq, false_iff]
          exact fun hnever => hsome fun bought sold hpair hmeets =>
            absurd hmeets (hnever bought sold hpair)
        insufficient := by
          simp only [reduceCtorEq, false_iff]
          exact fun hnone => hsome hnone.2
        tied := fun _ hsymbols =>
          hranked.leastOf_ne_tied (h.pairwise_rank hpositive hsymbols) hleast }
  | one item =>
      obtain ⟨others, hothers, hbehind⟩ := hranked.leastOf_eq_one.mp hleast
      have hmem : item ∈ eligibleItems outcomes := hothers.mem_iff.mpr List.mem_cons_self
      obtain ⟨bought, sold, hpair, hcomes⟩ :=
        h.exists_pair hpositive (mem_eligibleItems.mp hmem)
      have hfound := hcomes
      cases hfound with
      | eligible _ hmeets hafford _ hrank _ =>
          exact {
            selected := by
              refine fun _ => ⟨bought, sold, item, rfl, hpair, hcomes, ?_⟩
              intro bought' sold' hpair' hmeets' hafford'
              obtain ⟨outcome, houtcome, hcomes'⟩ := h.exists_outcome hpositive hpair' hmeets'
              cases hcomes' with
              | ineligible hnot => exact absurd hmeets' hnot
              | unaffordable _ hnot => exact absurd hafford' hnot
              | eligible other _ _ _ hrank' _ =>
                  rw [← hrank, ← hrank']
                  rcases List.mem_cons.mp (hothers.mem_iff.mp (mem_eligibleItems.mpr houtcome)) with
                    rfl | hlater
                  · exact le_rfl
                  · exact (hbehind other hlater).le
            noEligible := by
              simp only [reduceCtorEq, false_iff]
              exact fun hnever => hnever bought sold hpair hmeets
            insufficient := by
              simp only [reduceCtorEq, false_iff]
              exact fun hnone => hnone.2 bought sold hpair hmeets hafford
            tied := by simp }

end

/-! ## Inputs -/

section

variable [Digest] {protocol : CompiledStrategyProtocol} {tick : CompiledExperimentTick}
  {snapshot : OpportunityMarketSnapshot} {authority : CandidateSelectionAuthority}
  {options : List OpportunityOption}

/-- What the inputs of a selection are checked for. -/
theorem validateInputs_ok : validateInputs protocol tick snapshot authority = .ok () ↔
    verifyCompiledProtocol protocol = true ∧ TickBound protocol tick ∧
      SnapshotBound protocol tick snapshot ∧
      snapshot.options.length ≤ protocol.definition.selection.maximumContractsConsidered ∧
      AuthorityBound snapshot authority ∧
      (compiledSnapshotRequest protocol snapshot authority).Bounded ∧
      SnapshotHashed (compiledSnapshotRequest protocol snapshot authority) snapshot := by
  unfold validateInputs validateSnapshotHashes selectionBlockedIf
  dsimp only [Alpaca.OpportunitySnapshotRequest.postInit]
  rw [check_bind_ok, check_bind_ok, check_bind_ok, check_bind_ok, check_bind_ok, check_bind_ok]
  simp only [raiseIf_ok, Bool.not_eq_false', decide_eq_true_iff, decide_eq_false_iff_not, not_lt]

/-- Inputs with the options in another order pass the checks too. -/
theorem validateInputs_reordered (hperm : options.Perm snapshot.options)
    (h : validateInputs protocol tick snapshot authority = .ok ()) :
    validateInputs protocol tick (reorderedSnapshot snapshot options)
      (reorderedAuthority snapshot authority options) = .ok () := by
  obtain ⟨hprotocol, htick, hbound, hcap, hauthority, hrequest, hhashes⟩ :=
    validateInputs_ok.mp h
  refine validateInputs_ok.mpr ⟨hprotocol, htick, hbound, ?_, ?_, hrequest, ?_⟩
  · show (options.length : Int) ≤ _
    rw [hperm.length_eq]
    exact hcap
  · obtain ⟨hrole, hpaper, hbaseline, hpositions, horders, hrequestHash, -, hrest⟩ := hauthority
    exact ⟨hrole, hpaper, hbaseline, hpositions, horders, hrequestHash, rfl, hrest⟩
  · obtain ⟨hrequestHash, -, hbook, hsession, hunderlying, hbenchmark, hoptions⟩ := hhashes
    exact ⟨hrequestHash, rfl, hbook, hsession, hunderlying, hbenchmark,
      fun option hoption => hoptions option (hperm.mem_iff.mp hoption)⟩

theorem widest_pos (h : verifyCompiledProtocol protocol = true) :
    0 < protocol.definition.marketQuality.maximumRelativeSpreadPercent.value := by
  obtain ⟨-, -, -, hdefinition, -⟩ := (verify_iff.mp h).1
  obtain ⟨-, -, -, -, -, -, -, -, hquality, -⟩ := hdefinition
  obtain ⟨-, -, -, ⟨-, hpositive, -⟩, -⟩ := hquality
  rw [Decimal.lt_iff_value, value_ofInt, Int.cast_zero] at hpositive
  exact hpositive

/-- A candidate that is selected for valid inputs is that of two quoted options within the bounds
of the protocol and of the account, with the least rank of all such pairs. Nothing is eligible
exactly when no pair meets the rules, and the account is insufficient exactly when some do but none
is affordable. With different symbols there is no tie, and the order of the options does not
matter. -/
theorem compiled_selection_least
    (h : validateInputs protocol tick snapshot authority = .ok ()) :
    ∃ result, selectCompiledVerticalCandidate protocol tick snapshot authority = .ok result ∧
      (result.reason = .selected → ∃ bought sold candidate,
        [bought, sold].Subperm snapshot.options ∧ Meets protocol snapshot bought sold ∧
        Affordable protocol authority bought sold ∧ result.candidate = some candidate ∧
        CandidateOf protocol authority bought sold candidate ∧
        result.legSourceHashes = [bought.sourceHash, sold.sourceHash] ∧
        ∀ bought' sold', [bought', sold'].Subperm snapshot.options →
          Meets protocol snapshot bought' sold' → Affordable protocol authority bought' sold' →
            pairRank protocol bought sold ≤ pairRank protocol bought' sold') ∧
      (result.reason = .noEligibleCandidate ↔
        ∀ bought sold, [bought, sold].Subperm snapshot.options →
          ¬ Meets protocol snapshot bought sold) ∧
      (result.reason = .riskAuthorityInsufficient ↔
        (∃ bought sold, [bought, sold].Subperm snapshot.options ∧
          Meets protocol snapshot bought sold) ∧
        ∀ bought sold, [bought, sold].Subperm snapshot.options →
          Meets protocol snapshot bought sold → ¬ Affordable protocol authority bought sold) ∧
      (result.reason = .unresolvedTie → ¬ (snapshot.options.map (·.symbol)).Nodup) ∧
      ∀ options : List OpportunityOption, options.Perm snapshot.options →
        selectCompiledVerticalCandidate protocol tick (reorderedSnapshot snapshot options)
          (reorderedAuthority snapshot authority options) =
            .ok { result with
              snapshotHash := (reorderedSnapshot snapshot options).sourceHash } := by
  have hpositive := widest_pos (validateInputs_ok.mp h).1
  obtain ⟨outcomes, houtcomes⟩ := exists_outcomes snapshot authority hpositive
  have hchosen := houtcomes.chosenBy hpositive
  refine ⟨selectionResult protocol tick snapshot authority (chosenOf outcomes).1
    (chosenOf outcomes).2, ?_, ?_, hchosen.noEligible, hchosen.insufficient, hchosen.tied, ?_⟩
  · exact bind_ok.mpr ⟨(), h, bind_ok.mpr ⟨outcomes, houtcomes, rfl⟩⟩
  · intro hselected
    obtain ⟨bought, sold, item, hitem, hpair, hcomes, hleast⟩ := hchosen.selected hselected
    cases hcomes with
    | eligible _ hmeets hafford hcandidate _ hhashes =>
        refine ⟨bought, sold, item.candidate, hpair, hmeets, hafford, ?_, hcandidate, ?_, hleast⟩
        · simp [selectionResult, hitem]
        · simp [selectionResult, hitem, hhashes]
  · intro options hperm
    -- A pair is judged by the trusted time of its snapshot, and by the amounts of its authority.
    have hpairs :
        ((laterPairs snapshot.options).map (compiledPair protocol snapshot authority)).Perm
        ((laterPairs options).map (compiledPair protocol (reorderedSnapshot snapshot options)
          (reorderedAuthority snapshot authority options))) :=
      Selection.laterPairs_map_perm (compiledPair_comm protocol snapshot authority) hperm.symm
    obtain ⟨outcomes', houtcomes', hreordered⟩ := Selection.mapM_perm_map houtcomes hpairs
    refine bind_ok.mpr ⟨(), validateInputs_reordered hperm h,
      bind_ok.mpr ⟨outcomes', houtcomes', ?_⟩⟩
    dsimp only
    rw [← chosenOf_perm hreordered]
    rfl

end

/-! ## Two calls of one expiry -/

section Rehearsed

attribute [local instance] symbolDigest

/-- The digest of every part of the snapshot of the rehearsal. -/
def plainHash : String :=
  String.ofList (List.replicate 64 '0')

/-- The trusted time of the rehearsal, ten seconds after the boundary of its protocol. -/
def rehearsedTime : Int :=
  rehearsedDefinition.schedule.decisionBoundary + Calendar.seconds 10

/-- A tick of the rehearsal that found an entry. -/
def rehearsedTick : CompiledExperimentTick where
  protocolHash := rehearsedProtocol.protocolHash
  protocolSourceHash := rehearsedProtocol.sourceHash
  positionPhase := .flat
  observedAt := some rehearsedTime
  sessionDate := ⟨2026, 9, 2⟩
  observationSourceHashes := []
  observation := {
    protocolHash := rehearsedProtocol.protocolHash
    positionPhase := .flat
    observations := ⟨Dict.empty, Dict.empty⟩
    requiredMetrics := []
    requiredFacts := []
    phaseIgnoredEntryFacts := []
    metricSourceHashes := Dict.empty
    factSourceHashes := Dict.empty
    sourceHashes := [] }
  evaluation := {
    protocolHash := rehearsedProtocol.protocolHash
    safetyGatesPassed := true
    entryRuleMatched := true
    noTradeRuleMatched := false
    profitExitRuleMatched := false
    lossExitRuleMatched := false
    timeExitRuleMatched := false
    invalidationRuleMatches := [false] }
  decision := {
    protocolHash := rehearsedProtocol.protocolHash
    positionPhase := .flat
    classification := .entryCandidate
    reasonCodes := [.entryRuleMatched]
    matchedInvalidationRuleNumbers := [] }

def boundaryBar (symbol : String) : Selection.OpportunityBar where
  symbol := symbol
  startedAt := rehearsedDefinition.schedule.decisionBoundary - Calendar.seconds 300
  completedAt := rehearsedDefinition.schedule.decisionBoundary
  openPrice := .ofInt 405
  high := .ofInt 406
  low := .ofInt 404
  closePrice := .ofInt 405
  volume := .ofInt 1000
  vwap := .ofInt 405
  sourceHash := plainHash

/-- A call of the rehearsal. -/
def quotedCall (symbol : String) (strike bid ask : Decimal) : OpportunityOption where
  symbol := symbol
  underlying := "SPY"
  expiry := ⟨2026, 9, 18⟩
  right := "C"
  strike := strike
  bid := bid
  ask := ask
  bidSize := 10
  askSize := 10
  quoteAt := rehearsedTime
  retrievedAt := rehearsedTime
  impliedVolatility := ⟨false, 2, -1⟩
  delta := ⟨false, 5, -1⟩
  gamma := ⟨false, 1, -2⟩
  thetaPerDay := ⟨true, 5, -2⟩
  vegaPerIvPoint := ⟨false, 1, -1⟩
  sourceHash := plainHash

/-- The snapshot of the rehearsal. -/
def quotedSnapshot : OpportunityMarketSnapshot where
  trustedAt := rehearsedTime
  accountBook := {
    account := {
      role := .development
      paper := true
      equity := .ofInt 100000
      buyingPower := .ofInt 50000
      baselineStatus := .complete
      autonomousEnabled := true }
    positions := .object [("positions", .array [])]
    openOrders := []
    accountFingerprint := plainHash
    sourceHash := plainHash }
  session := {
    sessionDate := ⟨2026, 9, 2⟩
    openAt := rehearsedTime - Calendar.seconds 3600
    closeAt := rehearsedTime + Calendar.seconds 3600
    clockAt := rehearsedTime
    marketOpen := true
    nextOpenAt := rehearsedTime + Calendar.seconds 90000
    nextCloseAt := rehearsedTime + Calendar.seconds 3600
    sourceHash := plainHash }
  underlyingBar := boundaryBar "SPY"
  benchmarkBar := boundaryBar "QQQ"
  options := [
    quotedCall "SPY260918C00405000" (.ofInt 405) ⟨false, 295, -2⟩ (.ofInt 3),
    quotedCall "SPY260918C00410000" (.ofInt 410) ⟨false, 150, -2⟩ ⟨false, 155, -2⟩]
  requestHash := plainHash
  sourceHash := plainHash

/-- The authority of the rehearsal. -/
def quotedAuthority : CandidateSelectionAuthority where
  snapshotRequestHash := plainHash
  snapshotSourceHash := plainHash
  accountFingerprint := plainHash
  observedEquity := .ofInt 100000
  observedBuyingPower := .ofInt 50000
  availableRisk := .ofInt 400
  availableBuyingPower := .ofInt 50000
  greekUnitConvention := .alpacaGopriceoptionsRawV1
  greekUnitEvidenceHash := plainHash

theorem rehearsed_inputs :
    validateInputs rehearsedProtocol rehearsedTick quotedSnapshot quotedAuthority = .ok () ∧
      ((selectCompiledVerticalCandidate rehearsedProtocol rehearsedTick quotedSnapshot
        quotedAuthority).toOption.map (·.reason)) = some .selected := by
  decide +kernel

/-- In the rehearsal the one pair of its calls is selected, also with its options the other way
around. -/
theorem compiled_selection_least_rehearsed :
    ∃ result, selectCompiledVerticalCandidate rehearsedProtocol rehearsedTick quotedSnapshot
        quotedAuthority = .ok result ∧ result.reason = .selected ∧
      selectCompiledVerticalCandidate rehearsedProtocol rehearsedTick
        (reorderedSnapshot quotedSnapshot quotedSnapshot.options.reverse)
        (reorderedAuthority quotedSnapshot quotedAuthority quotedSnapshot.options.reverse) =
          .ok { result with snapshotHash := plainHash } := by
  obtain ⟨result, hresult, -, -, -, -, hreordered⟩ :=
    compiled_selection_least rehearsed_inputs.1
  have hreason := rehearsed_inputs.2
  rw [hresult] at hreason
  exact ⟨result, hresult, Option.some.inj hreason, hreordered _ (List.reverse_perm _)⟩

end Rehearsed

end AlphaDecay.StrategyBriefs
