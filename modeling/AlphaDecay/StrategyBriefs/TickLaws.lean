import AlphaDecay.StrategyBriefs.ProtocolLaws
import AlphaDecay.StrategyBriefs.RuleMeaning

/-!
# Ticks succeed once they observed

The observations of a phase have everything that an evaluation needs, although the two derive it
separately: `observed_of_build`. So evaluation and classification succeed on them, and with a
position the classification is to close exactly when an exit rule is true of the acquired evidence:
`closeCandidate_iff`.
-/

namespace AlphaDecay.StrategyBriefs

open Foundation

/-- The rules of a protocol in the order in which an evaluation goes over them. -/
def evaluatedRules (protocol : CompiledStrategyProtocol) : List (CompiledMachineRule Decimal) :=
  let rules := protocol.rules
  [rules.entryRule, rules.noTradeRule, rules.profitExitRule, rules.lossExitRule,
    rules.timeExitRule] ++ rules.invalidationRules

variable {protocol : CompiledStrategyProtocol}

/-- The rules that end a position. -/
def exitRules (protocol : CompiledStrategyProtocol) : List (CompiledMachineRule Decimal) :=
  let rules := protocol.rules
  [rules.lossExitRule, rules.timeExitRule, rules.profitExitRule] ++ rules.invalidationRules

/-- A rule is one that ends a position when it is evaluated. -/
theorem exitRules_subset (protocol : CompiledStrategyProtocol) :
    exitRules protocol ⊆ evaluatedRules protocol := by
  intro rule hrule
  simp only [exitRules, evaluatedRules, List.mem_append, List.mem_cons, List.not_mem_nil,
    or_false] at hrule ⊢
  tauto

theorem mem_reads {ι : Type} {rules : List (CompiledMachineRule Decimal)}
    {reads : ProtocolPredicate Decimal → List ι} {read : ι} :
    read ∈ (rules.flatMap (·.predicates)).flatMap reads ↔
      ∃ rule ∈ rules, read ∈ rule.predicates.flatMap reads := by
  rw [List.flatMap_assoc]
  exact List.mem_flatMap

theorem mem_observedRules {rule : CompiledMachineRule Decimal} :
    rule ∈ [protocol.rules.entryRule, protocol.rules.noTradeRule, protocol.rules.lossExitRule,
      protocol.rules.timeExitRule, protocol.rules.profitExitRule] ++
        protocol.rules.invalidationRules ↔ rule ∈ evaluatedRules protocol := by
  simp only [evaluatedRules, List.mem_append, List.mem_cons, List.not_mem_nil, or_false]
  tauto

theorem mem_requiredMetrics {read : ProtocolMetric} :
    read ∈ (requiredPredicates protocol).1 ↔
      ∃ rule ∈ evaluatedRules protocol, read ∈ rule.metrics := by
  rw [requiredPredicates, mem_reads]
  simp only [mem_observedRules]
  rfl

theorem mem_requiredFacts {read : ProtocolFact} :
    read ∈ (requiredPredicates protocol).2 ↔
      ∃ rule ∈ evaluatedRules protocol, read ∈ rule.facts := by
  rw [requiredPredicates, mem_reads]
  simp only [mem_observedRules]
  rfl

theorem mem_requiredObservations :
    (∀ read ∈ (requiredObservations protocol).1,
      ∃ rule ∈ evaluatedRules protocol, read ∈ rule.metrics) ∧
    ∀ read ∈ (requiredObservations protocol).2, read ∈ protocol.mandatorySafetyFacts ∨
      ∃ rule ∈ evaluatedRules protocol, read ∈ rule.facts :=
  ⟨fun _ hread => mem_reads.mp hread, fun _ hread =>
    (List.mem_append.mp hread).imp id fun hrules => mem_reads.mp hrules⟩

@[simp] theorem mem_sortedSet {α : Type} [DecidableEq α] {text : α → String} {items : List α}
    {item : α} : item ∈ sortedSet text items ↔ item ∈ items := by
  rw [sortedSet, (Grouping.sortedBy_perm text items.dedup).mem_iff, List.mem_dedup]

variable [Digest]
variable {phase : PositionPhase} {evidence : AcquiredProtocolEvidence}
  {bundle : ProtocolObservationBundle} {observations : ProtocolObservationSet}
  {evaluation : ProtocolEvaluation}

/-! ## Observing -/

structure Observed (protocol : CompiledStrategyProtocol) (evidence : AcquiredProtocolEvidence)
    (phase : PositionPhase) (bundle : ProtocolObservationBundle) : Prop where
  verified : verifyCompiledProtocol protocol = true
  evidenceValid : evidence.Valid
  hash : bundle.protocolHash = protocol.protocolHash
  phase : bundle.positionPhase = phase
  valid : bundle.Valid
  numbers : ∀ read, (∃ rule ∈ evaluatedRules protocol, read ∈ rule.metrics) →
    bundle.observations.numericValues.get read = evidence.numericValues.get read ∧
      (evidence.numericValues.get read).isSome = true
  facts : ∀ read, (∃ rule ∈ evaluatedRules protocol, read ∈ rule.facts) →
    bundle.observations.facts.get read = evidence.factValues.get read ∧
      (evidence.factValues.get read).isSome = true
  safety : ∀ read ∈ protocol.mandatorySafetyFacts,
    (bundle.observations.facts.get read).isSome = true

/-- An observation that was built has what an evaluation needs. -/
theorem observed_of_build (h : buildProtocolObservations protocol evidence phase = .ok bundle) :
    Observed protocol evidence phase bundle := by
  unfold buildProtocolObservations observationBlockedIf at h
  rw [check_bind_ok, check_bind_ok, check_bind_ok, check_bind_ok] at h
  obtain ⟨hinput, hverify, -, -, h⟩ := h
  rw [bind_ok] at h
  obtain ⟨observedAt, -, h⟩ := h
  rw [check_bind_ok] at h
  dsimp only at h
  rw [check_bind_ok, check_bind_ok, check_bind_ok, check_bind_ok, check_bind_ok, check_bind_ok] at h
  obtain ⟨-, hmetrics, hfacts, -, -, -, hvalid, h⟩ := h
  simp only [raiseIf_ok, Bool.not_eq_eq_eq_not, Bool.not_false, decide_eq_true_eq,
    List.all_eq_true, mem_sortedSet] at hinput hverify hmetrics hfacts hvalid
  obtain rfl := Except.ok.inj h
  refine ⟨hverify, hinput.2, rfl, rfl, hvalid, ?_, ?_, ?_⟩
  · intro read hread
    have hmem := mem_requiredMetrics.mpr hread
    exact ⟨by simp [hmem], hmetrics read hmem⟩
  · intro read hread
    have hmem : read ∈ requiredFactsIn protocol phase := by
      have hrule := mem_requiredFacts.mpr hread
      cases phase <;> simp [requiredFactsIn, hrule]
    have hpresent := hfacts read hmem
    obtain ⟨value, hvalue⟩ := Option.isSome_iff_exists.mp hpresent
    exact ⟨by simp [hmem, hvalue], hpresent⟩
  · intro read hread
    by_cases hmem : read ∈ requiredFactsIn protocol phase
    · obtain ⟨value, hvalue⟩ := Option.isSome_iff_exists.mp (hfacts read hmem)
      simp [hmem, hvalue]
    · cases phase with
      | flat => exact absurd (by simp [requiredFactsIn, hread]) hmem
      | open_ =>
          have hentry : read ∈ entryOnlyFacts := by
            by_contra hnot
            exact hmem (by simp [requiredFactsIn, hread, hnot])
          simp [hmem, ignoredFacts, hentry]

/-! ## Evaluating -/

/-- What an evaluation of observations says: of every rule whether it is true of them. -/
structure EvaluationOf (protocol : CompiledStrategyProtocol)
    (observations : ProtocolObservationSet) (evaluation : ProtocolEvaluation) : Prop where
  hash : evaluation.protocolHash = protocol.protocolHash
  lossExit : evaluation.lossExitRuleMatched = true ↔ RuleMatches observations.numericValues.get
    observations.facts.get protocol.rules.lossExitRule
  timeExit : evaluation.timeExitRuleMatched = true ↔ RuleMatches observations.numericValues.get
    observations.facts.get protocol.rules.timeExitRule
  profitExit : evaluation.profitExitRuleMatched = true ↔ RuleMatches
    observations.numericValues.get observations.facts.get protocol.rules.profitExitRule
  invalidation : List.Forall₂ (fun rule matched => matched = true ↔ RuleMatches
    observations.numericValues.get observations.facts.get rule) protocol.rules.invalidationRules
    evaluation.invalidationRuleMatches

/-- A verified protocol is evaluated on observations that have what it needs. -/
theorem exists_evaluation (hverify : verifyCompiledProtocol protocol = true)
    (hvalid : observations.Valid)
    (hmetrics : ∀ read, (∃ rule ∈ evaluatedRules protocol, read ∈ rule.metrics) →
      (observations.numericValues.get read).isSome = true)
    (hfacts : ∀ read, (∃ rule ∈ evaluatedRules protocol, read ∈ rule.facts) →
      (observations.facts.get read).isSome = true)
    (hsafety : ∀ read ∈ protocol.mandatorySafetyFacts,
      (observations.facts.get read).isSome = true) :
    ∃ evaluation, evaluateCompiledProtocol protocol observations = .ok evaluation ∧
      EvaluationOf protocol observations evaluation := by
  obtain ⟨hprotocol, hhash⟩ := verify_iff.mp hverify
  have hrule : ∀ rule ∈ evaluatedRules protocol,
      ∃ result, ruleMatches observations rule = some result := fun rule hmem =>
    exists_ruleMatches (fun read hread => hmetrics read ⟨rule, hmem, hread⟩)
      fun read hread => hfacts read ⟨rule, hmem, hread⟩
  obtain ⟨safety, hsafe⟩ := exists_mapM hsafety
  obtain ⟨entry, hentry⟩ := hrule protocol.rules.entryRule (by simp [evaluatedRules])
  obtain ⟨noTrade, hnoTrade⟩ := hrule protocol.rules.noTradeRule (by simp [evaluatedRules])
  obtain ⟨profit, hprofit⟩ := hrule protocol.rules.profitExitRule (by simp [evaluatedRules])
  obtain ⟨loss, hloss⟩ := hrule protocol.rules.lossExitRule (by simp [evaluatedRules])
  obtain ⟨time, htime⟩ := hrule protocol.rules.timeExitRule (by simp [evaluatedRules])
  have hlast : ∀ rule ∈ protocol.rules.invalidationRules,
      (ruleMatches observations rule).isSome = true := by
    intro rule hmem
    obtain ⟨result, hresult⟩ := hrule rule (by simp [evaluatedRules, hmem])
    rw [hresult, Option.isSome_some]
  obtain ⟨invalidation, hinvalidation⟩ := exists_mapM hlast
  let evaluation : ProtocolEvaluation := {
    protocolHash := protocol.protocolHash
    safetyGatesPassed := safety.all id
    entryRuleMatched := entry
    noTradeRuleMatched := noTrade
    profitExitRuleMatched := profit
    lossExitRuleMatched := loss
    timeExitRuleMatched := time
    invalidationRuleMatches := invalidation }
  have hevaluated : evaluateRules protocol observations = some evaluation := by
    simp only [evaluation, evaluateRules, hsafe, hentry, hnoTrade, hprofit, hloss, htime,
      hinvalidation, Option.bind_eq_bind, Option.bind_some, Option.pure_def]
  have hcomplete : (requiredObservations protocol).1.all (fun read =>
      (observations.numericValues.get read).isSome) = true ∧
      (requiredObservations protocol).2.all (fun read =>
        (observations.facts.get read).isSome) = true := by
    simp only [List.all_eq_true]
    exact ⟨fun read hread => hmetrics read (mem_requiredObservations.1 read hread),
      fun read hread => (mem_requiredObservations.2 read hread).elim (hsafety read) (hfacts read)⟩
  refine ⟨evaluation, ?_, ?_⟩
  · unfold evaluateCompiledProtocol
    rw [check_bind_ok, check_bind_ok]
    dsimp only
    rw [check_bind_ok, require_ok]
    exact ⟨by simp [hprotocol, hvalid], by simp [hhash], by simp [hcomplete], hevaluated⟩
  · exact ⟨rfl, ruleMatches_iff hloss, ruleMatches_iff htime, ruleMatches_iff hprofit,
      (mapM_eq_some.mp hinvalidation).imp fun rule matched h => ruleMatches_iff h⟩

/-- An observation that was built is evaluated. -/
theorem Observed.evaluated (h : Observed protocol evidence phase bundle) :
    ∃ evaluation, evaluateCompiledProtocol protocol bundle.observations = .ok evaluation ∧
      EvaluationOf protocol bundle.observations evaluation :=
  exists_evaluation h.verified h.valid.2
    (fun read hread => by rw [(h.numbers read hread).1]; exact (h.numbers read hread).2)
    (fun read hread => by rw [(h.facts read hread).1]; exact (h.facts read hread).2) h.safety

/-! ## Classifying -/

/-- An evaluation of a verified protocol is classified. -/
theorem classify_ok (hverify : verifyCompiledProtocol protocol = true)
    (h : EvaluationOf protocol observations evaluation) (phase : PositionPhase) :
    classifyProtocolDecision protocol evaluation phase =
      .ok (decisionOf protocol evaluation phase) := by
  obtain ⟨hprotocol, hhash⟩ := verify_iff.mp hverify
  obtain ⟨-, -, -, -, ⟨-, -, hmost⟩, -, -, -, hown⟩ := id hprotocol
  have hlength := h.invalidation.length_eq
  have hevaluation : evaluation.Valid := by rw [ProtocolEvaluation.Valid, h.hash]; exact hown
  have hdecision := decisionOf_valid hown (hlength ▸ hmost) phase
  unfold classifyProtocolDecision
  rw [check_bind_ok, check_bind_ok, check_bind_ok, check_bind_ok]
  exact ⟨by simp [hprotocol, hevaluation], by simp [hhash], by simp [h.hash, hlength],
    by simp [hdecision], rfl⟩

omit [Digest] in
/-- With a position an evaluation is a reason to close exactly when an exit rule matched. -/
theorem closeReasons_ne_nil :
    closeReasons evaluation ≠ [] ↔ true ∈ evaluation.invalidationRuleMatches ∨
      evaluation.lossExitRuleMatched = true ∨ evaluation.timeExitRuleMatched = true ∨
      evaluation.profitExitRuleMatched = true := by
  rw [← invalidationNumbers_ne_nil]
  simp only [closeReasons, reasonIf]
  cases invalidationNumbers evaluation <;> cases evaluation.lossExitRuleMatched <;>
    cases evaluation.timeExitRuleMatched <;> cases evaluation.profitExitRuleMatched <;> simp

omit [Digest] in
/-- With a position the classification is to close exactly when an exit rule is true of the
observations. -/
theorem closeCandidate_iff_observed (h : EvaluationOf protocol observations evaluation) :
    (decisionOf protocol evaluation .open_).classification = .closeCandidate ↔
      ∃ rule ∈ exitRules protocol,
        RuleMatches observations.numericValues.get observations.facts.get rule := by
  have hclose : (decisionOf protocol evaluation .open_).classification = .closeCandidate ↔
      closeReasons evaluation ≠ [] := by
    simp only [decisionOf]
    cases closeReasons evaluation <;> simp
  have hinvalidation : true ∈ evaluation.invalidationRuleMatches ↔
      ∃ rule ∈ protocol.rules.invalidationRules,
        RuleMatches observations.numericValues.get observations.facts.get rule := by
    have hall := h.invalidation
    generalize protocol.rules.invalidationRules = rules at hall
    generalize evaluation.invalidationRuleMatches = marks at hall
    induction hall with
    | nil => simp
    | cons hfirst hrest ih => simp [ih, ← hfirst]
  rw [hclose, closeReasons_ne_nil, hinvalidation, h.lossExit, h.timeExit, h.profitExit]
  simp only [exitRules, List.mem_append, List.mem_cons, List.not_mem_nil, or_false]
  constructor
  · rintro (⟨rule, hmem, hmatch⟩ | hmatch | hmatch | hmatch)
    · exact ⟨rule, .inr hmem, hmatch⟩
    · exact ⟨_, .inl (.inl rfl), hmatch⟩
    · exact ⟨_, .inl (.inr (.inl rfl)), hmatch⟩
    · exact ⟨_, .inl (.inr (.inr rfl)), hmatch⟩
  · rintro ⟨rule, (rfl | rfl | rfl) | hmem, hmatch⟩
    · exact .inr (.inl hmatch)
    · exact .inr (.inr (.inl hmatch))
    · exact .inr (.inr (.inr hmatch))
    · exact .inl ⟨rule, hmem, hmatch⟩

/-- A rule is true of an observation that was built exactly when it is true of the evidence. -/
theorem Observed.ruleMatches (h : Observed protocol evidence phase bundle)
    {rule : CompiledMachineRule Decimal} (hrule : rule ∈ evaluatedRules protocol) :
    RuleMatches bundle.observations.numericValues.get bundle.observations.facts.get rule ↔
      RuleMatches evidence.numericValues.get evidence.factValues.get rule :=
  ruleMatches_congr (fun read hread => (h.numbers read ⟨rule, hrule, hread⟩).1)
    fun read hread => (h.facts read ⟨rule, hrule, hread⟩).1

end AlphaDecay.StrategyBriefs
