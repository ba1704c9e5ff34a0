import AlphaDecay.Experiments.RuntimeAuthority
import AlphaDecay.StrategyBriefs.TickLaws

/-!
# Ticks and their authority agree

A tick that was run is judged for its own compiled version under every authorization:
`judged_of_tick`. Entries are selected exactly when nothing speaks against them:
`selectionAllowed_iff`. What is decided about a position depends on the exit rules and on what they
read only.
-/

namespace AlphaDecay.Experiments.Runtime

open Foundation StrategyBriefs

section General

variable {evidence : AcquiredProtocolEvidence} {bundle : ProtocolObservationBundle}
  {protocol : StrategyBriefs.CompiledStrategyProtocol}

/-! ## Judgements -/

/-- What the validation of a status says of it. -/
theorem status_valid (authorization : ExperimentAuthorizationStatus) :
    0 ≤ authorization.fields.authorizationRevision ∧
      (authorization.fields.entryAuthorized = true ↔
        authorization.fields.authorizationState = .armed) := by
  have hcheck := authorization.valid
  unfold StatusFields.check at hcheck
  rw [check_bind_ok, check_bind_ok] at hcheck
  obtain ⟨hfields, hentry, -⟩ := hcheck
  simp only [raiseIf_ok, Bool.or_eq_false_iff, decide_eq_false_iff_not, not_lt] at hfields
  rw [raiseIf_ok, bne_eq_false_iff_eq] at hentry
  exact ⟨hfields.1.2, by rw [hentry, decide_eq_true_iff]⟩

@[simp] theorem runtimeReasonIf_eq_nil {condition : Bool} {reason : ExperimentRuntimeReason} :
    runtimeReasonIf condition reason = [] ↔ condition = false := by
  cases condition <;> simp [runtimeReasonIf]

@[simp] theorem mem_runtimeReasonIf {condition : Bool} {reason given : ExperimentRuntimeReason} :
    given ∈ runtimeReasonIf condition reason ↔ condition = true ∧ given = reason := by
  cases condition <;> simp [runtimeReasonIf]

/-- Nothing speaks against an entry. -/
def EntryAuthorized (compiled : CompiledExperimentVersion) (tick : CompiledExperimentTick)
    (authorization : StatusFields) (expectedRevision : Int) : Prop :=
  tick.positionPhase = .flat ∧ tick.decision.classification = .entryCandidate ∧
  authorization.authorizationState = .armed ∧
  authorization.authorizationRevision = expectedRevision ∧
  authorization.experimentId = compiled.experimentId ∧
  authorization.sourceDefinitionHash = compiled.sourceDefinitionHash ∧
  tick.protocolSourceHash = compiled.compiledProtocol.sourceHash ∧
  authorization.protocolHash = compiled.protocolHash ∧ tick.protocolHash = compiled.protocolHash

variable {compiled : CompiledExperimentVersion} {tick : CompiledExperimentTick}
  {authorization : ExperimentAuthorizationStatus} {expectedRevision : Int}

/-- No reason is found exactly when nothing speaks against an entry. -/
theorem entryReasons_eq_nil (hphase : tick.positionPhase = .flat) :
    entryReasons compiled tick authorization.fields (runtimeReasonIf
      (decide (authorization.fields.authorizationRevision ≠ expectedRevision))
      .authorizationRevisionStale) = [] ↔
    EntryAuthorized compiled tick authorization.fields expectedRevision := by
  obtain ⟨-, harmed⟩ := status_valid authorization
  simp only [entryReasons, identityReasons, List.append_eq_nil_iff, runtimeReasonIf_eq_nil,
    decide_eq_false_iff_not, not_not, bne_eq_false_iff_eq, Bool.or_eq_false_iff,
    Bool.not_eq_eq_eq_not, Bool.not_false, harmed, EntryAuthorized, hphase]
  tauto

theorem entryCandidateAuthorized_notMem (reasons : List ExperimentRuntimeReason)
    (hreasons : ExperimentRuntimeReason.entryCandidateAuthorized ∉ reasons) :
    ExperimentRuntimeReason.entryCandidateAuthorized ∉
      entryReasons compiled tick authorization.fields reasons := by
  simp [entryReasons, identityReasons, hreasons]

/-- Entries are selected exactly when nothing speaks against them. -/
theorem selectionAllowed_iff :
    (authorityOf compiled tick authorization.fields expectedRevision).disposition =
      .entrySelectionAllowed ↔
    EntryAuthorized compiled tick authorization.fields expectedRevision := by
  cases hphase : tick.positionPhase with
  | flat =>
      rw [← entryReasons_eq_nil hphase]
      simp only [authorityOf, hphase]
      split
      · rename_i hempty
        simpa using hempty
      · rename_i hsome
        simpa using hsome
  | open_ =>
      have hnot : ¬ EntryAuthorized compiled tick authorization.fields expectedRevision := by
        rintro ⟨hflat, -⟩
        rw [hphase] at hflat
        cases hflat
      simp only [authorityOf, hphase, hnot, iff_false]
      split <;> simp

/-- A judgement of valid inputs is valid when the classification is one of the phase. -/
theorem authorityOf_valid (hcompiled : compiled.Valid)
    (hallowed : tick.decision.classification ∈ tick.positionPhase.allowed)
    (hrevision : 0 ≤ expectedRevision) :
    (authorityOf compiled tick authorization.fields expectedRevision).Valid := by
  obtain ⟨hsource, hhash, hprotocol, -⟩ := hcompiled
  obtain ⟨-, -, -, -, -, hprotocolSource, -⟩ := hprotocol
  obtain ⟨hstored, -⟩ := status_valid authorization
  cases hphase : tick.positionPhase with
  | flat =>
      by_cases hentry : EntryAuthorized compiled tick authorization.fields expectedRevision
      · have hnil := (entryReasons_eq_nil hphase).mpr hentry
        simp only [authorityOf, hphase, hnil, List.isEmpty_nil, ↓reduceIte]
        obtain ⟨-, hcandidate, harmed, hequal, -⟩ := hentry
        refine ⟨⟨hsource, hprotocolSource, hhash⟩, ⟨hrevision, hstored⟩, le_rfl, fun _ => ?_,
          fun h => by cases h⟩
        exact ⟨.inl rfl, rfl, by simp, by simp [hcandidate], fun _ => ⟨harmed, hequal.symm⟩⟩
      · have hne := mt (entryReasons_eq_nil hphase).mp hentry
        have hmissing := @entryCandidateAuthorized_notMem compiled tick authorization
          (runtimeReasonIf (decide (authorization.fields.authorizationRevision ≠ expectedRevision))
            .authorizationRevisionStale) (by simp)
        simp only [authorityOf, hphase]
        generalize entryReasons compiled tick authorization.fields _ = reasons at hne hmissing
        rw [if_neg (by simpa using hne)]
        refine ⟨⟨hsource, hprotocolSource, hhash⟩, ⟨hrevision, hstored⟩,
          List.length_pos_iff.mpr hne, fun _ => ?_, fun h => by cases h⟩
        refine ⟨.inr rfl, rfl, by simp, ?_, fun h => by cases h⟩
        constructor
        · rintro ⟨⟩
        · rintro ⟨-, hreasons⟩
          have hsame : reasons = [.entryCandidateAuthorized] := hreasons
          exact absurd (by simp [hsame]) hmissing
  | open_ =>
      rw [hphase] at hallowed
      simp only [PositionPhase.allowed, List.mem_cons, List.not_mem_nil, or_false] at hallowed
      refine ⟨?_, ?_, ?_, ?_, ?_⟩ <;> simp only [authorityOf, hphase]
      · exact ⟨hsource, hprotocolSource, hhash⟩
      · exact ⟨hrevision, hstored⟩
      · simp
      · rintro ⟨⟩
      · rintro -
        rcases hallowed with hclose | hhold
        · simp [ExperimentRuntimeAuthorityDecision.OpenConsistent, expectedOpen, hclose]
        · simp [ExperimentRuntimeAuthorityDecision.OpenConsistent, expectedOpen, hhold]

variable [Digest]

/-- A tick that is judged is judged by its phase. -/
theorem judged_eq {authority : ExperimentRuntimeAuthorityDecision}
    (h : evaluateExperimentRuntimeAuthority compiled tick authorization expectedRevision =
      .ok authority) : authority = authorityOf compiled tick authorization.fields
        expectedRevision := by
  unfold evaluateExperimentRuntimeAuthority at h
  rw [check_bind_ok, check_bind_ok, check_bind_ok] at h
  dsimp only at h
  rw [check_bind_ok] at h
  exact (Except.ok.inj h.2.2.2.2).symm

/-! ## Ticks -/

/-- What a tick is, when it was run: its parts succeed and it is made of them. -/
structure TickOf (protocol : StrategyBriefs.CompiledStrategyProtocol)
    (evidence : AcquiredProtocolEvidence) (phase : PositionPhase)
    (bundle : ProtocolObservationBundle) (tick : CompiledExperimentTick) : Prop where
  evaluated : evaluateCompiledProtocol protocol bundle.observations = .ok tick.evaluation
  classified : classifyProtocolDecision protocol tick.evaluation phase = .ok tick.decision
  evaluation : EvaluationOf protocol bundle.observations tick.evaluation
  decision : tick.decision = decisionOf protocol tick.evaluation phase
  ran : runCompiledExperimentTick protocol evidence phase = .ok tick
  phase : tick.positionPhase = phase
  valid : tick.Valid
  consistent : tickIsConsistent tick = true
  observation : tick.observation = bundle
  hash : tick.protocolHash = protocol.protocolHash
  sourceHash : tick.protocolSourceHash = protocol.sourceHash

/-- A tick is run once its observation was built. -/
theorem exists_tick {phase : PositionPhase}
    (h : buildProtocolObservations protocol evidence phase = .ok bundle) :
    ∃ tick, TickOf protocol evidence phase bundle tick := by
  have hobserved := observed_of_build h
  obtain ⟨evaluation, hevaluated, hmeaning⟩ := hobserved.evaluated
  have hclassified := classify_ok hobserved.verified hmeaning phase
  obtain ⟨hprotocol, -⟩ := verify_iff.mp hobserved.verified
  obtain ⟨-, -, -, -, ⟨-, -, hmost⟩, hsource, -, -, hown⟩ := id hprotocol
  have hdecision := decisionOf_valid hown (hmeaning.invalidation.length_eq ▸ hmost) phase
  let tick : CompiledExperimentTick := {
    protocolHash := protocol.protocolHash
    protocolSourceHash := protocol.sourceHash
    positionPhase := phase
    observedAt := evidence.observedAt
    sessionDate := evidence.sessionDate
    observationSourceHashes := bundle.sourceHashes
    observation := bundle
    evaluation := evaluation
    decision := decisionOf protocol evaluation phase }
  have hvalid : tick.Valid := by
    refine ⟨hown, hsource, hobserved.evidenceValid.2.2.2.1, hobserved.valid, ?_, hdecision⟩
    rw [ProtocolEvaluation.Valid, hmeaning.hash]
    exact hown
  have hhash : tick.decision.protocolHash = protocol.protocolHash ∧
      tick.decision.positionPhase = phase := by
    show (decisionOf protocol evaluation phase).protocolHash = _ ∧
      (decisionOf protocol evaluation phase).positionPhase = _
    cases phase with
    | flat => simp only [decisionOf]; split_ifs <;> exact ⟨rfl, rfl⟩
    | open_ => simp only [decisionOf]; split_ifs <;> exact ⟨rfl, rfl⟩
  have hallowed : tick.decision.classification ∈ phase.allowed := by
    have hown := hdecision.2.2.2.1
    rw [← hhash.2]
    exact hown
  refine ⟨tick, hevaluated, hclassified, hmeaning, rfl, ?_, rfl, hvalid, ?_, rfl, rfl, rfl⟩
  · have hparts : tickParts protocol evidence phase = .ok tick := by
      unfold tickParts
      rw [h, ok_bind, hevaluated, ok_bind, hclassified, ok_bind]
      dsimp only
      rw [check_bind_ok]
      exact ⟨by simpa using hvalid, rfl⟩
    rw [runCompiledExperimentTick, hparts]
    rfl
  · have hphase : [ProtocolDecisionClassification.blocked, .entryCandidate, .standAside].contains
        tick.decision.classification = decide (phase = .flat) := by
      generalize tick.decision.classification = classification at hallowed
      revert hallowed
      cases phase <;> cases classification <;> decide
    simp only [tickIsConsistent, hphase, hhash]
    simp [tick, hobserved.hash, hobserved.phase, hmeaning.hash]

/-- A tick is accepted for its own compiled version under every authorization, and judged by its
phase. -/
theorem judged_of_tick {phase : PositionPhase} (hvalid : compiled.Valid)
    (hobserved : StrategyBriefs.Observed compiled.compiledProtocol evidence phase bundle)
    (h : TickOf compiled.compiledProtocol evidence phase bundle tick)
    (authorization : ExperimentAuthorizationStatus) (hrevision : 0 ≤ expectedRevision) :
    evaluateExperimentRuntimeAuthority compiled tick authorization expectedRevision =
      .ok (authorityOf compiled tick authorization.fields expectedRevision) := by
  have hexact : matchingTickIsExact compiled tick = true := by
    simp only [matchingTickIsExact, h.observation, h.phase, h.evaluated, h.classified]
    simp
  have hdecided : tick.decision.positionPhase = tick.positionPhase := by
    have hparts := h.consistent
    simp only [tickIsConsistent, Bool.and_eq_true, beq_iff_eq] at hparts
    obtain ⟨⟨⟨⟨-, hfirst⟩, hsecond⟩, -⟩, -⟩ := hparts
    exact (hfirst.trans hsecond).symm
  have hallowed : tick.decision.classification ∈ tick.positionPhase.allowed := by
    rw [← hdecided]
    exact h.valid.2.2.2.2.2.2.2.2.1
  have hauthority := @authorityOf_valid compiled tick authorization expectedRevision hvalid
    hallowed hrevision
  unfold evaluateExperimentRuntimeAuthority
  rw [check_bind_ok, check_bind_ok, check_bind_ok]
  dsimp only
  rw [check_bind_ok]
  exact ⟨by simp [hvalid, h.valid], by simp [hobserved.verified, h.consistent, hexact],
    by simpa using hrevision, by simpa using hauthority, rfl⟩

/-- With a position the decision is to close exactly when an exit rule is true of the evidence. -/
theorem closeCandidate_iff (hobserved : StrategyBriefs.Observed protocol evidence .open_ bundle)
    (h : TickOf protocol evidence .open_ bundle tick) :
    tick.decision.classification = .closeCandidate ↔ ∃ rule ∈ exitRules protocol,
      RuleMatches evidence.numericValues.get evidence.factValues.get rule := by
  rw [h.decision, closeCandidate_iff_observed h.evaluation]
  refine exists_congr fun rule => and_congr_right fun hrule => ?_
  exact hobserved.ruleMatches (exitRules_subset protocol hrule)

/-- Evidence agrees in what the rules that end a position read. -/
def ExitsAgree (protocol : StrategyBriefs.CompiledStrategyProtocol)
    (evidence other : AcquiredProtocolEvidence) : Prop :=
  ∀ rule ∈ exitRules protocol,
    (∀ read ∈ rule.metrics, evidence.numericValues.get read = other.numericValues.get read) ∧
    ∀ read ∈ rule.facts, evidence.factValues.get read = other.factValues.get read

/-- With a position the decision depends on what the exit rules read only. -/
theorem decision_eq_of_agree {evidence' : AcquiredProtocolEvidence}
    {bundle' : ProtocolObservationBundle} {tick' : CompiledExperimentTick}
    (hagree : ExitsAgree protocol evidence evidence')
    (hobserved : StrategyBriefs.Observed protocol evidence .open_ bundle)
    (hobserved' : StrategyBriefs.Observed protocol evidence' .open_ bundle')
    (h : TickOf protocol evidence .open_ bundle tick)
    (h' : TickOf protocol evidence' .open_ bundle' tick') : tick'.decision = tick.decision := by
  have hrules : ∀ rule ∈ exitRules protocol,
      (RuleMatches bundle'.observations.numericValues.get bundle'.observations.facts.get rule ↔
        RuleMatches bundle.observations.numericValues.get bundle.observations.facts.get rule) := by
    intro rule hrule
    rw [hobserved.ruleMatches (exitRules_subset protocol hrule),
      hobserved'.ruleMatches (exitRules_subset protocol hrule)]
    exact ruleMatches_congr (fun read hread => ((hagree rule hrule).1 read hread).symm)
      fun read hread => ((hagree rule hrule).2 read hread).symm
  have hbool : ∀ {a b : Bool}, (a = true ↔ b = true) → a = b := fun {a b} heq => by
    cases a <;> cases b <;> simp_all
  have hloss : tick'.evaluation.lossExitRuleMatched = tick.evaluation.lossExitRuleMatched :=
    hbool (h'.evaluation.lossExit.trans
      ((hrules _ (by simp [exitRules])).trans h.evaluation.lossExit.symm))
  have htime : tick'.evaluation.timeExitRuleMatched = tick.evaluation.timeExitRuleMatched :=
    hbool (h'.evaluation.timeExit.trans
      ((hrules _ (by simp [exitRules])).trans h.evaluation.timeExit.symm))
  have hprofit : tick'.evaluation.profitExitRuleMatched = tick.evaluation.profitExitRuleMatched :=
    hbool (h'.evaluation.profitExit.trans
      ((hrules _ (by simp [exitRules])).trans h.evaluation.profitExit.symm))
  have hinvalidation : tick'.evaluation.invalidationRuleMatches =
      tick.evaluation.invalidationRuleMatches := by
    have hfirst := h'.evaluation.invalidation
    have hsecond := h.evaluation.invalidation
    have hsame : ∀ rule ∈ protocol.rules.invalidationRules, _ := fun rule hrule =>
      hrules rule (by simp [exitRules, hrule])
    generalize protocol.rules.invalidationRules = rules at hfirst hsecond hsame
    generalize tick'.evaluation.invalidationRuleMatches = marks at hfirst
    generalize tick.evaluation.invalidationRuleMatches = marks' at hsecond
    induction hfirst generalizing marks' with
    | nil => cases hsecond; rfl
    | cons hmark hrest ih =>
        cases hsecond with
        | cons hmark' hrest' =>
            rw [List.forall_mem_cons] at hsame
            rw [hbool (hmark.trans (hsame.1.trans hmark'.symm)), ih hsame.2 _ hrest']
  have hreasons : closeReasons tick'.evaluation = closeReasons tick.evaluation ∧
      invalidationNumbers tick'.evaluation = invalidationNumbers tick.evaluation := by
    simp only [closeReasons, invalidationNumbers, hloss, htime, hprofit, hinvalidation, and_self]
  rw [h'.decision, h.decision]
  simp only [decisionOf, hreasons]

/-- Ticks agree end to end. Once the observation of a protocol was built, which it is of protocols
that verify only, the evaluation, the classification and the tick succeed, and the tick is accepted
for its compiled version under every authorization. Entries are selected exactly when nothing speaks
against them. With a position the classification is to close exactly when an exit rule is true of
the evidence, whatever the authorization is and whatever is read by the other rules only. -/
theorem compiled_ticks_agree (protocol : StrategyBriefs.CompiledStrategyProtocol) :
    (∀ evidence phase bundle, buildProtocolObservations protocol evidence phase = .ok bundle →
      ∃ tick, evaluateCompiledProtocol protocol bundle.observations = .ok tick.evaluation ∧
        classifyProtocolDecision protocol tick.evaluation phase = .ok tick.decision ∧
        runCompiledExperimentTick protocol evidence phase = .ok tick ∧
        (∀ compiled : CompiledExperimentVersion, compiled.Valid →
          compiled.compiledProtocol = protocol →
          ∀ (authorization : ExperimentAuthorizationStatus) (expectedRevision : Int),
            0 ≤ expectedRevision → ∃ authority,
              evaluateExperimentRuntimeAuthority compiled tick authorization expectedRevision =
                .ok authority ∧
              authority.protocolDecision = tick.decision.classification ∧
              (phase = .open_ → authority.disposition =
                if tick.decision.classification = .closeCandidate then .openClosePreserved
                else .openHoldPreserved)) ∧
        (phase = .open_ →
          (tick.decision.classification = .closeCandidate ↔ ∃ rule ∈ exitRules protocol,
            RuleMatches evidence.numericValues.get evidence.factValues.get rule) ∧
          ∀ other bundle', buildProtocolObservations protocol other .open_ = .ok bundle' →
            ExitsAgree protocol evidence other →
            ∃ tick', runCompiledExperimentTick protocol other .open_ = .ok tick' ∧
              tick'.decision = tick.decision)) ∧
    ∀ (compiled : CompiledExperimentVersion) (tick : CompiledExperimentTick)
      (authorization : ExperimentAuthorizationStatus) (expectedRevision : Int) authority,
      evaluateExperimentRuntimeAuthority compiled tick authorization expectedRevision =
        .ok authority →
      (authority.disposition = .entrySelectionAllowed ↔
        EntryAuthorized compiled tick authorization.fields expectedRevision) := by
  refine ⟨fun evidence phase bundle hbuild => ?_, fun compiled tick authorization expectedRevision
    authority h => judged_eq h ▸ selectionAllowed_iff⟩
  have hobserved := observed_of_build hbuild
  obtain ⟨tick, htick⟩ := exists_tick hbuild
  refine ⟨tick, htick.evaluated, htick.classified, htick.ran, ?_, ?_⟩
  · rintro compiled hvalid rfl authorization expectedRevision hrevision
    refine ⟨_, judged_of_tick hvalid hobserved htick authorization hrevision, ?_, ?_⟩
    · simp only [authorityOf]
      cases tick.positionPhase with
      | flat =>
          dsimp only
          split_ifs <;> rfl
      | open_ => rfl
    · rintro rfl
      simp only [authorityOf, htick.phase, decide_eq_true_eq]
  · rintro rfl
    refine ⟨closeCandidate_iff hobserved htick, fun other bundle' hother hagree => ?_⟩
    obtain ⟨tick', htick'⟩ := exists_tick hother
    exact ⟨tick', htick'.ran,
      decision_eq_of_agree hagree hobserved (observed_of_build hother) htick htick'⟩

end General

/-! ## Rehearsal -/

section Rehearsed

attribute [local instance] symbolDigest

/-- The evidence of a rehearsal, with a return on the position. -/
def rehearsedEvidence (positionReturn : Decimal) : AcquiredProtocolEvidence where
  protocolHash := rehearsedProtocol.protocolHash
  protocolSourceHash := rehearsedProtocol.sourceHash
  symbol := "SPY"
  observedAt := some 63923958000000000
  sessionDate := ⟨2026, 9, 2⟩
  numericValues := ((((Dict.empty.set .underlyingLastPrice (.ofInt 410)).set .underlyingSma20
    (.ofInt 405)).set .underlyingSma50 (.ofInt 400)).set .positionReturnOnMaxRiskPercent
      positionReturn).set .daysToExpiry (.ofInt 16)
  factValues := Dict.empty.setDefaults ProtocolFact.all true
  metricSourceHashes := Dict.empty.setDefaults ProtocolMetric.all rehearsedProtocol.sourceHash
  factSourceHashes := Dict.empty.setDefaults ProtocolFact.all rehearsedProtocol.sourceHash
  optionQuoteObservedAt := []

example :
    [PositionPhase.flat, .open_].map (fun phase =>
      ((runCompiledExperimentTick rehearsedProtocol (rehearsedEvidence (.ofInt 60))
        phase).toOption).map (·.decision.classification)) =
      [some .entryCandidate, some .closeCandidate] := by decide +kernel

/-- In the rehearsal a position at a profit of more than half of its risk is one to close. -/
theorem compiled_ticks_agree_rehearsed : ∃ tick,
    runCompiledExperimentTick rehearsedProtocol (rehearsedEvidence (.ofInt 60)) .open_ = .ok tick ∧
      tick.decision.classification = .closeCandidate := by
  have hbuilt : (buildProtocolObservations rehearsedProtocol (rehearsedEvidence (.ofInt 60))
      .open_).toOption.isSome = true := by decide +kernel
  obtain ⟨bundle, hbundle⟩ := Option.isSome_iff_exists.mp hbuilt
  have hbuild : buildProtocolObservations rehearsedProtocol (rehearsedEvidence (.ofInt 60))
      .open_ = .ok bundle := by
    revert hbundle
    cases buildProtocolObservations rehearsedProtocol (rehearsedEvidence (.ofInt 60)) .open_ with
    | error failure => simp [Except.toOption]
    | ok built => simp [Except.toOption]
  obtain ⟨tick, -, -, hran, -, hopen⟩ :=
    (compiled_ticks_agree rehearsedProtocol).1 _ _ bundle hbuild
  refine ⟨tick, hran, (hopen rfl).1.mpr
    ⟨rehearsedProtocol.rules.profitExitRule, by simp [exitRules],
    ?_⟩⟩
  intro predicate hpredicate
  obtain rfl := List.mem_singleton.mp hpredicate
  refine ⟨60, 50, ⟨.ofInt 60, rfl, by simp⟩, by simp [OperandIs], ?_⟩
  show (50 : ℚ) ≤ 60
  norm_num

end Rehearsed

end AlphaDecay.Experiments.Runtime
