import AlphaDecay.Foundation.DictViews
import AlphaDecay.StrategyBriefs.Decision

/-!
# Observations and ticks

The acquired evidence of a protocol is reduced to what its rules and its safety facts read. With a
position the facts that only an entry needs are not required, and are false unless a rule reads
them. A tick observes, evaluates and classifies in one run.
-/

namespace AlphaDecay.StrategyBriefs

open Foundation

/-- A time: its instant, or none for a time without a zone. -/
abbrev Stamp := Option Int

structure AcquiredProtocolEvidence where
  protocolHash : String
  protocolSourceHash : String
  symbol : String
  observedAt : Stamp
  sessionDate : Calendar.Date
  numericValues : Dict ProtocolMetric Decimal
  factValues : Dict ProtocolFact Bool
  metricSourceHashes : Dict ProtocolMetric String
  factSourceHashes : Dict ProtocolFact String
  optionQuoteObservedAt : List Stamp

def AcquiredProtocolEvidence.Valid (evidence : AcquiredProtocolEvidence) : Prop :=
  isHash evidence.protocolHash = true ∧ isHash evidence.protocolSourceHash = true ∧
    isSymbol evidence.symbol = true ∧ evidence.sessionDate.isValid = true ∧
    evidence.optionQuoteObservedAt.length ≤ 4

instance (evidence : AcquiredProtocolEvidence) : Decidable evidence.Valid :=
  inferInstanceAs (Decidable (_ ∧ _))

structure ProtocolObservationBundle where
  protocolHash : String
  positionPhase : PositionPhase
  observations : ProtocolObservationSet
  requiredMetrics : List ProtocolMetric
  requiredFacts : List ProtocolFact
  phaseIgnoredEntryFacts : List ProtocolFact
  metricSourceHashes : Dict ProtocolMetric String
  factSourceHashes : Dict ProtocolFact String
  sourceHashes : List String

def ProtocolObservationBundle.Valid (bundle : ProtocolObservationBundle) : Prop :=
  isHash bundle.protocolHash = true ∧ bundle.observations.Valid

instance (bundle : ProtocolObservationBundle) : Decidable bundle.Valid :=
  inferInstanceAs (Decidable (_ ∧ _))

def entryOnlyFacts : List ProtocolFact :=
  [.accountFlat, .noOpenOrder, .buyingPowerSufficient, .noPriorEntryAttempt]

/-- The different items of a list by their texts. -/
def sortedSet {α : Type} [DecidableEq α] (text : α → String) (items : List α) : List α :=
  Grouping.sortedBy text items.dedup

/-- The metrics and facts that the rules of a protocol read. -/
def requiredPredicates (protocol : CompiledStrategyProtocol) :
    List ProtocolMetric × List ProtocolFact :=
  let rules := protocol.rules
  let predicates := ([rules.entryRule, rules.noTradeRule, rules.lossExitRule, rules.timeExitRule,
    rules.profitExitRule] ++ rules.invalidationRules).flatMap (·.predicates)
  (predicates.flatMap ProtocolPredicate.metrics, predicates.flatMap ProtocolPredicate.facts)

def requiredFactsIn (protocol : CompiledStrategyProtocol) : PositionPhase → List ProtocolFact
  | .flat => (requiredPredicates protocol).2 ++ protocol.mandatorySafetyFacts
  | .open_ => (requiredPredicates protocol).2 ++
      protocol.mandatorySafetyFacts.filter fun read => !entryOnlyFacts.contains read

def ignoredFacts : PositionPhase → List ProtocolFact
  | .flat => []
  | .open_ => sortedSet ProtocolFact.text entryOnlyFacts

/-- Observing is blocked when a condition holds. -/
def observationBlockedIf (condition : Bool) (code : String) : Except ProtocolFailure Unit :=
  raiseIf condition (.observationBlocked code)

/-- The instant of a time, which needs a zone. -/
def utc (stamp : Stamp) : Except ProtocolFailure Int :=
  require stamp (.observationBlocked "PROTOCOL_TIMESTAMP_INVALID")

/-- The quotes are fresh and close to each other when a rule reads them. -/
def validateQuotes (protocol : CompiledStrategyProtocol) (evidence : AcquiredProtocolEvidence)
    (observedAt : Int) (metrics : List ProtocolMetric) : Except ProtocolFailure Unit := do
  let quality := protocol.definition.marketQuality
  if !(metrics.contains .optionQuoteAgeSeconds ||
      metrics.contains .optionRelativeSpreadPercent) then
    return ()
  observationBlockedIf evidence.optionQuoteObservedAt.isEmpty "PROTOCOL_QUOTE_EVIDENCE_MISSING"
  let quotes ← evidence.optionQuoteObservedAt.mapM utc
  observationBlockedIf (quotes.any fun quote => decide (observedAt < quote) ||
    decide (Calendar.seconds quality.maximumOptionQuoteAgeSeconds < observedAt - quote))
    "PROTOCOL_QUOTE_STALE"
  let skew := quotes.max?.getD 0 - quotes.min?.getD 0
  observationBlockedIf (decide (Calendar.seconds quality.maximumLegQuoteSkewSeconds < skew))
    "PROTOCOL_QUOTE_SKEWED"

/-- Whether the session of evidence does not fit the phase. -/
def sessionDiffers (schedule : ProtocolSchedule) (evidence : AcquiredProtocolEvidence)
    (observedAt : Int) (phase : PositionPhase) : Bool :=
  decide (evidence.sessionDate ≠ dateAt observedAt) ||
    (decide (phase = .flat) &&
      (decide (evidence.sessionDate ≠ schedule.signalSession) ||
        !decide (schedule.entryWindowStart ≤ observedAt ∧ observedAt < schedule.entryWindowEnd))) ||
    (decide (phase = .open_) && decide (Calendar.dayOfDate evidence.sessionDate <
      Calendar.dayOfDate schedule.signalSession))

variable [Digest]

/-- Observe a protocol: reduce acquired evidence to what the phase requires. -/
def buildProtocolObservations (protocol : CompiledStrategyProtocol)
    (evidence : AcquiredProtocolEvidence) (phase : PositionPhase) :
    Except ProtocolFailure ProtocolObservationBundle := do
  observationBlockedIf (!decide (protocol.Valid ∧ evidence.Valid))
    "PROTOCOL_OBSERVATION_INPUT_INVALID"
  observationBlockedIf (!verifyCompiledProtocol protocol) "PROTOCOL_HASH_MISMATCH"
  observationBlockedIf (evidence.protocolHash != protocol.protocolHash ||
    evidence.protocolSourceHash != protocol.sourceHash) "PROTOCOL_SOURCE_MISMATCH"
  observationBlockedIf (evidence.symbol != protocol.symbol) "PROTOCOL_SYMBOL_MISMATCH"
  let observedAt ← utc evidence.observedAt
  observationBlockedIf (sessionDiffers protocol.definition.schedule evidence observedAt phase)
    "PROTOCOL_SESSION_MISMATCH"
  let requiredMetrics := sortedSet ProtocolMetric.text (requiredPredicates protocol).1
  let requiredFacts := sortedSet ProtocolFact.text (requiredFactsIn protocol phase)
  observationBlockedIf (!requiredMetrics.all fun read => (evidence.numericValues.get read).isSome)
    "PROTOCOL_METRIC_MISSING"
  observationBlockedIf (!requiredFacts.all fun read => (evidence.factValues.get read).isSome)
    "PROTOCOL_FACT_MISSING"
  observationBlockedIf
    (!(requiredMetrics.all (fun read => (evidence.metricSourceHashes.get read).isSome) &&
      requiredFacts.all fun read => (evidence.factSourceHashes.get read).isSome))
    "PROTOCOL_PROVENANCE_MISSING"
  -- The numbers of the evidence are finite, so that `PROTOCOL_NUMERIC_INVALID` is never raised.
  let values := Dict.pick requiredMetrics evidence.numericValues
  let facts := (Dict.pick requiredFacts evidence.factValues).setDefaults (ignoredFacts phase) false
  validateQuotes protocol evidence observedAt requiredMetrics
  let metricSources := Dict.pick requiredMetrics evidence.metricSourceHashes
  let factSources := Dict.pick requiredFacts evidence.factSourceHashes
  let sourceHashes := sortedSet id (metricSources.values ++ factSources.values)
  observationBlockedIf (!sourceHashes.all isHash) "PROTOCOL_PROVENANCE_INVALID"
  let bundle : ProtocolObservationBundle := {
    protocolHash := protocol.protocolHash
    positionPhase := phase
    observations := ⟨values, facts⟩
    requiredMetrics
    requiredFacts
    phaseIgnoredEntryFacts := ignoredFacts phase
    metricSourceHashes := metricSources
    factSourceHashes := factSources
    sourceHashes }
  raiseIf (!decide bundle.Valid) .validation
  return bundle

/-! ## Ticks -/

structure CompiledExperimentTick where
  protocolHash : String
  protocolSourceHash : String
  positionPhase : PositionPhase
  observedAt : Stamp
  sessionDate : Calendar.Date
  observationSourceHashes : List String
  observation : ProtocolObservationBundle
  evaluation : ProtocolEvaluation
  decision : ProtocolDecision

/-- The checks of a tick. -/
def CompiledExperimentTick.Valid (tick : CompiledExperimentTick) : Prop :=
  isHash tick.protocolHash = true ∧ isHash tick.protocolSourceHash = true ∧
    tick.sessionDate.isValid = true ∧ tick.observation.Valid ∧ tick.evaluation.Valid ∧
    tick.decision.Valid

instance (tick : CompiledExperimentTick) : Decidable tick.Valid :=
  inferInstanceAs (Decidable (_ ∧ _))

/-- Why a tick raises, when one of its parts does. -/
def tickFailure : ProtocolFailure → ProtocolFailure
  | .compilationBlocked code => .compilationBlocked code
  | .evaluationBlocked code => .tickBlocked code
  | .observationBlocked code => .tickBlocked code
  | .decisionBlocked code => .tickBlocked code
  | .tickBlocked code => .tickBlocked code
  | .key => .key
  | .validation => .tickBlocked "PROTOCOL_TICK_INVALID"

/-- The parts of a tick, one after another. -/
def tickParts (protocol : CompiledStrategyProtocol) (evidence : AcquiredProtocolEvidence)
    (phase : PositionPhase) : Except ProtocolFailure CompiledExperimentTick := do
  let observation ← buildProtocolObservations protocol evidence phase
  let evaluation ← evaluateCompiledProtocol protocol observation.observations
  let decision ← classifyProtocolDecision protocol evaluation phase
  let tick : CompiledExperimentTick := {
    protocolHash := protocol.protocolHash
    protocolSourceHash := protocol.sourceHash
    positionPhase := phase
    observedAt := evidence.observedAt
    sessionDate := evidence.sessionDate
    observationSourceHashes := observation.sourceHashes
    observation
    evaluation
    decision }
  raiseIf (!decide tick.Valid) .validation
  return tick

def runCompiledExperimentTick (protocol : CompiledStrategyProtocol)
    (evidence : AcquiredProtocolEvidence) (phase : PositionPhase) :
    Except ProtocolFailure CompiledExperimentTick :=
  (tickParts protocol evidence phase).mapError tickFailure

end AlphaDecay.StrategyBriefs
