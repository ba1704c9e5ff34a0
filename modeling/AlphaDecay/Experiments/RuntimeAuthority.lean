import AlphaDecay.Experiments.Repository
import AlphaDecay.StrategyBriefs.Observations

/-!
# Runtime authority of experiments

A tick is judged against the compiled version of an experiment and the status of its authorization.
The tick is recomputed from its observations when it is one of the version. Entries need an armed
authorization at the expected revision; decisions about a position are passed on.
-/

namespace AlphaDecay.Experiments.Runtime

open Foundation StrategyBriefs

/-- Why the judgement of a tick raises. -/
inductive RuntimeFailure where
  | blocked (code : String)
  | validation
deriving DecidableEq, Repr

/-- What a tick may lead to. -/
inductive ExperimentRuntimeDisposition where
  | entrySelectionAllowed
  | entryBlocked
  | openClosePreserved
  | openHoldPreserved
deriving DecidableEq, Repr

/-- Why it may. -/
inductive ExperimentRuntimeReason where
  | entryCandidateAuthorized
  | decisionNotEntryCandidate
  | experimentIdMismatch
  | sourceDefinitionHashMismatch
  | protocolSourceHashMismatch
  | protocolHashMismatch
  | authorizationRevisionStale
  | authorizationNotArmed
  | openCloseDecisionPreserved
  | openHoldDecisionPreserved
deriving DecidableEq, Repr

structure CompiledExperimentVersion where
  experimentId : Uuid
  sourceDefinitionHash : String
  protocolHash : String
  compiledProtocol : StrategyBriefs.CompiledStrategyProtocol
  createdAt : Stamp

def CompiledExperimentVersion.Valid (compiled : CompiledExperimentVersion) : Prop :=
  isHash compiled.sourceDefinitionHash = true ∧ isHash compiled.protocolHash = true ∧
    compiled.compiledProtocol.Valid ∧
    compiled.protocolHash = compiled.compiledProtocol.protocolHash

instance (compiled : CompiledExperimentVersion) : Decidable compiled.Valid :=
  inferInstanceAs (Decidable (_ ∧ _))

/-- The judgement of a tick. -/
structure ExperimentRuntimeAuthorityDecision where
  experimentId : Uuid
  sourceDefinitionHash : String
  protocolSourceHash : String
  protocolHash : String
  expectedAuthorizationRevision : Int
  observedAuthorizationRevision : Int
  authorizationState : AuthorizationState
  positionPhase : PositionPhase
  protocolDecision : ProtocolDecisionClassification
  disposition : ExperimentRuntimeDisposition
  reasonCodes : List ExperimentRuntimeReason
  candidateSelectionAllowed : Bool
  openPositionManagementPreserved : Bool
deriving DecidableEq

/-- What a classification with a position leads to, and the first reason for it. -/
def expectedOpen : ProtocolDecisionClassification →
    Option (ExperimentRuntimeDisposition × ExperimentRuntimeReason)
  | .closeCandidate => some (.openClosePreserved, .openCloseDecisionPreserved)
  | .hold => some (.openHoldPreserved, .openHoldDecisionPreserved)
  | _ => none

/-- The checks of a judgement without a position. -/
def ExperimentRuntimeAuthorityDecision.FlatConsistent
    (decision : ExperimentRuntimeAuthorityDecision) : Prop :=
  (decision.disposition = .entrySelectionAllowed ∨ decision.disposition = .entryBlocked) ∧
  decision.openPositionManagementPreserved = false ∧
  (decision.candidateSelectionAllowed = true ↔ decision.disposition = .entrySelectionAllowed) ∧
  (decision.disposition = .entrySelectionAllowed ↔
    decision.protocolDecision = .entryCandidate ∧
      decision.reasonCodes = [.entryCandidateAuthorized]) ∧
  (decision.disposition = .entrySelectionAllowed → decision.authorizationState = .armed ∧
    decision.expectedAuthorizationRevision = decision.observedAuthorizationRevision)

instance (decision : ExperimentRuntimeAuthorityDecision) : Decidable decision.FlatConsistent :=
  inferInstanceAs (Decidable (_ ∧ _))

/-- The checks of a judgement with a position. -/
def ExperimentRuntimeAuthorityDecision.OpenConsistent
    (decision : ExperimentRuntimeAuthorityDecision) : Prop :=
  (∃ expected ∈ expectedOpen decision.protocolDecision, decision.disposition = expected.1 ∧
    decision.reasonCodes.head? = some expected.2) ∧
  decision.candidateSelectionAllowed = false ∧ decision.openPositionManagementPreserved = true

instance (decision : ExperimentRuntimeAuthorityDecision) : Decidable decision.OpenConsistent :=
  inferInstanceAs (Decidable (_ ∧ _))

/-- The checks of a judgement. -/
def ExperimentRuntimeAuthorityDecision.Valid (decision : ExperimentRuntimeAuthorityDecision) :
    Prop :=
  (isHash decision.sourceDefinitionHash = true ∧ isHash decision.protocolSourceHash = true ∧
    isHash decision.protocolHash = true) ∧
  (0 ≤ decision.expectedAuthorizationRevision ∧ 0 ≤ decision.observedAuthorizationRevision) ∧
  1 ≤ decision.reasonCodes.length ∧
  (decision.positionPhase = .flat → decision.FlatConsistent) ∧
  (decision.positionPhase = .open_ → decision.OpenConsistent)

instance (decision : ExperimentRuntimeAuthorityDecision) : Decidable decision.Valid :=
  inferInstanceAs (Decidable (_ ∧ _))

/-- Whether the parts of a tick agree with each other. -/
def tickIsConsistent (tick : CompiledExperimentTick) : Bool :=
  tick.protocolHash == tick.observation.protocolHash &&
  tick.observation.protocolHash == tick.evaluation.protocolHash &&
  tick.evaluation.protocolHash == tick.decision.protocolHash &&
  tick.positionPhase == tick.observation.positionPhase &&
  tick.observation.positionPhase == tick.decision.positionPhase &&
  tick.observationSourceHashes == tick.observation.sourceHashes &&
  ([ProtocolDecisionClassification.blocked, .entryCandidate, .standAside].contains
    tick.decision.classification == decide (tick.positionPhase = .flat))

/-- A reason, when its condition holds. -/
def runtimeReasonIf (condition : Bool) (reason : ExperimentRuntimeReason) :
    List ExperimentRuntimeReason :=
  if condition then [reason] else []

/-- The identities of a tick and an authorization that are not those of the version. -/
def identityReasons (compiled : CompiledExperimentVersion) (tick : CompiledExperimentTick)
    (authorization : StatusFields) : List ExperimentRuntimeReason :=
  runtimeReasonIf (decide (authorization.experimentId ≠ compiled.experimentId))
    .experimentIdMismatch ++
  runtimeReasonIf (authorization.sourceDefinitionHash != compiled.sourceDefinitionHash)
    .sourceDefinitionHashMismatch ++
  runtimeReasonIf (tick.protocolSourceHash != compiled.compiledProtocol.sourceHash)
    .protocolSourceHashMismatch ++
  runtimeReasonIf (authorization.protocolHash != compiled.protocolHash ||
    tick.protocolHash != compiled.protocolHash) .protocolHashMismatch

def entryReasons (compiled : CompiledExperimentVersion) (tick : CompiledExperimentTick)
    (authorization : StatusFields) (revisionReasons : List ExperimentRuntimeReason) :
    List ExperimentRuntimeReason :=
  runtimeReasonIf (decide (tick.decision.classification ≠ .entryCandidate))
    .decisionNotEntryCandidate ++
  identityReasons compiled tick authorization ++ revisionReasons ++
  runtimeReasonIf (!authorization.entryAuthorized ||
    decide (authorization.authorizationState ≠ .armed)) .authorizationNotArmed

/-- The judgement of a tick by its phase. -/
def authorityOf (compiled : CompiledExperimentVersion) (tick : CompiledExperimentTick)
    (authorization : StatusFields) (expectedRevision : Int) :
    ExperimentRuntimeAuthorityDecision :=
  let revisionReasons := runtimeReasonIf
    (decide (authorization.authorizationRevision ≠ expectedRevision)) .authorizationRevisionStale
  let judged (disposition : ExperimentRuntimeDisposition)
      (reasonCodes : List ExperimentRuntimeReason) (allowed preserved : Bool) :
      ExperimentRuntimeAuthorityDecision :=
    { experimentId := compiled.experimentId
      sourceDefinitionHash := compiled.sourceDefinitionHash
      protocolSourceHash := compiled.compiledProtocol.sourceHash
      protocolHash := compiled.protocolHash
      expectedAuthorizationRevision := expectedRevision
      observedAuthorizationRevision := authorization.authorizationRevision
      authorizationState := authorization.authorizationState
      positionPhase := tick.positionPhase
      protocolDecision := tick.decision.classification
      disposition
      reasonCodes
      candidateSelectionAllowed := allowed
      openPositionManagementPreserved := preserved }
  match tick.positionPhase with
  | .open_ =>
      let closes := decide (tick.decision.classification = .closeCandidate)
      let reason := if closes then ExperimentRuntimeReason.openCloseDecisionPreserved
        else .openHoldDecisionPreserved
      judged (if closes then .openClosePreserved else .openHoldPreserved)
        (reason :: (identityReasons compiled tick authorization ++ revisionReasons)) false true
  | .flat =>
      if (entryReasons compiled tick authorization revisionReasons).isEmpty then
        judged .entrySelectionAllowed [.entryCandidateAuthorized] true false
      else
        judged .entryBlocked (entryReasons compiled tick authorization revisionReasons) false false

variable [Digest]

/-- Whether a tick of the version is what its observations lead to. -/
def matchingTickIsExact (compiled : CompiledExperimentVersion) (tick : CompiledExperimentTick) :
    Bool :=
  let protocol := compiled.compiledProtocol
  if tick.protocolHash ≠ compiled.protocolHash ∨ tick.protocolSourceHash ≠ protocol.sourceHash then
    true
  else
    match evaluateCompiledProtocol protocol tick.observation.observations with
    | .error _ => false
    | .ok evaluation =>
        match classifyProtocolDecision protocol evaluation tick.positionPhase with
        | .error _ => false
        | .ok decision => decide (tick.evaluation = evaluation) && decide (tick.decision = decision)

/-- Judge a tick against a compiled version and an authorization. -/
def evaluateExperimentRuntimeAuthority (compiled : CompiledExperimentVersion)
    (tick : CompiledExperimentTick) (authorization : ExperimentAuthorizationStatus)
    (expectedRevision : Int) : Except RuntimeFailure ExperimentRuntimeAuthorityDecision := do
  raiseIf (!decide (compiled.Valid ∧ tick.Valid)) (.blocked "EXPERIMENT_RUNTIME_INPUT_INVALID")
  raiseIf (!verifyCompiledProtocol compiled.compiledProtocol || !tickIsConsistent tick ||
    !matchingTickIsExact compiled tick) (.blocked "EXPERIMENT_RUNTIME_TICK_INVALID")
  raiseIf (decide (expectedRevision < 0)) (.blocked "EXPERIMENT_RUNTIME_REVISION_INVALID")
  let decision := authorityOf compiled tick authorization.fields expectedRevision
  raiseIf (!decide decision.Valid) .validation
  return decision

end AlphaDecay.Experiments.Runtime
