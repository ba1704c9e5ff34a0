import AlphaDecay.Contracts
import AlphaDecay.Foundation.Table

/-!
# The authorization of an experiment

A compiled experiment is armed and disarmed by requests that name the revision they expect. Each
accepted request appends an event and moves the one state row of its experiment; a read recomputes
the row from its events. A request runs in three accesses to the database, each of which may see
what other clients committed in between: it locks the state row, it looks for another armed
experiment, and it writes. A write that violates a key is rolled back, and the request answers
from what is committed then.
-/

namespace AlphaDecay.Experiments

open Foundation Foundation.Table

/-- Why a request raises. `validation` is a `ValueError` of a model and `index` the `IndexError` of
reading the last of no events; the others are the codes of an `ExperimentRegistryError`. -/
inductive ExperimentFailure where
  | notFound
  | notCompiled
  | stateInvalid
  | hashMismatch
  | revisionConflict
  | notArmed
  | armConflict
  | readFailed
  | writeFailed
  | validation
  | index
deriving DecidableEq, Repr

/-- The code of an `ExperimentRegistryError`. -/
def ExperimentFailure.code : ExperimentFailure → Option String
  | notFound => some "EXPERIMENT_NOT_FOUND"
  | notCompiled => some "EXPERIMENT_NOT_COMPILED"
  | stateInvalid => some "EXPERIMENT_REGISTRY_STATE_INVALID"
  | hashMismatch => some "EXPERIMENT_AUTHORIZATION_HASH_MISMATCH"
  | revisionConflict => some "EXPERIMENT_AUTHORIZATION_REVISION_CONFLICT"
  | notArmed => some "EXPERIMENT_NOT_ARMED"
  | armConflict => some "EXPERIMENT_ARM_CONFLICT"
  | readFailed => some "EXPERIMENT_REGISTRY_READ_FAILED"
  | writeFailed => some "EXPERIMENT_REGISTRY_WRITE_FAILED"
  | validation => none
  | index => none

/-- What a request asks for. -/
inductive AuthorizationAction where
  | arm
  | disarm
deriving DecidableEq, Repr

/-- The authorization of an experiment. -/
inductive AuthorizationState where
  | notArmed
  | armed
  | disarmed
deriving DecidableEq, Repr

/-- The written form of an action. -/
def AuthorizationAction.text : AuthorizationAction → String
  | arm => "ARM"
  | disarm => "DISARM"

/-- The written form of a state. -/
def AuthorizationState.text : AuthorizationState → String
  | notArmed => "NOT_ARMED"
  | armed => "ARMED"
  | disarmed => "DISARMED"

/-- The state that an action leads to. -/
def AuthorizationAction.target : AuthorizationAction → AuthorizationState
  | arm => .armed
  | disarm => .disarmed

structure ExperimentAuthorizationRequest where
  sourceDefinitionHash : String
  protocolHash : String
  expectedRevision : Int
  sourceDefinitionHash_isHash : isHash sourceDefinitionHash = true
  protocolHash_isHash : isHash protocolHash = true
  expectedRevision_nonneg : 0 ≤ expectedRevision
deriving DecidableEq

structure ExperimentArmEventRow where
  eventId : Uuid
  experimentId : Uuid
  sourceDefinitionHash : String
  protocolHash : String
  authorizationRevision : Int
  action : AuthorizationAction
  authorizationState : AuthorizationState
  entryAuthorized : Bool
  existingPositionRiskManagementPreserved : Bool
  runtimeState : String
  executionEligible : Bool
  paperTradingOnly : Bool
  eventHash : String
  createdAt : Int
deriving DecidableEq

structure ExperimentArmStateRow where
  experimentId : Uuid
  sourceDefinitionHash : String
  protocolHash : String
  authorizationRevision : Int
  authorizationState : AuthorizationState
  entryAuthorized : Bool
  existingPositionRiskManagementPreserved : Bool
  runtimeState : String
  executionEligible : Bool
  paperTradingOnly : Bool
  lastEventHash : String
  updatedAt : Int
deriving DecidableEq

/-- The constraints of the events: the identifier, the hash, and the revision of an experiment are
unique. -/
def armEventSchema : Schema ExperimentArmEventRow where
  check row :=
    decide (0 < row.authorizationRevision) &&
    decide (row.authorizationState = row.action.target) &&
    (row.entryAuthorized == decide (row.authorizationState = .armed)) &&
    row.existingPositionRiskManagementPreserved && row.runtimeState == "NOT_CONNECTED" &&
    !row.executionEligible && row.paperTradingOnly && isHash row.sourceDefinitionHash &&
    isHash row.protocolHash && isHash row.eventHash
  clash left right :=
    decide (left.eventId = right.eventId) || decide (left.eventHash = right.eventHash) ||
    clashOn (fun row => some (row.experimentId, row.authorizationRevision)) left right

/-- The constraints of the states: an experiment has one row, and one row is armed. -/
def armStateSchema : Schema ExperimentArmStateRow where
  check row :=
    decide (0 < row.authorizationRevision) && decide (row.authorizationState ≠ .notArmed) &&
    (row.entryAuthorized == decide (row.authorizationState = .armed)) &&
    row.existingPositionRiskManagementPreserved && row.runtimeState == "NOT_CONNECTED" &&
    !row.executionEligible && row.paperTradingOnly && isHash row.sourceDefinitionHash &&
    isHash row.protocolHash && isHash row.lastEventHash
  clash left right :=
    clashOn (fun row => some row.experimentId) left right ||
    clashOn (fun row => if row.authorizationState = .armed then some () else none) left right

structure ExperimentDatabase where
  states : Checked armStateSchema
  events : Checked armEventSchema

def ExperimentDatabase.stateOf (db : ExperimentDatabase) (experimentId : Uuid) :
    Option ExperimentArmStateRow :=
  lookup (·.experimentId) experimentId db.states.rows

/-- The events of an experiment in the order of their revisions. -/
def ExperimentDatabase.eventsOf (db : ExperimentDatabase) (experimentId : Uuid) :
    List ExperimentArmEventRow :=
  orderBy (·.authorizationRevision)
    (db.events.rows.filter fun event => event.experimentId = experimentId)

/-! ## Compiled experiments -/

structure ReviewedExperimentDefinition where
  experimentId : Uuid
  definitionHash : String
  definitionHash_isHash : isHash definitionHash = true

structure CompiledStrategyProtocol where
  paperTradingOnly : Bool
  optionsRequired : Bool
  definedRiskRequired : Bool
  recipe : String
  legCount : Int
  netPremium : String

structure CompiledExperimentVersion where
  experimentId : Uuid
  sourceDefinitionHash : String
  protocolHash : String
  paperTradingOnly : Bool
  compiledProtocol : CompiledStrategyProtocol
  protocolHash_isHash : isHash protocolHash = true

/-- The definitions and the compiled versions by their experiment, with what their decoders read:
nothing where a stored row is not a valid one. Requests to arm and to disarm only read them. -/
structure ExperimentRegistry where
  definitions : List (Uuid × Option ReviewedExperimentDefinition)
  compiled : List (Uuid × Option CompiledExperimentVersion)

/-- The definition and the compiled version of an experiment, when they belong together. -/
def ExperimentRegistry.loadVerifiedCompiled (registry : ExperimentRegistry)
    (experimentId : Uuid) :
    Except ExperimentFailure (ReviewedExperimentDefinition × CompiledExperimentVersion) := do
  let sourceRow ← require (lookup Prod.fst experimentId registry.definitions) .notFound
  let compiledRow ← require (lookup Prod.fst experimentId registry.compiled) .notCompiled
  let source ← require sourceRow.2 .stateInvalid
  let compiled ← require compiledRow.2 .stateInvalid
  let protocol := compiled.compiledProtocol
  raiseIf (
    compiled.sourceDefinitionHash != source.definitionHash ||
    decide (compiled.experimentId ≠ source.experimentId) ||
    !compiled.paperTradingOnly || !protocol.paperTradingOnly || !protocol.optionsRequired ||
    !protocol.definedRiskRequired || protocol.recipe != "TWO_LEG_DEBIT_VERTICAL" ||
    protocol.legCount != 2 || protocol.netPremium != "DEBIT") .stateInvalid
  return (source, compiled)

/-! ## Reading an authorization -/

structure StatusFields where
  experimentId : Uuid
  sourceDefinitionHash : String
  protocolHash : String
  authorizationRevision : Int
  authorizationState : AuthorizationState
  entryAuthorized : Bool
  authorizationEventHash : Option String
  updatedAt : Option Int
deriving DecidableEq

/-- The validation of a status. -/
def StatusFields.check (fields : StatusFields) : Except ExperimentFailure Unit := do
  raiseIf (!isHash fields.sourceDefinitionHash || !isHash fields.protocolHash ||
    decide (fields.authorizationRevision < 0) ||
    fields.authorizationEventHash.any fun hash => !isHash hash) .validation
  raiseIf (fields.entryAuthorized != decide (fields.authorizationState = .armed)) .validation
  if fields.authorizationRevision = 0 then
    raiseIf (decide (fields.authorizationState ≠ .notArmed)) .validation
    raiseIf (fields.authorizationEventHash.isSome || fields.updatedAt.isSome) .validation
  else
    raiseIf (fields.authorizationEventHash.isNone || fields.updatedAt.isNone) .validation

structure ExperimentAuthorizationStatus where
  fields : StatusFields
  valid : fields.check = .ok ()
deriving DecidableEq

def ExperimentAuthorizationStatus.ofFields (fields : StatusFields) :
    Except ExperimentFailure ExperimentAuthorizationStatus :=
  build StatusFields.check ExperimentAuthorizationStatus.mk fields

variable [Digest]

def authorizationEventHash (eventId experimentId : Uuid)
    (sourceDefinitionHash protocolHash : String) (authorizationRevision : Int)
    (action : AuthorizationAction) (authorizationState : AuthorizationState) (createdAt : Int) :
    String :=
  Digest.authorityHash (.object [
    ("domain", .text "alphadecay.experiment-authorization-event.v1"),
    ("event_id", .text eventId.toText),
    ("experiment_id", .text experimentId.toText),
    ("source_definition_hash", .text sourceDefinitionHash),
    ("protocol_hash", .text protocolHash),
    ("authorization_revision", .number authorizationRevision),
    ("action", .text action.text),
    ("authorization_state", .text authorizationState.text),
    ("entry_authorized", .bool (decide (authorizationState = .armed))),
    ("existing_position_risk_management_preserved", .bool true),
    ("runtime_state", .text "NOT_CONNECTED"),
    ("execution_eligible", .bool false),
    ("paper_trading_only", .bool true),
    ("created_at", .text (Calendar.isoformat createdAt))])

/-- The state after so many changes: the odd ones arm. -/
def expectedState (revision : Int) : AuthorizationState :=
  if revision % 2 = 1 then .armed else .disarmed

def expectedAction (state : AuthorizationState) : AuthorizationAction :=
  if state = .armed then .arm else .disarm

/-- An event is not the one that a revision of a state row must have. -/
def eventInvalid (row : ExperimentArmStateRow) (revision : Int) (previousCreatedAt : Option Int)
    (event : ExperimentArmEventRow) : Bool :=
  let state := expectedState revision
  let hash := authorizationEventHash event.eventId event.experimentId event.sourceDefinitionHash
    event.protocolHash event.authorizationRevision event.action event.authorizationState
    event.createdAt
  decide (event.authorizationRevision ≠ revision) ||
  event.sourceDefinitionHash != row.sourceDefinitionHash ||
  event.protocolHash != row.protocolHash ||
  decide (event.action ≠ expectedAction state) ||
  decide (event.authorizationState ≠ state) ||
  event.entryAuthorized != decide (state = .armed) ||
  !event.existingPositionRiskManagementPreserved ||
  event.runtimeState != "NOT_CONNECTED" ||
  event.executionEligible ||
  !event.paperTradingOnly ||
  event.eventHash != hash ||
  previousCreatedAt.any fun previous => decide (event.createdAt < previous)

/-- Check the events of a state row one after the other. -/
def checkEvents (row : ExperimentArmStateRow) :
    Int → Option Int → List ExperimentArmEventRow → Except ExperimentFailure Unit
  | _, _, [] => .ok ()
  | revision, previousCreatedAt, event :: rest => do
      raiseIf (eventInvalid row revision previousCreatedAt event) .stateInvalid
      checkEvents row (revision + 1) (some event.createdAt) rest

/-- A state row is not what its last event says. -/
def rowInvalid (row : ExperimentArmStateRow) (event : ExperimentArmEventRow) : Bool :=
  decide (row.experimentId ≠ event.experimentId) ||
  row.sourceDefinitionHash != event.sourceDefinitionHash ||
  row.protocolHash != event.protocolHash ||
  decide (row.authorizationRevision ≠ event.authorizationRevision) ||
  decide (row.authorizationState ≠ event.authorizationState) ||
  row.entryAuthorized != event.entryAuthorized ||
  !row.existingPositionRiskManagementPreserved ||
  row.runtimeState != "NOT_CONNECTED" ||
  row.executionEligible ||
  !row.paperTradingOnly ||
  row.lastEventHash != event.eventHash ||
  decide (row.updatedAt ≠ event.createdAt)

/-- What the status of a state row says. -/
def statusFields (row : ExperimentArmStateRow) : StatusFields where
  experimentId := row.experimentId
  sourceDefinitionHash := row.sourceDefinitionHash
  protocolHash := row.protocolHash
  authorizationRevision := row.authorizationRevision
  authorizationState := row.authorizationState
  entryAuthorized := row.entryAuthorized
  authorizationEventHash := some row.lastEventHash
  updatedAt := some row.updatedAt

/-- Read a state row back from its events. -/
def decodeAuthorization (db : ExperimentDatabase) (row : ExperimentArmStateRow) :
    Except ExperimentFailure ExperimentAuthorizationStatus := do
  let events := db.eventsOf row.experimentId
  raiseIf (decide ((events.length : Int) ≠ row.authorizationRevision)) .stateInvalid
  checkEvents row 1 none events
  let event ← require events.getLast? .index
  raiseIf (rowInvalid row event) .stateInvalid
  ExperimentAuthorizationStatus.ofFields (statusFields row)

/-- The status of an experiment that was never armed. -/
def unarmedStatus (source : ReviewedExperimentDefinition) (compiled : CompiledExperimentVersion)
    (experimentId : Uuid) : StatusFields where
  experimentId
  sourceDefinitionHash := source.definitionHash
  protocolHash := compiled.protocolHash
  authorizationRevision := 0
  authorizationState := .notArmed
  entryAuthorized := false
  authorizationEventHash := none
  updatedAt := none

def readAuthorization (registry : ExperimentRegistry) (db : ExperimentDatabase)
    (experimentId : Uuid) : Except ExperimentFailure ExperimentAuthorizationStatus := do
  let (source, compiled) ← registry.loadVerifiedCompiled experimentId
  match db.stateOf experimentId with
  | none => do
      raiseIf (db.events.rows.any fun event => event.experimentId = experimentId) .stateInvalid
      ExperimentAuthorizationStatus.ofFields (unarmedStatus source compiled experimentId)
  | some row => do
      raiseIf (row.sourceDefinitionHash != source.definitionHash ||
        row.protocolHash != compiled.protocolHash) .stateInvalid
      decodeAuthorization db row

/-! ## Changing an authorization -/

/-- A request with the time of its call and the identifier that its event would get. -/
structure AuthorizationCall where
  experimentId : Uuid
  request : ExperimentAuthorizationRequest
  action : AuthorizationAction
  changedAt : Int
  eventId : Uuid
deriving DecidableEq

def expects (request : ExperimentAuthorizationRequest) (revision : Int) : Bool :=
  decide (request.expectedRevision = revision ∨ request.expectedRevision = revision - 1)

/-- The revision of a state row that may not be there yet. -/
def currentRevision (row : Option ExperimentArmStateRow) : Int :=
  match row with
  | none => 0
  | some row => row.authorizationRevision

/-- What a request reads when it starts: the status to return when the experiment has the state
that is asked for, and otherwise the locked state row. -/
inductive Selected where
  | repeated (status : ExperimentAuthorizationStatus)
  | change (row : Option ExperimentArmStateRow)
deriving DecidableEq

/-- Return the state that an experiment has already. -/
def repeatChange (db : ExperimentDatabase) (call : AuthorizationCall)
    (row : ExperimentArmStateRow) : Except ExperimentFailure Selected := do
  raiseIf (!expects call.request row.authorizationRevision) .revisionConflict
  Selected.repeated <$> decodeAuthorization db row

def admitChange (call : AuthorizationCall) (row : Option ExperimentArmStateRow) :
    Except ExperimentFailure Selected := do
  raiseIf (decide (call.request.expectedRevision ≠ currentRevision row)) .revisionConflict
  raiseIf (decide (call.action = .disarm) && row.isNone) .notArmed
  raiseIf (row.any fun row => decide (call.changedAt < row.updatedAt)) .revisionConflict
  return .change row

/-- The first access: read the experiment and lock its state row. -/
def selectState (registry : ExperimentRegistry) (call : AuthorizationCall)
    (db : ExperimentDatabase) : Except ExperimentFailure Selected := do
  let (source, compiled) ← registry.loadVerifiedCompiled call.experimentId
  raiseIf (call.request.sourceDefinitionHash != source.definitionHash ||
    call.request.protocolHash != compiled.protocolHash) .hashMismatch
  let row := db.stateOf call.experimentId
  raiseIf (row.any fun row => row.sourceDefinitionHash != source.definitionHash ||
    row.protocolHash != compiled.protocolHash) .stateInvalid
  match row.filter fun row => row.authorizationState = call.action.target with
  | some current => repeatChange db call current
  | none => admitChange call row

/-- The second access: an experiment is armed only while no other one is. -/
def selectOther (call : AuthorizationCall) (db : ExperimentDatabase) :
    Except ExperimentFailure Unit :=
  raiseIf (decide (call.action = .arm) && db.states.rows.any fun row =>
    decide (row.authorizationState = .armed ∧ row.experimentId ≠ call.experimentId)) .armConflict

/-- The event of a change. -/
def nextEvent (call : AuthorizationCall) (row : Option ExperimentArmStateRow) :
    ExperimentArmEventRow where
  eventId := call.eventId
  experimentId := call.experimentId
  sourceDefinitionHash := call.request.sourceDefinitionHash
  protocolHash := call.request.protocolHash
  authorizationRevision := currentRevision row + 1
  action := call.action
  authorizationState := call.action.target
  entryAuthorized := decide (call.action.target = .armed)
  existingPositionRiskManagementPreserved := true
  runtimeState := "NOT_CONNECTED"
  executionEligible := false
  paperTradingOnly := true
  eventHash := authorizationEventHash call.eventId call.experimentId
    call.request.sourceDefinitionHash call.request.protocolHash (currentRevision row + 1)
    call.action call.action.target call.changedAt
  createdAt := call.changedAt

/-- The state row of an experiment that is armed for the first time. -/
def firstState (event : ExperimentArmEventRow) : ExperimentArmStateRow where
  experimentId := event.experimentId
  sourceDefinitionHash := event.sourceDefinitionHash
  protocolHash := event.protocolHash
  authorizationRevision := event.authorizationRevision
  authorizationState := event.authorizationState
  entryAuthorized := event.entryAuthorized
  existingPositionRiskManagementPreserved := true
  runtimeState := "NOT_CONNECTED"
  executionEligible := false
  paperTradingOnly := true
  lastEventHash := event.eventHash
  updatedAt := event.createdAt

/-- A state row after an event. -/
def changedState (event : ExperimentArmEventRow) (row : ExperimentArmStateRow) :
    ExperimentArmStateRow :=
  { row with
    authorizationRevision := event.authorizationRevision
    authorizationState := event.authorizationState
    entryAuthorized := event.entryAuthorized
    lastEventHash := event.eventHash
    updatedAt := event.createdAt }

/-- The state row that a change leaves. -/
def nextState (call : AuthorizationCall) (row : Option ExperimentArmStateRow) :
    ExperimentArmStateRow :=
  match row with
  | none => firstState (nextEvent call none)
  | some current => changedState (nextEvent call (some current)) current

/-- Write the state row of a change: a first one is inserted, a locked one is updated. -/
def flushState (call : AuthorizationCall) (row : Option ExperimentArmStateRow)
    (db : ExperimentDatabase) : Option (Checked armStateSchema) :=
  match row with
  | none => db.states.insert (nextState call none)
  | some current =>
      db.states.update (fun stored => stored.experimentId = call.experimentId)
        (changedState (nextEvent call (some current)))

/-- The third access: write the event and the state row, unless a constraint is violated. -/
def flushChange (call : AuthorizationCall) (row : Option ExperimentArmStateRow)
    (db : ExperimentDatabase) : Option ExperimentDatabase := do
  let events ← db.events.insert (nextEvent call row)
  let states ← flushState call row db
  return { states, events }

/-- What a request raises when a key stood in its way. -/
def conflict (call : AuthorizationCall) : ExperimentFailure :=
  if call.action = .arm then .armConflict else .revisionConflict

/-- A committed status is the one that a request asked for. -/
def answers (call : AuthorizationCall) (committed : ExperimentAuthorizationStatus) : Bool :=
  decide (committed.fields.authorizationState = call.action.target) &&
  committed.fields.sourceDefinitionHash == call.request.sourceDefinitionHash &&
  committed.fields.protocolHash == call.request.protocolHash &&
  expects call.request committed.fields.authorizationRevision

/-- Answer a request whose write violated a key from what is committed. -/
def recoverChange (registry : ExperimentRegistry) (call : AuthorizationCall)
    (db : ExperimentDatabase) : Except ExperimentFailure ExperimentAuthorizationStatus :=
  match readAuthorization registry db call.experimentId with
  | .ok committed => if answers call committed then .ok committed else .error (conflict call)
  | .error failure =>
      if failure.code.isSome then .error (conflict call) else .error failure

end AlphaDecay.Experiments
