import AlphaDecay.Persistence.Dispatch

/-!
# What is due next

The reads from which a worker decides what to do with a claimed intent: which mutation is due, the
plan of a mutation, the expectations of a sweep, and which order may be looked up.
-/

namespace AlphaDecay

open Foundation Table

/-! ## Claimed intents -/

def claimedIntent (db : Database) (claim : ExecutionIntent) :
    Except Failure (ExecutionIntentRow × AccountRoleRow) := do
  let intent ← require (db.intent claim.intentId) (.blocked "ACCOUNT_OR_INTENT_NOT_REGISTERED")
  let account ← require (db.account claim.accountRole) (.blocked "ACCOUNT_OR_INTENT_NOT_REGISTERED")
  verifyClaimFence intent account claim
  return (intent, account)

/-! ## The next mutation -/

/-- The time of the first dispatch, from the permit that created the first attempt. -/
def initialDispatch (attempts : List OrderAttemptRow) (permits : List BrokerMutationPermit) :
    Except Failure Int := do
  let first ← require attempts.head? (.blocked "ATTEMPT_PERMIT_MISSING")
  let initialPermit ← creationPermit first permits
  require initialPermit.dispatchAcquiredAt (.blocked "INITIAL_DISPATCH_TIME_MISSING")

/-- The purpose of the permit that creates an attempt. -/
def creationPurpose (row : OrderAttemptRow) : ReconciliationPurpose :=
  if row.ordinal = 0 then .submit else .replace

/-- A prepared attempt is authorized again once its permit has expired. -/
def reauthorizationDue (latest : OrderAttemptRow) (permit : BrokerMutationPermit) (now : Int) :
    Option BrokerMutationSchedule :=
  if now < permit.expiresAt then none else some ⟨creationPurpose latest, now⟩

/-- What is due for an attempt that was prepared and not dispatched. -/
def scheduleOfPrepared (attempts : List OrderAttemptRow) (permits : List BrokerMutationPermit)
    (latest : OrderAttemptRow) (now : Int) : Except Failure (Option BrokerMutationSchedule) := do
  let permit ← creationPermit latest permits
  if permit.state = .dispatching ∨ permit.state = .lookupOnly then return none
  else do
    raiseIf (permit.state != .prepared) (.blocked "PREPARED_ATTEMPT_PERMIT_INVALID")
    if 0 < latest.ordinal then do
      let dispatchedAt ← initialDispatch attempts permits
      return if cancelDue ≤ now - dispatchedAt then some ⟨.cancel, now⟩
        else reauthorizationDue latest permit now
    else return reauthorizationDue latest permit now

/-- A lookup has seen the order. -/
def wasLookedUp (observations : List AttemptObservationRow) (ordinal : Int) : Bool :=
  observations.any fun row => row.attemptOrdinal == ordinal && row.source == .targetedLookup &&
    row.observedAttempt.isSome

/-- What is due for an open order, by the time since the first dispatch. -/
def scheduleOfOpen (latest : OrderAttemptRow) (dispatchedAt now : Int) :
    Option BrokerMutationSchedule :=
  if latest.state = .broker .partiallyFilled ∨ cancelDue ≤ now - dispatchedAt then
    some ⟨.cancel, now⟩
  else if latest.ordinal < 3 ∧ replacementDue (latest.ordinal + 1) ≤ now - dispatchedAt then
    some ⟨.replace, now⟩
  else none

/-- What is due for the latest attempt. -/
def scheduleOf (attempts : List OrderAttemptRow) (permits : List BrokerMutationPermit)
    (observations : List AttemptObservationRow) (latest : OrderAttemptRow) (now : Int) :
    Except Failure (Option BrokerMutationSchedule) :=
  if latest.state = .prepared then scheduleOfPrepared attempts permits latest now
  else if !latest.state.isMutationEligible then return none
  else if permits.any fun permit => permit.state.isActive then return none
  else if !wasLookedUp observations latest.ordinal then return none
  else do
    let dispatchedAt ← initialDispatch attempts permits
    return scheduleOfOpen latest dispatchedAt now

/-- The mutation that is due for a claimed intent. -/
def nextBrokerMutation (db : Database) (claim : ExecutionIntent) (now : Int) :
    Except Failure (Option BrokerMutationSchedule) := do
  let (_, account) ← claimedIntent db claim
  raiseIf account.executionLocked (.blocked "ACCOUNT_EXECUTION_LOCKED")
  let permits := db.permitsOf claim.intentId
  let attempts ← executionAttemptRows (db.attemptsOf claim.intentId) permits
  match attempts.getLast? with
  | none => return some ⟨.submit, now⟩
  | some latest =>
      scheduleOf attempts permits (db.observationsOf claim.intentId) latest now

/-! ## Plans and expectations -/

section

variable [Digest]

/-- The attempt of a plan: a replacement that was validated, or the canonical one. -/
def plannedAttempt (intent : ExecutionIntentRow) (attempts : List OrderAttemptRow)
    (permits : List BrokerMutationPermit) (purpose : ReconciliationPurpose)
    (replacement : Option OrderAttempt) (now : Int) : Except Failure OrderAttempt :=
  match replacement with
  | some replacement => do
      raiseIf (purpose != .replace) (.blocked "REPLACEMENT_AUTHORITY_UNEXPECTED")
      validateReplacementAttempt intent attempts replacement (some now)
      validateReplacementDue attempts permits replacement
      return replacement
  | none => canonicalAttemptForMutation intent purpose attempts

def planBrokerMutation (db : Database) (claim : ExecutionIntent)
    (purpose : ReconciliationPurpose) (replacement : Option OrderAttempt) (now : Int) :
    Except Failure BrokerMutationPlan := do
  let (intent, account) ← claimedIntent db claim
  raiseIf account.executionLocked (.blocked "ACCOUNT_EXECUTION_LOCKED")
  let state ← require (db.latestState claim.accountRole) (.blocked "RECONCILIATION_STATE_REQUIRED")
  let attempts := db.attemptsOf claim.intentId
  raiseIf (purpose == .replace && replacement.isNone) (.blocked "REPLACEMENT_QUOTES_REQUIRED")
  let attempt ←
    plannedAttempt intent attempts (db.permitsOf claim.intentId) purpose replacement now
  let expectation ← reconciliationExpectationFromRows intent state purpose attempt attempts none
  return { expectation, attempt }

/-- The expectation of a mutation before its sweep. -/
def brokerReconciliationExpectation (db : Database) (claim : ExecutionIntent)
    (purpose : ReconciliationPurpose) (attempt : OrderAttempt) (now : Int) :
    Except Failure ReconciliationExpectation := do
  let (intent, _) ← claimedIntent db claim
  let state ← require (db.latestState claim.accountRole) (.blocked "RECONCILIATION_STATE_REQUIRED")
  let attempts := db.attemptsOf claim.intentId
  if purpose = .replace then
    validateReplacementAttempt intent attempts attempt (some now)
    validateReplacementDue attempts (db.permitsOf claim.intentId) attempt
  reconciliationExpectationFromRows intent state purpose attempt attempts none

/-- The expectation of a finalization before its sweep. -/
def finalReconciliationExpectation (db : Database) (claim : ExecutionIntent) :
    Except Failure ReconciliationExpectation := do
  let (intent, _) ← claimedIntent db claim
  let state ← require (db.latestState claim.accountRole) (.blocked "RECONCILIATION_STATE_REQUIRED")
  let permits := db.permitsOf claim.intentId
  let observations := db.observationsOf claim.intentId
  let attempts ← executionAttemptRows (db.attemptsOf claim.intentId) permits
  let latestPermit := observations.getLast?.bind fun latest => db.permit latest.permitId
  finalReconciliationExpectationFromRows intent state attempts observations latestPermit none

end

/-! ## Targeted lookups -/

/-- The observations that show an order, in order. -/
def providerObservations (observations : List AttemptObservationRow) :
    List AttemptObservationRow :=
  observations.filter fun row => row.observedAttempt.isSome

/-- Since when the order has been observed in its current state. -/
def stateStartedAt (observations : List AttemptObservationRow) (state : AttemptState) :
    Option Int :=
  ((providerObservations observations).reverse.takeWhile fun row =>
    row.observedAttempt.any fun observed => observed.state == state).getLast?.map
      fun row => row.observedAt

/-- An order that has been in a state for too long has stalled. -/
def isStalled (state : AttemptState) (startedAt now : Int) : Bool :=
  state.satisfies fun broker => broker.isLookupOnly &&
    startedAt + (brokerLookupPolicy broker).deadline ≤ now

/-- Lock the account of an order that has stalled, unless it is locked. -/
def latchStalled (db : Database) (account : AccountRoleRow) (state : AttemptState)
    (startedAt now : Int) (lockId : Uuid) : Except Failure Database :=
  if isStalled state startedAt now && !account.executionLocked then
    db.changeAccount account.role (latchAccount "BROKER_TRANSITION_STALLED" now lockId)
  else .ok db

/-- The lookup policy of an attempt; one that is not open is looked up like a new order. -/
def lookupPolicyOf (state : AttemptState) : BrokerLookupPolicy :=
  match state with
  | .broker broker => if broker.isPending then brokerLookupPolicy broker
      else brokerLookupPolicy .pendingNew
  | _ => brokerLookupPolicy .pendingNew

/-- Since when an order with an ambiguous dispatch has been in its state: without a sight of it,
since the first observation. -/
def ambiguousStartedAt (observations : List AttemptObservationRow) (state : AttemptState)
    (first : AttemptObservationRow) : Option Int :=
  if (providerObservations observations).isEmpty then some first.observedAt
  else stateStartedAt observations state

/-- The authority to look up an order whose dispatch is ambiguous. -/
def ambiguousLookup (settings : RepositorySettings) (db : Database) (account : AccountRoleRow)
    (permit : BrokerMutationPermit) (current : OrderAttempt)
    (observations : List AttemptObservationRow) (now : Int) (lockId : Uuid) :
    Except Failure (Database × Option (Uuid × OrderAttempt)) := do
  let dispatchAcquiredAt ←
    require permit.dispatchAcquiredAt (.blocked "BROKER_DISPATCH_TIME_MISSING")
  if now < horizonEnd permit dispatchAcquiredAt settings.networkCallHorizon then return (db, none)
  else match observations.head?, observations.getLast? with
    | some first, some latest =>
        if now < latest.observedAt + (lookupPolicyOf current.state).cadence then return (db, none)
        else do
          let startedAt ← require (ambiguousStartedAt observations current.state first) .missing
          let db ← latchStalled db account current.state startedAt now lockId
          return (db, some (permit.permitId, current))
    | _, _ => return (db, some (permit.permitId, current))

/-- The permit under which an open order is looked up. A cancel that is pending is looked up under
the permit of the cancel. -/
def lookupPermit (permits : List BrokerMutationPermit) (row : OrderAttemptRow) :
    Except Failure BrokerMutationPermit :=
  if row.state = .broker .pendingCancel then
    require (permits.filter fun permit => permit.attemptOrdinal == row.ordinal &&
      permit.mutationKind == .cancel && permit.state == .consumed).getLast?
      (.blocked "TARGETED_LOOKUP_NOT_AUTHORIZED")
  else creationPermit row permits

/-- The authority to look up an open order. -/
def openLookup (db : Database) (account : AccountRoleRow) (permits : List BrokerMutationPermit)
    (row : OrderAttemptRow) (current : OrderAttempt) (observations : List AttemptObservationRow)
    (now : Int) (lockId : Uuid) : Except Failure (Database × Option (Uuid × OrderAttempt)) := do
  let permit ← lookupPermit permits row
  raiseIf (permit.state != .consumed) (.blocked "TARGETED_LOOKUP_NOT_AUTHORIZED")
  let sight ← require (providerObservations observations).getLast?
    (.blocked "TARGETED_LOOKUP_OBSERVATION_MISSING")
  raiseIf (sight.observedAttempt != some current) (.blocked "TARGETED_LOOKUP_OBSERVATION_STALE")
  let latest ← require observations.getLast? (.blocked "TARGETED_LOOKUP_OBSERVATION_MISSING")
  if now < latest.observedAt + (lookupPolicyOf current.state).cadence then return (db, none)
  else do
    let startedAt ← require (stateStartedAt observations current.state) .missing
    let db ← latchStalled db account current.state startedAt now lockId
    return (db, some (permit.permitId, current))

/-- Which order of a claimed intent may be looked up, and under which permit. An order that may be
mutated is not looked up while a permit of the intent is prepared or dispatched. -/
def targetedLookupAuthority (settings : RepositorySettings) (db : Database)
    (claim : ExecutionIntent) (now : Int) (lockId : Uuid) :
    Except Failure (Database × Option (Uuid × OrderAttempt)) := do
  let (_, account) ← claimedIntent db claim
  let permits := db.permitsOf claim.intentId
  let attempts ← executionAttemptRows (db.attemptsOf claim.intentId) permits
  let row ← require attempts.getLast? (.blocked "TRANSITIONAL_ATTEMPT_MISSING")
  let current := attemptFromRow row attempts
  let observations := (db.observationsOf claim.intentId).filter fun observation =>
    observation.attemptOrdinal == current.ordinal
  match permits.filter fun permit =>
    permit.attemptOrdinal == current.ordinal && permit.state == .lookupOnly with
  | [permit] => ambiguousLookup settings db account permit current observations now lockId
  | _ :: _ :: _ => .error (.blocked "TARGETED_LOOKUP_AUTHORITY_CONFLICT")
  | [] =>
      if !current.state.satisfies BrokerOrderState.isPending then return (db, none)
      else if current.state.isMutationEligible && permits.any fun permit =>
        permit.state == .prepared || permit.state == .dispatching then return (db, none)
      else openLookup db account permits row current observations now lockId

end AlphaDecay
