import AlphaDecay.Persistence.Database

/-!
# Attempts and the permits that created them

How an attempt is read from its row, which permit created it, which attempts count for the
execution of an intent, and the rules for the attempt that a mutation may create.
-/

namespace AlphaDecay

open Foundation

/-! ## Rows -/

def clientOrderIdOf (rows : List OrderAttemptRow) (attemptId : Uuid) : Option String :=
  (lastByKey OrderAttemptRow.attemptId rows attemptId).map fun row => row.clientOrderId

/-- The attempt of a row. The rows around it name the attempt that it replaces. -/
def attemptFromRow (row : OrderAttemptRow) (rows : List OrderAttemptRow) : OrderAttempt where
  intentId := row.intentId
  ordinal := row.ordinal
  clientOrderId := row.clientOrderId
  requestHash := row.requestHash
  state := row.state
  replacesClientOrderId := row.replacesAttemptId.bind (clientOrderIdOf rows)
  providerOrderId := row.providerOrderId
  filledQuantity := row.filledQuantity
  quantity := row.quantity
  fillCashFlow := row.fillCashFlow
  limitPrice := row.limitPrice
  quoteHash := row.quoteHash
  quoteSourceTimestamps := row.quoteSourceTimestamps
  quoteRetrievedAt := row.quoteRetrievedAt
  timingAuthorityAt := row.timingAuthorityAt
  priorRequestHash := row.priorRequestHash

def attemptsFromRows (rows : List OrderAttemptRow) : List OrderAttempt :=
  rows.map fun row => attemptFromRow row rows

def attemptIdOf [Digest] (intentId : Uuid) (ordinal : Int) : Uuid :=
  Digest.uuid5 ("alphadecay:attempt:" ++ intentId.toText ++ ":" ++ intText ordinal.toNat)

/-! ## The permit that created an attempt -/

/-- The slot of the permits that create an attempt: the first attempt is submitted, the others
replace the attempt before them. -/
def OrderAttemptRow.creationSlot (row : OrderAttemptRow) : Slot where
  intentId := row.intentId
  mutationKind := if row.ordinal = 0 then .submit else .replace
  attemptOrdinal := row.ordinal

/-- The latest generation of the permit that created an attempt. -/
def creationPermit (attempt : OrderAttemptRow) (permits : List BrokerMutationPermit) :
    Except Failure BrokerMutationPermit := do
  let brokerPermitId ← require attempt.brokerPermitId (.blocked "ATTEMPT_PERMIT_MISSING")
  let generations := permits.filter fun permit => permit.slot == attempt.creationSlot
  let first ← require generations.head? (.blocked "ATTEMPT_PERMIT_MISSING")
  raiseIf (first.permitId != brokerPermitId) (.blocked "ATTEMPT_PERMIT_MISSING")
  require generations.getLast? (.blocked "ATTEMPT_PERMIT_MISSING")

/-- The last two attempts, where the last one is a replacement that was prepared only. -/
def preparedReplacement (attempts : List OrderAttemptRow) :
    Option (OrderAttemptRow × OrderAttemptRow) :=
  match attempts.dropLast.getLast?, attempts.getLast? with
  | some predecessor, some replacement =>
      if replacement.state = .prepared then some (predecessor, replacement) else none
  | _, _ => none

/-- A cancel of the predecessor took the place of a replacement. -/
def supersedes (predecessor : OrderAttemptRow) (replacementPermit permit : BrokerMutationPermit) :
    Bool :=
  permit.mutationKind == .cancel &&
  permit.predecessorPermitId == some replacementPermit.permitId &&
  permit.targetClientOrderId == some predecessor.clientOrderId &&
  permit.targetProviderOrderId == predecessor.providerOrderId

/-- Leave out a prepared replacement whose permit has expired. A cancel must have superseded it. -/
def withoutSuperseded (attempts : List OrderAttemptRow) (permits : List BrokerMutationPermit)
    (predecessor replacement : OrderAttemptRow) : Except Failure (List OrderAttemptRow) := do
  let replacementPermit ← creationPermit replacement permits
  raiseIf (replacementPermit.state == .expired &&
    !permits.any (supersedes predecessor replacementPermit))
    (.blocked "PREPARED_ATTEMPT_PERMIT_INVALID")
  return if replacementPermit.state = .expired then attempts.dropLast else attempts

/-- The attempts that count for the execution of an intent. -/
def executionAttemptRows (attempts : List OrderAttemptRow)
    (permits : List BrokerMutationPermit) : Except Failure (List OrderAttemptRow) :=
  match preparedReplacement attempts with
  | some (predecessor, replacement) => withoutSuperseded attempts permits predecessor replacement
  | none => .ok attempts

/-! ## Attempts that a mutation may create -/

section

variable [Digest]

def preparedAttempt (intent : ExecutionIntentRow) (ordinal : Int)
    (replacedClientId : Option String) : Except Failure OrderAttempt := do
  let envelope := intent.envelope
  let identifier ← clientOrderId envelope.tradingDay envelope.action intent.intentDigest ordinal
  let requestHash ← attemptRequestHash intent.intentDigest ordinal identifier
    envelope.minimumLimit replacedClientId
  return {
    intentId := intent.intentId
    ordinal
    clientOrderId := identifier
    requestHash
    state := .prepared
    replacesClientOrderId := replacedClientId
    quantity := envelope.quantity }

def canonicalSubmission (intent : ExecutionIntentRow) (attempts : List OrderAttemptRow) :
    Except Failure OrderAttempt := do
  let expected ← preparedAttempt intent 0 none
  raiseIf (!attempts.isEmpty && attemptsFromRows attempts != [expected])
    (.blocked "SUBMIT_REAUTHORIZATION_MISMATCH")
  return expected

/-- The replacement of a prepared replacement. -/
def canonicalReauthorization (intent : ExecutionIntentRow) (attempts : List OrderAttemptRow)
    (current : OrderAttempt) : Except Failure OrderAttempt := do
  let row ← require attempts.dropLast.getLast? (.blocked "REPLACE_REAUTHORIZATION_MISMATCH")
  let predecessor := attemptFromRow row attempts
  let expected ← preparedAttempt intent (predecessor.ordinal + 1) (some predecessor.clientOrderId)
  raiseIf (current != expected) (.blocked "REPLACE_REAUTHORIZATION_MISMATCH")
  return expected

/-- The attempt of a replacement without quotes. -/
def canonicalReplacement (intent : ExecutionIntentRow) (attempts : List OrderAttemptRow) :
    Except Failure OrderAttempt := do
  let row ← require attempts.getLast? (.blocked "TARGET_ATTEMPT_NOT_FOUND")
  let current := attemptFromRow row attempts
  if current.state = .prepared ∧ current.providerOrderId = none then
    canonicalReauthorization intent attempts current
  else preparedAttempt intent (current.ordinal + 1) (some current.clientOrderId)

def cancelTarget (attempts : List OrderAttemptRow) : Option OrderAttemptRow :=
  match preparedReplacement attempts with
  | some (predecessor, _) => some predecessor
  | none => attempts.getLast?

def canonicalAttemptForMutation (intent : ExecutionIntentRow) (purpose : ReconciliationPurpose)
    (attempts : List OrderAttemptRow) : Except Failure OrderAttempt :=
  match purpose with
  | .submit => canonicalSubmission intent attempts
  | .replace => canonicalReplacement intent attempts
  | .cancel => do
      let row ← require (cancelTarget attempts) (.blocked "TARGET_ATTEMPT_NOT_FOUND")
      return attemptFromRow row attempts
  | .baselineInitialization => .error (.blocked "RECONCILIATION_PURPOSE_INVALID")

end

/-! ## Replacements -/

/-- The material of a replacement, where none of it is missing. -/
def OrderAttempt.replacementMaterial (attempt : OrderAttempt) : Option ReplacementMaterial :=
  match attempt.limitPrice, attempt.quoteHash, attempt.quoteRetrievedAt,
    attempt.timingAuthorityAt, attempt.priorRequestHash with
  | some limit, some quoteHash, some quoteRetrievedAt, some timingAuthorityAt,
      some priorRequestHash =>
    some {
      limit
      replacesClientId := attempt.replacesClientOrderId
      priorRequestHash
      quoteHash
      quoteSourceTimestamps := attempt.quoteSourceTimestamps
      quoteRetrievedAt
      timingAuthorityAt }
  | _, _, _, _, _ => none

def replacementTarget (attempts : List OrderAttemptRow) (ordinal : Int) :
    Except Failure OrderAttemptRow := do
  let current ← require attempts.getLast? (.blocked "TARGET_ATTEMPT_NOT_FOUND")
  if current.ordinal = ordinal then do
    raiseIf (current.state != .prepared) (.blocked "REPLACEMENT_REAUTHORIZATION_MISMATCH")
    require attempts.dropLast.getLast? (.blocked "REPLACEMENT_REAUTHORIZATION_MISMATCH")
  else return current

/-- The limit at which an attempt stands: without one of its own, the minimum of its envelope. -/
def limitOf (intent : ExecutionIntentRow) (limitPrice : Option Decimal) : Decimal :=
  limitPrice.getD intent.envelope.minimumLimit

/-- The longest age of the quotes behind a replacement. -/
def maxQuoteAge : Int :=
  Calendar.seconds 30

/-- An order in this state may be replaced. A partly filled order may not. -/
def mayBeReplaced (state : AttemptState) : Bool :=
  state.isMutationEligible && state != .broker .partiallyFilled

def continuesTarget (intent : ExecutionIntentRow) (attempt current : OrderAttempt)
    (material : ReplacementMaterial) (expectedClientId : String) : Bool :=
  attempt.clientOrderId == expectedClientId && mayBeReplaced current.state &&
  current.providerOrderId.isSome && attempt.state == .prepared &&
  attempt.providerOrderId.isNone && attempt.filledQuantity == 0 &&
  attempt.quantity == intent.envelope.quantity && attempt.ordinal == current.ordinal + 1 &&
  attempt.replacesClientOrderId == some current.clientOrderId &&
  material.priorRequestHash == current.requestHash &&
  material.quoteSourceTimestamps.length == intent.envelope.legs.length &&
  !material.quoteSourceTimestamps.isEmpty &&
  limitOf intent current.limitPrice < material.limit && material.limit != Decimal.ofInt 0 &&
  material.limit ≤ intent.envelope.maximumLimit

/-- The quotes behind a replacement have a hash and belong together. -/
def quotesCohere (material : ReplacementMaterial) : Bool :=
  isHash material.quoteHash && material.quoteRetrievedAt ≤ material.timingAuthorityAt &&
  (material.quoteSourceTimestamps.all fun t => t ≤ material.quoteRetrievedAt) &&
  !material.quoteSourceTimestamps.any fun a =>
    material.quoteSourceTimestamps.any fun b => a - b > maxQuoteAge

/-- The quotes behind a replacement are not older than allowed, and not from the future. -/
def quotesFresh (material : ReplacementMaterial) (now : Int) : Bool :=
  material.timingAuthorityAt ≤ now && now - material.timingAuthorityAt ≤ maxQuoteAge &&
  material.quoteRetrievedAt ≤ now &&
  material.quoteSourceTimestamps.all fun t => t ≤ now && now - t ≤ maxQuoteAge

/-- Require that a replacement is authorized by its material, and at a time by fresh quotes. -/
def validateReplacementAttempt [Digest] (intent : ExecutionIntentRow)
    (attempts : List OrderAttemptRow) (attempt : OrderAttempt) (trustedNow : Option Int) :
    Except Failure Unit := do
  let target ← replacementTarget attempts attempt.ordinal
  let envelope := intent.envelope
  let expectedClientId ←
    clientOrderId envelope.tradingDay envelope.action intent.intentDigest attempt.ordinal
  let material ← require attempt.replacementMaterial (.blocked "REPLACEMENT_AUTHORITY_INVALID")
  raiseIf (!continuesTarget intent attempt (attemptFromRow target attempts) material
    expectedClientId) (.blocked "REPLACEMENT_AUTHORITY_INVALID")
  let cents ← require (material.limit.quantize (-2)) .arithmetic
  raiseIf (material.limit != cents || !quotesCohere material)
    (.blocked "REPLACEMENT_AUTHORITY_INVALID")
  raiseIf (trustedNow.any fun now => !quotesFresh material now) (.blocked "REPLACEMENT_QUOTE_STALE")
  raiseIf (attempt.requestHash !=
    replacementRequestHash intent.intentDigest attempt.ordinal attempt.clientOrderId material)
    (.blocked "REPLACEMENT_REQUEST_HASH_MISMATCH")

/-- A replacement with another time of its authority, and the request hash that goes with it. -/
def replacementWithTiming [Digest] (intent : ExecutionIntentRow) (attempt : OrderAttempt)
    (timingAuthorityAt : Int) : Except Failure OrderAttempt := do
  let timed := { attempt with timingAuthorityAt := some timingAuthorityAt }
  let material ← require timed.replacementMaterial (.blocked "REPLACEMENT_AUTHORITY_INVALID")
  return { timed with
    requestHash := replacementRequestHash intent.intentDigest attempt.ordinal
      attempt.clientOrderId material }

/-- The time after the first dispatch at which the replacement of an ordinal is due. -/
def replacementDue (ordinal : Int) : Int :=
  Calendar.seconds (150 * ordinal)

/-- The time after the first dispatch from which an order is canceled and not replaced. -/
def cancelDue : Int :=
  Calendar.seconds 600

/-- Require that the replacement of an ordinal is due and the cancel is not. -/
def validateReplacementDue (attempts : List OrderAttemptRow)
    (permits : List BrokerMutationPermit) (attempt : OrderAttempt) : Except Failure Unit := do
  raiseIf (!([1, 2, 3].contains attempt.ordinal)) (.blocked "REPLACEMENT_BOUNDARY_INVALID")
  let initial ← require attempts.head? (.blocked "REPLACEMENT_BOUNDARY_INVALID")
  let initialPermit ← creationPermit initial permits
  let dispatchAcquiredAt ←
    require initialPermit.dispatchAcquiredAt (.blocked "INITIAL_DISPATCH_TIME_MISSING")
  let timingAuthorityAt ← require attempt.timingAuthorityAt .missing
  let elapsed := timingAuthorityAt - dispatchAcquiredAt
  raiseIf (elapsed < replacementDue attempt.ordinal) (.blocked "REPLACEMENT_NOT_DUE")
  raiseIf (cancelDue ≤ elapsed) (.blocked "REPLACEMENT_CANCEL_DUE")

end AlphaDecay
