import AlphaDecay.Persistence.Repository

/-!
# Rehearsals

A worker computes its next transaction from the rows it reads. A rehearsal plays the transactions
of several workers one after the other, and is a run of the repository. The workers below carry one
entry of two spreads from its approval to its orders, so that statements about runs can be
evaluated on one.
-/

namespace AlphaDecay

open Foundation Table

section Play

variable [Digest] {settings : RepositorySettings}
variable {last : World} {workers : List (Database → Except Failure Transaction)}

variable {world : World}

/-- Play the transactions that workers compute from what they read, or say what a worker raises. -/
def play (settings : RepositorySettings) :
    List (Database → Except Failure Transaction) → World → Except Failure World
  | [], world => .ok world
  | worker :: rest, world => do
      let transaction ← worker world.db
      raiseIf (!(world.clock ≤ transaction.start ∧ transaction.start ≤ transaction.now))
        (.value "CLOCK_INVALID")
      let db ← run settings transaction world.db
      play settings rest { db, clock := transaction.now }

/-- A rehearsal whose workers all keep to a condition is a run that keeps to it. -/
theorem run_of_play_when {C : World → Transaction → Prop}
    (hworkers : ∀ worker ∈ workers, ∀ world transaction, worker world.db = .ok transaction →
      C world transaction) (h : play settings workers world = .ok last) :
    ∃ transactions, ((repository settings).restrict C).Run world transactions last := by
  induction workers generalizing world with
  | nil =>
      cases h
      exact ⟨[], System.Run.refl _⟩
  | cons worker rest ih =>
      simp only [play] at h
      obtain ⟨transaction, hworker, h⟩ := bind_ok.mp h
      obtain ⟨htimed, h⟩ := check_bind_ok.mp h
      obtain ⟨db, hrun, h⟩ := bind_ok.mp h
      obtain ⟨hfirst, hothers⟩ := List.forall_mem_cons.mp hworkers
      obtain ⟨transactions, hrest⟩ := ih hothers h
      refine ⟨transaction :: transactions,
        System.Run.cons ⟨hfirst world transaction hworker, ?_, ?_⟩ hrest⟩
      · simp only [raiseIf_ok, Bool.not_eq_false', decide_eq_true_eq] at htimed
        exact ⟨htimed.1, htimed.2⟩
      · simp only [execute, hrun]

/-- A rehearsal is a run of the repository. -/
theorem run_of_play (h : play settings workers world = .ok last) :
    ∃ transactions, (repository settings).Run world transactions last := by
  obtain ⟨transactions, hrun⟩ :=
    run_of_play_when (C := fun _ _ => True) (fun _ _ _ _ _ => trivial) h
  exact ⟨transactions, hrun.of_restrict⟩

theorem reachable_of_play {clock : Int} (h : play settings workers { db := {}, clock } = .ok last) :
    (repository settings).Reachable last := by
  obtain ⟨transactions, hrun⟩ := run_of_play h
  exact ⟨{ db := {}, clock }, transactions, rfl, hrun⟩

/-- The last transaction of a rehearsal is a step of the repository. -/
theorem step_of_play {worker : Database → Except Failure Transaction}
    (h : play settings [worker] world = .ok last) :
    ∃ transaction, worker world.db = .ok transaction ∧
      (repository settings).step world transaction last := by
  simp only [play] at h
  obtain ⟨transaction, hworker, h⟩ := bind_ok.mp h
  obtain ⟨htimed, h⟩ := check_bind_ok.mp h
  obtain ⟨db, hrun, h⟩ := bind_ok.mp h
  cases h
  refine ⟨transaction, hworker, ⟨?_, ?_⟩, ?_⟩
  · simp only [raiseIf_ok, Bool.not_eq_false', decide_eq_true_eq] at htimed
    exact htimed.1
  · simp only [raiseIf_ok, Bool.not_eq_false', decide_eq_true_eq] at htimed
    exact htimed.2
  · simp only [execute, hrun]

end Play

/-! ## The digests of a rehearsal -/

namespace Rehearsal

/-- The bytes of a text as a number. -/
def codeOfText (text : String) : Nat :=
  text.toByteArray.data.toList.foldl (fun code byte => code * 256 + byte.toNat) 0

/-- The number by which documents are told apart: a reconciliation and a reconciliation state by
the time of its acceptance, an observation by its sequence. All other documents share one digest. -/
def codeOf : Json → Nat
  | .object [_, _, _, (_, .text acceptedAt), _, _, _, _] => codeOfText acceptedAt
  | .object [_, _, _, (_, .number _), (_, .number sequence), _, _, _] => sequence.toNat
  | .object [_, _, _, _, (_, .text acceptedAt), _, _, _, _, _] => codeOfText acceptedAt
  | .object [_, _, _, _, (_, .text acceptedAt), _, _, _, _, _, _] => codeOfText acceptedAt
  | _ => 0

/-- The digest that most documents share. -/
def zeros : String := "0000000000000000000000000000000000000000000000000000000000000000"

theorem isHash_zeros : isHash zeros = true := by decide +kernel

/-- A hexadecimal text of sixty-four digits is a hash. -/
theorem isHash_fixedDigits (code : Nat) :
    isHash (String.ofList (Text.fixedDigits 16 64 code)) = true := by
  have hdigit : ∀ c ∈ Text.fixedDigits 16 64 code,
      ('0'.toNat ≤ c.toNat ∧ c.toNat ≤ '9'.toNat) ∨ ('a'.toNat ≤ c.toNat ∧ c.toNat ≤
        'f'.toNat) := by
    intro c hc
    obtain ⟨digit, hlt, rfl⟩ := Text.mem_fixedDigits (by decide) hc
    have hall : ∀ d : Fin 16,
        ('0'.toNat ≤ (Text.digitChar d).toNat ∧ (Text.digitChar d).toNat ≤ '9'.toNat) ∨
        ('a'.toNat ≤ (Text.digitChar d).toNat ∧ (Text.digitChar d).toNat ≤ 'f'.toNat) := by decide
    exact hall ⟨digit, hlt⟩
  simp only [isHash, String.toList_ofList, Text.length_fixedDigits, decide_true, Bool.true_and,
    List.all_eq_true, decide_eq_true_eq]
  exact hdigit

/-- The digests of a rehearsal. -/
instance digest : Digest where
  authorityHash document := if codeOf document = 0 then zeros
    else String.ofList (Text.fixedDigits 16 64 (codeOf document))
  agentHash _ := ""
  uuid5 name := Uuid.ofNat (codeOfText name)
  authorityHash_isHash := by
    intro document
    split
    · exact isHash_zeros
    · exact isHash_fixedDigits (codeOf document)

/-! ## The account and the envelope of a rehearsal -/

/-- The fingerprint of the account, which also stands for hashes that nothing computes. -/
def fingerprint : String := "aaaaaaaaaaaaaaaaaaaaaaaaaaaaaaaaaaaaaaaaaaaaaaaaaaaaaaaaaaaaaaaa"

def policyHash : String := "bbbbbbbbbbbbbbbbbbbbbbbbbbbbbbbbbbbbbbbbbbbbbbbbbbbbbbbbbbbbbbbb"

/-- A whole number of dollars. -/
def dollars (n : Int) : Decimal := Decimal.ofInt n

/-- The time at which the account was funded. -/
def fundedAt : Int := Calendar.seconds (86400 * 730000)

/-- A number of seconds after the rehearsal begins, two days after the account was funded. -/
def timeAt (n : Int) : Int := fundedAt + Calendar.seconds (86400 * 2 + n)

def intentId : Uuid := Uuid.ofNat 10

/-- An entry of two spreads at one to five dollars each. -/
def envelopeFields : OrderEnvelopeFields where
  action := .entry
  authorizationCertificateId := Uuid.ofNat 1
  policyHash := policyHash
  accountFingerprint := fingerprint
  positionOrBookFingerprint := fingerprint
  legs := [⟨"AAA", .buyToOpen, 1⟩, ⟨"BBB", .sellToOpen, 1⟩]
  quantity := 2
  minimumLimit := dollars 1
  maximumLimit := dollars 5
  approvedMaxLoss := dollars 1000
  eventKey := "E"
  tradingDay := ⟨2000, 1, 1⟩

theorem envelopeFields_ok : envelopeFields.postInit = .ok () := by decide +kernel

def envelope : OrderEnvelope := ⟨envelopeFields, envelopeFields_ok⟩

/-- The rows that authorize the entry. -/
def origins : Origins where
  entryApprovals := [{
    approvalId := Uuid.ofNat 1, thesisVersionId := Uuid.ofNat 2, accountRole := .submission
    policyHash, bookFingerprint := fingerprint, envelopeHash := orderEnvelopeHash envelope
    approvedMaxLoss := dollars 1000, quantity := 2, validFrom := fundedAt, expiresAt := timeAt 10000
    agentDecisionId := some (Uuid.ofNat 3) }]
  decisions := [{
    decisionId := Uuid.ofNat 3, thesisVersionId := some (Uuid.ofNat 2), originTickId := Uuid.ofNat 4
    inputSnapshotId := Uuid.ofNat 5, accountRole := .submission, accountFingerprint := fingerprint
    decisionKind := "OPPORTUNITY", outcome := "ENTRY_APPROVED", reasonCode := "APPROVED"
    policyHash, resultPayload := .null, resultHash := "", autonomyAuthorized := true }]
  snapshots := [{
    snapshotId := Uuid.ofNat 5, thesisVersionId := some (Uuid.ofNat 2), accountRole := .submission
    accountFingerprint := fingerprint, decisionKind := "OPPORTUNITY", decisionBoundary := fundedAt
    observedAt := fundedAt, normalizedPayload := .null, inputHash := "" }]
  theses := [{ thesisVersionId := Uuid.ofNat 2, accountRole := .submission, policyHash }]
  ticks := [{
    tickId := Uuid.ofNat 4, decisionId := some (Uuid.ofNat 3), accountRole := .submission
    accountFingerprint := fingerprint }]

/-- The limits within which entries are paid. -/
def limitsFields : EntryBudgetLimitsFields where
  policyHash := policyHash
  equityFloor := dollars 1000
  maximumLifetimeEntries := 3
  maximumLifetimeRisk := dollars 5000
  maximumPositionLoss := dollars 2000
  maximumEntryQuantity := 5

theorem limitsFields_ok : limitsFields.postInit = .ok () := by decide +kernel

/-- The settings of the repository: permits live for half a minute. -/
def settings : RepositorySettings where
  permitTtl := Calendar.seconds 30
  retryablePermitTtl := Calendar.seconds 30
  networkCallHorizon := Calendar.seconds 10
  entryLimits := some ⟨limitsFields, limitsFields_ok⟩
  permitTtl_pos := by decide
  retryablePermitTtl_pos := by decide
  networkCallHorizon_pos := by decide

/-- The posting of the money with which the account was funded. -/
def fundingFields : ActivityItemFields where
  activityIdHash := fingerprint
  activityType := .initialFunding
  occurredAt := fundedAt
  symbol := none
  signedQuantity := some (dollars 100000)

theorem fundingFields_ok : fundingFields.postInit = .ok () := by decide +kernel

/-- The posting of the money with which the account was funded. -/
def funding : ActivityItem := ⟨fundingFields, fundingFields_ok⟩

/-- A sweep that reads the same account twice. -/
def sweepOf (time : Int) (equity cash : Decimal) (orders : List OpenOrderItem)
    (positions : List InventoryItem) (activities : List ActivityItem) :
    Except Failure SweepObservation := do
  let account ← AccountObservation.make {
    role := .submission, accountFingerprint := fingerprint, paper := true, status := "ACTIVE"
    accountBlocked := false, tradingBlocked := false, optionsTradingBlocked := false
    equity, buyingPower := dollars 0, cash, observedAt := time
    timeQuality := "RETRIEVAL_TIME_ONLY" }
  let activityPagination ← ActivityPaginationEvidence.make {
    requestedStart := fundedAt, requestedEnd := time, retrievedThrough := time
    establishedAt := time, pageCount := 1, terminalPageSeen := true
    visibilityCompleteThrough := time - activityVisibilityHorizon
    visibilityHorizon := activityVisibilityHorizon }
  SweepObservation.make {
    retrievalStartedAt := time, retrievalCompletedAt := time, activityPagination
    firstAccount := account, finalAccount := account, firstPositions := positions
    finalPositions := positions, firstOpenOrders := orders, finalOpenOrders := orders
    activities, positionsComplete := true, ordersComplete := true }

/-! ## The review of a submission -/

def entryRow : ExecutionIntentRow := approvedRow intentId .submission envelope

/-- The first reconciliation state: the account holds the money it was funded with. -/
def firstState : AccountReconciliationStateRow where
  accountRole := .submission
  accountFingerprint := fingerprint
  baselineCapturedAt := fundedAt
  acceptedAt := timeAt 0
  expectedCash := dollars 100000
  expectedPositions := []
  expectedOpenOrders := []
  knownActivities := [funding]
  activityCompleteThrough := fundedAt
  stateId := Uuid.ofNat 6
  sequence := 1
  baselineId := Uuid.ofNat 7
  stateHash := zeros

/-- The first attempt of the entry, with a sweep, the expectation for it and their comparison. -/
structure Review where
  attempt : OrderAttempt
  sweep : SweepObservation
  expectation : ReconciliationExpectation
  value : WholeAccountReconciliation

/-- Review the submission of the entry against an account that shows some cash and activities. -/
def reviewSubmission (cash : Decimal) (activities : List ActivityItem) : Except Failure Review := do
  let attempt ← canonicalAttemptForMutation entryRow .submit []
  let sweep ← sweepOf (timeAt 1) (dollars 100000) cash [] [] activities
  let expectation ← reconciliationExpectationFromRows entryRow firstState .submit attempt []
    (some sweep.activities)
  let value ← WholeAccountReconciliation.evaluate sweep expectation (timeAt 1)
  return { attempt, sweep, expectation, value }

variable {activities : List ActivityItem}

/-- The parts of a review. -/
theorem reviewSubmission_facts {cash : Decimal} {review : Review}
    (h : reviewSubmission cash activities = .ok review) :
    sweepOf (timeAt 1) (dollars 100000) cash [] [] activities = .ok review.sweep ∧
      reconciliationExpectationFromRows entryRow firstState .submit review.attempt []
        (some review.sweep.activities) = .ok review.expectation ∧
      WholeAccountReconciliation.evaluate review.sweep review.expectation (timeAt 1) =
        .ok review.value := by
  unfold reviewSubmission at h
  obtain ⟨attempt, -, h⟩ := bind_ok.mp h
  obtain ⟨sweep, hsweep, h⟩ := bind_ok.mp h
  obtain ⟨expectation, hexpectation, h⟩ := bind_ok.mp h
  obtain ⟨value, hvalue, h⟩ := bind_ok.mp h
  cases h
  exact ⟨hsweep, hexpectation, hvalue⟩

/-- A review that passes a check. -/
def reviewsAs (cash : Decimal) (activities : List ActivityItem) (check : Review → Bool) : Bool :=
  match reviewSubmission cash activities with
  | .ok review => check review
  | .error _ => false

/-- The review of a submission where it passes a check. -/
theorem exists_review {cash : Decimal} {check : Review → Bool}
    (h : reviewsAs cash activities check = true) :
    ∃ review, reviewSubmission cash activities = .ok review ∧ check review = true := by
  unfold reviewsAs at h
  split at h
  · rename_i review hreview
    exact ⟨review, hreview, h⟩
  · cases h

/-! ## The workers of a rehearsal -/

/-- A worker of a rehearsal: it computes a transaction from the rows it reads. -/
abbrev Worker := Database → Except Failure Transaction

def callAt (call : Call) (time : Int) (fresh : Nat) : Transaction :=
  ⟨call, time, time, Uuid.ofNat fresh⟩

/-- The claim under which the intent is worked on. -/
def claimOf (db : Database) : Except Failure ExecutionIntent := do
  let row ← require (db.intent intentId) .key
  intentFromRow db row

/-- Register and fund the account, approve the entry and claim it. -/
def opening : List Worker := [
  fun _ => .ok (callAt (.registerAccount .submission fingerprint (dollars 100000)) (timeAt 0) 0),
  fun _ => .ok (callAt (.setAutonomousEnabled .submission true .owner) (timeAt 0) 0),
  fun _ => .ok (callAt (.captureBaseline .submission {
    equity := dollars 100000, capturedAt := fundedAt, accountFingerprint := fingerprint
    positionsHash := "", ordersHash := "", activitiesHash := "", clean := true }) (timeAt 0) 0),
  fun _ => do
    let sweep ← sweepOf (timeAt 0) (dollars 100000) (dollars 100000) [] [] [funding]
    return callAt (.initializeReconciliationState sweep) (timeAt 0) 0,
  fun _ => .ok (callAt (.changeOrigins origins) (timeAt 0) 0),
  fun _ => .ok (callAt (.approveIntent intentId .submission envelope) (timeAt 0) 0),
  fun _ => .ok (callAt (.claimIntent intentId .scheduler .submission fingerprint) (timeAt 0) 20)]

/-- The replacement of the latest attempt, where there is one. -/
def replacementIn (db : Database)
    (replacement : OrderAttemptRow → Except Failure (Option OrderAttempt)) :
    Except Failure (Option OrderAttempt) :=
  match (db.attemptsOf intentId).getLast? with
  | some row => replacement row
  | none => .ok none

/-- Plan a mutation, sweep the account as the plan expects it, and prepare the mutation. -/
def prepare (purpose : ReconciliationPurpose)
    (replacement : OrderAttemptRow → Except Failure (Option OrderAttempt)) (time : Int) :
    Worker := fun db => do
  let claim ← claimOf db
  let attempt ← replacementIn db replacement
  let plan ← planBrokerMutation db claim purpose attempt time
  let sweep ← sweepOf time (dollars 100000) plan.expectation.expectedCash
    plan.expectation.expectedOpenOrders plan.expectation.expectedPositions [funding]
  let reconciliation ← WholeAccountReconciliation.evaluate sweep plan.expectation time
  return callAt (.prepareBrokerMutation reconciliation plan.attempt claim) time 0

def replacementOf (time limit : Int) (row : OrderAttemptRow) :
    Except Failure (Option OrderAttempt) := do
  let clientId ← clientOrderId envelope.tradingDay envelope.action (intentDigest envelope)
    (row.ordinal + 1)
  return some {
    intentId
    ordinal := row.ordinal + 1
    clientOrderId := clientId
    requestHash := replacementRequestHash (intentDigest envelope) (row.ordinal + 1) clientId {
      limit := dollars limit, replacesClientId := some row.clientOrderId
      priorRequestHash := row.requestHash, quoteHash := fingerprint
      quoteSourceTimestamps := [time, time], quoteRetrievedAt := time, timingAuthorityAt := time }
    state := .prepared
    replacesClientOrderId := some row.clientOrderId
    quantity := 2
    limitPrice := some (dollars limit)
    quoteHash := some fingerprint
    quoteSourceTimestamps := [time, time]
    quoteRetrievedAt := some time
    timingAuthorityAt := some time
    priorRequestHash := some row.requestHash }

/-- Acquire the dispatch of the latest permit. -/
def acquire (time : Int) (nonce : Nat) : Worker := fun db => do
  let claim ← claimOf db
  let permit ← require db.permits.rows.getLast? .key
  return callAt (.acquireBrokerDispatch permit.permitId claim) time nonce

/-- Record what the broker says of an attempt, under one of the permits. -/
def observe (ordinal : Int) (index : Nat) (state : BrokerOrderState) (filled : Int)
    (cash : Option Decimal) (source : AttemptObservationSource) (nonce : Option Uuid) (time : Int) :
    Worker := fun db => do
  let claim ← claimOf db
  let row ← require (db.attempt intentId ordinal) .key
  let permit ← require db.permits.rows[index]? .key
  let observed := { attemptFromRow row (db.attemptsOf intentId) with
    state := .broker state
    providerOrderId := some ("P" ++ intText ordinal.toNat)
    filledQuantity := filled
    fillCashFlow := cash }
  return callAt (.recordAttemptObservation permit.permitId observed source claim nonce) time 0

/-- A worker that plans no replacement. -/
def noReplacement (_ : OrderAttemptRow) : Except Failure (Option OrderAttempt) := .ok none

/-! ## The stages of a rehearsal -/

def drafting : List Worker := opening ++ [prepare .submit noReplacement (timeAt 1)]

/-- Workers that record that the broker accepted the order, and that a lookup has seen it. -/
def placing : List Worker := [
  observe 0 0 .new 0 none .dispatchOutcome (some (Uuid.ofNat 30)) (timeAt 3),
  observe 0 0 .new 0 none .targetedLookup none (timeAt 14)]

def planning : Worker := prepare .replace (replacementOf (timeAt 161) 2) (timeAt 161)

/-- A worker whose lookup reports a partial fill. -/
def reporting : Worker :=
  observe 0 0 .partiallyFilled 1 (some (dollars (-100))) .targetedLookup none (timeAt 162)

/-- The states that the rehearsals of one entry pass through. -/
structure Stages where
  /-- The submission is prepared. -/
  drafted : World
  /-- The submission is dispatched. -/
  submitted : World
  /-- The broker has accepted the order, and a lookup has seen it. -/
  placed : World
  /-- A replacement is prepared. -/
  planned : World
  /-- The replacement is dispatched. -/
  replaced : World
  /-- A lookup reports a partial fill while the replacement is prepared. -/
  reported : World
  /-- The replacement is dispatched after that report. -/
  raced : World
  /-- A cancel is prepared where no replacement was. -/
  canceling : World
  /-- A cancel is prepared that supersedes the replacement. -/
  superseded : World

/-- Play every stage. -/
def stages : Except Failure Stages := do
  let drafted ← play settings drafting { db := {}, clock := 0 }
  let submitted ← play settings [acquire (timeAt 2) 30] drafted
  let placed ← play settings placing submitted
  let planned ← play settings [planning] placed
  let replaced ← play settings [acquire (timeAt 163) 31] planned
  let reported ← play settings [reporting] planned
  let raced ← play settings [acquire (timeAt 163) 31] reported
  let canceling ← play settings [prepare .cancel noReplacement (timeAt 603)] placed
  let superseded ← play settings [prepare .cancel noReplacement (timeAt 603)] planned
  return {
    drafted, submitted, placed, planned, replaced, reported, raced, canceling, superseded }

/-- The stages follow from one another. -/
structure Stages.Played (s : Stages) : Prop where
  drafted : play settings drafting { db := {}, clock := 0 } = .ok s.drafted
  submitted : play settings [acquire (timeAt 2) 30] s.drafted = .ok s.submitted
  placed : play settings placing s.submitted = .ok s.placed
  planned : play settings [planning] s.placed = .ok s.planned
  replaced : play settings [acquire (timeAt 163) 31] s.planned = .ok s.replaced
  reported : play settings [reporting] s.planned = .ok s.reported
  raced : play settings [acquire (timeAt 163) 31] s.reported = .ok s.raced
  canceling : play settings [prepare .cancel noReplacement (timeAt 603)] s.placed =
    .ok s.canceling
  superseded : play settings [prepare .cancel noReplacement (timeAt 603)] s.planned =
    .ok s.superseded

/-- Stages that were played follow from one another. -/
theorem played_of_stages {s : Stages} (h : stages = .ok s) : s.Played := by
  unfold stages at h
  obtain ⟨drafted, hdrafted, h⟩ := bind_ok.mp h
  obtain ⟨submitted, hsubmitted, h⟩ := bind_ok.mp h
  obtain ⟨placed, hplaced, h⟩ := bind_ok.mp h
  obtain ⟨planned, hplanned, h⟩ := bind_ok.mp h
  obtain ⟨replaced, hreplaced, h⟩ := bind_ok.mp h
  obtain ⟨reported, hreported, h⟩ := bind_ok.mp h
  obtain ⟨raced, hraced, h⟩ := bind_ok.mp h
  obtain ⟨canceling, hcanceling, h⟩ := bind_ok.mp h
  obtain ⟨superseded, hsuperseded, h⟩ := bind_ok.mp h
  cases h
  exact ⟨hdrafted, hsubmitted, hplaced, hplanned, hreplaced, hreported, hraced, hcanceling,
    hsuperseded⟩

/-- The first stages are reached. -/
theorem Stages.Played.reachable {s : Stages} (h : s.Played) :
    (repository settings).Reachable s.drafted ∧ (repository settings).Reachable s.placed ∧
      (repository settings).Reachable s.planned := by
  have hdrafted := reachable_of_play h.drafted
  obtain ⟨_, hsubmitted⟩ := run_of_play h.submitted
  obtain ⟨_, hplaced⟩ := run_of_play h.placed
  obtain ⟨_, hplanned⟩ := run_of_play h.planned
  have hreach := (hdrafted.run hsubmitted).run hplaced
  exact ⟨hdrafted, hreach, hreach.run hplanned⟩

def permitsIn (world : World) : List (Slot × PermitState) :=
  world.db.permits.rows.map fun permit => (permit.slot, permit.state)

/-- The intent, ordinal, state and filled quantity of every attempt. -/
def attemptsIn (world : World) : List (Uuid × Int × AttemptState × Int) :=
  world.db.attempts.rows.map fun row =>
    (row.intentId, row.ordinal, row.state, row.filledQuantity)

/-- What a worker reads of the claimed intent: the claim, the intent with its account, and the
attempts that count. -/
structure Reading where
  claim : ExecutionIntent
  intent : ExecutionIntentRow
  account : AccountRoleRow
  attempts : List OrderAttemptRow
  latest : OrderAttemptRow

/-- Read the claimed intent. -/
def readingOf (db : Database) : Except Failure Reading := do
  let claim ← claimOf db
  let (intent, account) ← claimedIntent db claim
  let attempts ← executionAttemptRows (db.attemptsOf claim.intentId) (db.permitsOf claim.intentId)
  let latest ← require attempts.getLast? .key
  return { claim, intent, account, attempts, latest }

/-- An open order that was looked up, of an unlocked account, whose permits were all consumed or are
prepared and have expired. -/
def Reading.isCancelable (reading : Reading) (db : Database) (time : Int) : Bool :=
  !reading.account.executionLocked && reading.latest.state.isMutationEligible &&
  wasLookedUp (db.observationsOf reading.claim.intentId) reading.latest.ordinal &&
  (db.permitsOf reading.claim.intentId).all fun permit =>
    permit.state == .consumed || (permit.state == .prepared && permit.expiresAt ≤ time)

/-- The reading of a state, where it passes a check. -/
def readsAs (world : World) (check : Reading → Bool) : Bool :=
  match readingOf world.db with
  | .ok reading => check reading
  | .error _ => false

/-- A safe preparation of another cancel is refused. -/
def refusesCancel (world : World) (time : Int) : Bool :=
  match prepare .cancel noReplacement time world.db with
  | .ok { call := .prepareBrokerMutation reconciliation attempt claim, start, now, fresh } =>
      now == time && reconciliation.safe && reconciliation.expectation.purpose == .cancel &&
      claim.intentId == intentId &&
      match prepareBrokerMutation settings world.db reconciliation attempt claim start now
        fresh with
      | .error (.blocked code) => code == "BROKER_PERMIT_REAUTHORIZATION_NOT_PROVEN"
      | _ => false
  | _ => false

/-- The last attempt is a prepared replacement whose permit has expired. -/
def isSuperseded (db : Database) : Bool :=
  (preparedReplacement (db.attemptsOf intentId)).any fun (_, replacement) =>
    match creationPermit replacement (db.permitsOf intentId) with
    | .ok permit => permit.state == .expired
    | .error _ => false

/-- The newest cancel is prepared and has expired. -/
def isCancelExpired (db : Database) (time : Int) : Bool :=
  ((db.permitsOf intentId).filter fun permit => permit.mutationKind == .cancel).getLast?.any
    fun permit => permit.state == .prepared && permit.expiresAt ≤ time

/-- Ten minutes after its first dispatch the order of a state may be canceled. -/
def isDue (world : World) (time : Int) (reading : Reading) : Bool :=
  reading.isCancelable world.db time &&
  (world.db.permitsOf reading.claim.intentId).filterMap (fun permit =>
    permit.dispatchAcquiredAt) == [timeAt 2]

/-- The order of a state may be canceled, a permit is prepared, and nothing is due. -/
def isStuck (world : World) (time : Int) (reading : Reading) : Bool :=
  isDue world time reading &&
  (world.db.permitsOf reading.claim.intentId).any (fun permit => permit.state == .prepared) &&
  nextBrokerMutation world.db reading.claim time = .ok none

def submitSlot : Slot := ⟨intentId, .submit, 0⟩

def replaceSlot : Slot := ⟨intentId, .replace, 1⟩

def Stages.check (s : Stages) : Bool :=
  permitsIn s.drafted == [(submitSlot, .prepared)] &&
  permitsIn s.submitted == [(submitSlot, .dispatching)] &&
  permitsIn s.planned == [(submitSlot, .consumed), (replaceSlot, .prepared)] &&
  permitsIn s.replaced == [(submitSlot, .consumed), (replaceSlot, .dispatching)] &&
  permitsIn s.reported == [(submitSlot, .consumed), (replaceSlot, .prepared)] &&
  permitsIn s.raced == [(submitSlot, .consumed), (replaceSlot, .dispatching)] &&
  attemptsIn s.replaced == [(intentId, 0, .broker .new, 0), (intentId, 1, .prepared, 0)] &&
  attemptsIn s.raced == [(intentId, 0, .broker .partiallyFilled, 1), (intentId, 1, .prepared, 0)] &&
  s.replaced.db.intents.rows.map (fun row => row.intentId) == [intentId] &&
  readsAs s.placed (isDue s.placed (timeAt 603)) &&
  readsAs s.canceling (isStuck s.canceling (timeAt 640)) &&
  isSuperseded s.superseded.db && isCancelExpired s.superseded.db (timeAt 640) &&
  refusesCancel s.superseded (timeAt 640)

theorem stages_checked : (match stages with
    | .ok s => s.check
    | .error _ => false) = true := by
  decide +kernel

/-- The submission and the replacement have slots of their own. -/
example : submitSlot ≠ replaceSlot := by decide +kernel

structure Stages.Shown (s : Stages) : Prop where
  drafted : permitsIn s.drafted = [(submitSlot, .prepared)]
  submitted : permitsIn s.submitted = [(submitSlot, .dispatching)]
  planned : permitsIn s.planned = [(submitSlot, .consumed), (replaceSlot, .prepared)]
  replaced : permitsIn s.replaced = [(submitSlot, .consumed), (replaceSlot, .dispatching)]
  reported : permitsIn s.reported = [(submitSlot, .consumed), (replaceSlot, .prepared)]
  raced : permitsIn s.raced = [(submitSlot, .consumed), (replaceSlot, .dispatching)]
  replacedAttempts : attemptsIn s.replaced =
    [(intentId, 0, .broker .new, 0), (intentId, 1, .prepared, 0)]
  racedAttempts : attemptsIn s.raced =
    [(intentId, 0, .broker .partiallyFilled, 1), (intentId, 1, .prepared, 0)]
  intents : s.replaced.db.intents.rows.map (fun row => row.intentId) = [intentId]
  placed : readsAs s.placed (isDue s.placed (timeAt 603)) = true
  canceling : readsAs s.canceling (isStuck s.canceling (timeAt 640)) = true
  superseded : isSuperseded s.superseded.db = true
  cancelExpired : isCancelExpired s.superseded.db (timeAt 640) = true
  refused : refusesCancel s.superseded (timeAt 640) = true

/-- There is a rehearsal of every stage. -/
theorem exists_stages : ∃ s : Stages, s.Played ∧ s.Shown := by
  have hchecked := stages_checked
  split at hchecked
  · rename_i s hstages
    simp only [Stages.check, Bool.and_eq_true, beq_iff_eq] at hchecked
    obtain ⟨⟨⟨⟨⟨⟨⟨⟨⟨⟨⟨⟨⟨hdrafted, hsubmitted⟩, hplanned⟩, hreplaced⟩, hreported⟩, hraced⟩,
      hreplacedAttempts⟩, hracedAttempts⟩, hintents⟩, hplaced⟩, hcanceling⟩, hsuperseded⟩,
      hcancelExpired⟩, hrefused⟩ := hchecked
    exact ⟨s, played_of_stages hstages, ⟨hdrafted, hsubmitted, hplanned, hreplaced, hreported,
      hraced, hreplacedAttempts, hracedAttempts, hintents, hplaced, hcanceling, hsuperseded,
      hcancelExpired, hrefused⟩⟩
  · cases hchecked

end Rehearsal

end AlphaDecay
