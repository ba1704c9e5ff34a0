import AlphaDecay.Foundation.Transition
import AlphaDecay.Performance.Models
import AlphaDecay.Persistence.Database

/-!
# The performance record

Snapshots are appended, one for each boundary, and the latest eligible one is published. A
publication carries the hash of the one before it, and every publication is verified again before
the next one is made. The last boundary is published in any case: without a snapshot of it, a
sentinel is inserted that says so.
-/

namespace AlphaDecay.Performance

open Foundation Table

/-! ## Rows -/

structure PerformanceSnapshotRow where
  snapshotId : Uuid
  submissionBaselineId : Option Uuid
  accountRole : AccountRole
  boundaryKey : String
  scheduledFor : Int
  attemptedAt : Int
  measuredAt : Option Int
  measurementStatus : MeasurementStatus
  failureCode : Option PerformanceFailureCode
  currentEquity : Option Decimal
  accountEquityChange : Option Decimal
  accountEquityReturnPct : Option Decimal
  lifecycleCashflow : Option Decimal
  liquidationPnl : Option Decimal
  baselineStatus : BaselineStatus
  pointPayload : Json
  accountFingerprint : String
  positionsManifestHash : Option String
  ordersManifestHash : Option String
  activitiesManifestHash : Option String
  snapshotHash : String

/-- The measurement of a row is complete or says why it is not. -/
def PerformanceSnapshotRow.measurementCoherent (row : PerformanceSnapshotRow) : Bool :=
  if row.measurementStatus = .complete then
    row.failureCode.isNone && row.measuredAt.isSome && row.currentEquity.isSome
  else
    row.failureCode.isSome && row.measuredAt.isNone && row.currentEquity.isNone &&
    row.accountEquityChange.isNone && row.accountEquityReturnPct.isNone &&
    row.lifecycleCashflow.isNone && row.liquidationPnl.isNone

/-- The condition on the values of a row that are normalized by the baseline. It compares columns
that may be null. -/
def PerformanceSnapshotRow.baselineMath (row : PerformanceSnapshotRow) : Condition :=
  let normal := row.baselineStatus == .clean && row.measurementStatus == .complete
  .either
    (.both (.known normal)
      (.both
        (.compare (fun change equity : Decimal => change.value == equity.value - 100000)
          row.accountEquityChange row.currentEquity)
        (.compare (fun percent change : Decimal => percent.value * 1000 == change.value)
          row.accountEquityReturnPct row.accountEquityChange)))
    (.both (.known !normal)
      (.known (row.accountEquityChange.isNone && row.accountEquityReturnPct.isNone)))

def PerformanceSnapshotRow.manifestHashes (row : PerformanceSnapshotRow) : List (Option String) :=
  [row.positionsManifestHash, row.ordersManifestHash, row.activitiesManifestHash]

/-- The manifests of a row are there exactly when its measurement is complete. -/
def PerformanceSnapshotRow.manifestsCoherent (row : PerformanceSnapshotRow) : Bool :=
  if row.measurementStatus = .complete then row.manifestHashes.all (·.isSome)
  else row.manifestHashes.all (·.isNone)

/-- The baseline of a row is there exactly when its status says so. -/
def PerformanceSnapshotRow.baselineBound (row : PerformanceSnapshotRow) : Bool :=
  if row.submissionBaselineId.isNone then
    row.baselineStatus == .notCaptured && row.measurementStatus != .complete
  else row.baselineStatus == .clean || row.baselineStatus == .contaminated

/-- The constraints of `competition_performance_snapshots`. -/
def snapshotSchema : Schema PerformanceSnapshotRow where
  check row := row.accountRole == .submission && row.scheduledFor ≤ row.attemptedAt &&
    row.measuredAt.all (fun measuredAt => row.attemptedAt ≤ measuredAt) &&
    row.measurementCoherent && row.baselineMath.admits && row.manifestsCoherent &&
    row.baselineBound && isHash row.snapshotHash && isHash row.accountFingerprint &&
    row.manifestHashes.all (·.all isHash) &&
    ((row.scheduledFor == FINAL_PERFORMANCE_BOUNDARY) ==
      (row.boundaryKey == FINAL_PERFORMANCE_BOUNDARY_KEY))
  clash left right := left.snapshotId == right.snapshotId ||
    left.boundaryKey == right.boundaryKey || left.scheduledFor == right.scheduledFor ||
    left.snapshotHash == right.snapshotHash

structure PerformancePublicationRow where
  publicationId : Uuid
  snapshotId : Uuid
  boundaryScheduledFor : Int
  publishedAt : Int
  payloadText : String
  projectionHash : String
  publicationHash : String
  predecessorHash : Option String
deriving DecidableEq, Repr

/-- The constraints of `competition_performance_publications`. -/
def publicationSchema : Schema PerformancePublicationRow where
  check row := row.boundaryScheduledFor ≤ row.publishedAt && isHash row.projectionHash &&
    isHash row.publicationHash && row.predecessorHash.all isHash
  clash left right := left.publicationId == right.publicationId ||
    left.snapshotId == right.snapshotId ||
    left.boundaryScheduledFor == right.boundaryScheduledFor ||
    left.publicationHash == right.publicationHash ||
    clashOn PerformancePublicationRow.predecessorHash left right

/-- The tables of the performance record, next to those of the execution repository. -/
structure PerformanceStore where
  db : Database := {}
  snapshots : Checked snapshotSchema := .empty
  publications : Checked publicationSchema := .empty

namespace PerformanceStore

def snapshot (store : PerformanceStore) (snapshotId : Uuid) : Option PerformanceSnapshotRow :=
  lookup PerformanceSnapshotRow.snapshotId snapshotId store.snapshots.rows

def snapshotOfBoundary (store : PerformanceStore) (boundaryKey : String) :
    Option PerformanceSnapshotRow :=
  lookup PerformanceSnapshotRow.boundaryKey boundaryKey store.snapshots.rows

/-- The publications in the order of their boundaries, which are unique. -/
def publicationsInOrder (store : PerformanceStore) : List PerformancePublicationRow :=
  orderBy PerformancePublicationRow.boundaryScheduledFor store.publications.rows

end PerformanceStore

/-! ## Snapshots -/

variable [Digest]

def snapshotRow (snapshot : PerformanceSnapshot) : PerformanceSnapshotRow where
  snapshotId := snapshot.snapshotId
  submissionBaselineId := snapshot.submissionBaselineId
  accountRole := .submission
  boundaryKey := snapshot.boundaryKey
  scheduledFor := snapshot.point.scheduledFor
  attemptedAt := snapshot.point.attemptedAt
  measuredAt := snapshot.point.measuredAt
  measurementStatus := snapshot.point.status
  failureCode := snapshot.point.failureCode
  currentEquity := snapshot.point.currentEquityUsd
  accountEquityChange := snapshot.point.accountEquityChangeUsd
  accountEquityReturnPct := snapshot.point.accountEquityReturnPct
  lifecycleCashflow := snapshot.point.reconciledLifecycleCashflowUsd
  liquidationPnl := snapshot.point.openPositionLiquidationPnlUsd
  baselineStatus := snapshot.baselineStatus
  pointPayload := snapshot.point.document
  accountFingerprint := snapshot.accountFingerprint
  positionsManifestHash := snapshot.positionsManifestHash
  ordersManifestHash := snapshot.ordersManifestHash
  activitiesManifestHash := snapshot.activitiesManifestHash
  snapshotHash := snapshot.snapshotHash

/-- What a row holds besides the columns that repeat its point. -/
def PerformanceSnapshotRow.fields (row : PerformanceSnapshotRow) (point : PerformancePoint) :
    SnapshotFields where
  snapshotId := row.snapshotId
  submissionBaselineId := row.submissionBaselineId
  boundaryKey := row.boundaryKey
  point
  baselineStatus := row.baselineStatus
  accountFingerprint := row.accountFingerprint
  positionsManifestHash := row.positionsManifestHash
  ordersManifestHash := row.ordersManifestHash
  activitiesManifestHash := row.activitiesManifestHash

/-- A `ValueError` of a computation is raised as a failure of the integrity of the record. -/
def asIntegrity {α : Type} (message : String) (result : Except PerformanceFailure α) :
    Except PerformanceFailure α :=
  match result with
  | .ok value => .ok value
  | .error failure =>
      if failure.isValueError then .error (.proofIntegrity message) else .error failure

/-- The columns of a row repeat its point. -/
def PerformanceSnapshotRow.repeats (row : PerformanceSnapshotRow) (point : PerformancePoint) :
    Bool :=
  row.accountRole == .submission && row.scheduledFor == point.scheduledFor &&
  row.attemptedAt == point.attemptedAt && row.measuredAt == point.measuredAt &&
  row.measurementStatus == point.status && row.failureCode == point.failureCode &&
  row.currentEquity == point.currentEquityUsd &&
  row.accountEquityChange == point.accountEquityChangeUsd &&
  row.accountEquityReturnPct == point.accountEquityReturnPct &&
  row.lifecycleCashflow == point.reconciledLifecycleCashflowUsd &&
  row.liquidationPnl == point.openPositionLiquidationPnlUsd

/-- Verify a stored snapshot: `_verify_snapshot_row`. -/
def verifySnapshotRow (row : PerformanceSnapshotRow) : Except PerformanceFailure Unit := do
  let snapshot ← asIntegrity "performance snapshot is invalid" (do
    let point ← readPoint row.pointPayload
    PerformanceSnapshot.create (row.fields point))
  raiseIf (!(row.repeats snapshot.point && row.snapshotHash == snapshot.snapshotHash))
    (.proofIntegrity "performance snapshot columns do not match payload")

/-- The baseline that a snapshot has to name: `_authoritative_baseline`. -/
def authoritativeBaseline (store : PerformanceStore) :
    Except PerformanceFailure (Option Uuid × BaselineStatus × String) := do
  let account ← require (store.db.account .submission)
    (.noEligible "submission account is not registered")
  match store.db.baseline .submission with
  | none => .ok (none, .notCaptured, account.accountFingerprint)
  | some baseline => do
      raiseIf (baseline.accountFingerprint != account.accountFingerprint)
        (.proofIntegrity "submission baseline fingerprint is inconsistent")
      .ok (some baseline.baselineId, if baseline.contaminated then .contaminated else .clean,
        account.accountFingerprint)

/-- The checks of a snapshot against the account: `_validate_snapshot_authority`. -/
def validateSnapshotAuthority (store : PerformanceStore) (snapshot : PerformanceSnapshot) :
    Except PerformanceFailure Unit := do
  let (baselineId, baselineStatus, accountFingerprint) ← authoritativeBaseline store
  raiseIf (snapshot.accountFingerprint != accountFingerprint)
    (.value "performance snapshot account fingerprint does not match submission")
  raiseIf (snapshot.submissionBaselineId != baselineId)
    (.value "performance snapshot baseline does not match submission")
  raiseIf (snapshot.baselineStatus != baselineStatus)
    (.value "performance snapshot baseline status is not authoritative")
  raiseIf (snapshot.point.status == .complete && baselineId.isNone)
    (.value "complete performance snapshot requires a sealed baseline")

/-- Store a snapshot that no row stands in the way of. -/
def insertSnapshot (store : PerformanceStore) (snapshot : PerformanceSnapshot) :
    Except PerformanceFailure PerformanceStore :=
  let byId := store.snapshot snapshot.snapshotId
  match byId <|> store.snapshotOfBoundary snapshot.boundaryKey with
  | some existing =>
      if existing.snapshotHash = snapshot.snapshotHash then .ok store
      else if byId.isSome then .error (.value "snapshot already exists with different contents")
      else .error (.value "boundary already captured with different contents")
  | none => do
      let snapshots ← require (store.snapshots.insert (snapshotRow snapshot))
        (.value "snapshot or boundary already exists")
      .ok { store with snapshots }

def appendSnapshot (snapshot : PerformanceSnapshot) (store : PerformanceStore) :
    Except PerformanceFailure PerformanceStore := do
  let expected ← PerformanceSnapshot.create snapshot.toSnapshotFields
  raiseIf (expected.snapshotHash != snapshot.snapshotHash)
    (.value "snapshot hash does not match its contents")
  validateSnapshotAuthority store snapshot
  insertSnapshot store snapshot

/-! ## Publications -/

def HASH_DOMAIN : String :=
  "alphadecay.performance-publication.v1"

def publicationHash (scheduledFor : Int) (snapshotHash projectionHash : String)
    (predecessorHash : Option String) : String :=
  canonicalHash (.object [
    ("domain", .text HASH_DOMAIN),
    ("scheduled_for", .text (Calendar.utcText scheduledFor)),
    ("snapshot_hash", .text snapshotHash),
    ("projection_hash", .text projectionHash),
    ("predecessor_hash", Json.ofOptional .text predecessorHash)])

/-- The members of the projection of a snapshot that is published. -/
def projection (snapshot : PerformanceSnapshotRow) (publishedAt : Int) : List (String × Json) := [
  ("schema_version", .text "v1"),
  ("publication_status", .text "PUBLISHED"),
  ("baseline_status", .text snapshot.baselineStatus.text),
  ("published_at", .text (Calendar.utcText publishedAt)),
  ("point", snapshot.pointPayload),
  ("linked_certificate_ids", .array [])]

def buildPublication (snapshot : PerformanceSnapshotRow) (publishedAt : Int)
    (predecessorHash : Option String) :
    Except PerformanceFailure (CompetitionPerformanceProofResponse × String × String) := do
  let projectionHash := canonicalHash (.object (projection snapshot publishedAt))
  let hash := publicationHash snapshot.scheduledFor snapshot.snapshotHash projectionHash
    predecessorHash
  let proof ← readProof (.object (projection snapshot publishedAt ++ [
    ("publication_hash", .text hash),
    ("predecessor_hash", Json.ofOptional .text predecessorHash)]))
  .ok (proof, projectionHash, Json.canonicalText true proof.document)

def withoutChain (document : Json) : Json :=
  document.keepMembers fun name => name != "publication_hash" && name != "predecessor_hash"

/-- Two points have the same values. -/
def PointFields.same (left right : PointFields) : Bool :=
  left.scheduledFor == right.scheduledFor && left.attemptedAt == right.attemptedAt &&
  left.measuredAt == right.measuredAt && left.status == right.status &&
  left.failureCode == right.failureCode && left.currentEquityUsd == right.currentEquityUsd &&
  left.accountEquityChangeUsd == right.accountEquityChangeUsd &&
  left.accountEquityReturnPct == right.accountEquityReturnPct &&
  left.reconciledLifecycleCashflowUsd == right.reconciledLifecycleCashflowUsd &&
  left.openPositionLiquidationPnlUsd == right.openPositionLiquidationPnlUsd

/-- The proof that the text of a publication stands for, with its document. -/
def readPayload (payloadText : String) :
    Except PerformanceFailure (Json × CompetitionPerformanceProofResponse) := do
  let payload ← require (Json.loads payloadText) (.value "publication payload is no JSON")
  raiseIf (Json.canonicalText true payload != payloadText)
    (.proofIntegrity "publication JSON is not canonical")
  let proof ← readProof payload
  .ok (payload, proof)

/-- A publication agrees with its snapshot, its payload and its place in the chain. -/
def PerformancePublicationRow.agrees (row : PerformancePublicationRow)
    (expectedPredecessor : Option String) (snapshot : PerformanceSnapshotRow)
    (point : PerformancePoint) (payload : Json) (proof : CompetitionPerformanceProofResponse) :
    Bool :=
  let projectionHash := canonicalHash (withoutChain payload)
  let expectedHash := Performance.publicationHash row.boundaryScheduledFor snapshot.snapshotHash
    projectionHash expectedPredecessor
  row.snapshotId == snapshot.snapshotId && row.boundaryScheduledFor == snapshot.scheduledFor &&
  proof.publishedAt == some row.publishedAt &&
  proof.point.any (fun published => published.toPointFields.same point.toPointFields) &&
  proof.baselineStatus == some snapshot.baselineStatus &&
  readField payload "predecessor_hash" (Json.asOptional Json.asText) == some expectedPredecessor &&
  row.predecessorHash == expectedPredecessor && row.projectionHash == projectionHash &&
  row.publicationHash == expectedHash && proof.publicationHash == some expectedHash

def verifyPublication (row : PerformancePublicationRow) (expectedPredecessor : Option String)
    (snapshot : PerformanceSnapshotRow) :
    Except PerformanceFailure CompetitionPerformanceProofResponse := do
  verifySnapshotRow snapshot
  let (payload, proof) ← asIntegrity "publication payload is invalid" (readPayload row.payloadText)
  let point ← readPoint snapshot.pointPayload
  raiseIf (!row.agrees expectedPredecessor snapshot point payload proof)
    (.proofIntegrity "publication hash chain is invalid")
  .ok proof

/-- Verify publications in order, each against the one before it. -/
def verifyPublications (store : PerformanceStore) :
    Option (PerformancePublicationRow × CompetitionPerformanceProofResponse) →
    List PerformancePublicationRow →
    Except PerformanceFailure
      (Option (PerformancePublicationRow × CompetitionPerformanceProofResponse))
  | latest, [] => .ok latest
  | latest, row :: rows => do
      let snapshot ← require (store.snapshot row.snapshotId)
        (.proofIntegrity "publication snapshot is missing")
      let proof ← verifyPublication row (latest.bind (·.2.publicationHash)) snapshot
      verifyPublications store (some (row, proof)) rows

/-- The latest publication, with every publication verified: `_latest_verified_publication`. -/
def latestVerifiedPublication (store : PerformanceStore) :
    Except PerformanceFailure
      (Option (PerformancePublicationRow × CompetitionPerformanceProofResponse)) :=
  verifyPublications store none store.publicationsInOrder

/-- The point of the last boundary when nothing was captured there. -/
def sentinelFields (now : Int) : PointFields where
  scheduledFor := FINAL_PERFORMANCE_BOUNDARY
  attemptedAt := now
  measuredAt := none
  status := .missing
  failureCode := some .captureNotStarted
  currentEquityUsd := none
  accountEquityChangeUsd := none
  accountEquityReturnPct := none
  reconciledLifecycleCashflowUsd := none
  openPositionLiquidationPnlUsd := none

/-- The sentinel of the last boundary. -/
def sentinelSnapshot (now : Int) (store : PerformanceStore) :
    Except PerformanceFailure PerformanceSnapshot := do
  let (baselineId, baselineStatus, accountFingerprint) ← authoritativeBaseline store
  let point ← PerformancePoint.ofFields (sentinelFields now)
  PerformanceSnapshot.create {
    snapshotId := Digest.uuid5 FINAL_PERFORMANCE_BOUNDARY_KEY
    submissionBaselineId := baselineId
    boundaryKey := FINAL_PERFORMANCE_BOUNDARY_KEY
    point
    baselineStatus
    accountFingerprint
    positionsManifestHash := none
    ordersManifestHash := none
    activitiesManifestHash := none }

/-- Insert the sentinel of the last boundary. -/
def insertSentinel (now : Int) (store : PerformanceStore) :
    Except PerformanceFailure (PerformanceSnapshotRow × PerformanceStore) := do
  let sentinel ← sentinelSnapshot now store
  let snapshots ← require (store.snapshots.insert (snapshotRow sentinel)) .integrity
  .ok (snapshotRow sentinel, { store with snapshots })

/-- The snapshot of the last boundary. -/
def finalSnapshot (store : PerformanceStore) : Option PerformanceSnapshotRow :=
  store.snapshots.rows.find? fun row => row.boundaryKey == FINAL_PERFORMANCE_BOUNDARY_KEY &&
    row.scheduledFor == FINAL_PERFORMANCE_BOUNDARY

/-- The snapshot of the last boundary, or the sentinel in its place. -/
def finalOrSentinel (now : Int) (store : PerformanceStore) :
    Except PerformanceFailure (PerformanceSnapshotRow × PerformanceStore) :=
  match finalSnapshot store with
  | some row => .ok (row, store)
  | none => insertSentinel now store

/-- The snapshots that can be published after the latest publication, in their order. -/
def eligibleSnapshots (now : Int) (latest : Option PerformancePublicationRow)
    (store : PerformanceStore) : List PerformanceSnapshotRow :=
  orderBy PerformanceSnapshotRow.scheduledFor (store.snapshots.rows.filter fun row =>
    row.scheduledFor ≤ now && latest.all fun latest => latest.boundaryScheduledFor <
      row.scheduledFor)

/-- Select what is published next: `_select_snapshot`. -/
def selectSnapshot (now : Int) (latest : Option PerformancePublicationRow)
    (store : PerformanceStore) :
    Except PerformanceFailure (Option PerformanceSnapshotRow × PerformanceStore) :=
  if FINAL_PERFORMANCE_BOUNDARY ≤ now then do
    raiseIf (now < FINAL_PUBLICATION_NOT_BEFORE)
      (.noEligible "final capture grace period is active")
    let (row, store) ← finalOrSentinel now store
    .ok (if latest.any fun latest => latest.snapshotId == row.snapshotId then none else some row,
      store)
  else .ok ((eligibleSnapshots now latest store).getLast?, store)

/-- The checks of the account before a publication: `_validate_publication_authority`. -/
def validatePublicationAuthority (store : PerformanceStore) (snapshot : PerformanceSnapshotRow) :
    Except PerformanceFailure Unit :=
  let current := do
    let account ← store.db.account .submission
    let baseline ← store.db.baseline .submission
    if baseline.accountFingerprint == account.accountFingerprint &&
        baseline.equity == Decimal.ofInt 100000 && !baseline.contaminated &&
        snapshot.accountRole == .submission &&
        snapshot.accountFingerprint == account.accountFingerprint &&
        snapshot.submissionBaselineId == some baseline.baselineId &&
        snapshot.baselineStatus == .clean then some () else none
  require current
    (.proofIntegrity "performance publication baseline authority is not clean and current")

/-- Publish a snapshot after the latest publication. -/
def publishSnapshot (now : Int) (predecessorHash : Option String)
    (snapshot : PerformanceSnapshotRow) (store : PerformanceStore) :
    Except PerformanceFailure (CompetitionPerformanceProofResponse × PerformanceStore) := do
  validatePublicationAuthority store snapshot
  verifySnapshotRow snapshot
  let (proof, projectionHash, payloadText) ← buildPublication snapshot now predecessorHash
  let hash ← require proof.publicationHash (.proofIntegrity "published proof has no hash")
  let publications ← require (store.publications.insert {
    publicationId := Digest.uuid5 hash
    snapshotId := snapshot.snapshotId
    boundaryScheduledFor := snapshot.scheduledFor
    publishedAt := now
    payloadText
    projectionHash
    publicationHash := hash
    predecessorHash }) .integrity
  .ok (proof, { store with publications })

/-- Publish the latest eligible snapshot: `publish_latest_eligible`. -/
def publishLatestEligible (now : Int) (store : PerformanceStore) :
    Except PerformanceFailure (CompetitionPerformanceProofResponse × PerformanceStore) := do
  let latest ← latestVerifiedPublication store
  let (selected, selecting) ← selectSnapshot now (latest.map (·.1)) store
  match selected with
  | some snapshot => publishSnapshot now (latest.map (·.1.publicationHash)) snapshot selecting
  | none =>
      match latest with
      | some (_, proof) => .ok (proof, selecting)
      | none => .error (.noEligible "no eligible performance snapshot")

/-! ## Runs -/

/-- A call of the record. -/
inductive PerformanceCall where
  | append (snapshot : PerformanceSnapshot)
  | publish

/-- What a call returns, with the tables it leaves. -/
def PerformanceCall.run (now : Int) (store : PerformanceStore) :
    PerformanceCall →
    Except PerformanceFailure (Option CompetitionPerformanceProofResponse × PerformanceStore)
  | append snapshot => (fun store => (none, store)) <$> appendSnapshot snapshot store
  | publish => (fun (proof, store) => (some proof, store)) <$> publishLatestEligible now store

/-- The record with the clock of the database. -/
structure PerformanceWorld where
  store : PerformanceStore := {}
  clock : Int := 0

/-- The tables after a call: a call that raises leaves them as they were. -/
def PerformanceCall.after (now : Int) (store : PerformanceStore) (call : PerformanceCall) :
    PerformanceStore :=
  match call.run now store with
  | .ok (_, after) => after
  | .error _ => store

/-- The submission account is registered with one clean baseline of its own. -/
def CleanBaseline (db : Database) : Prop :=
  ∃ account baseline, db.account .submission = some account ∧
    db.baseline .submission = some baseline ∧
    baseline.accountFingerprint = account.accountFingerprint ∧
    (baseline.equity == Decimal.ofInt 100000) = true ∧ baseline.contaminated = false ∧
    isHash account.accountFingerprint = true

/-- Calls of the record, one after the other, under a clock that never goes back. -/
def performanceRecord : System PerformanceWorld (Int × PerformanceCall) where
  initial world := CleanBaseline world.store.db ∧ world.store.snapshots = .empty ∧
    world.store.publications = .empty
  step world label after := world.clock ≤ label.1 ∧ Calendar.InRange label.1 ∧
    after = ⟨label.2.after label.1 world.store, label.1⟩

end AlphaDecay.Performance
