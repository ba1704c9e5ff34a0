import AlphaDecay.Performance.Record
import AlphaDecay.Persistence.Rehearsal

/-!
# A rehearsal of the performance record

The submission account has its clean baseline, measurements of boundaries fail when they are due,
and what is there is published. Each boundary has hashes of its own.
-/

namespace AlphaDecay.PerformanceRehearsal

open Foundation Performance Rehearsal

/-- The number by which documents are told apart: the time of the boundary they are about. -/
def boundaryCode (document : Json) : Nat :=
  match (document.field "scheduled_for").or
    ((document.field "point").bind (Json.field "scheduled_for")) with
  | some (.text text) => ((Calendar.readUtcText text).getD 0).toNat
  | _ => 0

/-- The digests of a rehearsal in which each boundary has hashes of its own. -/
@[reducible] def boundaryDigest : Digest where
  authorityHash document := String.ofList (Text.fixedDigits 16 64 (boundaryCode document))
  agentHash := digest.agentHash
  uuid5 := digest.uuid5
  authorityHash_isHash document := isHash_fixedDigits (boundaryCode document)

attribute [local instance] boundaryDigest

/-- The submission account. -/
def account : AccountRoleRow where
  role := .submission
  accountFingerprint := fingerprint
  equity := dollars 100000

/-- Its clean baseline. -/
def baseline : SubmissionBaselineRow where
  baselineId := Uuid.ofNat 5
  accountRole := .submission
  accountFingerprint := fingerprint
  equity := dollars 100000
  capturedAt := fundedAt
  positionsHash := zeros
  ordersHash := zeros
  activitiesHash := zeros

/-- The record before anything is captured. -/
def opening : PerformanceWorld where
  store.db := { accounts := ⟨[account], by decide⟩, baselines := ⟨[baseline], by decide⟩ }
  clock := 0

/-- A call in a world: a snapshot of a boundary whose measurement failed when it was due, or a
publish. -/
inductive Act where
  | failed (snapshotId : Nat) (boundaryKey : String) (scheduledFor : Int)
  | publish (now : Int)

/-- The fields of a point whose measurement failed when it was due. -/
def failedFields (scheduledFor : Int) : PointFields where
  scheduledFor
  attemptedAt := scheduledFor
  measuredAt := none
  status := .unknown
  failureCode := some .providerUnavailable
  currentEquityUsd := none
  accountEquityChangeUsd := none
  accountEquityReturnPct := none
  reconciledLifecycleCashflowUsd := none
  openPositionLiquidationPnlUsd := none

/-- The snapshot of a boundary whose measurement failed when it was due. -/
def failedSnapshot (snapshotId : Nat) (boundaryKey : String) (scheduledFor : Int) :
    Except PerformanceFailure PerformanceSnapshot := do
  let point ← PerformancePoint.ofFields (failedFields scheduledFor)
  PerformanceSnapshot.create {
    snapshotId := Uuid.ofNat snapshotId
    submissionBaselineId := some baseline.baselineId
    boundaryKey
    point
    baselineStatus := .clean
    accountFingerprint := fingerprint
    positionsManifestHash := none
    ordersManifestHash := none
    activitiesManifestHash := none }

/-- The call of an act, with the time it reads. -/
def Act.call : Act → Except PerformanceFailure (Int × PerformanceCall)
  | failed snapshotId boundaryKey scheduledFor =>
      (fun snapshot => (scheduledFor, .append snapshot)) <$>
        failedSnapshot snapshotId boundaryKey scheduledFor
  | publish now => .ok (now, .publish)

def Act.after (world : PerformanceWorld) (act : Act) : Except PerformanceFailure PerformanceWorld :=
  act.call >>= fun (now, call) => do
    raiseIf (!(world.clock ≤ now ∧ Calendar.InRange now)) .schema
    pure ⟨call.after now world.store, now⟩

/-- The world after acts one after the other. -/
def play (acts : List Act) : Except PerformanceFailure PerformanceWorld :=
  acts.foldlM Act.after opening

/-- The world that acts end in is reachable. -/
theorem reachable_of_play {acts : List Act} {world : PerformanceWorld} (h : play acts = .ok world) :
    performanceRecord.Reachable world := by
  have hacts : ∀ (acts : List Act) {first last : PerformanceWorld},
      acts.foldlM Act.after first = .ok last →
      ∃ labels, performanceRecord.Run first labels last := by
    intro acts
    induction acts with
    | nil =>
        intro first last hfold
        cases hfold
        exact ⟨[], .refl _⟩
    | cons act acts ih =>
        intro first last hfold
        rw [List.foldlM_cons] at hfold
        obtain ⟨middle, hact, hrest⟩ := bind_ok.mp hfold
        obtain ⟨⟨now, call⟩, -, hafter⟩ := bind_ok.mp hact
        rw [check_bind_ok, raiseIf_ok, Bool.not_eq_false', decide_eq_true_eq] at hafter
        obtain ⟨htimed, hmiddle⟩ := hafter
        cases hmiddle
        obtain ⟨labels, hrun⟩ := ih hrest
        exact ⟨(now, call) :: labels, .cons ⟨htimed.1, htimed.2, rfl⟩ hrun⟩
  obtain ⟨labels, hrun⟩ := hacts acts h
  refine ⟨opening, labels, ⟨?_, rfl, rfl⟩, hrun⟩
  exact ⟨account, baseline, rfl, rfl, rfl, by decide +kernel, rfl, by decide +kernel⟩

/-- Acts that end in a world with a property. -/
def endsWith (acts : List Act) (holds : PerformanceWorld → Bool) : Bool :=
  match play acts with
  | .ok world => holds world
  | .error _ => false

/-- The world that such acts end in is reachable. -/
theorem reachable_of_endsWith {acts : List Act} {holds : PerformanceWorld → Bool}
    (h : endsWith acts holds = true) :
    ∃ world, performanceRecord.Reachable world ∧ holds world = true := by
  unfold endsWith at h
  split at h
  · rename_i world hplay
    exact ⟨world, reachable_of_play hplay, h⟩
  · cases h

/-- A time of a boundary an hour before the last one. -/
def earlierBoundary : Int := FINAL_PERFORMANCE_BOUNDARY - Calendar.seconds 3600

/-- In the rehearsal an earlier boundary is captured and published, and nothing is newer. -/
theorem published_rehearsed :
    ∃ (world : PerformanceWorld) (latest : PerformancePublicationRow),
      performanceRecord.Reachable world ∧ world.clock ≤ FINAL_PERFORMANCE_BOUNDARY ∧
      world.store.publications.rows.getLast? = some latest ∧
      ∀ row ∈ world.store.snapshots.rows, row.scheduledFor ≤ latest.boundaryScheduledFor := by
  have hplay : endsWith [.failed 1 "EARLIER" earlierBoundary, .publish earlierBoundary]
      (fun world => decide (world.clock ≤ FINAL_PERFORMANCE_BOUNDARY) &&
        world.store.publications.rows.getLast?.any fun latest =>
          world.store.snapshots.rows.all fun row =>
            decide (row.scheduledFor ≤ latest.boundaryScheduledFor)) = true := by
    decide +kernel
  obtain ⟨world, hreach, hholds⟩ := reachable_of_endsWith hplay
  simp only [Bool.and_eq_true, decide_eq_true_eq, Option.any_eq_true, List.all_eq_true] at hholds
  obtain ⟨hclock, latest, hlatest, hold⟩ := hholds
  exact ⟨world, latest, hreach, hclock, hlatest, hold⟩

/-- The only snapshot of a world is a failed one of the last boundary. -/
def failedLast (world : PerformanceWorld) : Bool :=
  match world.store.snapshots.rows with
  | [row] => decide (row.scheduledFor = FINAL_PERFORMANCE_BOUNDARY ∧
      row.boundaryKey = FINAL_PERFORMANCE_BOUNDARY_KEY ∧ row.measurementStatus = .unknown ∧
      row.showable FINAL_PUBLICATION_NOT_BEFORE = true)
  | _ => false

/-- In the rehearsal the measurement of the last boundary fails, and nothing is published yet. -/
theorem captured_rehearsed :
    ∃ (world : PerformanceWorld) (row : PerformanceSnapshotRow),
      performanceRecord.Reachable world ∧ world.clock ≤ FINAL_PUBLICATION_NOT_BEFORE ∧
      world.store.publications.rows = [] ∧ world.store.snapshots.rows = [row] ∧
      row.scheduledFor = FINAL_PERFORMANCE_BOUNDARY ∧
      row.boundaryKey = FINAL_PERFORMANCE_BOUNDARY_KEY ∧ row.measurementStatus = .unknown ∧
      row.showable FINAL_PUBLICATION_NOT_BEFORE = true := by
  have hplay : endsWith [.failed 2 FINAL_PERFORMANCE_BOUNDARY_KEY FINAL_PERFORMANCE_BOUNDARY]
      (fun world => decide (world.clock ≤ FINAL_PUBLICATION_NOT_BEFORE) &&
        (world.store.publications.rows.isEmpty && failedLast world)) = true := by
    decide +kernel
  obtain ⟨world, hreach, hholds⟩ := reachable_of_endsWith hplay
  rw [Bool.and_eq_true, Bool.and_eq_true, decide_eq_true_eq, List.isEmpty_iff] at hholds
  obtain ⟨hclock, hpublications, hrow⟩ := hholds
  unfold failedLast at hrow
  split at hrow
  · rename_i row hsnapshots
    exact ⟨world, row, hreach, hclock, hpublications, hsnapshots, of_decide_eq_true hrow⟩
  · cases hrow

end AlphaDecay.PerformanceRehearsal
