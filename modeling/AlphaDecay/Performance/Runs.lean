import AlphaDecay.Performance.Rehearsal

/-!
# The record at its last boundary

Before the last boundary a publish takes the latest eligible snapshot, and returns the last proof
when there is none. In the grace period after it nothing is published. From the end of that period
on a publish takes the snapshot of the last boundary, whatever its status, or the sentinel, and this
publication is the last one.
-/

namespace AlphaDecay.Performance

open Foundation Table

section Boundaries

variable [Digest] {store after : PerformanceStore} {now : Int}
variable {latest : PerformancePublicationRow} {selecting : PerformanceStore}
  {row : PerformanceSnapshotRow} {failure : PerformanceFailure}

variable {predecessorHash : Option String} {proof : CompetitionPerformanceProofResponse}
  {labels : List (Int × PerformanceCall)}

/-! ## Publishing before the last boundary and in the grace period -/

/-- Nothing is newer than the latest publication: no snapshot of a boundary that has come, or the
last boundary is published. -/
def NothingNewer (now : Int) (store : PerformanceStore) (latest : PerformancePublicationRow) :
    Prop :=
  (now < FINAL_PERFORMANCE_BOUNDARY ∧ ∀ row ∈ store.snapshots.rows, row.scheduledFor ≤ now →
      row.scheduledFor ≤ latest.boundaryScheduledFor) ∨
    (FINAL_PUBLICATION_NOT_BEFORE ≤ now ∧
      latest.boundaryScheduledFor = FINAL_PERFORMANCE_BOUNDARY)

/-- The snapshot of the last boundary is found when that boundary is published. -/
theorem Recorded.finalSnapshot_published (h : Recorded store)
    (hlatest : latest ∈ store.publications.rows)
    (hboundary : latest.boundaryScheduledFor = FINAL_PERFORMANCE_BOUNDARY) :
    ∃ row, finalSnapshot store = some row ∧ latest.snapshotId = row.snapshotId := by
  obtain ⟨predecessor, source, hsource, proof, hpublished⟩ := h.chained.published latest hlatest
  have hscheduled : source.scheduledFor = FINAL_PERFORMANCE_BOUNDARY :=
    (congrArg (·.boundaryScheduledFor) hpublished.2.2.1).symm.trans hboundary
  have hkey : source.boundaryKey = FINAL_PERFORMANCE_BOUNDARY_KEY := by
    have hcheck := store.snapshots.holds.1 source hsource
    simp only [snapshotSchema, Bool.and_eq_true] at hcheck
    simpa [hscheduled] using hcheck.2
  obtain ⟨row, hrow⟩ : ∃ row, finalSnapshot store = some row := by
    rw [← Option.isSome_iff_exists, finalSnapshot, List.find?_isSome]
    exact ⟨source, hsource, by simp [hscheduled, hkey]⟩
  obtain ⟨hmem, hfinal⟩ := finalSnapshot_some hrow
  exact ⟨row, hrow, h.snapshotId_eq hlatest hmem (hboundary.trans hfinal.symm)⟩

theorem selectSnapshot_nothing (h : Recorded store) (hlatest : latest ∈ store.publications.rows)
    (hnothing : NothingNewer now store latest) :
    selectSnapshot now (some latest) store = .ok (none, store) := by
  have hperiod : FINAL_PERFORMANCE_BOUNDARY < FINAL_PUBLICATION_NOT_BEFORE := by decide
  rcases hnothing with ⟨hbefore, hnone⟩ | ⟨hafter, hboundary⟩
  · have hempty : eligibleSnapshots now (some latest) store = [] := by
      rw [List.eq_nil_iff_forall_not_mem]
      intro row hrow
      rw [eligibleSnapshots, mem_orderBy, List.mem_filter] at hrow
      obtain ⟨hmem, heligible⟩ := hrow
      simp only [Option.all_some, Bool.and_eq_true, decide_eq_true_eq] at heligible
      have hold := hnone row hmem heligible.1
      omega
    rw [selectSnapshot, if_neg (by omega), hempty]
    rfl
  · obtain ⟨row, hfound, hid⟩ := h.finalSnapshot_published hlatest hboundary
    have hnot : ¬now < FINAL_PUBLICATION_NOT_BEFORE := by omega
    rw [selectSnapshot, if_pos (by omega), finalOrSentinel, hfound]
    simp [raiseIf, hnot, hid, ok_bind]

theorem publish_selected
    {latest : Option (PerformancePublicationRow × CompetitionPerformanceProofResponse)}
    (hlatest : latestVerifiedPublication store = .ok latest)
    (hselect : selectSnapshot now (latest.map (·.1)) store = .ok (some row, selecting)) :
    publishLatestEligible now store =
      publishSnapshot now (latest.map (·.1.publicationHash)) row selecting := by
  rw [publishLatestEligible, hlatest, ok_bind, hselect]
  rfl

/-- A publish when nothing is selected. -/
theorem publish_nothing {latest : PerformancePublicationRow × CompetitionPerformanceProofResponse}
    (hlatest : latestVerifiedPublication store = .ok (some latest))
    (hselect : selectSnapshot now (some latest.1) store = .ok (none, selecting)) :
    publishLatestEligible now store = .ok (latest.2, selecting) := by
  rw [publishLatestEligible, hlatest, ok_bind, Option.map_some, hselect]
  rfl

/-- A publish whose selection raises. -/
theorem publish_unselected
    {latest : Option (PerformancePublicationRow × CompetitionPerformanceProofResponse)}
    (hlatest : latestVerifiedPublication store = .ok latest)
    (hselect : selectSnapshot now (latest.map (·.1)) store = .error failure) :
    publishLatestEligible now store = .error failure := by
  rw [publishLatestEligible, hlatest, ok_bind, hselect]
  rfl

/-- A publish without anything newer returns the last proof and changes nothing. -/
theorem publish_unchanged (h : Recorded store)
    (hlatest : store.publications.rows.getLast? = some latest)
    (hnothing : NothingNewer now store latest) :
    ∃ proof, latestVerifiedPublication store = .ok (some (latest, proof)) ∧
      publishLatestEligible now store = .ok (proof, store) := by
  obtain ⟨verified, hverified, hget, -⟩ := h.latest
  rw [hlatest] at hget
  obtain ⟨⟨row, proof⟩, rfl, hrow⟩ := Option.map_eq_some_iff.mp hget
  obtain rfl : row = latest := hrow
  refine ⟨proof, hverified, ?_⟩
  exact publish_nothing hverified
    (selectSnapshot_nothing h (List.mem_of_getLast? hlatest) hnothing)

/-- In the grace period nothing is published. -/
theorem publish_grace (h : Recorded store) (hfinal : FINAL_PERFORMANCE_BOUNDARY ≤ now)
    (hgrace : now < FINAL_PUBLICATION_NOT_BEFORE) :
    publishLatestEligible now store =
      .error (.noEligible "final capture grace period is active") := by
  obtain ⟨latest, hlatest, -⟩ := h.latest
  have hselect : selectSnapshot now (latest.map (·.1)) store =
      .error (.noEligible "final capture grace period is active") := by
    rw [selectSnapshot, if_pos hfinal, raiseIf, if_pos (decide_eq_true hgrace)]
    rfl
  exact publish_unselected hlatest hselect

/-! ## Publishing the last boundary -/

/-- The status of the last boundary: that of its snapshot, or missing without one. -/
def finalStatus (store : PerformanceStore) : MeasurementStatus :=
  ((finalSnapshot store).map (·.measurementStatus)).getD .missing

/-- A proof of the last boundary, with its status. -/
def FinalProof (store : PerformanceStore) (proof : CompetitionPerformanceProofResponse) : Prop :=
  ∃ point, proof.point = some point ∧ point.scheduledFor = FINAL_PERFORMANCE_BOUNDARY ∧
    point.status = finalStatus store

omit [Digest] in
/-- The row selected for the last boundary has its status. -/
theorem FinalSelected.status [Digest] (h : FinalSelected now store row selecting) :
    row.measurementStatus = finalStatus store := by
  rw [finalStatus]
  cases hfound : finalSnapshot store with
  | none => exact (h.sentinel hfound).1
  | some final =>
      obtain ⟨rfl, -⟩ := h.captured final hfound
      rfl

/-- A publication of the row selected for the last boundary has a proof of that boundary. -/
theorem FinalSelected.finalProof (h : FinalSelected now store row selecting)
    {published : PerformancePublicationRow}
    (hpublished : Published published predecessorHash row proof) :
    FinalProof store proof ∧ published.boundaryScheduledFor = FINAL_PERFORMANCE_BOUNDARY := by
  obtain ⟨point, hpayload, hscheduled, hstatus⟩ := hpublished.1.payload
  have hfields := hpublished.fields hpayload
  refine ⟨⟨point.reread, congrArg (·.point) hfields, ?_, ?_⟩, ?_⟩
  · exact hscheduled.symm.trans h.boundary
  · exact hstatus.symm.trans h.status
  · exact (congrArg (·.boundaryScheduledFor) hpublished.2.2.1).trans h.boundary

/-- The ways in which a publish of the last boundary ends. -/
inductive FinalOutcome (now : Int) (store : PerformanceStore) :
    Except PerformanceFailure (CompetitionPerformanceProofResponse × PerformanceStore) → Prop where
  | published {proof : CompetitionPerformanceProofResponse} {after : PerformanceStore}
      {last : PerformancePublicationRow} (hproof : FinalProof store proof)
      (hlast : after.publications.rows.getLast? = some last)
      (hboundary : last.boundaryScheduledFor = FINAL_PERFORMANCE_BOUNDARY) :
      FinalOutcome now store (.ok (proof, after))
  | notShowable {failure : PerformanceFailure} {row : PerformanceSnapshotRow}
      (hfailure : failure.isValueError = true) (hrow : finalSnapshot store = some row)
      (hshowable : row.showable now = false) : FinalOutcome now store (.error failure)
  | sentinelTaken (htaken : SentinelTaken now store) : FinalOutcome now store (.error .integrity)
  | publicationTaken {row : PerformanceSnapshotRow} {selecting : PerformanceStore}
      (hselect : finalOrSentinel now store = .ok (row, selecting))
      (htaken : PublicationTaken now store row) : FinalOutcome now store (.error .integrity)

/-- The row selected for the last boundary is published. -/
theorem publishSnapshot_final (hselect : finalOrSentinel now store = .ok (row, selecting))
    (h : FinalSelected now store row selecting) (hrange : Calendar.InRange now)
    (hafter : FINAL_PERFORMANCE_BOUNDARY ≤ now)
    (hlater : ∀ prior ∈ selecting.publications.rows.getLast?,
      prior.boundaryScheduledFor < row.scheduledFor) :
    FinalOutcome now store
      (publishSnapshot now (lastHash none selecting.publications.rows) row selecting) := by
  have htime : row.scheduledFor ≤ now := h.boundary.symm ▸ hafter
  cases hpublish : publishSnapshot now (lastHash none selecting.publications.rows) row
    selecting with
  | ok result =>
      obtain ⟨proof, after⟩ := result
      obtain ⟨-, -, -, published, hrows, hpublished⟩ := publishSnapshot_recorded h.recorded hrange
        h.stored (Int.le_of_eq h.boundary) hlater hpublish
      obtain ⟨hproof, hboundary⟩ := h.finalProof hpublished
      exact .published hproof (by rw [hrows, List.getLast?_concat]) hboundary
  | error failure =>
      rcases publishSnapshot_error h.recorded hrange h.stored htime hlater hpublish with
        ⟨hvalue, hshowable⟩ | ⟨rfl, htaken⟩
      · cases hfound : finalSnapshot store with
        | none =>
            rw [(h.sentinel hfound).2] at hshowable
            cases hshowable
        | some final =>
            obtain ⟨rfl, -⟩ := h.captured final hfound
            exact .notShowable hvalue hfound hshowable
      · refine .publicationTaken hselect ?_
        rw [PublicationTaken, h.unpublished] at htaken
        exact htaken

/-- The selection when the capture of the last boundary is over. -/
theorem selectSnapshot_final (hafter : FINAL_PUBLICATION_NOT_BEFORE ≤ now)
    (latest : Option PerformancePublicationRow) :
    selectSnapshot now latest store =
      (finalOrSentinel now store >>= fun (row, selecting) => .ok
        (if latest.any fun latest => latest.snapshotId == row.snapshotId then none else some row,
          selecting)) := by
  have hperiod : FINAL_PERFORMANCE_BOUNDARY < FINAL_PUBLICATION_NOT_BEFORE := by decide
  have hnot : ¬now < FINAL_PUBLICATION_NOT_BEFORE := by omega
  rw [selectSnapshot, if_pos (by omega), raiseIf, if_neg (by simpa using hnot), ok_bind]

/-- From the end of the grace period on a publish is one of the last boundary. -/
theorem publish_final (h : Recorded store) (hrange : Calendar.InRange now)
    (hafter : FINAL_PUBLICATION_NOT_BEFORE ≤ now) :
    FinalOutcome now store (publishLatestEligible now store) := by
  have hperiod : FINAL_PERFORMANCE_BOUNDARY < FINAL_PUBLICATION_NOT_BEFORE := by decide
  have hfinalAfter : FINAL_PERFORMANCE_BOUNDARY ≤ now := by omega
  obtain ⟨latest, hlatest, hget, hproof⟩ := h.latest
  rcases finalOrSentinel_recorded h hrange hfinalAfter with
    ⟨row, selecting, hfinal, hrow⟩ | ⟨hfinal, htaken⟩
  · have hselect : selectSnapshot now (latest.map (·.1)) store = .ok
        (if (latest.map (·.1)).any fun latest => latest.snapshotId == row.snapshotId then none
          else some row, selecting) := by
      rw [selectSnapshot_final hafter, hfinal, ok_bind]
    have heligible := (selectSnapshot_recorded h hrange hget hselect).eligible
    by_cases hsame : ((latest.map (·.1)).any fun latest => latest.snapshotId == row.snapshotId) =
        true
    · -- the row is published already, by the latest publication
      rw [if_pos hsame] at hselect
      cases latest with
      | none => cases hsame
      | some last =>
          obtain ⟨predecessor, source, hsource, hpublished⟩ := hproof last.1 last.2 rfl
          have hid : last.1.snapshotId = row.snapshotId := by simpa using hsame
          have hsourceId : last.1.snapshotId = source.snapshotId :=
            congrArg (·.snapshotId) hpublished.2.2.1
          obtain rfl := eq_of_snapshotId (hrow.grown.snapshots.subset hsource) hrow.stored
            (hsourceId.symm.trans hid)
          obtain ⟨hfinalProof, hboundary⟩ := hrow.finalProof hpublished
          rw [publish_nothing hlatest hselect]
          exact .published hfinalProof (by rw [hrow.unpublished, ← hget]; rfl) hboundary
    · rw [if_neg hsame] at hselect heligible
      obtain ⟨-, -, -, hlater⟩ := heligible row rfl
      rw [hget, ← hrow.unpublished] at hlater
      rw [publish_selected hlatest hselect, LatestOf.lastHash hget hrow.unpublished]
      exact publishSnapshot_final hfinal hrow hrange hfinalAfter hlater
  · rw [publish_unselected hlatest (by rw [selectSnapshot_final hafter, hfinal]; rfl)]
    exact .sentinelTaken htaken

/-! ## Every call -/

/-- A publish of a record raises no integrity error. -/
theorem publish_harmless (h : Recorded store) (hrange : Calendar.InRange now)
    (herror : publishLatestEligible now store = .error failure) : Harmless failure := by
  obtain ⟨latest, hlatest, hget, -⟩ := h.latest
  by_cases hfinal : FINAL_PERFORMANCE_BOUNDARY ≤ now
  · by_cases hgrace : now < FINAL_PUBLICATION_NOT_BEFORE
    · rw [publish_grace h hfinal hgrace] at herror
      cases herror
      exact nofun
    · have houtcome := publish_final h hrange (Int.not_lt.mp hgrace)
      rw [herror] at houtcome
      cases houtcome with
      | notShowable hfailure hrow hshowable => exact harmless_of_isValueError hfailure
      | sentinelTaken htaken => exact nofun
      | publicationTaken hselect htaken => exact nofun
  · have hselect : selectSnapshot now (latest.map (·.1)) store =
        .ok ((eligibleSnapshots now (latest.map (·.1)) store).getLast?, store) := by
      rw [selectSnapshot, if_neg hfinal]
    have heligible := (selectSnapshot_recorded h hrange hget hselect).eligible
    cases hlast : (eligibleSnapshots now (latest.map (·.1)) store).getLast? with
    | none =>
        rw [hlast] at hselect
        cases latest with
        | none =>
            rw [publishLatestEligible, hlatest, ok_bind, hselect] at herror
            cases herror
            exact nofun
        | some last =>
            rw [publish_nothing hlatest hselect] at herror
            cases herror
    | some row =>
        rw [hlast] at hselect heligible
        obtain ⟨hmem, htime, -, hlater⟩ := heligible row rfl
        rw [hget] at hlater
        rw [publish_selected hlatest hselect, LatestOf.lastHash hget rfl] at herror
        rcases publishSnapshot_error h hrange hmem htime hlater herror with
          ⟨hfailure, -⟩ | ⟨rfl, -⟩
        · exact harmless_of_isValueError hfailure
        · exact nofun

/-- No call of a record raises an integrity error. -/
theorem PerformanceCall.run_harmless (h : Recorded store) (hrange : Calendar.InRange now)
    {call : PerformanceCall} (herror : call.run now store = .error failure) : Harmless failure := by
  cases call with
  | append snapshot =>
      exact harmless_of_isValueError (appendSnapshot_error h (map_error.mp herror))
  | publish => exact publish_harmless h hrange (map_error.mp herror)

/-- An append leaves the publications as they are. -/
theorem appendSnapshot_publications {snapshot : PerformanceSnapshot}
    (happend : appendSnapshot snapshot store = .ok after) :
    after.publications = store.publications := by
  unfold appendSnapshot at happend
  obtain ⟨expected, -, happend⟩ := bind_ok.mp happend
  simp only [check_bind_ok] at happend
  obtain ⟨-, -, hinsert⟩ := happend
  unfold insertSnapshot at hinsert
  dsimp only at hinsert
  split at hinsert
  · split at hinsert
    · cases hinsert
      rfl
    · split at hinsert <;> cases hinsert
  · obtain ⟨snapshots, -, hafter⟩ := require_bind_ok.mp hinsert
    cases hafter
    rfl

/-- Once the last boundary is published no call publishes anything. -/
theorem PerformanceCall.after_ended (h : Recorded store)
    (hlatest : store.publications.rows.getLast? = some latest)
    (hboundary : latest.boundaryScheduledFor = FINAL_PERFORMANCE_BOUNDARY)
    (call : PerformanceCall) : (call.after now store).publications = store.publications := by
  unfold PerformanceCall.after
  cases hrun : call.run now store with
  | error failure => rfl
  | ok result =>
      cases call with
      | append snapshot =>
          obtain ⟨after, happend, hresult⟩ := map_ok.mp hrun
          cases hresult
          exact appendSnapshot_publications happend
      | publish =>
          obtain ⟨⟨proof, after⟩, hpublish, hresult⟩ := map_ok.mp hrun
          cases hresult
          have hnothing : NothingNewer now store latest := by
            by_cases hfinal : FINAL_PERFORMANCE_BOUNDARY ≤ now
            · by_cases hgrace : now < FINAL_PUBLICATION_NOT_BEFORE
              · rw [publish_grace h hfinal hgrace] at hpublish
                cases hpublish
              · exact Or.inr ⟨Int.not_lt.mp hgrace, hboundary⟩
            · exact Or.inl ⟨Int.not_le.mp hfinal, fun row hrow htime => by omega⟩
          obtain ⟨other, -, hunchanged⟩ := publish_unchanged h hlatest hnothing
          rw [hunchanged] at hpublish
          cases hpublish
          rfl

/-- Once the last boundary is published no run publishes anything. -/
theorem publications_ended {first last : PerformanceWorld} (h : Recorded first.store)
    (hlatest : first.store.publications.rows.getLast? = some latest)
    (hboundary : latest.boundaryScheduledFor = FINAL_PERFORMANCE_BOUNDARY)
    (hrun : performanceRecord.Run first labels last) :
    last.store.publications = first.store.publications := by
  induction hrun with
  | refl => rfl
  | snoc hrun hstep ih =>
      obtain ⟨hrecorded, -⟩ := grown_of_run h hrun
      obtain ⟨-, -, rfl⟩ := hstep
      rw [← ih] at hlatest
      exact (PerformanceCall.after_ended hrecorded hlatest hboundary _).trans ih

/-- A publication that is still the last one is verified with the proof it had. -/
theorem latest_kept {first last : PerformanceWorld} (h : Recorded first.store)
    (hverified : latestVerifiedPublication first.store = .ok (some (latest, proof)))
    (hrun : performanceRecord.Run first labels last)
    (hlatest : last.store.publications.rows.getLast? = some latest) :
    latestVerifiedPublication last.store = .ok (some (latest, proof)) := by
  obtain ⟨hrecorded, hgrown⟩ := grown_of_run h hrun
  obtain ⟨verified, hverified', -, hproof⟩ := h.latest
  obtain rfl : verified = some (latest, proof) :=
    Except.ok.inj (hverified'.symm.trans hverified)
  obtain ⟨predecessor, snapshot, hmem, hpublished⟩ := hproof latest proof rfl
  exact hrecorded.latest_eq hlatest (hgrown.snapshots.subset hmem) hpublished

/-! ## The record over whole runs -/

omit [Digest] in
theorem eq_of_boundaryKey {left right : PerformanceSnapshotRow}
    (hleft : left ∈ store.snapshots.rows) (hright : right ∈ store.snapshots.rows)
    (h : left.boundaryKey = right.boundaryKey) : left = right := by
  have hunique : Unique (fun row => some row.boundaryKey) store.snapshots.rows := by
    refine store.snapshots.unique fun left right hclash => ?_
    simp only [snapshotSchema, Bool.or_eq_false_iff] at hclash
    simpa [clashOn] using hclash.1.1.2
  exact hunique.eq hleft hright rfl (congrArg some h.symm)

/-- Publications that each name the hash of the one before them. -/
def Linked : Option String → List PerformancePublicationRow → Prop
  | _, [] => True
  | predecessorHash, row :: rows =>
      row.predecessorHash = predecessorHash ∧ Linked (some row.publicationHash) rows

theorem ChainFrom.linked {rows : List PerformancePublicationRow}
    (h : ChainFrom store predecessorHash rows) : Linked predecessorHash rows := by
  induction rows generalizing predecessorHash with
  | nil => trivial
  | cons row rows ih =>
      obtain ⟨⟨snapshot, -, proof, hpublished⟩, hrest⟩ := h
      exact ⟨congrArg (·.predecessorHash) hpublished.2.2.1, ih hrest⟩

structure SoundRecord (world : PerformanceWorld) : Prop where
  /-- No call raises an integrity error. -/
  neverCorrupt : ∀ {now call failure}, Calendar.InRange now →
    PerformanceCall.run now world.store call = .error failure →
    ∀ message, failure ≠ .proofIntegrity message
  increasing : world.store.publications.rows.Pairwise fun left right =>
    left.boundaryScheduledFor < right.boundaryScheduledFor
  linked : Linked none world.store.publications.rows
  verified : ∃ latest, latestVerifiedPublication world.store = .ok latest ∧
    latest.map (·.1) = world.store.publications.rows.getLast?
  /-- A boundary, by its key or by its time, has one snapshot. -/
  captured : ∀ {left right}, left ∈ world.store.snapshots.rows →
    right ∈ world.store.snapshots.rows →
    left.boundaryKey = right.boundaryKey ∨ left.scheduledFor = right.scheduledFor → left = right
  /-- Rows are only ever appended. -/
  kept : ∀ {labels later}, performanceRecord.Run world labels later →
    Grown world.store later.store
  /-- A publish returns the proof of the publication that is then the last one. -/
  returned : ∀ {now proof after}, Calendar.InRange now →
    publishLatestEligible now world.store = .ok (proof, after) →
    ∃ last, latestVerifiedPublication after = .ok (some (last, proof))
  /-- The proof of the last publication stays the same. -/
  proofKept : ∀ {latest proof labels later},
    latestVerifiedPublication world.store = .ok (some (latest, proof)) →
    performanceRecord.Run world labels later →
    later.store.publications.rows.getLast? = some latest →
    latestVerifiedPublication later.store = .ok (some (latest, proof))
  /-- A publish without anything newer returns the last proof and changes nothing. -/
  unchanged : ∀ {now latest}, world.store.publications.rows.getLast? = some latest →
    NothingNewer now world.store latest →
    ∃ proof, latestVerifiedPublication world.store = .ok (some (latest, proof)) ∧
      publishLatestEligible now world.store = .ok (proof, world.store)
  grace : ∀ {now}, FINAL_PERFORMANCE_BOUNDARY ≤ now → now < FINAL_PUBLICATION_NOT_BEFORE →
    publishLatestEligible now world.store =
      .error (.noEligible "final capture grace period is active")
  final : ∀ {now}, Calendar.InRange now → FINAL_PUBLICATION_NOT_BEFORE ≤ now →
    FinalOutcome now world.store (publishLatestEligible now world.store)
  /-- Nothing is published after the last boundary. -/
  ended : ∀ {latest labels later}, world.store.publications.rows.getLast? = some latest →
    latest.boundaryScheduledFor = FINAL_PERFORMANCE_BOUNDARY →
    performanceRecord.Run world labels later →
    later.store.publications = world.store.publications

/-- Every state that calls of the record reach is sound. -/
theorem soundRecord_of_reachable {world : PerformanceWorld}
    (h : performanceRecord.Reachable world) : SoundRecord world := by
  have hrecorded := recorded_of_reachable h
  refine {
    neverCorrupt := fun hrange herror => PerformanceCall.run_harmless hrecorded hrange herror
    increasing := hrecorded.increasing
    linked := hrecorded.chained.linked
    verified := ?_
    captured := ?_
    kept := fun hrun => (grown_of_run hrecorded hrun).2
    returned := fun hrange hpublish =>
      (publishLatestEligible_recorded hrecorded hrange hpublish).2.2
    proofKept := fun hverified hrun hlatest => latest_kept hrecorded hverified hrun hlatest
    unchanged := fun hlatest hnothing => publish_unchanged hrecorded hlatest hnothing
    grace := fun hfinal hgrace => publish_grace hrecorded hfinal hgrace
    final := fun hrange hafter => publish_final hrecorded hrange hafter
    ended := fun hlatest hboundary hrun =>
      publications_ended hrecorded hlatest hboundary hrun }
  · obtain ⟨latest, hverified, hget, -⟩ := hrecorded.latest
    exact ⟨latest, hverified, hget⟩
  · rintro left right hleft hright (hkey | hscheduled)
    · exact eq_of_boundaryKey hleft hright hkey
    · exact eq_of_scheduledFor hleft hright hscheduled

end Boundaries

section Rehearsed

open PerformanceRehearsal

attribute [local instance] boundaryDigest

/-- In the rehearsal an earlier boundary is published, and the record is sound. -/
theorem soundRecord_rehearsed : ∃ world : PerformanceWorld,
    world.store.publications.rows ≠ [] ∧ SoundRecord world := by
  obtain ⟨world, latest, hreach, -, hlatest, -⟩ := published_rehearsed
  exact ⟨world, List.ne_nil_of_mem (List.mem_of_getLast? hlatest),
    soundRecord_of_reachable hreach⟩

/-- In the rehearsal a publish in the grace period raises, though nothing is newer than the last
publication, and the proof of a last boundary whose measurement failed is an unknown one. -/
theorem grace_and_unknown_rehearsed :
    (∃ (world : PerformanceWorld) (latest : PerformancePublicationRow),
      performanceRecord.Reachable world ∧ world.clock ≤ FINAL_PERFORMANCE_BOUNDARY ∧
      world.store.publications.rows.getLast? = some latest ∧
      (∀ row ∈ world.store.snapshots.rows, row.scheduledFor ≤ latest.boundaryScheduledFor) ∧
      publishLatestEligible FINAL_PERFORMANCE_BOUNDARY world.store =
        .error (.noEligible "final capture grace period is active")) ∧
    ∃ (world : PerformanceWorld) (proof : CompetitionPerformanceProofResponse)
      (after : PerformanceStore) (point : PerformancePoint),
      performanceRecord.Reachable world ∧ world.clock ≤ FINAL_PUBLICATION_NOT_BEFORE ∧
      publishLatestEligible FINAL_PUBLICATION_NOT_BEFORE world.store = .ok (proof, after) ∧
      proof.point = some point ∧ point.status = .unknown := by
  constructor
  · obtain ⟨world, latest, hreach, hclock, hlatest, hold⟩ := published_rehearsed
    exact ⟨world, latest, hreach, hclock, hlatest, hold,
      publish_grace (recorded_of_reachable hreach) (Int.le_refl _) (by decide)⟩
  · obtain ⟨world, row, hreach, hclock, hpublications, hsnapshots, hboundary, hkey, hstatus,
      hshowable⟩ := captured_rehearsed
    have hfound : finalSnapshot world.store = some row := by
      rw [finalSnapshot, hsnapshots, List.find?_singleton, hboundary, hkey]
      rfl
    have houtcome : FinalOutcome FINAL_PUBLICATION_NOT_BEFORE world.store
        (publishLatestEligible FINAL_PUBLICATION_NOT_BEFORE world.store) :=
      publish_final (recorded_of_reachable hreach) (by decide) (Int.le_refl _)
    cases hpublish : publishLatestEligible FINAL_PUBLICATION_NOT_BEFORE world.store with
    | error failure =>
        rw [hpublish] at houtcome
        cases houtcome with
        | notShowable hfailure hrow hnot =>
            rw [hfound] at hrow
            cases hrow
            rw [hshowable] at hnot
            cases hnot
        | sentinelTaken htaken =>
            obtain ⟨sentinel, -, old, hold, hother, -⟩ := htaken
            rw [hsnapshots, List.mem_singleton] at hold
            exact absurd (hold ▸ hboundary) hother
        | publicationTaken hselect htaken =>
            obtain ⟨old, hold, -⟩ := htaken
            rw [hpublications] at hold
            exact absurd hold List.not_mem_nil
    | ok result =>
        obtain ⟨proof, after⟩ := result
        rw [hpublish] at houtcome
        cases houtcome with
        | published hproof hlast hfinal =>
            obtain ⟨point, hpoint, -, hsame⟩ := hproof
            refine ⟨world, proof, after, point, hreach, hclock, hpublish, hpoint, ?_⟩
            rw [hsame, finalStatus, hfound]
            exact hstatus

end Rehearsed

end AlphaDecay.Performance
