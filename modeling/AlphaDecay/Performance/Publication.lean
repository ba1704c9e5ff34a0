import AlphaDecay.Performance.Verification

/-!
# Runs of the performance record

`Recorded` says what every state of the record is: snapshots that passed their checks and are bound
to the one clean baseline, and publications in the order of their boundaries, each built from a
stored snapshot after the one before it. Every call keeps it, only ever appending rows, and where it
holds every publication is verified again.
-/

namespace AlphaDecay.Performance

open Foundation Table

section Chains

variable [Digest]

/-- A snapshot bound to the clean baseline of the account. -/
def BoundTo (db : Database) (row : PerformanceSnapshotRow) : Prop :=
  ∃ account baseline, db.account .submission = some account ∧
    db.baseline .submission = some baseline ∧
    row.accountFingerprint = account.accountFingerprint ∧
    row.submissionBaselineId = some baseline.baselineId ∧ row.baselineStatus = .clean

/-- Publications one after the other, each with the hash of the one before it. -/
def ChainFrom (store : PerformanceStore) : Option String → List PerformancePublicationRow → Prop
  | _, [] => True
  | predecessorHash, row :: rows =>
      (∃ snapshot ∈ store.snapshots.rows, ∃ proof,
        Published row predecessorHash snapshot proof) ∧
      ChainFrom store (some row.publicationHash) rows

/-- The hash that the next publication names after some others. -/
def lastHash (predecessorHash : Option String) (rows : List PerformancePublicationRow) :
    Option String :=
  (rows.getLast?.map (·.publicationHash)).or predecessorHash

structure Recorded (store : PerformanceStore) : Prop where
  clean : CleanBaseline store.db
  stored : ∀ row ∈ store.snapshots.rows, Stored row ∧ BoundTo store.db row
  increasing : store.publications.rows.Pairwise fun left right =>
    left.boundaryScheduledFor < right.boundaryScheduledFor
  chained : ChainFrom store none store.publications.rows
  bounded : ∀ row ∈ store.publications.rows,
    row.boundaryScheduledFor ≤ FINAL_PERFORMANCE_BOUNDARY

variable {store after : PerformanceStore} {now : Int}
variable {predecessorHash : Option String} {row : PerformancePublicationRow}
  {rows : List PerformancePublicationRow}

omit [Digest] in
/-- The hash named after one more publication is the hash of it. -/
theorem lastHash_cons (predecessorHash : Option String) (row : PerformancePublicationRow)
    (rows : List PerformancePublicationRow) :
    lastHash predecessorHash (row :: rows) = lastHash (some row.publicationHash) rows := by
  cases rows with
  | nil => rfl
  | cons next rows =>
      have hsome : ∃ last, (next :: rows).getLast? = some last :=
        ⟨_, List.getLast?_eq_some_getLast (List.cons_ne_nil next rows)⟩
      obtain ⟨last, hlast⟩ := hsome
      rw [lastHash, lastHash, List.getLast?_cons_cons, hlast]
      rfl

/-- A chain stands when snapshots are added. -/
theorem ChainFrom.mono (h : ChainFrom store predecessorHash rows)
    (hsnapshots : store.snapshots.rows ⊆ after.snapshots.rows) :
    ChainFrom after predecessorHash rows := by
  induction rows generalizing predecessorHash with
  | nil => trivial
  | cons row rows ih =>
      obtain ⟨⟨snapshot, hmem, hpublished⟩, hrest⟩ := h
      exact ⟨⟨snapshot, hsnapshots hmem, hpublished⟩, ih hrest⟩

/-- A chain goes on with a publication that names its last one. -/
theorem ChainFrom.concat (h : ChainFrom store predecessorHash rows)
    (hrow : ∃ snapshot ∈ store.snapshots.rows, ∃ proof,
      Published row (lastHash predecessorHash rows) snapshot proof) :
    ChainFrom store predecessorHash (rows ++ [row]) := by
  induction rows generalizing predecessorHash with
  | nil => exact ⟨hrow, trivial⟩
  | cons first rows ih =>
      rw [lastHash_cons] at hrow
      exact ⟨h.1, ih h.2 hrow⟩

theorem ChainFrom.published (h : ChainFrom store predecessorHash rows) :
    ∀ row ∈ rows, ∃ predecessor, ∃ snapshot ∈ store.snapshots.rows, ∃ proof,
      Published row predecessor snapshot proof := by
  induction rows generalizing predecessorHash with
  | nil => exact fun row hrow => absurd hrow List.not_mem_nil
  | cons first rows ih =>
      intro row hrow
      rcases List.mem_cons.mp hrow with rfl | hrest
      · exact ⟨predecessorHash, h.1⟩
      · exact ih h.2 row hrest

omit [Digest] in
theorem snapshot_of_mem {row : PerformanceSnapshotRow} (h : row ∈ store.snapshots.rows) :
    store.snapshot row.snapshotId = some row := by
  refine lookup_of_mem (store.snapshots.unique fun left right hclash => ?_) h
  simp only [snapshotSchema, Bool.or_eq_false_iff] at hclash
  simpa [clashOn] using hclash.1.1.1

omit [Digest] in
/-- A boundary has one snapshot. -/
theorem eq_of_scheduledFor {left right : PerformanceSnapshotRow}
    (hleft : left ∈ store.snapshots.rows) (hright : right ∈ store.snapshots.rows)
    (h : left.scheduledFor = right.scheduledFor) : left = right := by
  have hunique : Unique (fun row => some row.scheduledFor) store.snapshots.rows := by
    refine store.snapshots.unique fun left right hclash => ?_
    simp only [snapshotSchema, Bool.or_eq_false_iff] at hclash
    simpa [clashOn] using hclash.1.2
  exact hunique.eq hleft hright rfl (congrArg some h.symm)

/-- The publications of a chain are verified one after the other. -/
theorem verifyPublications_chained
    {latest : Option (PerformancePublicationRow × CompetitionPerformanceProofResponse)}
    (h : ChainFrom store (latest.bind (·.2.publicationHash)) rows) :
    ∃ verified, verifyPublications store latest rows = .ok verified ∧
      (rows = [] ∧ verified = latest ∨
        ∃ row predecessor snapshot proof, rows.getLast? = some row ∧
          verified = some (row, proof) ∧ snapshot ∈ store.snapshots.rows ∧
          Published row predecessor snapshot proof) := by
  induction rows generalizing latest with
  | nil => exact ⟨latest, rfl, Or.inl ⟨rfl, rfl⟩⟩
  | cons row rows ih =>
      obtain ⟨⟨snapshot, hmem, proof, hpublished⟩, hrest⟩ := h
      have hid : row.snapshotId = snapshot.snapshotId :=
        congrArg (·.snapshotId) hpublished.2.2.1
      have hverified := verifyPublication_published hpublished
      have hnext : ChainFrom store
          ((some (row, proof)).bind (·.2.publicationHash)) rows := by
        rw [Option.bind_some, hpublished.hash]
        exact hrest
      obtain ⟨verified, hrun, hlast⟩ := ih hnext
      refine ⟨verified, ?_, Or.inr ?_⟩
      · rw [verifyPublications, hid, snapshot_of_mem hmem, require_some, ok_bind, hverified,
          ok_bind, hrun]
      · rcases hlast with ⟨rfl, rfl⟩ | ⟨last, predecessor, source, lastProof, hget, rfl, hsource⟩
        · exact ⟨row, _, snapshot, proof, rfl, rfl, hmem, hpublished⟩
        · refine ⟨last, predecessor, source, lastProof, ?_, rfl, hsource⟩
          rw [List.getLast?_cons, hget]
          rfl

def LatestOf (store : PerformanceStore)
    (latest : Option (PerformancePublicationRow × CompetitionPerformanceProofResponse)) : Prop :=
  latest.map (·.1) = store.publications.rows.getLast? ∧
    ∀ row proof, latest = some (row, proof) →
      ∃ predecessor, ∃ snapshot ∈ store.snapshots.rows,
        Published row predecessor snapshot proof

theorem Recorded.latest (h : Recorded store) :
    ∃ latest, latestVerifiedPublication store = .ok latest ∧ LatestOf store latest := by
  have horder : store.publicationsInOrder = store.publications.rows :=
    orderBy_eq_self (h.increasing.imp Int.le_of_lt)
  obtain ⟨latest, hrun, hlast⟩ := @verifyPublications_chained _ store _ none h.chained
  refine ⟨latest, by rw [latestVerifiedPublication, horder, hrun], ?_⟩
  rcases hlast with ⟨hnone, rfl⟩ | ⟨row, predecessor, snapshot, proof, hget, rfl, hpublished⟩
  · exact ⟨by rw [hnone]; rfl, fun row proof heq => by cases heq⟩
  · refine ⟨hget.symm, fun row' proof' heq => ?_⟩
    cases heq
    exact ⟨predecessor, snapshot, hpublished⟩

end Chains

/-! ## What a call does -/

variable [Digest] {store after : PerformanceStore} {now : Int}
variable {predecessorHash : Option String} {row : PerformancePublicationRow}
  {rows : List PerformancePublicationRow}
variable {proof : CompetitionPerformanceProofResponse}

variable {snapshot : PerformanceSnapshot}

/-- Tables that only grew. -/
structure Grown (store after : PerformanceStore) : Prop where
  db : after.db = store.db
  snapshots : store.snapshots.rows <+: after.snapshots.rows
  publications : store.publications.rows <+: after.publications.rows

omit [Digest] in
theorem Grown.refl (store : PerformanceStore) : Grown store store :=
  ⟨rfl, List.prefix_rfl, List.prefix_rfl⟩

omit [Digest] in
theorem Grown.trans {middle : PerformanceStore} (hfirst : Grown store middle)
    (hsecond : Grown middle after) : Grown store after :=
  ⟨hsecond.db.trans hfirst.db, hfirst.snapshots.trans hsecond.snapshots,
    hfirst.publications.trans hsecond.publications⟩

theorem Recorded.withSnapshot (h : Recorded store) {row : PerformanceSnapshotRow}
    (hstored : Stored row) (hbound : BoundTo store.db row)
    {snapshots : Checked snapshotSchema} (hinsert : store.snapshots.insert row = some snapshots) :
    Recorded { store with snapshots } ∧ Grown store { store with snapshots } := by
  have hrows : snapshots.rows = store.snapshots.rows ++ [row] := Checked.rows_insert hinsert
  constructor
  · refine { h with stored := ?_, chained := h.chained.mono ?_ }
    · intro other hother
      rw [hrows, List.mem_append, List.mem_singleton] at hother
      rcases hother with hold | rfl
      · exact h.stored other hold
      · exact ⟨hstored, hbound⟩
    · rw [hrows]
      exact List.subset_append_left _ _
  · refine { Grown.refl store with snapshots := ?_ }
    rw [hrows]
    exact List.prefix_append _ _

omit [Digest] in
/-- The authority over a snapshot is the clean baseline. -/
theorem authoritativeBaseline_clean (h : CleanBaseline store.db) :
    ∃ account baseline, store.db.account .submission = some account ∧
      store.db.baseline .submission = some baseline ∧
      isHash account.accountFingerprint = true ∧
      authoritativeBaseline store =
        .ok (some baseline.baselineId, .clean, account.accountFingerprint) := by
  obtain ⟨account, baseline, haccount, hbaseline, hfingerprint, -, hclean, hhash⟩ := h
  refine ⟨account, baseline, haccount, hbaseline, hhash, ?_⟩
  simp [authoritativeBaseline, haccount, hbaseline, hfingerprint, hclean, raiseIf]

/-! ### Appending -/

omit [Digest] in
/-- A snapshot that passes the checks of the account is bound to its baseline. -/
theorem validateSnapshotAuthority_bound (h : CleanBaseline store.db)
    (hvalid : validateSnapshotAuthority store snapshot = .ok ()) :
    BoundTo store.db (snapshotRow snapshot) := by
  obtain ⟨account, baseline, haccount, hbaseline, -, hauthority⟩ := authoritativeBaseline_clean h
  rw [validateSnapshotAuthority, hauthority, ok_bind] at hvalid
  simp only [check_bind_ok, raiseIf_ok, bne_eq_false_iff_eq] at hvalid
  obtain ⟨hfingerprint, hid, hstatus, -⟩ := hvalid
  exact ⟨account, baseline, haccount, hbaseline, hfingerprint, hid, hstatus⟩

/-- A snapshot is appended to a record, or is there already. -/
theorem appendSnapshot_recorded (h : Recorded store)
    (happend : appendSnapshot snapshot store = .ok after) : Recorded after ∧ Grown store after := by
  unfold appendSnapshot at happend
  obtain ⟨expected, hcreate, happend⟩ := bind_ok.mp happend
  simp only [check_bind_ok, raiseIf_ok, bne_eq_false_iff_eq] at happend
  obtain ⟨hhash, hvalid, hinsert⟩ := happend
  have hbound := validateSnapshotAuthority_bound h.clean hvalid
  have hstored : Stored (snapshotRow snapshot) := by
    obtain ⟨hcheck, -, hmaterial⟩ := PerformanceSnapshot.create_ok.mp hcreate
    exact ⟨snapshot, PerformanceSnapshot.create_ok.mpr ⟨hcheck, rfl, hhash.symm.trans hmaterial⟩,
      rfl⟩
  unfold insertSnapshot at hinsert
  dsimp only at hinsert
  split at hinsert
  · split at hinsert
    · cases hinsert
      exact ⟨h, Grown.refl store⟩
    · split at hinsert <;> cases hinsert
  · obtain ⟨snapshots, hsnapshots, hafter⟩ := require_bind_ok.mp hinsert
    cases hafter
    exact h.withSnapshot hstored hbound hsnapshots

/-! ### The last boundary -/

omit [Digest] in
/-- The point of the sentinel is coherent. -/
theorem sentinel_coherent (hrange : Calendar.InRange now)
    (hafter : FINAL_PERFORMANCE_BOUNDARY ≤ now) : (sentinelFields now).check = .ok () := by
  have hfinal : Calendar.InRange FINAL_PERFORMANCE_BOUNDARY := by decide
  have hfits : (sentinelFields now).fits = true := by
    simp [PointFields.fits, sentinelFields, hfinal, hrange]
  have hnot : ¬now < FINAL_PERFORMANCE_BOUNDARY := by omega
  unfold PointFields.check
  rw [hfits]
  simp [sentinelFields, PointFields.exposesValues, raiseIf, hnot]

/-- The sentinel is a stored snapshot of the last boundary, which says that nothing was captured
there. -/
theorem sentinelSnapshot_ok (h : CleanBaseline store.db) (hrange : Calendar.InRange now)
    (hafter : FINAL_PERFORMANCE_BOUNDARY ≤ now) :
    ∃ sentinel, sentinelSnapshot now store = .ok sentinel ∧ Stored (snapshotRow sentinel) ∧
      BoundTo store.db (snapshotRow sentinel) ∧
      sentinel.boundaryKey = FINAL_PERFORMANCE_BOUNDARY_KEY ∧
      sentinel.point.toPointFields = sentinelFields now ∧
      sentinel.manifestHashes = [none, none, none] ∧
      isHash sentinel.accountFingerprint = true := by
  obtain ⟨account, baseline, haccount, hbaseline, hhash, hauthority⟩ :=
    authoritativeBaseline_clean h
  let point : PerformancePoint :=
    { toPointFields := sentinelFields now, coherent := sentinel_coherent hrange hafter }
  let fields : SnapshotFields :=
    { snapshotId := Digest.uuid5 FINAL_PERFORMANCE_BOUNDARY_KEY
      submissionBaselineId := some baseline.baselineId
      boundaryKey := FINAL_PERFORMANCE_BOUNDARY_KEY
      point
      baselineStatus := .clean
      accountFingerprint := account.accountFingerprint
      positionsManifestHash := none
      ordersManifestHash := none
      activitiesManifestHash := none }
  let sentinel : PerformanceSnapshot :=
    { toSnapshotFields := fields, snapshotHash := canonicalHash fields.material }
  have hpoint : PerformancePoint.ofFields (sentinelFields now) = .ok point :=
    PerformancePoint.ofFields_eq point
  have hcheck : fields.check = .ok () := by
    have hkey : (FINAL_PERFORMANCE_BOUNDARY_KEY == "") = false := by decide
    simp [SnapshotFields.check, SnapshotFields.manifestHashes, fields, point, sentinelFields, hhash,
      hkey, raiseIf]
  have hcreate : PerformanceSnapshot.create fields = .ok sentinel :=
    PerformanceSnapshot.create_ok.mpr ⟨hcheck, rfl, rfl⟩
  refine ⟨sentinel, ?_, ⟨sentinel, hcreate, rfl⟩,
    ⟨account, baseline, haccount, hbaseline, rfl, rfl, rfl⟩, rfl, rfl, rfl, hhash⟩
  rw [sentinelSnapshot, hauthority, ok_bind, hpoint]
  exact hcreate

/-! ### Selecting -/

/-- What is selected from a record: nothing, or a stored snapshot of a boundary that has come, is
no later than the last one, and is later than that of the latest publication. The table of
snapshots may have got the sentinel. -/
structure Selected (store : PerformanceStore) (now : Int)
    (latest : Option PerformancePublicationRow) (selected : Option PerformanceSnapshotRow)
    (selecting : PerformanceStore) : Prop where
  recorded : Recorded selecting
  grown : Grown store selecting
  unpublished : selecting.publications = store.publications
  eligible : ∀ row ∈ selected, row ∈ selecting.snapshots.rows ∧ row.scheduledFor ≤ now ∧
    row.scheduledFor ≤ FINAL_PERFORMANCE_BOUNDARY ∧
    ∀ prior ∈ latest, prior.boundaryScheduledFor < row.scheduledFor

omit [Digest] in
theorem finalSnapshot_some {row : PerformanceSnapshotRow} (h : finalSnapshot store = some row) :
    row ∈ store.snapshots.rows ∧ row.scheduledFor = FINAL_PERFORMANCE_BOUNDARY := by
  have hfound := List.find?_some h
  simp only [Bool.and_eq_true, beq_iff_eq] at hfound
  exact ⟨List.mem_of_find?_eq_some h, hfound.2⟩

theorem Recorded.snapshotId_eq (h : Recorded store) {prior : PerformancePublicationRow}
    (hprior : prior ∈ store.publications.rows) {row : PerformanceSnapshotRow}
    (hrow : row ∈ store.snapshots.rows) (heq : prior.boundaryScheduledFor = row.scheduledFor) :
    prior.snapshotId = row.snapshotId := by
  obtain ⟨predecessor, snapshot, hmem, proof, hpublished⟩ := h.chained.published prior hprior
  have hid : prior.snapshotId = snapshot.snapshotId := congrArg (·.snapshotId) hpublished.2.2.1
  have hboundary : prior.boundaryScheduledFor = snapshot.scheduledFor :=
    congrArg (·.boundaryScheduledFor) hpublished.2.2.1
  rw [hid, eq_of_scheduledFor hmem hrow (hboundary.symm.trans heq)]

theorem selectSnapshot_recorded (h : Recorded store) (hrange : Calendar.InRange now)
    {latest : Option PerformancePublicationRow}
    (hlatest : latest = store.publications.rows.getLast?)
    {selected : Option PerformanceSnapshotRow} {selecting : PerformanceStore}
    (hselect : selectSnapshot now latest store = .ok (selected, selecting)) :
    Selected store now latest selected selecting := by
  have hmember : ∀ prior ∈ latest, prior ∈ store.publications.rows := by
    intro prior hprior
    rw [hlatest] at hprior
    exact List.mem_of_getLast? hprior
  unfold selectSnapshot at hselect
  split at hselect
  · rename_i hfinal
    rw [check_bind_ok] at hselect
    obtain ⟨-, hselect⟩ := hselect
    obtain ⟨⟨row, _⟩, hrow, hselect⟩ := bind_ok.mp hselect
    cases hselect
    obtain ⟨hrecorded, hgrown, hsame, hmem, hboundary⟩ : Recorded selecting ∧
      Grown store selecting ∧
        selecting.publications = store.publications ∧ row ∈ selecting.snapshots.rows ∧
        row.scheduledFor = FINAL_PERFORMANCE_BOUNDARY := by
      unfold finalOrSentinel at hrow
      cases hfound : finalSnapshot store with
      | some found =>
          rw [hfound] at hrow
          cases hrow
          obtain ⟨hmem, hboundary⟩ := finalSnapshot_some hfound
          exact ⟨h, Grown.refl store, rfl, hmem, hboundary⟩
      | none =>
          rw [hfound] at hrow
          obtain ⟨sentinel, hsentinel, hstored, hbound, -, hpoint, -⟩ :=
            sentinelSnapshot_ok h.clean hrange hfinal
          have hrow' : insertSentinel now store = .ok (row, selecting) := hrow
          rw [insertSentinel, hsentinel, ok_bind] at hrow'
          obtain ⟨snapshots, hinsert, hafter⟩ := require_bind_ok.mp hrow'
          cases hafter
          obtain ⟨hrecorded, hgrown⟩ := h.withSnapshot hstored hbound hinsert
          refine ⟨hrecorded, hgrown, rfl, ?_, congrArg (·.scheduledFor) hpoint⟩
          rw [Checked.rows_insert hinsert]
          exact List.mem_append_right _ (List.mem_singleton_self _)
    refine ⟨hrecorded, hgrown, hsame, fun other hother => ?_⟩
    split at hother
    · cases hother
    · rename_i hnew
      cases hother
      refine ⟨hmem, by omega, by omega, fun prior hprior => ?_⟩
      have hpublished := hmember prior hprior
      rcases Int.lt_or_eq_of_le (h.bounded prior hpublished) with hless | heq
      · omega
      · -- a publication of the last boundary is that of this snapshot, which was not selected then
        have hsource : prior ∈ selecting.publications.rows := by
          rw [hsame]
          exact hpublished
        have hid := hrecorded.snapshotId_eq hsource hmem (heq.trans hboundary.symm)
        rw [Option.mem_def.mp hprior] at hnew
        exact absurd (beq_iff_eq.mpr hid) hnew
  · rename_i hfinal
    cases hselect
    refine ⟨h, Grown.refl store, rfl, fun row hrow => ?_⟩
    have hmem := List.mem_of_getLast? hrow
    rw [eligibleSnapshots, mem_orderBy, List.mem_filter] at hmem
    simp only [Bool.and_eq_true, decide_eq_true_eq] at hmem
    obtain ⟨hstored, htime, hlater⟩ := hmem
    refine ⟨hstored, htime, by omega, fun prior hprior => ?_⟩
    rw [Option.mem_def.mp hprior] at hlater
    simpa using hlater

/-! ### Publishing -/

/-- A snapshot that is bound to the clean baseline may be published. -/
theorem validatePublicationAuthority_bound (h : CleanBaseline store.db)
    {row : PerformanceSnapshotRow} (hstored : Stored row) (hbound : BoundTo store.db row) :
    validatePublicationAuthority store row = .ok () := by
  obtain ⟨account, baseline, haccount, hbaseline, hfingerprint, hequity, hclean, -⟩ := h
  obtain ⟨account', baseline', haccount', hbaseline', hrow, hid, hstatus⟩ := hbound
  obtain rfl : account' = account := Option.some.inj (haccount'.symm.trans haccount)
  obtain rfl : baseline' = baseline := Option.some.inj (hbaseline'.symm.trans hbaseline)
  have hrole : row.accountRole = .submission := by
    obtain ⟨snapshot, -, rfl⟩ := hstored
    rfl
  simp [validatePublicationAuthority, haccount, hbaseline, hfingerprint, hequity, hclean, hrole,
    hrow, hid, hstatus]

/-- Publishing a stored snapshot reads a proof of its fields and inserts its row. -/
theorem publishSnapshot_eq (h : CleanBaseline store.db) {row : PerformanceSnapshotRow}
    (hstored : Stored row) (hbound : BoundTo store.db row) {point : PerformancePoint}
    (hpayload : row.pointPayload = point.document) (hrange : Calendar.InRange now)
    (predecessorHash : Option String) :
    publishSnapshot now predecessorHash row store =
      (CompetitionPerformanceProofResponse.ofFields
        (publishedFields row point now predecessorHash) >>= fun proof =>
      require (store.publications.insert (publicationRow row now predecessorHash))
        .integrity >>= fun publications => .ok (proof, { store with publications })) := by
  have hread := @readProof_payload _ row point now predecessorHash hpayload hrange
  have hbuild : buildPublication row now predecessorHash =
      (CompetitionPerformanceProofResponse.ofFields
        (publishedFields row point now predecessorHash) >>= fun proof =>
      .ok (proof, canonicalHash (.object (projection row now)),
        Json.canonicalText true proof.document)) := by
    rw [← hread]
    rfl
  rw [publishSnapshot, validatePublicationAuthority_bound h hstored hbound, ok_bind,
    verifySnapshotRow_stored hstored, ok_bind, hbuild]
  cases hproof : CompetitionPerformanceProofResponse.ofFields
      (publishedFields row point now predecessorHash) with
  | error failure => rfl
  | ok proof =>
      have hfields := ofFields_ok.mp hproof
      have hdocument : proof.document = payloadDocument row now predecessorHash := by
        rw [hfields, document_publishedFields hpayload]
      simp only [ok_bind, hdocument]
      rw [hfields]
      rfl

omit [Digest] in
/-- A boundary after the latest one is after all of them. -/
theorem Recorded.lt_of_last {boundary : Int}
    (hincreasing : rows.Pairwise fun left right =>
      left.boundaryScheduledFor < right.boundaryScheduledFor)
    (hlast : ∀ prior ∈ rows.getLast?, prior.boundaryScheduledFor < boundary) :
    ∀ row ∈ rows, row.boundaryScheduledFor < boundary := by
  intro row hrow
  obtain ⟨last, hget⟩ : ∃ last, rows.getLast? = some last :=
    ⟨_, List.getLast?_eq_some_getLast (List.ne_nil_of_mem hrow)⟩
  obtain ⟨before, rfl⟩ := List.getLast?_eq_some_iff.mp hget
  have hless := hlast last hget
  rcases List.mem_append.mp hrow with hbefore | hself
  · have hpair := (List.pairwise_append.mp hincreasing).2.2 row hbefore last
      (List.mem_singleton_self last)
    omega
  · rw [List.mem_singleton.mp hself]
    exact hless

theorem publishSnapshot_recorded (h : Recorded store) (hrange : Calendar.InRange now)
    {row : PerformanceSnapshotRow} (hmem : row ∈ store.snapshots.rows)
    (hfinal : row.scheduledFor ≤ FINAL_PERFORMANCE_BOUNDARY)
    (hlater : ∀ prior ∈ store.publications.rows.getLast?,
      prior.boundaryScheduledFor < row.scheduledFor)
    (hpublish : publishSnapshot now (lastHash none store.publications.rows) row store =
      .ok (proof, after)) :
    Recorded after ∧ Grown store after ∧ after.snapshots = store.snapshots ∧
      ∃ published, after.publications.rows = store.publications.rows ++ [published] ∧
        Published published (lastHash none store.publications.rows) row proof := by
  obtain ⟨hstored, hbound⟩ := h.stored row hmem
  obtain ⟨point, hpayload, -, -⟩ := hstored.payload
  rw [publishSnapshot_eq h.clean hstored hbound hpayload hrange] at hpublish
  obtain ⟨built, hproof, hpublish⟩ := bind_ok.mp hpublish
  obtain ⟨publications, hinsert, hafter⟩ := require_bind_ok.mp hpublish
  cases hafter
  have hrows := Checked.rows_insert hinsert
  have hpublished : Published (publicationRow row now (lastHash none store.publications.rows))
      (lastHash none store.publications.rows) row proof :=
    ⟨hstored, hrange, rfl, (readProof_payload hpayload hrange).trans hproof⟩
  refine ⟨{ clean := h.clean, stored := h.stored, increasing := ?_, chained := ?_, bounded := ?_ },
    { Grown.refl store with publications := ?_ }, rfl, _, hrows, hpublished⟩
  · rw [hrows, List.pairwise_append]
    refine ⟨h.increasing, List.pairwise_singleton _ _, fun prior hprior next hnext => ?_⟩
    rw [List.mem_singleton.mp hnext]
    exact Recorded.lt_of_last h.increasing hlater prior hprior
  · rw [hrows]
    exact (h.chained.concat ⟨row, hmem, proof, hpublished⟩).mono (List.Subset.refl _)
  · intro other hother
    rw [hrows, List.mem_append, List.mem_singleton] at hother
    rcases hother with hold | rfl
    · exact h.bounded other hold
    · exact hfinal
  · rw [hrows]
    exact List.prefix_append _ _

theorem Published.unique {left right : Option String} {source target : PerformanceSnapshotRow}
    {other : CompetitionPerformanceProofResponse} (hleft : Published row left source proof)
    (hright : Published row right target other) (hsource : source ∈ store.snapshots.rows)
    (htarget : target ∈ store.snapshots.rows) : proof = other := by
  obtain ⟨-, -, hrow, hread⟩ := hleft
  obtain ⟨-, -, hrow', hread'⟩ := hright
  have hpredecessor : row.predecessorHash = left := congrArg (·.predecessorHash) hrow
  have hpredecessor' : row.predecessorHash = right := congrArg (·.predecessorHash) hrow'
  have hboundary : row.boundaryScheduledFor = source.scheduledFor :=
    congrArg (·.boundaryScheduledFor) hrow
  have hboundary' : row.boundaryScheduledFor = target.scheduledFor :=
    congrArg (·.boundaryScheduledFor) hrow'
  obtain rfl : source = target :=
    eq_of_scheduledFor hsource htarget (hboundary.symm.trans hboundary')
  obtain rfl : left = right := hpredecessor.symm.trans hpredecessor'
  exact Except.ok.inj (hread.symm.trans hread')

theorem Recorded.latest_eq (h : Recorded store) {snapshot : PerformanceSnapshotRow}
    (hlast : store.publications.rows.getLast? = some row) (hmem : snapshot ∈ store.snapshots.rows)
    (hpublished : Published row predecessorHash snapshot proof) :
    latestVerifiedPublication store = .ok (some (row, proof)) := by
  obtain ⟨latest, hrun, hget, hproof⟩ := h.latest
  rw [hlast] at hget
  obtain ⟨⟨last, other⟩, rfl, heq⟩ := Option.map_eq_some_iff.mp hget
  obtain rfl : last = row := heq
  obtain ⟨predecessor, source, hsource, hother⟩ := hproof last other rfl
  rw [hrun, hother.unique hpublished hsource hmem]

/-- A publish of a record returns the proof of its latest publication, and leaves a record that
only grew. -/
theorem publishLatestEligible_recorded (h : Recorded store) (hrange : Calendar.InRange now)
    (hpublish : publishLatestEligible now store = .ok (proof, after)) :
    Recorded after ∧ Grown store after ∧
      ∃ row, latestVerifiedPublication after = .ok (some (row, proof)) := by
  obtain ⟨latest, hlatest, hget, hproof⟩ := h.latest
  unfold publishLatestEligible at hpublish
  rw [hlatest, ok_bind] at hpublish
  obtain ⟨⟨selected, selecting⟩, hselect, hpublish⟩ := bind_ok.mp hpublish
  obtain ⟨hrecorded, hgrown, hsame, heligible⟩ := selectSnapshot_recorded h hrange hget hselect
  have hhash : latest.map (·.1.publicationHash) = lastHash none selecting.publications.rows := by
    rw [lastHash, hsame, ← hget, Option.map_map, Option.or_none]
    rfl
  cases selected with
  | none =>
      cases latest with
      | none => cases hpublish
      | some last =>
          cases hpublish
          obtain ⟨predecessor, snapshot, hmem, hpublished⟩ := hproof last.1 last.2 rfl
          refine ⟨hrecorded, hgrown, last.1, hrecorded.latest_eq ?_
            (hgrown.snapshots.subset hmem) hpublished⟩
          rw [hsame, ← hget]
          rfl
  | some row =>
      obtain ⟨hmem, -, hfinal, hlater⟩ := heligible row rfl
      rw [hget, ← hsame] at hlater
      simp only [hhash] at hpublish
      obtain ⟨hrecorded', hgrown', hsnapshots, published, hrows, hpublished⟩ :=
        publishSnapshot_recorded hrecorded hrange hmem hfinal hlater hpublish
      refine ⟨hrecorded', hgrown.trans hgrown', published, hrecorded'.latest_eq ?_ ?_ hpublished⟩
      · rw [hrows, List.getLast?_concat]
      · rw [hsnapshots]
        exact hmem

end AlphaDecay.Performance
