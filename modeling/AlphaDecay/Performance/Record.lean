import AlphaDecay.Performance.Publication

/-!
# The record over whole runs

Every state that calls of the record can reach is `Recorded`, so no call ever finds the record
corrupt, snapshots and publications are only ever appended, and a publish without anything new
returns the last proof. From the last boundary on, the first publish that succeeds is the last
publication of all.
-/

namespace AlphaDecay.Performance

open Foundation Table

variable [Digest] {store after : PerformanceStore} {now : Int}
variable {failure : PerformanceFailure} {row : PerformanceSnapshotRow}
  {snapshot : PerformanceSnapshot}

variable {predecessorHash : Option String} {rows : List PerformancePublicationRow}
  {sentinel : PerformanceSnapshot}

/-! ## What can be shown -/

/-- A stored snapshot can be shown: it was measured, or attempted, by then, and a complete one has
the values that are normalized by the baseline. -/
def PerformanceSnapshotRow.showable (now : Int) (row : PerformanceSnapshotRow) : Bool :=
  decide (row.measuredAt.getD row.attemptedAt ≤ now) &&
    (row.measurementStatus != .complete || row.accountEquityChange.isSome)

omit [Digest] in
theorem isMoney_fits {d : Decimal} (h : isMoney d = true) :
    ∃ same : Decimal, same.value = d.value ∧ same.Fits := by
  simp only [isMoney, fitsDigits, Bool.and_eq_true, beq_iff_eq, decide_eq_true_eq] at h
  exact Decimal.exists_fits h.1 h.2 (by decide)

omit [Digest] in
/-- The normalized values that the constraint of the table admits are those of a clean proof. -/
theorem normalizedValuesFit_admitted {point : PerformancePoint} {equity change percent : Decimal}
    (hequity : point.currentEquityUsd = some equity)
    (hchange : point.accountEquityChangeUsd = some change)
    (hpercent : point.accountEquityReturnPct = some percent)
    (hmath : change.value = equity.value - 100000 ∧ percent.value * 1000 = change.value)
    (hmoney : isMoney change = true) : normalizedValuesFit point.reread = .ok () := by
  obtain ⟨same, hsame, hfits⟩ := isMoney_fits hmoney
  have hexpected : (reread equity - Decimal.ofInt 100000).value = change.value := by
    obtain ⟨exact, hvalue, hround⟩ := Decimal.value_sub (reread equity) (Decimal.ofInt 100000)
    have heq : exact.value = same.value := by
      rw [hvalue, value_reread, Decimal.value_ofInt, hsame, hmath.1]
      norm_num
    rw [hround, Decimal.value_round_of_fits heq hfits, hsame]
  have hproduct : (reread percent * Decimal.ofInt 1000).value = change.value := by
    obtain ⟨exact, hvalue, hround⟩ := Decimal.value_mul (reread percent) (Decimal.ofInt 1000)
    have heq : exact.value = same.value := by
      rw [hvalue, value_reread, Decimal.value_ofInt, hsame, ← hmath.2]
      norm_num
    rw [hround, Decimal.value_round_of_fits heq hfits, hsame]
  have hfields : normalizedValuesFit point.reread =
      raiseIf (reread change != reread equity - Decimal.ofInt 100000 ||
        reread percent * Decimal.ofInt 1000 != reread equity - Decimal.ofInt 100000)
        (.validation "clean proof normalized values are inconsistent") := by
    simp only [normalizedValuesFit, PerformancePoint.reread, PointFields.reread, hequity, hchange,
      hpercent, Option.map_some]
  rw [hfields, raiseIf_ok, Bool.or_eq_false_iff]
  constructor
  · rw [bne, Bool.not_eq_false', Decimal.beq_iff_value, value_reread, hexpected]
  · rw [bne, Bool.not_eq_false', Decimal.beq_iff_value, hproduct, hexpected]

omit [Digest] in
theorem Condition.admits_normal (left right : Bool) :
    (Condition.either (.both (.known true) (.both (.known left) (.known right)))
      (.both (.known false) (.known false))).admits = (left && right) := by
  cases left <;> cases right <;> rfl

omit [Digest] in
/-- The condition on the normalized values of a clean and complete row. -/
theorem baselineMath_normal {equity change percent : Decimal} (hclean : row.baselineStatus = .clean)
    (hcomplete : row.measurementStatus = .complete) (hequity : row.currentEquity = some equity)
    (hchange : row.accountEquityChange = some change)
    (hpercent : row.accountEquityReturnPct = some percent) :
    row.baselineMath.admits =
      (change.value == equity.value - 100000 && percent.value * 1000 == change.value) := by
  rw [PerformanceSnapshotRow.baselineMath, hclean, hcomplete, hequity, hchange, hpercent]
  exact Condition.admits_normal _ _

omit [Digest] in
/-- A complete point that the constraints of the table admit, with a normalized change, has the
values of a clean proof. -/
theorem normalizedValuesFit_row (hclean : snapshot.baselineStatus = .clean)
    (hcomplete : snapshot.point.status = .complete)
    (hchange : snapshot.point.accountEquityChangeUsd.isSome = true)
    (hmath : (snapshotRow snapshot).baselineMath.admits = true) :
    normalizedValuesFit snapshot.point.reread = .ok () := by
  have hcoherent := snapshot.point.coherent
  have hfits := snapshot.point.fits
  unfold PointFields.check at hcoherent
  simp only [hcomplete, check_bind_ok, raiseIf_ok, Bool.or_eq_false_iff] at hcoherent
  obtain ⟨-, -, ⟨-, hequity⟩, -, hboth⟩ := hcoherent
  obtain ⟨change, hchange⟩ := Option.isSome_iff_exists.mp hchange
  obtain ⟨equity, hequity⟩ : ∃ equity, snapshot.point.currentEquityUsd = some equity := by
    exact Option.isSome_iff_exists.mp (by simpa using hequity)
  obtain ⟨percent, hpercent⟩ : ∃ percent, snapshot.point.accountEquityReturnPct = some percent := by
    exact Option.isSome_iff_exists.mp (by simpa [hchange] using hboth)
  have hmoney : isMoney change = true := by
    simp only [PointFields.fits, hchange, Bool.and_eq_true, Option.all_some] at hfits
    exact hfits.1.1.1.2
  refine normalizedValuesFit_admitted hequity hchange hpercent ?_ hmoney
  rw [baselineMath_normal hclean hcomplete hequity hchange hpercent, Bool.and_eq_true, beq_iff_eq,
    beq_iff_eq] at hmath
  exact hmath

/-- A snapshot that can be shown is published with a proof. -/
theorem ofFields_showable (hclean : snapshot.baselineStatus = .clean)
    (hcheck : snapshotSchema.check (snapshotRow snapshot) = true) (hrange : Calendar.InRange now)
    (hpredecessor : predecessorHash.all isHash = true)
    (hshowable : (snapshotRow snapshot).showable now = true) :
    ∃ proof, CompetitionPerformanceProofResponse.ofFields
      (publishedFields (snapshotRow snapshot) snapshot.point now predecessorHash) = .ok proof := by
  simp only [PerformanceSnapshotRow.showable, Bool.and_eq_true, decide_eq_true_eq] at hshowable
  obtain ⟨htime, hvalues⟩ := hshowable
  have hmath : (snapshotRow snapshot).baselineMath.admits = true := by
    simp only [snapshotSchema, Bool.and_eq_true] at hcheck
    exact hcheck.1.1.1.1.1.1.2
  have hpoint : checkPublishedPoint .clean now snapshot.point.reread [] = .ok () := by
    have hlate : ¬now < snapshot.point.reread.measuredAt.getD snapshot.point.reread.attemptedAt :=
      Int.not_lt.mpr htime
    rw [checkPublishedPoint, if_pos rfl]
    simp only [hlate, decide_false, List.nodup_nil, List.Pairwise.nil, decide_true, Bool.not_true,
      raiseIf, Bool.false_eq_true, ↓reduceIte, ok_bind]
    split
    · rename_i hcomplete
      have hstatus : snapshot.point.status = .complete := hcomplete
      refine normalizedValuesFit_row hclean hstatus ?_ hmath
      rcases Bool.or_eq_true_iff.mp hvalues with hother | hchange
      · exact absurd hstatus (by simpa [snapshotRow] using hother)
      · exact hchange
    · rfl
  have hfits : (publishedFields (snapshotRow snapshot) snapshot.point now predecessorHash).fits =
      true := by
    simp only [ProofFields.fits, publishedFields, Option.all_some, hrange, hpredecessor,
      publicationHash, canonicalHash, Digest.authorityHash_isHash, decide_true, Bool.and_self]
  have hfields : (publishedFields (snapshotRow snapshot) snapshot.point now predecessorHash).check =
      .ok () := by
    rw [ProofFields.check, hfits, Bool.not_true, raiseIf, if_neg Bool.false_ne_true, ok_bind]
    show checkPublishedPoint snapshot.baselineStatus now snapshot.point.reread [] = .ok ()
    rw [hclean, hpoint]
  exact ⟨_, build_ok.mpr ⟨hfields, rfl⟩⟩

/-! ## Runs -/

/-- A call keeps what every state of the record is, and only appends. -/
theorem PerformanceCall.after_recorded (h : Recorded store) (hrange : Calendar.InRange now)
    (call : PerformanceCall) :
    Recorded (call.after now store) ∧ Grown store (call.after now store) := by
  unfold PerformanceCall.after
  cases hrun : call.run now store with
  | error failure => exact ⟨h, Grown.refl store⟩
  | ok result =>
      cases call with
      | append snapshot =>
          obtain ⟨after, happend, hresult⟩ := map_ok.mp hrun
          cases hresult
          exact appendSnapshot_recorded h happend
      | publish =>
          obtain ⟨⟨proof, after⟩, hpublish, hresult⟩ := map_ok.mp hrun
          cases hresult
          obtain ⟨hrecorded, hgrown, -⟩ := publishLatestEligible_recorded h hrange hpublish
          exact ⟨hrecorded, hgrown⟩

/-- Every state that calls can reach is recorded. -/
theorem recorded_of_reachable {world : PerformanceWorld} (h : performanceRecord.Reachable world) :
    Recorded world.store := by
  refine h.invariant (P := fun world => Recorded world.store)
    (fun hinitial => ?_) fun hrecorded hstep => ?_
  · obtain ⟨hclean, hsnapshots, hpublications⟩ := hinitial
    exact {
      clean := hclean
      stored := by rw [hsnapshots]; exact fun row hrow => absurd hrow List.not_mem_nil
      increasing := by rw [hpublications]; exact .nil
      chained := by rw [hpublications]; trivial
      bounded := by rw [hpublications]; exact fun row hrow => absurd hrow List.not_mem_nil }
  · obtain ⟨-, hrange, rfl⟩ := hstep
    exact (PerformanceCall.after_recorded hrecorded hrange _).1

/-- Along a run the tables only grow. -/
theorem grown_of_run {first last : PerformanceWorld} {labels : List (Int × PerformanceCall)}
    (h : Recorded first.store) (hrun : performanceRecord.Run first labels last) :
    Recorded last.store ∧ Grown first.store last.store := by
  induction hrun with
  | refl => exact ⟨h, Grown.refl _⟩
  | snoc hrun hstep ih =>
      obtain ⟨hrecorded, hgrown⟩ := ih
      obtain ⟨-, hrange, rfl⟩ := hstep
      obtain ⟨hrecorded', hgrown'⟩ := PerformanceCall.after_recorded hrecorded hrange _
      exact ⟨hrecorded', hgrown.trans hgrown'⟩

/-! ## What is raised -/

/-- A failure that is not a corrupt record. -/
def Harmless (failure : PerformanceFailure) : Prop :=
  ∀ message, failure ≠ .proofIntegrity message

omit [Digest] in
theorem harmless_of_isValueError (h : failure.isValueError = true) : Harmless failure := by
  rintro message rfl
  cases h

omit [Digest] in
theorem checkPublishedPoint_error {baselineStatus : BaselineStatus} {publishedAt : Int}
    {point : PerformancePoint} {ids : List Uuid}
    (h : checkPublishedPoint baselineStatus publishedAt point ids = .error failure) :
    failure.isValueError = true := by
  simp only [checkPublishedPoint, bind_error, raiseIf_error] at h
  rcases h with ⟨-, rfl⟩ | ⟨-, -, ⟨-, rfl⟩ | ⟨-, -, ⟨-, rfl⟩ | ⟨-, -, h⟩⟩⟩
  · rfl
  · rfl
  · rfl
  · split at h
    · split at h
      · unfold normalizedValuesFit at h
        split at h
        · rw [raiseIf_error] at h
          obtain ⟨-, rfl⟩ := h
          rfl
        · cases h
          rfl
      · cases h
    · rw [raiseIf_error] at h
      obtain ⟨-, rfl⟩ := h
      rfl

omit [Digest] in
/-- The check of a proof raises a `ValueError`. -/
theorem ofFields_error {fields : ProofFields}
    (h : CompetitionPerformanceProofResponse.ofFields fields = .error failure) :
    failure.isValueError = true := by
  have hcheck : fields.check = .error failure := by
    unfold CompetitionPerformanceProofResponse.ofFields build at h
    split at h
    · cases h
    · rename_i hfailed
      rw [hfailed, Except.error.inj h]
  simp only [ProofFields.check, bind_error, raiseIf_error] at hcheck
  rcases hcheck with ⟨-, rfl⟩ | ⟨-, -, hcheck⟩
  · rfl
  · split at hcheck
    · rw [raiseIf_error] at hcheck
      obtain ⟨-, rfl⟩ := hcheck
      rfl
    · split at hcheck
      · exact checkPublishedPoint_error hcheck
      · cases hcheck
        rfl

/-- A snapshot that is not created is refused with a `ValueError`. -/
theorem create_error {fields : SnapshotFields}
    (h : PerformanceSnapshot.create fields = .error failure) : failure.isValueError = true := by
  simp only [PerformanceSnapshot.create, SnapshotFields.check, bind_error, raiseIf_error] at h
  rcases h with (⟨-, rfl⟩ | ⟨-, -, ⟨-, rfl⟩ | ⟨-, -, ⟨-, rfl⟩ | ⟨-, -, ⟨-, rfl⟩ |
    ⟨-, -, -, rfl⟩⟩⟩⟩) | ⟨-, -, h⟩
  · rfl
  · rfl
  · rfl
  · rfl
  · rfl
  · cases h

/-- A snapshot that is not appended is refused with a `ValueError`. -/
theorem appendSnapshot_error (h : Recorded store)
    (herror : appendSnapshot snapshot store = .error failure) : failure.isValueError = true := by
  obtain ⟨account, baseline, -, -, -, hauthority⟩ := authoritativeBaseline_clean h.clean
  have hvalid : ∀ failure, validateSnapshotAuthority store snapshot = .error failure →
      failure.isValueError = true := by
    intro failure hfailure
    rw [validateSnapshotAuthority, hauthority, ok_bind] at hfailure
    simp only [bind_error, raiseIf_error] at hfailure
    rcases hfailure with ⟨-, rfl⟩ | ⟨-, -, ⟨-, rfl⟩ | ⟨-, -, ⟨-, rfl⟩ | ⟨-, -, -, rfl⟩⟩⟩ <;> rfl
  simp only [appendSnapshot, bind_error, raiseIf_error] at herror
  rcases herror with hcreate | ⟨-, -, ⟨-, rfl⟩ | ⟨-, -, hauthority | ⟨-, -, hinsert⟩⟩⟩
  · exact create_error hcreate
  · rfl
  · exact hvalid failure hauthority
  · unfold insertSnapshot at hinsert
    dsimp only at hinsert
    split at hinsert
    · split at hinsert
      · cases hinsert
      · split at hinsert <;> (cases hinsert; rfl)
    · rcases bind_error.mp hinsert with hnone | ⟨snapshots, -, hafter⟩
      · obtain ⟨-, rfl⟩ := require_error.mp hnone
        rfl
      · cases hafter

/-! ### Identifiers that are taken -/

/-- A hash or an id of a new publication is that of an older one. -/
def PublicationTaken (now : Int) (store : PerformanceStore) (row : PerformanceSnapshotRow) : Prop :=
  let row' := publicationRow row now (lastHash none store.publications.rows)
  ∃ old ∈ store.publications.rows, old.boundaryScheduledFor < row.scheduledFor ∧
    (old.publicationId = row'.publicationId ∨ old.publicationHash = row'.publicationHash)

/-- A hash or an id of the sentinel is that of a snapshot of another boundary. -/
def SentinelTaken (now : Int) (store : PerformanceStore) : Prop :=
  ∃ sentinel, sentinelSnapshot now store = .ok sentinel ∧ ∃ old ∈ store.snapshots.rows,
    old.scheduledFor ≠ FINAL_PERFORMANCE_BOUNDARY ∧
    (old.snapshotId = sentinel.snapshotId ∨ old.snapshotHash = sentinel.snapshotHash)

omit [Digest] in
theorem exists_clash {Row : Type} {schema : Schema Row} {table : Checked schema} {row : Row}
    (hinsert : table.insert row = none) (hcheck : schema.check row = true) :
    ∃ old ∈ table.rows, schema.clash old row = true := by
  by_contra hno
  push Not at hno
  rw [Checked.insert, dif_pos ⟨hcheck, fun old hold => by simpa using hno old hold⟩] at hinsert
  cases hinsert

/-- A predecessor is named by a later publication only. -/
theorem ChainFrom.predecessor_lt (h : ChainFrom store predecessorHash rows)
    (hincreasing : rows.Pairwise fun left right =>
      left.boundaryScheduledFor < right.boundaryScheduledFor) {row : PerformancePublicationRow}
    (hrow : row ∈ rows) {hash : String} (hhash : row.predecessorHash = some hash) :
    predecessorHash = some hash ∨ ∃ prior ∈ rows, prior.publicationHash = hash ∧
      prior.boundaryScheduledFor < row.boundaryScheduledFor := by
  induction rows generalizing predecessorHash with
  | nil => exact absurd hrow List.not_mem_nil
  | cons first rows ih =>
      obtain ⟨⟨snapshot, -, proof, hpublished⟩, hrest⟩ := h
      rw [List.pairwise_cons] at hincreasing
      rcases List.mem_cons.mp hrow with rfl | hlater
      · have hpredecessor : row.predecessorHash = predecessorHash :=
          congrArg (·.predecessorHash) hpublished.2.2.1
        exact Or.inl (hpredecessor.symm.trans hhash)
      · rcases ih hrest hincreasing.2 hlater with hfirst | ⟨prior, hprior, hsame, hless⟩
        · exact Or.inr ⟨first, List.mem_cons_self, Option.some.inj hfirst,
            hincreasing.1 row hlater⟩
        · exact Or.inr ⟨prior, List.mem_cons_of_mem first hprior, hsame, hless⟩

omit [Digest] in
theorem eq_of_publicationHash {left right : PerformancePublicationRow}
    (hleft : left ∈ store.publications.rows) (hright : right ∈ store.publications.rows)
    (h : left.publicationHash = right.publicationHash) : left = right := by
  have hunique : Unique (fun row => some row.publicationHash) store.publications.rows := by
    refine store.publications.unique fun left right hclash => ?_
    simp only [publicationSchema, Bool.or_eq_false_iff] at hclash
    simpa [clashOn] using hclash.1.2
  exact hunique.eq hleft hright rfl (congrArg some h.symm)

omit [Digest] in
/-- A stored snapshot is determined by its id. -/
theorem eq_of_snapshotId {left right : PerformanceSnapshotRow}
    (hleft : left ∈ store.snapshots.rows) (hright : right ∈ store.snapshots.rows)
    (h : left.snapshotId = right.snapshotId) : left = right := by
  have hfound := snapshot_of_mem hleft
  rw [h, snapshot_of_mem hright] at hfound
  exact (Option.some.inj hfound).symm

omit [Digest] in
/-- No publication is of a later boundary than the last one. -/
theorem Recorded.le_of_getLast
    (hincreasing : rows.Pairwise fun left right =>
      left.boundaryScheduledFor < right.boundaryScheduledFor) {last : PerformancePublicationRow}
    (hlast : rows.getLast? = some last) :
    ∀ row ∈ rows, row.boundaryScheduledFor ≤ last.boundaryScheduledFor := by
  intro row hrow
  have hless := @Recorded.lt_of_last rows (last.boundaryScheduledFor + 1) hincreasing
    (fun prior hprior => by
      rw [hlast] at hprior
      cases hprior
      omega) row hrow
  omega

theorem publicationTaken_of_insert (h : Recorded store) (hmem : row ∈ store.snapshots.rows)
    (htime : row.scheduledFor ≤ now)
    (hlater : ∀ prior ∈ store.publications.rows.getLast?,
      prior.boundaryScheduledFor < row.scheduledFor)
    (hinsert : store.publications.insert
      (publicationRow row now (lastHash none store.publications.rows)) = none) :
    PublicationTaken now store row := by
  have hall := Recorded.lt_of_last h.increasing hlater
  have hpredecessor : (lastHash none store.publications.rows).all isHash = true := by
    cases hlast : store.publications.rows.getLast? with
    | none => simp [lastHash, hlast]
    | some last =>
        have hcheck := store.publications.holds.1 last (List.mem_of_getLast? hlast)
        simp only [publicationSchema, Bool.and_eq_true] at hcheck
        simp [lastHash, hlast, hcheck.1.2]
  have hcheck : publicationSchema.check
      (publicationRow row now (lastHash none store.publications.rows)) = true := by
    simp only [publicationSchema, publicationRow, publicationHash, canonicalHash,
      Digest.authorityHash_isHash, hpredecessor, htime, decide_true, Bool.and_self]
  obtain ⟨old, hold, hclash⟩ := exists_clash hinsert hcheck
  have hless := hall old hold
  obtain ⟨predecessor, source, hsource, proof, hpublished⟩ := h.chained.published old hold
  have hsourceId : old.snapshotId = source.snapshotId := congrArg (·.snapshotId) hpublished.2.2.1
  have hsourceTime : old.boundaryScheduledFor = source.scheduledFor :=
    congrArg (·.boundaryScheduledFor) hpublished.2.2.1
  simp only [publicationSchema, Bool.or_eq_true, beq_iff_eq] at hclash
  refine ⟨old, hold, hless, ?_⟩
  rcases hclash with (((hid | hsnapshot) | hboundary) | hhash) | hnamed
  · exact Or.inl hid
  · -- the older publication would be of the same snapshot, and so of the same boundary
    have hsame := eq_of_snapshotId hsource hmem (hsourceId.symm.trans hsnapshot)
    rw [hsourceTime, hsame] at hless
    exact absurd hless (Int.lt_irrefl _)
  · rw [show old.boundaryScheduledFor = row.scheduledFor from hboundary] at hless
    exact absurd hless (Int.lt_irrefl _)
  · exact Or.inr hhash
  · -- the latest publication would be named by one that is not after it
    simp only [clashOn, Bool.and_eq_true, beq_iff_eq] at hnamed
    obtain ⟨hsome, hsame⟩ := hnamed
    obtain ⟨hash, hhash⟩ := Option.isSome_iff_exists.mp hsome
    obtain ⟨last, hlast⟩ : ∃ last, store.publications.rows.getLast? = some last :=
      ⟨_, List.getLast?_eq_some_getLast (List.ne_nil_of_mem hold)⟩
    have hlastHash : last.publicationHash = hash := by
      have hlatest : old.predecessorHash = lastHash none store.publications.rows := hsame
      rw [lastHash, hlast, hhash] at hlatest
      exact (Option.some.inj hlatest).symm
    rcases h.chained.predecessor_lt h.increasing hold hhash with hnone | ⟨prior, hprior, heq, hlt⟩
    · cases hnone
    · have hwhich := eq_of_publicationHash hprior (List.mem_of_getLast? hlast)
        (heq.trans hlastHash.symm)
      have hbefore := Recorded.le_of_getLast h.increasing hlast old hold
      rw [hwhich] at hlt
      omega

omit [Digest] in
theorem baselineMath_missing (hmissing : row.measurementStatus = .missing)
    (hchange : row.accountEquityChange = none) (hpercent : row.accountEquityReturnPct = none) :
    row.baselineMath.admits = true := by
  rw [PerformanceSnapshotRow.baselineMath, hmissing, hchange, hpercent]
  cases row.baselineStatus <;> cases row.currentEquity <;> rfl

/-- The sentinel meets the constraints of its table. -/
theorem check_sentinel (hafter : FINAL_PERFORMANCE_BOUNDARY ≤ now)
    (hstored : Stored (snapshotRow sentinel)) (hbound : BoundTo store.db (snapshotRow sentinel))
    (hkey : sentinel.boundaryKey = FINAL_PERFORMANCE_BOUNDARY_KEY)
    (hpoint : sentinel.point.toPointFields = sentinelFields now)
    (hmanifests : sentinel.manifestHashes = [none, none, none])
    (hfingerprint : isHash sentinel.accountFingerprint = true) :
    snapshotSchema.check (snapshotRow sentinel) = true := by
  obtain ⟨-, baseline, -, -, -, hid, hstatus⟩ := hbound
  have hhash : isHash (snapshotRow sentinel).snapshotHash = true := by
    obtain ⟨snapshot, hcreate, hrow⟩ := hstored
    obtain ⟨-, -, hmaterial⟩ := PerformanceSnapshot.create_ok.mp hcreate
    rw [hrow, show (snapshotRow snapshot).snapshotHash = _ from hmaterial]
    exact Digest.authorityHash_isHash _
  have hmissing : (snapshotRow sentinel).measurementStatus = .missing :=
    congrArg (·.status) hpoint
  have hscheduled : (snapshotRow sentinel).scheduledFor = FINAL_PERFORMANCE_BOUNDARY :=
    congrArg (·.scheduledFor) hpoint
  have hattempted : (snapshotRow sentinel).attemptedAt = now := congrArg (·.attemptedAt) hpoint
  have hmeasured : (snapshotRow sentinel).measuredAt = none := congrArg (·.measuredAt) hpoint
  have hchange : (snapshotRow sentinel).accountEquityChange = none :=
    congrArg (·.accountEquityChangeUsd) hpoint
  have hpercent : (snapshotRow sentinel).accountEquityReturnPct = none :=
    congrArg (·.accountEquityReturnPct) hpoint
  have hcoherent : (snapshotRow sentinel).measurementCoherent = true := by
    have hfailure : (snapshotRow sentinel).failureCode = some .captureNotStarted :=
      congrArg (·.failureCode) hpoint
    have hequity : (snapshotRow sentinel).currentEquity = none :=
      congrArg (·.currentEquityUsd) hpoint
    have hcashflow : (snapshotRow sentinel).lifecycleCashflow = none :=
      congrArg (·.reconciledLifecycleCashflowUsd) hpoint
    have hpnl : (snapshotRow sentinel).liquidationPnl = none :=
      congrArg (·.openPositionLiquidationPnlUsd) hpoint
    rw [PerformanceSnapshotRow.measurementCoherent, hmissing, hfailure, hmeasured, hequity,
      hchange, hpercent, hcashflow, hpnl]
    rfl
  have hnone : (snapshotRow sentinel).manifestHashes = [none, none, none] := hmanifests
  have hcoherentManifests : (snapshotRow sentinel).manifestsCoherent = true := by
    rw [PerformanceSnapshotRow.manifestsCoherent, hmissing, hnone]
    rfl
  have hbaseline : (snapshotRow sentinel).baselineBound = true := by
    rw [PerformanceSnapshotRow.baselineBound, hid, hstatus]
    rfl
  have hrole : (snapshotRow sentinel).accountRole = .submission := rfl
  have hboundary : (snapshotRow sentinel).boundaryKey = FINAL_PERFORMANCE_BOUNDARY_KEY := hkey
  have hprint : isHash (snapshotRow sentinel).accountFingerprint = true := hfingerprint
  simp only [snapshotSchema]
  rw [hcoherent, baselineMath_missing hmissing hchange hpercent, hcoherentManifests, hbaseline,
    hhash, hnone, hmeasured, hscheduled, hattempted, hrole, hboundary, hprint,
    decide_eq_true hafter]
  simp

theorem sentinelTaken_of_insert (hrange : Calendar.InRange now) (hclean : CleanBaseline store.db)
    (hafter : FINAL_PERFORMANCE_BOUNDARY ≤ now) (hnone : finalSnapshot store = none)
    (hsentinel : sentinelSnapshot now store = .ok sentinel)
    (hinsert : store.snapshots.insert (snapshotRow sentinel) = none) : SentinelTaken now store := by
  obtain ⟨sentinel', hsentinel', hstored, hbound, hkey, hpoint, hmanifests, hfingerprint⟩ :=
    sentinelSnapshot_ok hclean hrange hafter
  obtain rfl : sentinel' = sentinel := Except.ok.inj (hsentinel'.symm.trans hsentinel)
  have hcheck : snapshotSchema.check (snapshotRow sentinel') = true :=
    check_sentinel hafter hstored hbound hkey hpoint hmanifests hfingerprint
  obtain ⟨old, hold, hclash⟩ := exists_clash hinsert hcheck
  have hother : old.scheduledFor ≠ FINAL_PERFORMANCE_BOUNDARY ∧
      old.boundaryKey ≠ FINAL_PERFORMANCE_BOUNDARY_KEY := by
    have hrow := store.snapshots.holds.1 old hold
    simp only [snapshotSchema, Bool.and_eq_true] at hrow
    have hfinal := hrow.2
    have hnot : ¬(old.boundaryKey = FINAL_PERFORMANCE_BOUNDARY_KEY ∧
        old.scheduledFor = FINAL_PERFORMANCE_BOUNDARY) := by
      have hfind := List.find?_eq_none.mp hnone old hold
      simpa using hfind
    by_cases hscheduled : old.scheduledFor = FINAL_PERFORMANCE_BOUNDARY
    · have hboundary : old.boundaryKey = FINAL_PERFORMANCE_BOUNDARY_KEY := by
        simpa [hscheduled] using hfinal
      exact absurd ⟨hboundary, hscheduled⟩ hnot
    · exact ⟨hscheduled, by simpa [hscheduled] using hfinal⟩
  refine ⟨sentinel', hsentinel, old, hold, hother.1, ?_⟩
  simp only [snapshotSchema, Bool.or_eq_true, beq_iff_eq] at hclash
  rcases hclash with ((hid | hboundary) | hscheduled) | hhash
  · exact Or.inl hid
  · exact absurd (hboundary.trans hkey) hother.2
  · exact absurd (hscheduled.trans (congrArg (·.scheduledFor) hpoint)) hother.1
  · exact Or.inr hhash

/-! ### Publishing -/

omit [Digest] in
/-- The latest publication as the one that the next names. -/
theorem LatestOf.lastHash {latest : Option
    (PerformancePublicationRow × CompetitionPerformanceProofResponse)}
    {selecting : PerformanceStore}
    (h : latest.map (·.1) = store.publications.rows.getLast?)
    (hsame : selecting.publications = store.publications) :
    latest.map (·.1.publicationHash) = Performance.lastHash none selecting.publications.rows := by
  rw [Performance.lastHash, hsame, ← h, Option.map_map, Option.or_none]
  rfl

/-- A snapshot that is not published cannot be shown, or an identifier is taken. -/
theorem publishSnapshot_error (h : Recorded store) (hrange : Calendar.InRange now)
    (hmem : row ∈ store.snapshots.rows) (htime : row.scheduledFor ≤ now)
    (hlater : ∀ prior ∈ store.publications.rows.getLast?,
      prior.boundaryScheduledFor < row.scheduledFor)
    (herror : publishSnapshot now (lastHash none store.publications.rows) row store =
      .error failure) :
    failure.isValueError = true ∧ row.showable now = false ∨
      failure = .integrity ∧ PublicationTaken now store row := by
  obtain ⟨hstored, hbound⟩ := h.stored row hmem
  have hcheck := store.snapshots.holds.1 row hmem
  obtain ⟨snapshot, -, rfl⟩ := id hstored
  have hclean : snapshot.baselineStatus = .clean := by
    obtain ⟨-, -, -, -, -, -, hstatus⟩ := hbound
    exact hstatus
  have hpredecessor : (lastHash none store.publications.rows).all isHash = true := by
    cases hlast : store.publications.rows.getLast? with
    | none => simp [lastHash, hlast]
    | some last =>
        have hrow := store.publications.holds.1 last (List.mem_of_getLast? hlast)
        simp only [publicationSchema, Bool.and_eq_true] at hrow
        simp [lastHash, hlast, hrow.1.2]
  have hpayload : (snapshotRow snapshot).pointPayload = snapshot.point.document := rfl
  rw [publishSnapshot_eq h.clean hstored hbound hpayload hrange] at herror
  rcases bind_error.mp herror with hproof | ⟨proof, -, herror⟩
  · refine Or.inl ⟨ofFields_error hproof, ?_⟩
    by_contra hshowable
    obtain ⟨proof, hok⟩ := ofFields_showable hclean hcheck hrange hpredecessor
      (Bool.not_eq_false _ ▸ hshowable)
    rw [hok] at hproof
    cases hproof
  · rcases bind_error.mp herror with hnone | ⟨publications, -, hafter⟩
    · obtain ⟨hinsert, rfl⟩ := require_error.mp hnone
      exact Or.inr ⟨rfl, publicationTaken_of_insert h hmem htime hlater hinsert⟩
    · cases hafter

/-- The snapshot of the last boundary, or the sentinel in its place, is published from when its
capture is over. -/
structure FinalSelected (now : Int) (store : PerformanceStore) (row : PerformanceSnapshotRow)
    (selecting : PerformanceStore) : Prop where
  recorded : Recorded selecting
  grown : Grown store selecting
  unpublished : selecting.publications = store.publications
  stored : row ∈ selecting.snapshots.rows
  boundary : row.scheduledFor = FINAL_PERFORMANCE_BOUNDARY
  captured : ∀ final ∈ finalSnapshot store, row = final ∧ selecting = store
  sentinel : finalSnapshot store = none →
    row.measurementStatus = .missing ∧ row.showable now = true

/-- The snapshot of the last boundary is selected, or an identifier of the sentinel is taken. -/
theorem finalOrSentinel_recorded (h : Recorded store) (hrange : Calendar.InRange now)
    (hafter : FINAL_PERFORMANCE_BOUNDARY ≤ now) :
    (∃ row selecting, finalOrSentinel now store = .ok (row, selecting) ∧
      FinalSelected now store row selecting) ∨
    finalOrSentinel now store = .error .integrity ∧ SentinelTaken now store := by
  cases hfound : finalSnapshot store with
  | some row =>
      obtain ⟨hmem, hboundary⟩ := finalSnapshot_some hfound
      refine Or.inl ⟨row, store, by rw [finalOrSentinel, hfound], ?_⟩
      exact {
        recorded := h
        grown := Grown.refl store
        unpublished := rfl
        stored := hmem
        boundary := hboundary
        captured := fun final hfinal => by
          rw [hfound] at hfinal
          exact ⟨Option.some.inj hfinal, rfl⟩
        sentinel := fun hnone => by
          rw [hfound] at hnone
          cases hnone }
  | none =>
      obtain ⟨sentinel, hsentinel, hstored, hbound, -, hpoint, -⟩ :=
        sentinelSnapshot_ok h.clean hrange hafter
      have hselect : finalOrSentinel now store = insertSentinel now store := by
        rw [finalOrSentinel, hfound]
      rw [hselect, insertSentinel, hsentinel, ok_bind]
      cases hinsert : store.snapshots.insert (snapshotRow sentinel) with
      | none =>
          exact Or.inr ⟨rfl, sentinelTaken_of_insert hrange h.clean hafter hfound hsentinel hinsert⟩
      | some snapshots =>
          obtain ⟨hrecorded, hgrown⟩ := h.withSnapshot hstored hbound hinsert
          refine Or.inl ⟨snapshotRow sentinel, { store with snapshots }, rfl, ?_⟩
          have hmissing : (snapshotRow sentinel).measurementStatus = .missing :=
            congrArg (·.status) hpoint
          have hmeasured : (snapshotRow sentinel).measuredAt = none :=
            congrArg (·.measuredAt) hpoint
          have hattempted : (snapshotRow sentinel).attemptedAt = now :=
            congrArg (·.attemptedAt) hpoint
          have hmem : snapshotRow sentinel ∈ snapshots.rows := by
            rw [Checked.rows_insert hinsert]
            exact List.mem_append_right _ (List.mem_singleton_self _)
          exact {
            recorded := hrecorded
            grown := hgrown
            unpublished := rfl
            stored := hmem
            boundary := congrArg (·.scheduledFor) hpoint
            captured := fun final hfinal => by
              rw [hfound] at hfinal
              cases hfinal
            sentinel := fun _ => ⟨hmissing, by
              rw [PerformanceSnapshotRow.showable, hmissing, hmeasured, hattempted]
              simp⟩ }

end AlphaDecay.Performance
