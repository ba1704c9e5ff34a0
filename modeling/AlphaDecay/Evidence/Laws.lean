import AlphaDecay.Evidence.History
import AlphaDecay.Persistence.Rehearsal

/-!
# The laws of the evidence ledger

Leases on a piece of evidence have growing generations and one of them at most can still be
completed; what a completion stores is what every later worker reads; a lease that is not the
current one changes nothing; and the reservations stay within the hard limit.
-/

namespace AlphaDecay.Evidence

open Foundation Foundation.Table Foundation.Json

section Laws

variable [Digest] {ttl : LeaseTtl} {world next : EvidenceWorld} {history : List EvidenceEvent}
variable {lease : EvidenceLease} {store : EvidenceStore}

variable {classifications : List EvidenceClassification}

/-- A lease can still be completed: some worker completes it with some classifications, now or
after a run. -/
def CanComplete (ttl : LeaseTtl) (world : EvidenceWorld) (lease : EvidenceLease) : Prop :=
  ∃ labels later classifications now after, (evidenceSystem ttl).Run world labels later ∧
    later.clock ≤ now ∧ complete lease classifications now later.store = .ok after

/-- A lease that can still be completed has the greatest generation of those on its evidence. -/
theorem generation_le_of_canComplete (h : Ledger history world) {other : EvidenceLease}
    (hcan : CanComplete ttl world lease) (hother : other ∈ issuedLeases history)
    (hsame : other.evidenceHash = lease.evidenceHash) : other.generation ≤ lease.generation := by
  obtain ⟨labels, later, classifications, now, after, hrun, -, hcomplete⟩ := hcan
  have hissued : other ∈ issuedLeases (history ++ labels) := by
    rw [issuedLeases, List.filterMap_append]
    exact List.mem_append_left _ hother
  obtain ⟨claim, hclaim, hle⟩ := (h.run hrun).issued other hissued
  obtain ⟨current, -, hcurrent, -, hgeneration, -⟩ := leaseMatches_some
    (complete_ok hcomplete).current
  rw [hsame, hcurrent] at hclaim
  cases hclaim
  omega

/-- One lease at most on a piece of evidence can still be completed. -/
theorem canComplete_unique (h : Ledger history world) {left right : EvidenceLease}
    (hleft : left ∈ issuedLeases history) (hright : right ∈ issuedLeases history)
    (hsame : left.evidenceHash = right.evidenceHash) (hl : CanComplete ttl world left)
    (hr : CanComplete ttl world right) : left = right := by
  have hle := generation_le_of_canComplete h hl hright hsame.symm
  have hge := generation_le_of_canComplete h hr hleft hsame
  by_contra hne
  obtain ⟨i, hi, rfl⟩ := List.getElem_of_mem hleft
  obtain ⟨j, hj, rfl⟩ := List.getElem_of_mem hright
  have hpairs := List.pairwise_iff_getElem.mp h.increasing
  rcases Nat.lt_trichotomy i j with hij | rfl | hji
  · have hlt := hpairs i j hi hj hij hsame
    omega
  · exact hne rfl
  · have hlt := hpairs j i hj hi hji hsame.symm
    omega

/-- Stored rows stay in every run. -/
theorem stored_kept {labels : List EvidenceEvent} {later : EvidenceWorld}
    (hrun : (evidenceSystem ttl).Run world labels later) {row : EvidenceClassificationRow}
    (hrow : row ∈ world.store.classifications.rows) :
    row ∈ later.store.classifications.rows := by
  refine hrun.preserves (P := fun state => row ∈ state.store.classifications.rows)
    (fun {state label next} hstate hstep => ?_) hrow
  cases hstep with
  | raised => exact hstate
  | @done call now reply after hclock hperform =>
      have hperformed := performed_of_perform hperform
      by_cases hcompletes : ∃ lease classifications, call = .complete lease classifications
      · obtain ⟨lease, classifications, hcall⟩ := hcompletes
        obtain ⟨payload, -, hrows⟩ := (hperformed.completes lease classifications hcall).payload
        change row ∈ after.classifications.rows
        rw [hrows]
        exact List.mem_append_left _ hstate
      · change row ∈ after.classifications.rows
        rw [hperformed.unstored fun lease classifications hcall =>
          hcompletes ⟨lease, classifications, hcall⟩]
        exact hstate

/-- Stored classifications stay what they are in every run. -/
theorem StoredAs.run {labels : List EvidenceEvent} {later : EvidenceWorld} {evidenceHash : String}
    (h : StoredAs world.store evidenceHash classifications)
    (hrun : (evidenceSystem ttl).Run world labels later) :
    StoredAs later.store evidenceHash classifications := by
  refine hrun.preserves (P := fun state => StoredAs state.store evidenceHash classifications)
    (fun {state label next} hstate hstep => ?_) h
  cases hstep with
  | raised => exact hstate
  | done _ hperform => exact hstate.kept (performed_of_perform hperform)

/-- Stored classifications are what a worker that asks for the evidence gets. -/
theorem StoredAs.acquired {evidenceHash : String} (h : StoredAs store evidenceHash classifications)
    (hhash : validateHash evidenceHash = .ok ()) (leaseOwner : Uuid) (now : Int) :
    acquire ttl evidenceHash leaseOwner now store =
      .ok (.stored evidenceHash classifications, store) := by
  obtain ⟨stored, hstored, hpayload, hclassified, claim, hclaim, hstate, hgeneration⟩ := h.row
  have hid : stored.evidenceHash = evidenceHash := (lookup_some hstored).2
  subst hid
  rw [acquire, hhash, hstored]
  exact map_ok.mpr ⟨_, readStored_completed hclaim hstate hgeneration hpayload hclassified, rfl⟩

omit [Digest] in
/-- A claim that a lease holds is the one of its evidence. -/
theorem claimOf_heldBy {claim : EvidenceClassificationClaimRow} (hmem : claim ∈ store.claims.rows)
    (hheld : heldBy lease claim = true) : store.claimOf lease.evidenceHash = some claim := by
  have hunique : Unique (fun row : EvidenceClassificationClaimRow => some row.evidenceHash)
      store.claims.rows :=
    store.claims.unique fun _ _ hclash => (Bool.or_eq_false_iff.mp hclash).1
  rw [EvidenceStore.claimOf, ← (heldBy_claim hheld).1]
  exact lookup_of_mem hunique hmem

/-- Releasing a lease with a successor, or on completed evidence, changes nothing. -/
theorem release_old (h : Ledger history world) {now : Int} {after : EvidenceStore}
    (hrelease : release lease now world.store = .ok after)
    (hold : (∃ successor ∈ issuedLeases history, successor.evidenceHash = lease.evidenceHash ∧
        lease.generation < successor.generation) ∨
      (world.store.storedOf lease.evidenceHash).isSome = true) : after = world.store := by
  refine release_unheld hrelease fun claim hmem => ?_
  by_contra hheld
  have hheld : heldBy lease claim = true := by simpa using hheld
  have hclaim := claimOf_heldBy hmem hheld
  obtain ⟨-, hpending, hgeneration⟩ := heldBy_claim hheld
  rcases hold with ⟨successor, hsuccessor, hsame, hlt⟩ | hstored
  · obtain ⟨current, hcurrent, hle⟩ := h.issued successor hsuccessor
    rw [hsame, hclaim] at hcurrent
    cases hcurrent
    omega
  · obtain ⟨classifications, hstoredAs⟩ := h.stored _ hstored
    obtain ⟨stored, -, -, -, current, hcurrent, hstate, -⟩ := hstoredAs.row
    rw [hclaim] at hcurrent
    cases hcurrent
    rw [hpending] at hstate
    cases hstate

omit [Digest] in
/-- Releasing a lease changes the claim of its own evidence at most. -/
theorem release_other {now : Int} {after : EvidenceStore}
    (hrelease : release lease now store = .ok after) :
    after.classifications = store.classifications ∧
      ∀ other, other ≠ lease.evidenceHash → after.claimOf other = store.claimOf other := by
  obtain ⟨hclassifications, -, hclaims⟩ := release_ok hrelease
  refine ⟨hclassifications, fun other hother => ?_⟩
  rw [hclaims other]
  cases hclaim : store.claimOf other with
  | none => rfl
  | some claim =>
      have hid : claim.evidenceHash = other := (lookup_some hclaim).2
      have hheld : heldBy lease claim = false := by
        cases hheld : heldBy lease claim with
        | false => rfl
        | true => exact absurd (hid.symm.trans (heldBy_claim hheld).1) hother
      rw [Option.map_some, hheld]
      rfl

/-- Whatever workers call in whatever order: the generations of the leases on a piece of evidence
grow, and one of them at most can still be completed; stored classifications are one row for each
piece of evidence, and stay; a completion is that of the current lease before it runs out, and a
call that raises changes nothing; releasing an old lease changes nothing, and releasing any leaves
other evidence alone; what was completed is what every later worker gets; and the successful
reservations stay within the hard limit. -/
theorem evidence_lawful (hinitial : (evidenceSystem ttl).initial world)
    (hrun : (evidenceSystem ttl).Run world history next) :
    ((issuedLeases history).Pairwise fun left right =>
      left.evidenceHash = right.evidenceHash → left.generation < right.generation) ∧
    (∀ left ∈ issuedLeases history, ∀ right ∈ issuedLeases history,
      left.evidenceHash = right.evidenceHash → CanComplete ttl next left →
      CanComplete ttl next right → left = right) ∧
    (∀ row ∈ next.store.classifications.rows, ∀ labels later,
      (evidenceSystem ttl).Run next labels later →
      row ∈ later.store.classifications.rows ∧
        ∀ other ∈ later.store.classifications.rows,
          other.evidenceHash = row.evidenceHash → other = row) ∧
    (∀ lease classifications now after,
      complete lease classifications now next.store = .ok after →
      ∃ claim expiresAt, next.store.claimOf lease.evidenceHash = some claim ∧
        claim.state = .pending ∧ claim.generation = lease.generation ∧
        claim.leaseOwner = some lease.leaseOwner ∧ claim.leaseExpiresAt = some expiresAt ∧
        now < expiresAt) ∧
    (∀ call failure later, EvidenceStep ttl next ⟨call, .error failure⟩ later →
      later.store = next.store) ∧
    (∀ lease now after, release lease now next.store = .ok after →
      ((∃ successor ∈ issuedLeases history, successor.evidenceHash = lease.evidenceHash ∧
          lease.generation < successor.generation) ∨
        (next.store.storedOf lease.evidenceHash).isSome = true → after = next.store) ∧
      after.classifications = next.store.classifications ∧
      ∀ other, other ≠ lease.evidenceHash → after.claimOf other = next.store.claimOf other) ∧
    (∀ lease classifications now after labels later,
      complete lease classifications now next.store = .ok after →
      (evidenceSystem ttl).Run ⟨after, now⟩ labels later →
      ∀ leaseOwner time, acquire ttl lease.evidenceHash leaseOwner time later.store =
        .ok (.stored lease.evidenceHash classifications, later.store)) ∧
    (∀ budget ∈ next.store.budgets.rows, (reservations history : Int) ≤ budget.hardLimit) ∧
    (next.store.budgets.rows = [] → reservations history = 0) := by
  have h : Ledger history next := by simpa using (ledger_initial hinitial).run hrun
  refine ⟨h.increasing, fun left hleft right hright hsame => canComplete_unique h hleft
    hright hsame,
    fun row hrow labels later hlater => ⟨stored_kept hlater hrow, fun other hother hsame => ?_⟩,
    fun lease classifications now after hcomplete => ?_,
    fun call failure later hstep => by cases hstep; rfl,
    fun lease now after hrelease => ⟨release_old h hrelease, release_other hrelease⟩,
    fun lease classifications now after labels later hcomplete hlater leaseOwner time => ?_,
    fun budget hbudget => ?_, h.uncounted⟩
  · have hunique : Unique (fun row : EvidenceClassificationRow => some row.evidenceHash)
        later.store.classifications.rows :=
      later.store.classifications.unique fun _ _ hclash => (Bool.or_eq_false_iff.mp hclash).1
    exact hunique.eq hother (stored_kept hlater hrow) (congrArg some hsame) rfl
  · obtain ⟨claim, expiresAt, hclaim⟩ := leaseMatches_some (complete_ok hcomplete).current
    exact ⟨claim, expiresAt, hclaim⟩
  · have hstored : StoredAs (EvidenceWorld.mk after now).store lease.evidenceHash classifications :=
      storedAs_of_completes (complete_ok hcomplete)
    have hhash : validateHash lease.evidenceHash = .ok () := by
      simp only [complete, check_bind_ok] at hcomplete
      exact hcomplete.1
    exact (hstored.run hlater).acquired hhash leaseOwner time
  · have hcheck := next.store.budgets.holds.1 budget hbudget
    simp only [budgetSchema, Bool.and_eq_true, decide_eq_true_eq] at hcheck
    exact (h.counted budget hbudget).trans hcheck.2.2

end Laws

section Rehearsed

open Rehearsal

/-- The ledger before any evidence is claimed. -/
def emptyWorld : EvidenceWorld where
  store := ⟨Checked.empty, Checked.empty, Checked.empty⟩
  clock := timeAt 0

/-- Leases of thirty-five seconds. -/
def rehearsedTtl : LeaseTtl :=
  ⟨Calendar.seconds 35, by decide, by decide⟩

/-- The fields of a classification of one source. -/
def supportingFields : ClassificationFields where
  clusterId := "cluster"
  sourceIds := ["source"]
  eventCode := "GUIDANCE"
  relation := .supports
  materiality := 2
  relevance := dollars 1
  confidence := dollars 1
  sourceTier := .primary
  invalidates := false
  independentReportingGroup := none
  invalidationConditionId := none

/-- A classification of one source. -/
def supporting : EvidenceClassification where
  toClassificationFields := supportingFields
  valid := by decide +kernel

/-- The tables after the first worker has its lease. -/
def leasedStore : EvidenceStore where
  claims := ⟨[firstClaim rehearsedTtl fingerprint (Uuid.ofNat 1) (timeAt 0)], by decide +kernel⟩
  classifications := Checked.empty
  budgets := Checked.empty

/-- The first worker gets the lease of the first generation. -/
def leasing : EvidenceEvent where
  call := .acquire fingerprint (Uuid.ofNat 1)
  outcome := .ok (.claim (.lease ⟨fingerprint, Uuid.ofNat 1, 1⟩))

/-- In the rehearsal, the first worker gets its lease. -/
theorem leasing_run : (evidenceSystem rehearsedTtl).Run emptyWorld [leasing]
    ⟨leasedStore, timeAt 0⟩ := by
  have hinsert : emptyWorld.store.claims.insert
      (firstClaim rehearsedTtl fingerprint (Uuid.ofNat 1) (timeAt 0)) =
        some leasedStore.claims := by
    rw [Checked.insert, dif_pos (by decide +kernel)]
    rfl
  have hacquire : acquire rehearsedTtl fingerprint (Uuid.ofNat 1) (timeAt 0) emptyWorld.store =
      .ok (.lease ⟨fingerprint, Uuid.ofNat 1, 1⟩, leasedStore) := by
    refine check_bind_ok.mpr ⟨by decide +kernel, ?_⟩
    exact require_bind_ok.mpr ⟨leasedStore.claims, hinsert, rfl⟩
  exact System.Run.single (.done le_rfl (map_ok.mpr ⟨_, hacquire, rfl⟩))

/-- In the rehearsal, what the first worker completes is what a worker reads an hour later. -/
theorem supporting_acquired : ∃ after,
    complete ⟨fingerprint, Uuid.ofNat 1, 1⟩ [supporting] (timeAt 30) leasedStore = .ok after ∧
    acquire rehearsedTtl fingerprint (Uuid.ofNat 2) (timeAt 3600) after =
      .ok (.stored fingerprint [supporting], after) := by
  have hdone : (complete ⟨fingerprint, Uuid.ofNat 1, 1⟩ [supporting] (timeAt 30)
      leasedStore).toOption.isSome = true := by
    decide +kernel
  cases hcomplete : complete ⟨fingerprint, Uuid.ofNat 1, 1⟩ [supporting] (timeAt 30)
      leasedStore with
  | error failure =>
      rw [hcomplete] at hdone
      cases hdone
  | ok after =>
      obtain ⟨-, -, -, -, -, -, hread, -, -⟩ :=
        evidence_lawful ⟨rfl, rfl⟩ leasing_run
      exact ⟨after, rfl, hread ⟨fingerprint, Uuid.ofNat 1, 1⟩ [supporting] (timeAt 30) after []
        ⟨after, timeAt 30⟩ hcomplete (.refl _) (Uuid.ofNat 2) (timeAt 3600)⟩

end Rehearsed

end AlphaDecay.Evidence
