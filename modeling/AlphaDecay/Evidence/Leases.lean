import AlphaDecay.Evidence.Repository

/-!
# Operations on leases

What each operation of the ledger does is said once: which claim it changes and how, and what it
stores. A classification that was stored is read back as the one that was passed.
-/

namespace AlphaDecay.Evidence

open Foundation Foundation.Table Foundation.Json

/-! ## Claims after a write -/

section

variable {store : EvidenceStore} {claims : Checked claimSchema}
  {condition : EvidenceClassificationClaimRow → Bool}
  {change : EvidenceClassificationClaimRow → EvidenceClassificationClaimRow}

/-- After an update of the claims, each piece of evidence has its claim, changed or not. -/
theorem claimOf_update (h : store.claims.update condition change = some claims)
    (hkeep : ∀ claim, (change claim).evidenceHash = claim.evidenceHash) (evidenceHash : String) :
    ({ store with claims } : EvidenceStore).claimOf evidenceHash =
      (store.claimOf evidenceHash).map fun claim =>
        if condition claim then change claim else claim := by
  rw [EvidenceStore.claimOf, Checked.rows_update h, lookup_modify fun claim _ => hkeep claim]
  rfl

theorem claimOf_update_other (h : store.claims.update condition change = some claims)
    (hkeep : ∀ claim, (change claim).evidenceHash = claim.evidenceHash)
    {evidenceHash other : String}
    (hcondition : ∀ claim, condition claim = true → claim.evidenceHash = evidenceHash)
    (hother : other ≠ evidenceHash) :
    ({ store with claims } : EvidenceStore).claimOf other = store.claimOf other := by
  rw [claimOf_update h hkeep]
  cases hclaim : store.claimOf other with
  | none => rfl
  | some claim =>
      have hid : claim.evidenceHash = other := (lookup_some hclaim).2
      have hfalse : condition claim = false := by
        cases hcond : condition claim with
        | false => rfl
        | true => exact absurd (hid.symm.trans (hcondition claim hcond)) hother
      rw [Option.map_some, hfalse]
      rfl

end

variable {claim : EvidenceClassificationClaimRow} {lease : EvidenceLease}

theorem expired_hash {evidenceHash : String} {now : Int}
    (h : expired evidenceHash now claim = true) : claim.evidenceHash = evidenceHash := by
  simp only [expired, Bool.and_eq_true, beq_iff_eq] at h
  exact h.1.1

/-- A claim that a lease holds is the pending one of its evidence with its generation. -/
theorem heldBy_claim (h : heldBy lease claim = true) :
    claim.evidenceHash = lease.evidenceHash ∧ claim.state = .pending ∧
      claim.generation = lease.generation := by
  simp only [heldBy, Bool.and_eq_true, beq_iff_eq, decide_eq_true_eq] at h
  exact ⟨h.1.1.1, h.1.1.2, h.1.2⟩

theorem completable_heldBy {now : Int} (h : completable lease now claim = true) :
    heldBy lease claim = true :=
  (Bool.and_eq_true_iff.mp h).1

/-- A lease that matches a claim is its current one and has not run out. -/
theorem leaseMatches_some {claim : Option EvidenceClassificationClaimRow} {now : Int}
    (h : leaseMatches claim lease now = true) :
    ∃ current expiresAt, claim = some current ∧ current.state = .pending ∧
      current.generation = lease.generation ∧ current.leaseOwner = some lease.leaseOwner ∧
      current.leaseExpiresAt = some expiresAt ∧ now < expiresAt := by
  cases claim with
  | none => cases h
  | some current =>
      simp only [leaseMatches, Option.any_some, Bool.and_eq_true, decide_eq_true_eq] at h
      obtain ⟨⟨⟨hstate, hgeneration⟩, howner⟩, htime⟩ := h
      cases hexpires : current.leaseExpiresAt with
      | none =>
          rw [hexpires] at htime
          cases htime
      | some expiresAt =>
          rw [hexpires] at htime
          exact ⟨current, expiresAt, rfl, hstate, hgeneration, howner, hexpires,
            by simpa using htime⟩

variable [Digest] {ttl : LeaseTtl} {store after : EvidenceStore}
variable {now : Int} {lease : EvidenceLease} {evidenceHash : String} {leaseOwner : Uuid}
  {claim : EvidenceClassificationClaimRow}
variable {classifications : List EvidenceClassification}

variable {claims : Checked claimSchema}

/-! ## What each operation does -/

structure Granted (evidenceHash : String) (leaseOwner : Uuid) (store : EvidenceStore)
    (lease : EvidenceLease) (after : EvidenceStore) : Prop where
  about : lease.evidenceHash = evidenceHash
  unstored : store.storedOf evidenceHash = none
  classifications : after.classifications = store.classifications
  budgets : after.budgets = store.budgets
  others : ∀ other, other ≠ evidenceHash → after.claimOf other = store.claimOf other
  claim : ∃ claim, after.claimOf evidenceHash = some claim ∧ claim.state = .pending ∧
    claim.generation = lease.generation
  next : ∀ claim ∈ store.claimOf evidenceHash, claim.state = .pending ∧
    lease.generation = claim.generation + 1

omit [Digest] in
theorem granted_first (hunstored : store.storedOf evidenceHash = none)
    (hnone : store.claimOf evidenceHash = none)
    (hinsert : store.claims.insert (firstClaim ttl evidenceHash leaseOwner now) = some claims) :
    Granted evidenceHash leaseOwner store ⟨evidenceHash, leaseOwner, 1⟩ { store with claims } := by
  have hclaim : ∀ other, ({ store with claims } : EvidenceStore).claimOf other =
      (store.claimOf other).or
        (if evidenceHash = other then some (firstClaim ttl evidenceHash leaseOwner now)
          else none) := by
    intro other
    rw [EvidenceStore.claimOf, Checked.rows_insert hinsert, lookup_append]
    rfl
  refine ⟨rfl, hunstored, rfl, rfl, fun other hother => ?_, ?_, fun claim hmem => ?_⟩
  · rw [hclaim, if_neg (Ne.symm hother), Option.or_none]
  · refine ⟨firstClaim ttl evidenceHash leaseOwner now, ?_, rfl, rfl⟩
    rw [hclaim, hnone, if_pos rfl, Option.none_or]
  · rw [hnone] at hmem
    cases hmem

omit [Digest] in
/-- A lease that takes over from one that ran out. -/
theorem granted_next (hunstored : store.storedOf evidenceHash = none)
    (hclaim : store.claimOf evidenceHash = some claim)
    (hexpired : expired evidenceHash now claim = true)
    (hupdate : store.claims.update (expired evidenceHash now) (takenOver ttl leaseOwner now) =
      some claims) :
    Granted evidenceHash leaseOwner store ⟨evidenceHash, leaseOwner, claim.generation + 1⟩
      { store with claims } := by
  have hkeep : ∀ claim : EvidenceClassificationClaimRow,
      (takenOver ttl leaseOwner now claim).evidenceHash = claim.evidenceHash := fun _ => rfl
  have hpending : claim.state = .pending := by
    simp only [expired, Bool.and_eq_true, decide_eq_true_eq] at hexpired
    exact hexpired.1.2
  refine ⟨rfl, hunstored, rfl, rfl, fun other hother => ?_, ?_, fun current hcurrent => ?_⟩
  · exact claimOf_update_other hupdate hkeep (fun _ h => expired_hash h) hother
  · refine ⟨takenOver ttl leaseOwner now claim, ?_, hpending, rfl⟩
    rw [claimOf_update hupdate hkeep, hclaim, Option.map_some, if_pos hexpired]
  · rw [hclaim] at hcurrent
    cases hcurrent
    exact ⟨hpending, rfl⟩

/-- Asking for evidence grants a lease, or leaves the tables as they are. -/
theorem acquire_ok {answer : EvidenceClaim}
    (h : acquire ttl evidenceHash leaseOwner now store = .ok (answer, after)) :
    (∃ lease, answer = .lease lease ∧ Granted evidenceHash leaseOwner store lease after) ∨
      ((∀ lease, answer ≠ .lease lease) ∧ after = store) := by
  simp only [acquire, check_bind_ok] at h
  obtain ⟨-, h⟩ := h
  cases hstored : store.storedOf evidenceHash with
  | some stored =>
      rw [hstored] at h
      obtain ⟨found, hread, heq⟩ := map_ok.mp h
      cases heq
      refine Or.inr ⟨fun lease hlease => ?_, rfl⟩
      simp only [readStored, require_bind_ok, check_bind_ok] at hread
      obtain ⟨claim, -, -, classifications, -, hread⟩ := hread
      obtain ⟨payload, -, hread⟩ := bind_ok.mp hread
      obtain ⟨-, heq⟩ := check_bind_ok.mp hread
      cases heq
      cases hlease
  | none =>
      rw [hstored] at h
      simp only [leaseEvidence] at h
      cases hclaim : store.claimOf evidenceHash with
      | none =>
          rw [hclaim] at h
          obtain ⟨claims, hinsert, heq⟩ := require_bind_ok.mp h
          cases heq
          exact Or.inl ⟨_, rfl, granted_first hstored hclaim hinsert⟩
      | some claim =>
          rw [hclaim] at h
          simp only [takeOver] at h
          by_cases hexpired : expired evidenceHash now claim = true
          · rw [if_pos hexpired] at h
            obtain ⟨claims, hupdate, heq⟩ := require_bind_ok.mp h
            cases heq
            exact Or.inl ⟨_, rfl, granted_next hstored hclaim hexpired hupdate⟩
          · rw [if_neg hexpired] at h
            obtain ⟨found, hpending, heq⟩ := bind_ok.mp h
            cases heq
            obtain ⟨-, heq⟩ := check_bind_ok.mp hpending
            cases heq
            exact Or.inr ⟨by rintro _ ⟨⟩, rfl⟩

structure Completes (lease : EvidenceLease) (classifications : List EvidenceClassification)
    (now : Int) (store after : EvidenceStore) : Prop where
  current : leaseMatches (store.claimOf lease.evidenceHash) lease now = true
  payload : ∃ payload, classificationPayload classifications = .ok payload ∧
    after.classifications.rows = store.classifications.rows ++ [completedRow lease payload now]
  unstored : store.storedOf lease.evidenceHash = none
  budgets : after.budgets = store.budgets
  others : ∀ other, other ≠ lease.evidenceHash → after.claimOf other = store.claimOf other
  claim : ∃ claim, after.claimOf lease.evidenceHash = some claim ∧ claim.state = .completed ∧
    claim.generation = lease.generation

/-- A lease is completed only while it is current. -/
theorem complete_ok (h : complete lease classifications now store = .ok after) :
    Completes lease classifications now store after := by
  simp only [complete, check_bind_ok] at h
  obtain ⟨-, h⟩ := h
  obtain ⟨payload, hpayload, h⟩ := bind_ok.mp h
  simp only [check_bind_ok, raiseIf_ok, Bool.not_eq_false', require_bind_ok] at h
  obtain ⟨hmatches, stored, hinsert, -, claims, hupdate, heq⟩ := h
  cases heq
  have hkeep : ∀ claim : EvidenceClassificationClaimRow,
      (completedClaim now claim).evidenceHash = claim.evidenceHash := fun _ => rfl
  refine ⟨hmatches, ⟨payload, hpayload, Checked.rows_insert hinsert⟩, ?_, rfl,
    fun other hother => ?_, ?_⟩
  · refine lookup_none.mpr fun old hold heq => ?_
    have hclash := Checked.clash_insert hinsert old hold
    have hid : (completedRow lease payload now).evidenceHash = lease.evidenceHash := rfl
    simp [classificationSchema, clashOn, hid, heq] at hclash
  · exact claimOf_update_other hupdate hkeep
      (fun claim hclaim => (heldBy_claim (completable_heldBy hclaim)).1) hother
  · obtain ⟨current, expiresAt, hclaim, hstate, hgeneration, howner, hexpires, htime⟩ :=
      leaseMatches_some hmatches
    refine ⟨completedClaim now current, ?_, rfl, hgeneration⟩
    have hcompletable : completable lease now current = true := by
      have hid : current.evidenceHash = lease.evidenceHash := (lookup_some hclaim).2
      simp [completable, heldBy, hid, hstate, hgeneration, howner, hexpires, htime]
    have hafter := claimOf_update hupdate hkeep lease.evidenceHash
    rw [hclaim, Option.map_some, if_pos hcompletable] at hafter
    exact hafter

omit [Digest] in
theorem release_ok (h : release lease now store = .ok after) :
    after.classifications = store.classifications ∧ after.budgets = store.budgets ∧
      ∀ evidenceHash, after.claimOf evidenceHash =
        (store.claimOf evidenceHash).map fun claim =>
          if heldBy lease claim then releasedClaim now claim else claim := by
  obtain ⟨claims, hupdate, heq⟩ := require_bind_ok.mp h
  cases heq
  exact ⟨rfl, rfl, claimOf_update hupdate fun _ => rfl⟩

omit [Digest] in
/-- A lease that holds no claim is released without a change. -/
theorem release_unheld (h : release lease now store = .ok after)
    (hheld : ∀ claim ∈ store.claims.rows, heldBy lease claim = false) : after = store := by
  obtain ⟨claims, hupdate, heq⟩ := require_bind_ok.mp h
  cases heq
  have hrows := Checked.rows_update hupdate
  rw [modify_of_not hheld] at hrows
  obtain ⟨⟨rows, holds⟩, classifications, budgets⟩ := store
  obtain ⟨rows', holds'⟩ := claims
  cases hrows
  rfl

omit [Digest] in
theorem reserve_ok {model : String} {count : Int}
    (h : reserveModelRequest model store = .ok (count, after)) :
    after.claims = store.claims ∧ after.classifications = store.classifications ∧
      model = MODEL ∧ after.budgets.rows = modify (available model) spent store.budgets.rows ∧
      ∃ budget ∈ store.budgets.rows, available model budget = true := by
  simp only [reserveModelRequest, check_bind_ok, raiseIf_ok, bne_eq_false_iff_eq,
    require_bind_ok, Bool.not_eq_false'] at h
  obtain ⟨hmodel, budget, hbudget, havailable, budgets, hupdate, heq⟩ := h
  cases heq
  exact ⟨rfl, rfl, hmodel, Checked.rows_update hupdate, budget, (lookup_some hbudget).1,
    havailable⟩

/-! ## Reading back -/

omit [Digest] in
/-- The payload of classifications consists of their documents. -/
theorem payloadItems_ok {clusterIds sourceIds : List String} {payload : List Json}
    (h : payloadItems clusterIds sourceIds classifications = .ok payload) :
    payload = classifications.map classificationCodec.write := by
  induction classifications generalizing clusterIds sourceIds payload with
  | nil =>
      cases h
      rfl
  | cons classification rest ih =>
      simp only [payloadItems, check_bind_ok] at h
      obtain ⟨-, -, -, h⟩ := h
      obtain ⟨seen, -, h⟩ := bind_ok.mp h
      simp only [check_bind_ok] at h
      obtain ⟨-, -, -, h⟩ := h
      obtain ⟨items, hitems, heq⟩ := bind_ok.mp h
      cases heq
      rw [List.map_cons, ih hitems]

/-- Stored classifications are read back. -/
theorem readStored_completed {stored : EvidenceClassificationRow}
    (hclaim : store.claimOf stored.evidenceHash = some claim) (hstate : claim.state = .completed)
    (hgeneration : claim.generation = stored.completedGeneration)
    (hpayload : classificationPayload classifications = .ok stored.classificationsPayload)
    (hhash : stored.classificationHash =
      classificationHash stored.evidenceHash stored.classificationsPayload) :
    readStored store stored = .ok (.stored stored.evidenceHash classifications) := by
  have hitems : stored.classificationsPayload = classifications.map classificationCodec.write := by
    obtain ⟨-, hitems⟩ := check_bind_ok.mp hpayload
    exact payloadItems_ok hitems
  have hread : stored.classificationsPayload.mapM classificationCodec.read =
      some classifications := by
    rw [hitems]
    exact classificationCodec_lawful.list.reads classifications fun _ _ => trivial
  simp only [readStored, require_bind_ok, check_bind_ok, raiseIf_ok]
  refine ⟨claim, hclaim, by simp [hstate, hgeneration], classifications, hread, ?_⟩
  refine bind_ok.mpr ⟨stored.classificationsPayload, hpayload, ?_⟩
  rw [check_bind_ok, raiseIf_ok, hhash]
  exact ⟨by simp, rfl⟩

end AlphaDecay.Evidence
