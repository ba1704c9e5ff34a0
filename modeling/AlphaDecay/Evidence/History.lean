import AlphaDecay.Evidence.Leases
import AlphaDecay.Foundation.Transition

/-!
# The history of the evidence ledger

Any number of workers acquire, complete and release leases and reserve requests, while the clock of
the database never moves back. The invariant `Ledger` relates the tables to the leases that a run
has issued and the requests it has reserved; the laws of the ledger follow from it.
-/

namespace AlphaDecay.Evidence

open Foundation Foundation.Table Foundation.Json

variable [Digest]
variable {lease : EvidenceLease} {evidenceHash : String}

variable {classifications : List EvidenceClassification}

/-! ## Calls -/

/-- A call of a worker. An owner is drawn for the lease that a call may get. -/
inductive EvidenceCall where
  | acquire (evidenceHash : String) (leaseOwner : Uuid)
  | complete (lease : EvidenceLease) (classifications : List EvidenceClassification)
  | release (lease : EvidenceLease)
  | reserve (model : String)

/-- What a call returns. -/
inductive EvidenceReply where
  | claim (answer : EvidenceClaim)
  | nothing
  | count (requests : Int)

/-- Run a call at a time of the database clock. -/
def perform (ttl : LeaseTtl) (call : EvidenceCall) (now : Int) (store : EvidenceStore) :
    Except EvidenceLedgerFailure (EvidenceReply × EvidenceStore) :=
  match call with
  | .acquire evidenceHash leaseOwner =>
      (fun answer => (.claim answer.1, answer.2)) <$> acquire ttl evidenceHash leaseOwner now store
  | .complete lease classifications =>
      (fun after => (.nothing, after)) <$> complete lease classifications now store
  | .release lease => (fun after => (.nothing, after)) <$> release lease now store
  | .reserve model => (fun count => (.count count.1, count.2)) <$> reserveModelRequest model store

/-- The tables and the clock of the database. -/
structure EvidenceWorld where
  store : EvidenceStore
  clock : Int

structure EvidenceEvent where
  call : EvidenceCall
  outcome : Except EvidenceLedgerFailure EvidenceReply

/-- One call runs in its own transaction, which is rolled back when the call raises. -/
inductive EvidenceStep (ttl : LeaseTtl) :
    EvidenceWorld → EvidenceEvent → EvidenceWorld → Prop where
  | done {world : EvidenceWorld} {call : EvidenceCall} {now : Int} {reply : EvidenceReply}
      {after : EvidenceStore} (hclock : world.clock ≤ now)
      (hperform : perform ttl call now world.store = .ok (reply, after)) :
      EvidenceStep ttl world ⟨call, .ok reply⟩ ⟨after, now⟩
  | raised {world : EvidenceWorld} {call : EvidenceCall} {now : Int}
      {failure : EvidenceLedgerFailure} (hclock : world.clock ≤ now)
      (hperform : perform ttl call now world.store = .error failure) :
      EvidenceStep ttl world ⟨call, .error failure⟩ ⟨world.store, now⟩

/-- The ledger under calls of any number of workers, before any evidence is claimed. -/
def evidenceSystem (ttl : LeaseTtl) : System EvidenceWorld EvidenceEvent where
  initial := fun world =>
    world.store.claims.rows = [] ∧ world.store.classifications.rows = []
  step := EvidenceStep ttl

omit [Digest] in
def EvidenceEvent.lease? (event : EvidenceEvent) : Option EvidenceLease :=
  match event.outcome with
  | .ok (.claim (.lease lease)) => some lease
  | _ => none

/-- The leases that a history issues, oldest first. -/
def issuedLeases (history : List EvidenceEvent) : List EvidenceLease :=
  history.filterMap EvidenceEvent.lease?

def EvidenceEvent.reserves (event : EvidenceEvent) : Bool :=
  match event.outcome with
  | .ok (.count _) => true
  | _ => false

/-- The number of successful reservations of a history. -/
def reservations (history : List EvidenceEvent) : Nat :=
  history.countP EvidenceEvent.reserves

/-! ## The invariant -/

/-- A piece of evidence has stored classifications, which its completed claim and its hash bear
out. -/
structure StoredAs (store : EvidenceStore) (evidenceHash : String)
    (classifications : List EvidenceClassification) : Prop where
  row : ∃ stored, store.storedOf evidenceHash = some stored ∧
    classificationPayload classifications = .ok stored.classificationsPayload ∧
    stored.classificationHash = classificationHash evidenceHash stored.classificationsPayload ∧
    ∃ claim, store.claimOf evidenceHash = some claim ∧ claim.state = .completed ∧
      claim.generation = stored.completedGeneration

/-- What holds of the tables after every history. -/
structure Ledger (history : List EvidenceEvent) (world : EvidenceWorld) : Prop where
  stored : ∀ evidenceHash, (world.store.storedOf evidenceHash).isSome = true →
    ∃ classifications, StoredAs world.store evidenceHash classifications
  issued : ∀ lease ∈ issuedLeases history, ∃ claim,
    world.store.claimOf lease.evidenceHash = some claim ∧ lease.generation ≤ claim.generation
  increasing : (issuedLeases history).Pairwise fun left right =>
    left.evidenceHash = right.evidenceHash → left.generation < right.generation
  counted : ∀ budget ∈ world.store.budgets.rows,
    (reservations history : Int) ≤ budget.requestCount
  uncounted : world.store.budgets.rows = [] → reservations history = 0

/-- How the claim of a piece of evidence may move: its generation never falls, and once it is
completed it stays as it is. -/
structure ClaimMoves (before after : Option EvidenceClassificationClaimRow) : Prop where
  kept : before.isSome = true → after.isSome = true
  generation : ∀ old ∈ before, ∀ new ∈ after, old.generation ≤ new.generation
  completed : ∀ old ∈ before, old.state = .completed → after = some old

variable {store after : EvidenceStore} {now : Int} {call : EvidenceCall} {reply : EvidenceReply}

omit [Digest] in
theorem ClaimMoves.refl (claim : Option EvidenceClassificationClaimRow) :
    ClaimMoves claim claim :=
  ⟨id, fun old hold new hnew => by
    cases Option.mem_unique hold hnew
    exact le_rfl, fun _ hold _ => hold⟩

variable {ttl : LeaseTtl} {world next : EvidenceWorld} {history : List EvidenceEvent}
  {event : EvidenceEvent}

/-- What a successful call does to the tables, except for the row that it may store. -/
structure Performed (call : EvidenceCall) (now : Int) (reply : EvidenceReply)
    (store after : EvidenceStore) : Prop where
  moves : ∀ evidenceHash,
    (∀ lease classifications, call = .complete lease classifications →
      evidenceHash ≠ lease.evidenceHash) →
    ClaimMoves (store.claimOf evidenceHash) (after.claimOf evidenceHash)
  unstored : (∀ lease classifications, call ≠ .complete lease classifications) →
    after.classifications = store.classifications
  completes : ∀ lease classifications, call = .complete lease classifications →
    Completes lease classifications now store after
  grants : ∀ lease, reply = .claim (.lease lease) →
    ∃ leaseOwner, Granted lease.evidenceHash leaseOwner store lease after
  budgets : (∀ model, call ≠ .reserve model) → after.budgets = store.budgets

omit [Digest] in
theorem Granted.moves {leaseOwner : Uuid} (h : Granted evidenceHash leaseOwner store lease after)
    (other : String) : ClaimMoves (store.claimOf other) (after.claimOf other) := by
  by_cases hsame : other = evidenceHash
  · subst hsame
    obtain ⟨claim, hclaim, -, hgeneration⟩ := h.claim
    refine ⟨fun _ => by rw [hclaim]; rfl, fun old hold new hnew => ?_, fun old hold hstate => ?_⟩
    · rw [hclaim] at hnew
      cases hnew
      have hnext := (h.next old hold).2
      omega
    · rw [(h.next old hold).1] at hstate
      cases hstate
  · rw [h.others other hsame]
    exact .refl _

omit [Digest] in
theorem releasedClaim_moves (claim : Option EvidenceClassificationClaimRow) :
    ClaimMoves claim (claim.map fun claim =>
      if heldBy lease claim then releasedClaim now claim else claim) := by
  cases claim with
  | none => exact .refl none
  | some claim =>
      by_cases hheld : heldBy lease claim = true
      · rw [Option.map_some, if_pos hheld]
        refine ⟨fun _ => rfl, fun old hold new hnew => ?_, fun old hold hstate => ?_⟩
        · cases hold
          cases hnew
          exact Int.le_of_lt (Int.lt_succ _)
        · cases hold
          rw [(heldBy_claim hheld).2.1] at hstate
          cases hstate
      · rw [Option.map_some, if_neg hheld]
        exact .refl _

/-- What a successful call does. -/
theorem performed_of_perform (h : perform ttl call now store = .ok (reply, after)) :
    Performed call now reply store after := by
  cases call with
  | acquire evidenceHash leaseOwner =>
      obtain ⟨⟨answer, found⟩, hacquire, heq⟩ := map_ok.mp h
      cases heq
      rcases acquire_ok hacquire with ⟨lease, rfl, hgranted⟩ | ⟨hanswer, rfl⟩
      · refine ⟨fun other _ => hgranted.moves other, fun _ => hgranted.classifications, nofun,
          fun granted hreply => ?_, fun _ => hgranted.budgets⟩
        cases hreply
        exact ⟨leaseOwner, hgranted.about ▸ hgranted⟩
      · refine ⟨fun _ _ => .refl _, fun _ => rfl, nofun, fun granted hreply => ?_, fun _ => rfl⟩
        cases hreply
        exact absurd rfl (hanswer granted)
  | complete lease classifications =>
      obtain ⟨found, hcomplete, heq⟩ := map_ok.mp h
      cases heq
      have hcompletes := complete_ok hcomplete
      refine ⟨fun other hother => ?_, fun hcall => absurd rfl (hcall lease classifications),
        fun _ _ heq => ?_, nofun, fun _ => hcompletes.budgets⟩
      · rw [hcompletes.others other (hother lease classifications rfl)]
        exact .refl _
      · cases heq
        exact hcompletes
  | release lease =>
      obtain ⟨found, hrelease, heq⟩ := map_ok.mp h
      cases heq
      obtain ⟨hclassifications, hbudgets, hclaims⟩ := release_ok hrelease
      refine ⟨fun other _ => ?_, fun _ => hclassifications, nofun, nofun, fun _ => hbudgets⟩
      rw [hclaims other]
      exact releasedClaim_moves _
  | reserve model =>
      obtain ⟨⟨count, found⟩, hreserve, heq⟩ := map_ok.mp h
      cases heq
      obtain ⟨hclaims, hclassifications, -⟩ := reserve_ok hreserve
      refine ⟨fun other _ => ?_, fun _ => hclassifications, nofun, nofun,
        fun hcall => absurd rfl (hcall model)⟩
      rw [EvidenceStore.claimOf, EvidenceStore.claimOf, hclaims]
      exact .refl _

/-- The claim of every piece of evidence keeps to its generations in a successful call. -/
theorem Performed.claim_kept (h : Performed call now reply store after)
    {claim : EvidenceClassificationClaimRow} (hclaim : store.claimOf evidenceHash = some claim) :
    ∃ found, after.claimOf evidenceHash = some found ∧ claim.generation ≤ found.generation := by
  by_cases hcompletes : ∃ lease classifications, call = .complete lease classifications ∧
      evidenceHash = lease.evidenceHash
  · obtain ⟨lease, classifications, hcall, rfl⟩ := hcompletes
    have hdone := h.completes lease classifications hcall
    obtain ⟨found, hfound, -, hgeneration⟩ := hdone.claim
    obtain ⟨current, -, hcurrent, -, hcurrentGeneration, -⟩ := leaseMatches_some hdone.current
    rw [hclaim] at hcurrent
    cases hcurrent
    exact ⟨found, hfound, by omega⟩
  · have hmoves := h.moves evidenceHash fun lease classifications hcall hsame =>
      hcompletes ⟨lease, classifications, hcall, hsame⟩
    rw [hclaim] at hmoves
    obtain ⟨found, hfound⟩ := Option.isSome_iff_exists.mp (hmoves.kept rfl)
    exact ⟨found, hfound, hmoves.generation claim rfl found hfound⟩

/-- Stored classifications stay. -/
theorem Performed.storedOf_kept (h : Performed call now reply store after)
    {stored : EvidenceClassificationRow} (hstored : store.storedOf evidenceHash = some stored) :
    after.storedOf evidenceHash = some stored := by
  by_cases hcompletes : ∃ lease classifications, call = .complete lease classifications
  · obtain ⟨lease, classifications, hcall⟩ := hcompletes
    obtain ⟨payload, -, hrows⟩ := (h.completes lease classifications hcall).payload
    rw [EvidenceStore.storedOf, hrows, lookup_append]
    have hfound : lookup (fun row : EvidenceClassificationRow => row.evidenceHash) evidenceHash
        store.classifications.rows = some stored := hstored
    rw [hfound, Option.some_or]
  · rw [EvidenceStore.storedOf, h.unstored fun lease classifications hcall =>
      hcompletes ⟨lease, classifications, hcall⟩]
    exact hstored

/-- Stored classifications stay what they are. -/
theorem StoredAs.kept (h : StoredAs store evidenceHash classifications)
    (hperformed : Performed call now reply store after) :
    StoredAs after evidenceHash classifications := by
  obtain ⟨stored, hstored, hpayload, hhash, claim, hclaim, hstate, hgeneration⟩ := h.row
  have hmoves := hperformed.moves evidenceHash fun lease given hcall hsame => by
    have hunstored := (hperformed.completes lease given hcall).unstored
    rw [← hsame, hstored] at hunstored
    cases hunstored
  rw [hclaim] at hmoves
  exact ⟨stored, hperformed.storedOf_kept hstored, hpayload, hhash, claim,
    hmoves.completed claim rfl hstate, hstate, hgeneration⟩

theorem storedAs_of_completes (h : Completes lease classifications now store after) :
    StoredAs after lease.evidenceHash classifications := by
  obtain ⟨payload, hpayload, hrows⟩ := h.payload
  obtain ⟨claim, hclaim, hstate, hgeneration⟩ := h.claim
  refine ⟨completedRow lease payload now, ?_, hpayload, rfl, claim, hclaim, hstate, hgeneration⟩
  have hnone : lookup (fun row : EvidenceClassificationRow => row.evidenceHash)
      lease.evidenceHash store.classifications.rows = none := h.unstored
  rw [EvidenceStore.storedOf, hrows, lookup_append, hnone, Option.none_or]
  exact if_pos rfl

/-! ## Histories -/

omit [Digest] in
theorem issuedLeases_append (history : List EvidenceEvent) (event : EvidenceEvent) :
    issuedLeases (history ++ [event]) = issuedLeases history ++ event.lease?.toList := by
  rw [issuedLeases, List.filterMap_append]
  cases hlease : event.lease? <;> simp [issuedLeases, hlease]

omit [Digest] in
theorem reservations_append (history : List EvidenceEvent) (event : EvidenceEvent) :
    reservations (history ++ [event]) =
      reservations history + if event.reserves then 1 else 0 := by
  rw [reservations, List.countP_append, List.countP_singleton]
  rfl

omit [Digest] in
/-- Only the reply of a claim issues a lease. -/
theorem lease?_ok (h : (⟨call, .ok reply⟩ : EvidenceEvent).lease? = some lease) :
    reply = .claim (.lease lease) := by
  simp only [EvidenceEvent.lease?] at h
  split at h
  · rename_i hreply
    cases hreply
    cases h
    rfl
  · cases h

/-- The budgets count every reservation. -/
theorem counted_of_perform {count : Nat} (h : perform ttl call now store = .ok (reply, after))
    (hcounted : ∀ budget ∈ store.budgets.rows, (count : Int) ≤ budget.requestCount)
    (huncounted : store.budgets.rows = [] → count = 0) :
    let total := count + if (⟨call, .ok reply⟩ : EvidenceEvent).reserves then 1 else 0
    (∀ budget ∈ after.budgets.rows, (total : Int) ≤ budget.requestCount) ∧
      (after.budgets.rows = [] → total = 0) := by
  cases call with
  | reserve model =>
      obtain ⟨⟨requests, found⟩, hreserve, heq⟩ := map_ok.mp h
      cases heq
      obtain ⟨-, -, hmodel, hrows, budget, hbudget, havailable⟩ := reserve_ok hreserve
      -- every budget is that of the model, so the reservation finds one of them only
      have hunique : ∀ other ∈ store.budgets.rows, other = budget := by
        intro other hother
        have hmodels : ∀ row ∈ store.budgets.rows, row.model = MODEL := fun row hrow => by
          have hcheck := store.budgets.holds.1 row hrow
          simp only [budgetSchema, Bool.and_eq_true, beq_iff_eq] at hcheck
          exact hcheck.1.1
        have hkey : Unique (fun row : ModelCallBudgetRow => some row.model)
            store.budgets.rows := store.budgets.unique fun _ _ hclash => hclash
        exact hkey.eq hother hbudget (congrArg some (hmodels other hother))
          (congrArg some (hmodels budget hbudget))
      refine ⟨fun changed hchanged => ?_, fun hempty => ?_⟩
      · rw [hrows] at hchanged
        obtain ⟨old, hold, rfl⟩ := mem_modify.mp hchanged
        cases hunique old hold
        have hle := hcounted budget hbudget
        rw [if_pos havailable]
        change ((count + 1 : Nat) : Int) ≤ budget.requestCount + 1
        omega
      · rw [hrows] at hempty
        rw [List.map_eq_nil_iff.mp hempty] at hbudget
        exact absurd hbudget List.not_mem_nil
  | _ =>
      obtain ⟨found, hfound, heq⟩ := map_ok.mp h
      have hbudgets := (performed_of_perform h).budgets nofun
      cases heq
      rw [hbudgets]
      exact ⟨hcounted, huncounted⟩

/-- A lease that is granted is the newest of its evidence. -/
theorem Ledger.newest (h : Ledger history world) {leaseOwner : Uuid}
    (hgranted : Granted lease.evidenceHash leaseOwner world.store lease after)
    {earlier : EvidenceLease} (hearlier : earlier ∈ issuedLeases history)
    (hsame : earlier.evidenceHash = lease.evidenceHash) :
    earlier.generation < lease.generation := by
  obtain ⟨claim, hclaim, hle⟩ := h.issued earlier hearlier
  rw [hsame] at hclaim
  have hnext := (hgranted.next claim hclaim).2
  omega

theorem Ledger.step (h : Ledger history world) (hstep : EvidenceStep ttl world event next) :
    Ledger (history ++ [event]) next := by
  cases hstep with
  | @raised call now failure hclock hperform =>
      have hlease : (⟨call, .error failure⟩ : EvidenceEvent).lease? = none := rfl
      have hreserves : (⟨call, .error failure⟩ : EvidenceEvent).reserves = false := rfl
      refine ⟨h.stored, ?_, ?_, ?_, ?_⟩
      · rw [issuedLeases_append, hlease]
        simpa using h.issued
      · rw [issuedLeases_append, hlease]
        simpa using h.increasing
      · rw [reservations_append, hreserves]
        exact h.counted
      · rw [reservations_append, hreserves]
        exact h.uncounted
  | @done call now reply after hclock hperform =>
      have hperformed := performed_of_perform hperform
      have hcounted := counted_of_perform hperform h.counted h.uncounted
      have hgrants : ∀ lease ∈ (⟨call, .ok reply⟩ : EvidenceEvent).lease?.toList,
          ∃ leaseOwner, Granted lease.evidenceHash leaseOwner world.store lease after := by
        intro lease hlease
        exact hperformed.grants lease (lease?_ok (Option.mem_toList.mp hlease))
      refine ⟨fun evidenceHash hstored => ?_, fun lease hlease => ?_, ?_, ?_, ?_⟩
      · cases hbefore : world.store.storedOf evidenceHash with
        | some stored =>
            obtain ⟨classifications, hstoredAs⟩ := h.stored evidenceHash (by rw [hbefore]; rfl)
            exact ⟨classifications, hstoredAs.kept hperformed⟩
        | none =>
            by_cases hcompletes : ∃ lease classifications, call = .complete lease classifications
            · obtain ⟨lease, classifications, hcall⟩ := hcompletes
              have hdone := hperformed.completes lease classifications hcall
              by_cases hsame : evidenceHash = lease.evidenceHash
              · exact ⟨classifications, hsame ▸ storedAs_of_completes hdone⟩
              · obtain ⟨payload, -, hrows⟩ := hdone.payload
                have hid : (completedRow lease payload now).evidenceHash = lease.evidenceHash := rfl
                have hnone : lookup (fun row : EvidenceClassificationRow => row.evidenceHash)
                    evidenceHash world.store.classifications.rows = none := hbefore
                rw [EvidenceStore.storedOf, hrows, lookup_append, hnone, hid,
                  if_neg (Ne.symm hsame)] at hstored
                cases hstored
            · have hkept := hperformed.unstored fun lease classifications hcall =>
                hcompletes ⟨lease, classifications, hcall⟩
              rw [EvidenceStore.storedOf, hkept] at hstored
              have hnone : lookup (fun row : EvidenceClassificationRow => row.evidenceHash)
                  evidenceHash world.store.classifications.rows = none := hbefore
              rw [hnone] at hstored
              cases hstored
      · rw [issuedLeases_append] at hlease
        rcases List.mem_append.mp hlease with hold | hnew
        · obtain ⟨claim, hclaim, hle⟩ := h.issued lease hold
          obtain ⟨found, hfound, hkept⟩ := hperformed.claim_kept hclaim
          exact ⟨found, hfound, hle.trans hkept⟩
        · obtain ⟨leaseOwner, hgranted⟩ := hgrants lease hnew
          obtain ⟨claim, hclaim, -, hgeneration⟩ := hgranted.claim
          exact ⟨claim, hclaim, hgeneration.ge⟩
      · rw [issuedLeases_append]
        refine List.pairwise_append.mpr ⟨h.increasing, ?_, fun earlier hearlier lease hlease => ?_⟩
        · cases (⟨call, .ok reply⟩ : EvidenceEvent).lease? with
          | none => exact List.Pairwise.nil
          | some lease => exact List.pairwise_singleton _ _
        · obtain ⟨leaseOwner, hgranted⟩ := hgrants lease hlease
          exact h.newest hgranted hearlier
      · rw [reservations_append]
        exact hcounted.1
      · rw [reservations_append]
        exact hcounted.2

/-- The ledger holds after every run. -/
theorem Ledger.run {later : EvidenceWorld} {labels : List EvidenceEvent}
    (h : Ledger history world) (hrun : (evidenceSystem ttl).Run world labels later) :
    Ledger (history ++ labels) later :=
  hrun.history (P := fun labels state => Ledger (history ++ labels) state)
    (fun hstate hstep => by
      rw [← List.append_assoc]
      exact hstate.step hstep)
    (by rwa [List.append_nil])

/-- Before any evidence is claimed, the ledger holds. -/
theorem ledger_initial (h : (evidenceSystem ttl).initial world) : Ledger [] world := by
  obtain ⟨hclaims, hclassifications⟩ := h
  refine ⟨fun evidenceHash hstored => ?_, fun lease hlease => absurd hlease List.not_mem_nil,
    List.Pairwise.nil, fun budget hbudget => ?_, fun _ => rfl⟩
  · rw [EvidenceStore.storedOf, hclassifications] at hstored
    cases hstored
  · have hcheck := world.store.budgets.holds.1 budget hbudget
    simp only [budgetSchema, Bool.and_eq_true, decide_eq_true_eq] at hcheck
    exact hcheck.2.1

end AlphaDecay.Evidence
