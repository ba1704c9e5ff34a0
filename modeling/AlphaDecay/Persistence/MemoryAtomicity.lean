import AlphaDecay.Persistence.MemoryAgreement

/-!
# Atomicity of the repository in memory

An operation that raises leaves every dictionary as it was, in every store that runs reach and for
every call but one: `raised_unchanged_iff` says that exactly the claim of an entry that passes
every check, less than thirty seconds before the last instant of the calendar, raises after the
reservation of its budget was written.
-/

namespace AlphaDecay.InMemoryExecutionRepository

open Foundation Foundation.Action Memory

section Atomicity

variable {limits : Option EntryBudgetLimits} {store : Store}
variable {budget : EntryBudget} {call : Memory.Call} {accountFingerprint : String}

/-! ## What reachable stores keep -/

/-- Every role that has an account has a budget, and every intent is one of such a role. -/
structure Known (store : Store) : Prop where
  budgeted : ∀ role, (store.accounts.get role).isSome → (store.budgets.get role).isSome
  registered : ∀ id intent, store.intents.get id = some intent →
    (store.accounts.get intent.accountRole).isSome

/-- A store grows into another one: accounts and budgets stay, a new account comes with a budget,
and a new intent is of a role that has an account. -/
structure Grows (store next : Store) : Prop where
  roles : KeepsRoles store next
  budgets : ∀ role, (store.budgets.get role).isSome → (next.budgets.get role).isSome
  intents : ∀ id intent, next.intents.get id = some intent →
    (store.accounts.get intent.accountRole).isSome ∨
      ∃ id old, store.intents.get id = some old ∧ old.accountRole = intent.accountRole

variable {next : Store}

theorem Known.empty : Known {} :=
  ⟨fun _ h => (nomatch h), fun _ _ h => (nomatch h)⟩

/-- What is known of a store is known of the stores that it grows into. -/
theorem Known.grows (hknown : Known store) (h : Grows store next) : Known next := by
  constructor
  · intro role hrole
    rcases h.roles.budgeted role hrole with hold | hnew
    · exact h.budgets role (hknown.budgeted role hold)
    · exact hnew
  · intro id intent hget
    rcases h.intents id intent hget with hrole | ⟨key, old, hold, hsame⟩
    · exact h.roles.kept _ hrole
    · exact h.roles.kept _ (hsame ▸ hknown.registered key old hold)

theorem Grows.of_budgets (haccounts : next.accounts = store.accounts)
    (hintents : next.intents = store.intents)
    (hbudgets : ∀ role, (store.budgets.get role).isSome → (next.budgets.get role).isSome) :
    Grows store next :=
  ⟨.of_accounts haccounts, hbudgets, fun id intent hget =>
    .inr ⟨id, intent, hintents ▸ hget, rfl⟩⟩

theorem isSome_set_budgets {role : AccountRole} (other : AccountRole)
    (h : (store.budgets.get other).isSome) :
    ((store.budgets.set role budget).get other).isSome := by
  rw [Dict.get_set]
  split
  · rfl
  · exact h

/-- An intent of a store after one intent was set in place is of the role of an older one. -/
theorem role_of_set {key : Uuid} {old new : ExecutionIntent}
    (hold : store.intents.get key = some old) (hrole : new.accountRole = old.accountRole)
    (id : Uuid) (intent : ExecutionIntent)
    (hget : (store.intents.set key new).get id = some intent) :
    ∃ id old, store.intents.get id = some old ∧ old.accountRole = intent.accountRole := by
  rw [Dict.get_set] at hget
  split at hget
  · cases hget
    exact ⟨key, old, hold, hrole.symm⟩
  · exact ⟨id, intent, hget, rfl⟩

variable (limits) in
/-- Every effect of a call grows the store. -/
theorem Grows.of_effect (h : Memory.Effect limits store next) : Grows store next := by
  cases h with
  | frame hintents hbudgets hroles =>
      exact ⟨hroles, fun role hrole => by rwa [hbudgets], fun id intent hget =>
        .inr ⟨id, intent, hintents ▸ hget, rfl⟩⟩
  | register role hintents hbudgets hnew hroles =>
      refine ⟨hroles, fun other hother => ?_, fun id intent hget =>
        .inr ⟨id, intent, hintents ▸ hget, rfl⟩⟩
      rw [hbudgets]
      exact isSome_set_budgets other hother
  | approve intent hintents hnew hstate hfresh hslot haccount hbudgets hroles =>
      refine ⟨hroles, fun role hrole => by rwa [hbudgets], fun id other hget => ?_⟩
      rw [hintents, Dict.get_set] at hget
      split at hget
      · cases hget
        exact .inl haccount
      · exact .inr ⟨id, other, hget, rfl⟩
  | claim id old new hget hintents hid hrole henvelope hfill hold hnew hfree hbudgets hlimits
      hroles =>
      refine ⟨hroles, fun role hsome => ?_, fun key intent hkey =>
        .inr (role_of_set hget hrole key intent (hintents ▸ hkey))⟩
      split at hbudgets
      · obtain ⟨budget, -, hset⟩ := hbudgets
        rw [hset]
        exact isSome_set_budgets role hsome
      · rwa [hbudgets]
  | close id old new hget hintents hid hrole henvelope hold hnew budget charged hbudget hbudgets
      hcharged hroles =>
      refine ⟨hroles, fun role hsome => ?_, fun key intent hkey =>
        .inr (role_of_set hget hrole key intent (hintents ▸ hkey))⟩
      rw [hbudgets]
      exact isSome_set_budgets role hsome

theorem Grows.releaseUnsubmittedClaim {intentId : Uuid}
    (h : Memory.releaseUnsubmittedClaim intentId store = .ok next) : Grows store next := by
  simp only [Memory.releaseUnsubmittedClaim, require_bind_ok, check_bind_ok, pure, Except.pure,
    Except.ok.injEq] at h
  obtain ⟨intent, hget, attempts, -, -, budget, -, rfl⟩ := h
  refine ⟨.of_accounts rfl, fun role hrole => isSome_set_budgets role hrole, ?_⟩
  intro id other hother
  refine .inr (role_of_set hget ?_ id other hother)
  rfl

/-- Recovering the reservations of some intents grows the store. -/
theorem Grows.recoverReservations {intents : List ExecutionIntent} {middle : Store}
    (hgrows : Grows store middle)
    (h : intents.foldlM Memory.recoverReservation middle = .ok next) : Grows store next := by
  induction intents generalizing middle with
  | nil =>
      cases h
      exact hgrows
  | cons intent rest ih =>
      rw [List.foldlM_cons] at h
      obtain ⟨one, hone, hrest⟩ := bind_ok.mp h
      refine ih ?_ hrest
      unfold Memory.recoverReservation at hone
      split at hone
      · simp only [require_bind_ok, pure, Except.pure, Except.ok.injEq] at hone
        obtain ⟨budget, -, rfl⟩ := hone
        exact ⟨⟨hgrows.roles.kept, fun role hrole => (hgrows.roles.budgeted role hrole).imp_right
          fun hbudget => isSome_set_budgets role hbudget⟩,
          fun role hrole => isSome_set_budgets role (hgrows.budgets role hrole), hgrows.intents⟩
      · cases hone
        exact hgrows

/-- Where what reachable stores keep is known the recovery of the reservations finds every
budget. -/
theorem recoverEntryReservations_agrees (hknown : Known store) :
    recoverEntryReservations.Agrees store (Memory.recoverEntryReservations store) := by
  obtain ⟨last, hlast, hagrees⟩ := recoverReservations_agrees store.intents.values
    fun intent hmem => by
      obtain ⟨id, hget⟩ := Dict.mem_values.mp hmem
      exact hknown.budgeted intent.accountRole (hknown.registered id intent hget)
  refine .read_bind ?_
  rw [Memory.recoverEntryReservations, hlast]
  exact hagrees

variable [Digest]

/-- A call that returns grows the store. -/
theorem Grows.of_apply (h : Memory.apply limits call store = .ok next) : Grows store next := by
  cases call with
  | registerAccount role fingerprint equity =>
      exact .of_effect limits (registerAccount_effect h)
  | setAutonomousEnabled role enabled actor =>
      exact .of_effect limits (setAutonomousEnabled_effect h)
  | captureBaseline role baseline =>
      exact .of_effect limits (captureBaseline_effect h)
  | observeAccountAdjustment role activity =>
      exact .of_effect limits (observeAccountAdjustment_effect h)
  | addAssessmentCertificate certificate =>
      exact .of_effect limits (addAssessmentCertificate_effect h)
  | addEntryApproval approval =>
      exact .of_effect limits (addEntryApproval_effect h)
  | approveIntent intentId role envelope =>
      exact .of_effect limits (approveIntent_effect h)
  | claimIntent now token intentId actor role fingerprint =>
      exact .of_effect limits (claimIntent_effect h)
  | releaseUnsubmittedClaim intentId => exact .releaseUnsubmittedClaim h
  | addAttempt attempt => exact .of_effect limits (addAttempt_effect h)
  | replaceAttempt attempt => exact .of_effect limits (replaceAttempt_effect h)
  | finalizeExecution now certificate reconciliation requestedStatus =>
      exact .of_effect limits (finalizeExecution_effect h)
  | recoverEntryReservations =>
      exact .recoverReservations (.of_budgets rfl rfl fun _ hrole => hrole) h

/-- The part of a claim before the end of its lease leaves the store, or reserves the budget of
an entry that passes every check. -/
theorem reservedClaim_ok {now : Int} {intentId : Uuid} {actor : Actor} {accountRole : AccountRole}
    (h : reservedClaim limits now intentId actor accountRole accountFingerprint store = .ok next) :
    next = store ∨ ∃ intent account budget, store.intents.get intentId = some intent ∧
      intent.accountRole = accountRole ∧
      ReservesEntry limits store now actor accountFingerprint intent account budget ∧
      next = { store with budgets := store.budgets.set intent.accountRole { budget with
        reservedIntentId := some intent.intentId
        reservedRisk := intent.envelope.approvedMaxLoss } } := by
  simp only [reservedClaim, require_bind_ok, check_bind_ok, raiseIf_ok, bne_eq_false_iff_eq] at h
  obtain ⟨intent, hget, hrole, hexecutable, account, haccount, hfingerprint, hunlocked, happroved,
    hfree, horigin, h⟩ := h
  unfold Memory.authorizeClaim at h
  split at h
  · rename_i hentry
    simp only [Memory.reserveEntry, require_bind_ok, check_bind_ok, raiseIf_ok, pure, Except.pure,
      Except.ok.injEq] at h
    obtain ⟨hactor, hautonomous, budget, hbudget, hclean, hreserved, hwithin, rfl⟩ := h
    refine .inr ⟨intent, account, budget, hget, hrole, ?_, rfl⟩
    exact {
      entry := hentry
      executable := hexecutable
      registered := haccount
      fingerprint := hfingerprint
      unlocked := hunlocked
      approved := happroved
      free := by simpa using hfree
      authorized := horigin
      scheduled := by simpa using hactor
      autonomous := by simpa using hautonomous
      budgeted := hbudget
      clean := hclean
      unreserved := by simpa using hreserved
      within := hwithin }
  · simp only [check_bind_ok, pure, Except.pure, Except.ok.injEq] at h
    exact .inl h.2.symm

/-- The budget of an entry that passes every check of a claim is reserved. -/
theorem reservedClaim_of_reserves {now : Int} {intentId : Uuid} {actor : Actor}
    {accountRole : AccountRole} {intent : ExecutionIntent} {account : AccountState}
    (hget : store.intents.get intentId = some intent) (hrole : intent.accountRole = accountRole)
    (h : ReservesEntry limits store now actor accountFingerprint intent account budget) :
    reservedClaim limits now intentId actor accountRole accountFingerprint store =
      .ok { store with budgets := store.budgets.set intent.accountRole { budget with
        reservedIntentId := some intent.intentId
        reservedRisk := intent.envelope.approvedMaxLoss } } := by
  simp only [reservedClaim, require_bind_ok, check_bind_ok, raiseIf_ok, bne_eq_false_iff_eq]
  refine ⟨intent, hget, hrole, h.executable, account, h.registered, h.fingerprint, h.unlocked,
    h.approved, ?_, h.authorized, ?_⟩
  · have hfree := h.free
    simpa using hfree
  · rw [Memory.authorizeClaim, if_pos h.entry]
    simp only [Memory.reserveEntry, require_bind_ok, check_bind_ok, raiseIf_ok, pure, Except.pure,
      Except.ok.injEq]
    refine ⟨?_, ?_, budget, h.budgeted, h.clean, ?_, h.within, rfl⟩
    · have hactor := h.scheduled
      simpa using hactor
    · rw [h.autonomous]
      rfl
    · rw [h.unreserved]
      rfl

/-- Reserving a budget that reserved nothing changes the store. -/
theorem reserved_ne {intent : ExecutionIntent} {account : AccountState} {now : Int} {actor : Actor}
    (h : ReservesEntry limits store now actor accountFingerprint intent account budget) :
    { store with budgets := store.budgets.set intent.accountRole { budget with
      reservedIntentId := some intent.intentId
      reservedRisk := intent.envelope.approvedMaxLoss } } ≠ store := by
  intro hsame
  have hbudget := congrArg (fun store : Store => store.budgets.get intent.accountRole) hsame
  simp only [Dict.get_set, if_true, h.budgeted, Option.some.injEq] at hbudget
  have hreserved := congrArg EntryBudget.reservedIntentId hbudget
  rw [h.unreserved] at hreserved
  cases hreserved

/-! ## Every call -/

omit [Digest] in
/-- The return of an account is computed from what is read. -/
theorem normalizedReturn_reads (role : AccountRole) (currentEquity : Decimal) :
    (normalizedReturn role currentEquity).Reads := by
  refine .bind (.check _) fun _ => ?_
  refine .bind .read fun store => ?_
  split
  · exact .pure _
  · split
    · exact .pure _
    · exact .bind (.check _) fun gain => .pure _

/-- The calendar has the end of the lease of a call. Only claims have a lease. -/
def LeaseInRange : Memory.Call → Prop
  | .claimIntent now _ _ _ _ _ => Calendar.InRange (now + Calendar.seconds 30)
  | _ => True

/-- Where what reachable stores keep is known, every operation that may write agrees with the
function of the store, unless the end of its lease overflows. -/
theorem performCall_agrees (hknown : Known store) (hlease : LeaseInRange call) :
    (performCall limits call).Agrees store (Memory.apply limits call store) := by
  cases call with
  | registerAccount role fingerprint equity => exact registerAccount_agrees role fingerprint equity
  | setAutonomousEnabled role enabled actor => exact setAutonomousEnabled_agrees role enabled actor
  | captureBaseline role baseline => exact (captureBaseline_agrees role baseline).forget
  | observeAccountAdjustment role activity => exact observeAccountAdjustment_agrees role activity
  | addAssessmentCertificate certificate => exact addAssessmentCertificate_agrees certificate
  | addEntryApproval approval => exact addEntryApproval_agrees approval
  | approveIntent intentId role envelope =>
      exact (approveIntent_agrees intentId role envelope).forget
  | claimIntent now token intentId actor role fingerprint =>
      exact (claimIntent_agrees hlease token intentId actor role fingerprint).forget
  | releaseUnsubmittedClaim intentId => exact releaseUnsubmittedClaim_agrees intentId
  | addAttempt attempt => exact addAttempt_agrees attempt
  | replaceAttempt attempt => exact replaceAttempt_agrees attempt
  | finalizeExecution now certificate reconciliation requestedStatus =>
      exact (finalizeExecution_agrees now certificate reconciliation requestedStatus).forget
  | recoverEntryReservations => exact recoverEntryReservations_agrees hknown

/-- An operation that is not among those that may write only reads. -/
theorem perform_reads {request : Request} (h : ∀ call, request ≠ .call call) :
    (perform limits request).Reads := by
  cases request with
  | call call => exact absurd rfl (h call)
  | normalizedReturn role currentEquity =>
      exact .bind (normalizedReturn_reads role currentEquity) fun _ => .pure ()
  | attemptsFor intentId =>
      exact .bind (.bind .read fun _ => .check _) fun _ => .pure ()
  | getExecutionCertificate certificateId =>
      exact .bind (.bind .read fun _ => .check _) fun _ => .pure ()
  | getAssessmentCertificate certificateId =>
      exact .bind (.bind .read fun _ => .check _) fun _ => .pure ()
  | getEntryBudget role =>
      exact .bind (.bind (.check _) fun _ => .bind .read fun _ => .check _) fun _ => .pure ()
  | getExecutionLock role =>
      refine .bind (.bind (.check _) fun _ => .bind .read fun store => ?_) fun _ => .pure ()
      exact .bind (.check _) fun account => .pure _
  | getIntent intentId =>
      refine .bind (.bind .read fun store => .bind (.check _) fun intent => ?_) fun _ => .pure ()
      exact .bind (.check _) fun _ => .pure _

variable (limits) in
/-- An operation agrees with the function of the store, only reads, or is a claim that raises
late. -/
theorem perform_cases (hknown : Known store) (request : Request) :
    (∃ call, request = .call call ∧ LeaseInRange call ∧
      (perform limits request).Agrees store (Memory.apply limits call store)) ∨
    (∀ call, request ≠ .call call) ∧ (perform limits request).Reads ∨
    ∃ now token intentId actor role fingerprint,
      request = .call (.claimIntent now token intentId actor role fingerprint) ∧
      ¬ Calendar.InRange (now + Calendar.seconds 30) ∧
      (perform limits request).Stops store
        (reservedClaim limits now intentId actor role fingerprint store) .arithmetic := by
  by_cases hcall : ∀ call, request ≠ .call call
  · exact .inr (.inl ⟨hcall, perform_reads hcall⟩)
  · obtain ⟨call, hrequest⟩ := Classical.not_forall.mp hcall
    obtain rfl : request = .call call := Classical.not_not.mp hrequest
    by_cases hlease : LeaseInRange call
    · exact .inl ⟨call, rfl, hlease, performCall_agrees hknown hlease⟩
    · cases call with
      | claimIntent now token intentId actor role fingerprint =>
          exact .inr (.inr ⟨now, token, intentId, actor, role, fingerprint, rfl, hlease,
            (claimIntent_stops hlease token intentId actor role fingerprint).forget⟩)
      | _ => exact absurd trivial hlease

/-- Every call grows the store, whether it returns or raises. -/
theorem perform_grows (hknown : Known store) (request : Request) :
    Grows store (perform limits request store).2 := by
  have hsame : Grows store store := .of_budgets rfl rfl fun _ hrole => hrole
  rcases perform_cases limits hknown request with
    ⟨call, -, -, hagrees⟩ | ⟨-, hreads⟩ | ⟨now, _, intentId, actor, role, fingerprint, -, -, hstops⟩
  · rcases hagrees.left with hok | ⟨failure, -, hleft⟩
    · exact .of_apply hok
    · rwa [hleft]
  · rwa [hreads store]
  · cases hreserved : reservedClaim limits now intentId actor role fingerprint store with
    | error failure =>
        rw [hreserved] at hstops
        have hraised : perform limits request store = (.error failure, store) := hstops
        rwa [hraised]
    | ok left =>
        rw [hreserved] at hstops
        have hraised : perform limits request store = (.error .arithmetic, left) := hstops
        rw [hraised]
        rcases reservedClaim_ok hreserved with rfl | ⟨intent, account, budget, -, -, -, rfl⟩
        · exact hsame
        · exact .of_budgets rfl rfl fun role hrole => isSome_set_budgets role hrole

theorem Known.of_reachable (hreach : (inMemory limits).Reachable store) : Known store := by
  refine hreach.invariant (fun hinitial => hinitial ▸ Known.empty) ?_
  intro store request next hknown hstep
  have hnext : next = (perform limits request store).2 := hstep
  rw [hnext]
  exact hknown.grows (perform_grows hknown request)

/-- A call is the claim of an entry that passes every check, and the end of its lease overflows. -/
def OverflowsLease (limits : Option EntryBudgetLimits) (store : Store) : Request → Prop
  | .call (.claimIntent now _ intentId actor role fingerprint) =>
      ¬ Calendar.InRange (now + Calendar.seconds 30) ∧
        ∃ intent account budget, store.intents.get intentId = some intent ∧
          intent.accountRole = role ∧
          ReservesEntry limits store now actor fingerprint intent account budget
  | _ => False

theorem not_overflowsLease (h : LeaseInRange call) :
    ¬ OverflowsLease limits store (.call call) := by
  intro hoverflow
  cases call with
  | claimIntent now token intentId actor role fingerprint => exact hoverflow.1 h
  | _ => exact hoverflow

/-- In every store that runs reach, a call leaves every dictionary as it was when it raises,
exactly unless it is the claim of an entry that passes every check and overflows its lease. -/
theorem raised_unchanged_iff (hreach : (inMemory limits).Reachable store) (request : Request) :
    (∀ failure, (perform limits request store).1 = .error failure →
      (perform limits request store).2 = store) ↔ ¬ OverflowsLease limits store request := by
  rcases perform_cases limits (Known.of_reachable hreach) request with
    ⟨call, rfl, hlease, hagrees⟩ | ⟨hcall, hreads⟩ |
    ⟨now, token, intentId, actor, role, fingerprint, rfl, hlease, hstops⟩
  · exact ⟨fun _ => not_overflowsLease hlease, fun _ => hagrees.atomic⟩
  · refine ⟨fun _ hoverflow => ?_, fun _ => hreads.atomic⟩
    cases request with
    | call call => exact hcall call rfl
    | _ => exact hoverflow
  · refine Iff.trans hstops.atomic_iff ?_
    constructor
    · rintro hsame ⟨-, intent, account, budget, hget, hrole, hreserves⟩
      exact reserved_ne hreserves (hsame _ (reservedClaim_of_reserves hget hrole hreserves))
    · intro hnone left hleft
      rcases reservedClaim_ok hleft with hsame | ⟨intent, account, budget, hget, hrole,
        hreserves, -⟩
      · exact hsame
      · exact absurd ⟨hlease, intent, account, budget, hget, hrole, hreserves⟩ hnone

end Atomicity

/-! ## A rehearsal of a call that raises -/

section Rehearsed

variable [Digest]

/-- The store after calls of operations, whether they return or raise. -/
def performAll (limits : Option EntryBudgetLimits) (requests : List Request) (store : Store) :
    Store :=
  requests.foldl (fun store request => (perform limits request store).2) store

/-- Any calls of operations are a run. -/
theorem run_performAll (limits : Option EntryBudgetLimits) (requests : List Request)
    (store : Store) :
    (inMemory limits).Run store requests (performAll limits requests store) := by
  induction requests generalizing store with
  | nil => exact System.Run.refl store
  | cons request rest ih => exact System.Run.cons rfl (ih _)

end Rehearsed

open AlphaDecay.Rehearsal

/-- A time ten seconds before the last instant of the calendar. -/
def lastSeconds : Int :=
  3652059 * (Calendar.microsPerDay : Int) - Calendar.seconds 10

/-- Requests that register the account and approve an entry for as long as the calendar goes. -/
def approving : List Request :=
  [.registerAccount .submission fingerprint (dollars 100000),
    .setAutonomousEnabled .submission true .owner,
    .captureBaseline .submission {
      equity := dollars 100000, capturedAt := fundedAt, accountFingerprint := fingerprint
      positionsHash := "", ordersHash := "", activitiesHash := "", clean := true },
    .addEntryApproval { approval with expiresAt := lastSeconds + Calendar.seconds 5 },
    .approveIntent intentId .submission envelope].map Request.call

def approvedStore : Store :=
  performAll settings.entryLimits approving {}

/-- The claim of the entry at a time. -/
def claimAt (now : Int) : Request :=
  .call (.claimIntent now (Uuid.ofNat 20) intentId .scheduler .submission fingerprint)

/-- The intent that a budget of a store reserves. -/
def reservedOf (store : Store) : Option Uuid :=
  (store.budgets.get .submission).bind fun budget => budget.reservedIntentId

def claimedStore : Store :=
  (perform settings.entryLimits (claimAt (timeAt 0)) approvedStore).2

theorem claimAgain_raises :
    (perform settings.entryLimits (claimAt (timeAt 1)) claimedStore).1 =
      .error (.blocked "INTENT_ALREADY_CLAIMED") := by
  decide +kernel

/-- In the rehearsal the second claim overflows nothing, and leaves the store with the claimed
entry as it was. -/
theorem raised_unchanged_rehearsed :
    (perform settings.entryLimits (claimAt (timeAt 1)) claimedStore).2 = claimedStore := by
  have hreach : (inMemory settings.entryLimits).Reachable claimedStore :=
    ⟨{}, _, rfl, (run_performAll settings.entryLimits approving {}).snoc rfl⟩
  have hlease : ¬ OverflowsLease settings.entryLimits claimedStore (claimAt (timeAt 1)) :=
    not_overflowsLease (show Calendar.InRange _ by decide)
  exact (raised_unchanged_iff hreach (claimAt (timeAt 1))).mpr hlease _ claimAgain_raises

/-- In the rehearsal a claim in the last seconds of the calendar overflows its lease, and leaves a
budget that reserves the entry, which is not claimed. -/
theorem claim_raised_reserved :
    (inMemory settings.entryLimits).Reachable approvedStore ∧
    (perform settings.entryLimits (claimAt lastSeconds) approvedStore).1 = .error .arithmetic ∧
    reservedOf approvedStore = none ∧
    reservedOf (perform settings.entryLimits (claimAt lastSeconds) approvedStore).2 =
      some intentId := by
  refine ⟨⟨{}, _, rfl, run_performAll _ _ _⟩, ?_⟩
  decide +kernel

end AlphaDecay.InMemoryExecutionRepository
