import AlphaDecay.Persistence.MemoryActions

/-!
# Agreement of the repository in memory

Every operation that may write agrees with the function of the store that the budgets, claims and
certificates of this repository are proved about: it computes the same store, or raises the same
failure and leaves the store as it was. There are two exceptions. A claim computes the end of its
lease after the reservation of a budget is written, and agrees where the calendar has that end. The
recovery of the reservations writes in a loop, and agrees where every role in the loop has a budget.
-/

namespace AlphaDecay.InMemoryExecutionRepository

open Foundation Foundation.Action Memory

variable {limits : Option EntryBudgetLimits} {store : Store}

variable {now : Int}

/-! ## Accounts -/

/-- Registering an account writes the account and its budget after both checks. -/
theorem registerAccount_agrees (role : AccountRole) (fingerprint : String) (equity : Decimal) :
    (registerAccount role fingerprint equity).Agrees store
      (Memory.registerAccount role fingerprint equity store) := by
  refine .check_bind fun _ _ => ?_
  refine .read_bind ?_
  refine .check_bind fun _ _ => ?_
  refine .check_bind fun _ _ => ?_
  exact .write_bind (.of_write _)

/-- Switching autonomy writes an account that was found. -/
theorem setAutonomousEnabled_agrees (role : AccountRole) (enabled : Bool) (actor : Actor) :
    (setAutonomousEnabled role enabled actor).Agrees store
      (Memory.setAutonomousEnabled role enabled actor store) := by
  refine .check_bind fun _ _ => ?_
  refine .check_bind fun _ _ => ?_
  refine .read_bind ?_
  refine .check_bind fun account _ => ?_
  exact .of_write _

/-- Capturing a baseline writes it after every check. -/
theorem captureBaseline_agrees (role : AccountRole) (baseline : SubmissionBaseline) :
    (captureBaseline role baseline).Agrees store
      (Memory.captureBaseline role baseline store) := by
  refine .check_bind fun _ _ => ?_
  refine .read_bind ?_
  refine .check_bind fun _ _ => ?_
  refine .check_bind fun account _ => ?_
  refine .check_bind fun _ _ => ?_
  refine .check_bind fun _ _ => ?_
  exact .write_bind (.of_pure _)

/-- Observing an adjustment writes the mark, or nothing. -/
theorem observeAccountAdjustment_agrees (role : AccountRole) (activity : String) :
    (observeAccountAdjustment role activity).Agrees store
      (Memory.observeAccountAdjustment role activity store) := by
  refine .check_bind fun _ _ => ?_
  split
  · exact .of_write _
  · exact .of_pure ()

/-! ## Authorizations -/

/-- Adding the certificate of an assessment writes it and its assessment after every check. -/
theorem addAssessmentCertificate_agrees (certificate : AssessmentCertificate) :
    (addAssessmentCertificate certificate).Agrees store
      (Memory.addAssessmentCertificate certificate store) := by
  refine .check_bind fun _ _ => ?_
  refine .read_bind ?_
  refine .check_bind fun _ _ => ?_
  refine .check_bind fun _ _ => ?_
  refine .check_bind fun _ _ => ?_
  exact .write_bind (.of_write _)

/-- Adding the approval of an entry writes it after every check. -/
theorem addEntryApproval_agrees (approval : EntryApprovalAuthorization) :
    (addEntryApproval approval).Agrees store (Memory.addEntryApproval approval store) := by
  refine .check_bind fun _ _ => ?_
  refine .read_bind ?_
  refine .check_bind fun _ _ => ?_
  refine .check_bind fun _ _ => ?_
  exact .of_write _

/-! ## Intents -/

variable [Digest] in
/-- Approving a new intent writes the intent, its digest, its day and its attempts after every
check. -/
theorem approveNew_agrees (intentId : Uuid) (role : AccountRole) (envelope : OrderEnvelope) :
    (approveNew intentId role envelope).Agrees store
      (Memory.approveNew intentId role envelope store) := by
  refine .read_bind ?_
  refine .check_bind fun _ _ => ?_
  refine .check_bind fun _ _ => ?_
  refine .check_bind fun account _ => ?_
  refine .check_bind fun _ _ => ?_
  exact .write_bind (.write_bind (.write_bind (.write_bind (.of_pure _))))

variable [Digest] in
/-- Approving an envelope that is known writes nothing, and a new one is approved. -/
theorem approveIntent_agrees (intentId : Uuid) (role : AccountRole) (envelope : OrderEnvelope) :
    (approveIntent intentId role envelope).Agrees store
      (Memory.approveIntent intentId role envelope store) := by
  refine .check_bind fun _ _ => ?_
  refine .read_bind ?_
  cases store.digestIds.get (intentDigest envelope) with
  | none => exact approveNew_agrees intentId role envelope
  | some existingId =>
      refine .check_bind fun existing _ => ?_
      refine .check_bind fun _ _ => ?_
      exact .of_pure _

/-- Reserving the budget of an entry writes it after every check. -/
theorem reserveEntry_agrees (intent : ExecutionIntent) (account : AccountState) :
    (reserveEntry limits intent account).Agrees store
      (Memory.reserveEntry limits intent account store) := by
  refine .read_bind ?_
  refine .check_bind fun budget _ => ?_
  refine .check_bind fun _ _ => ?_
  refine .check_bind fun _ _ => ?_
  refine .check_bind fun _ _ => ?_
  exact .of_write _

/-- Authorizing a claim reserves the budget of an entry after the checks of the actor. -/
theorem authorizeClaim_agrees (actor : Actor) (intent : ExecutionIntent)
    (account : AccountState) :
    (authorizeClaim limits actor intent account).Agrees store
      (Memory.authorizeClaim limits actor intent account store) := by
  unfold authorizeClaim Memory.authorizeClaim
  split
  · refine .check_bind fun _ _ => ?_
    refine .check_bind fun _ _ => ?_
    exact reserveEntry_agrees intent account
  · exact .of_check _

theorem leaseEnd_inRange (hlease : Calendar.InRange (now + Calendar.seconds 30)) :
    leaseEnd now = .ok (now + Calendar.seconds 30) := by
  simp [leaseEnd, raiseIf, hlease, pure, Except.pure]

theorem leaseEnd_overflow (hlease : ¬ Calendar.InRange (now + Calendar.seconds 30)) :
    leaseEnd now = .error .arithmetic := by
  simp [leaseEnd, raiseIf, hlease, bind, Except.bind]

variable [Digest] in
/-- Where the calendar has the end of the lease, claiming an intent writes its account and itself
after the reservation of its budget, which is the last step that may raise. -/
theorem claimIntent_agrees (hlease : Calendar.InRange (now + Calendar.seconds 30))
    (token intentId : Uuid) (actor : Actor) (accountRole : AccountRole)
    (accountFingerprint : String) :
    (claimIntent limits now token intentId actor accountRole accountFingerprint).Agrees store
      (Memory.claimIntent limits now token intentId actor accountRole accountFingerprint
        store) := by
  refine .read_bind ?_
  refine .check_bind fun intent _ => ?_
  refine .check_bind fun _ _ => ?_
  refine .check_bind fun _ _ => ?_
  refine .check_bind fun account _ => ?_
  refine .check_bind fun _ _ => ?_
  refine .check_bind fun _ _ => ?_
  refine .check_bind fun _ _ => ?_
  refine .check_bind fun _ _ => ?_
  refine .check_bind fun _ _ => ?_
  refine .bind_total (authorizeClaim_agrees actor intent account) fun _ left _ => ?_
  rw [leaseEnd_inRange hlease]
  exact ⟨_, rfl, .ok_bind (.write_bind (.write_bind (.of_pure _)))⟩

variable [Digest] in
/-- The part of a claim before the end of its lease is computed: its checks, and the reservation
of the budget of an entry. -/
def reservedClaim (limits : Option EntryBudgetLimits) (now : Int) (intentId : Uuid)
    (actor : Actor) (accountRole : AccountRole) (accountFingerprint : String) (store : Store) :
    Except Failure Store := do
  let intent ← require (store.intents.get intentId) .key
  raiseIf (intent.accountRole != accountRole) (.blocked "ACCOUNT_ROLE_MISMATCH")
  ensureExecutableRole intent.accountRole
  let account ← require (store.accounts.get intent.accountRole) .key
  raiseIf (account.fingerprint != accountFingerprint) (.blocked "ACCOUNT_FINGERPRINT_MISMATCH")
  raiseIf account.executionLocked (.blocked "ACCOUNT_EXECUTION_LOCKED")
  raiseIf (intent.state != .approved) (.blocked "INTENT_ALREADY_CLAIMED")
  raiseIf (store.intents.values.any fun other =>
    other.accountRole == intent.accountRole && other.state == .claimed)
    (.blocked "ACCOUNT_EXECUTION_LEASE_ACTIVE")
  requireAuthorizationOrigin intent now store
  Memory.authorizeClaim limits actor intent account store

variable [Digest] in
/-- Where the end of the lease overflows, claiming an intent raises after the reservation of its
budget was written. -/
theorem claimIntent_stops (hlease : ¬ Calendar.InRange (now + Calendar.seconds 30))
    (token intentId : Uuid) (actor : Actor) (accountRole : AccountRole)
    (accountFingerprint : String) :
    (claimIntent limits now token intentId actor accountRole accountFingerprint).Stops store
      (reservedClaim limits now intentId actor accountRole accountFingerprint store)
      .arithmetic := by
  refine .read_bind ?_
  refine .check_bind fun intent _ => ?_
  refine .check_bind fun _ _ => ?_
  refine .check_bind fun _ _ => ?_
  refine .check_bind fun account _ => ?_
  refine .check_bind fun _ _ => ?_
  refine .check_bind fun _ _ => ?_
  refine .check_bind fun _ _ => ?_
  refine .check_bind fun _ _ => ?_
  refine .check_bind fun _ _ => ?_
  refine .of_agrees (authorizeClaim_agrees actor intent account) fun _ left => ?_
  rw [leaseEnd_overflow hlease]
  rfl

structure ReservesEntry [Digest] (limits : Option EntryBudgetLimits) (store : Store) (now : Int)
    (actor : Actor) (accountFingerprint : String) (intent : ExecutionIntent)
    (account : AccountState) (budget : EntryBudget) : Prop where
  entry : intent.envelope.action = .entry
  executable : ensureExecutableRole intent.accountRole = .ok ()
  registered : store.accounts.get intent.accountRole = some account
  fingerprint : account.fingerprint = accountFingerprint
  unlocked : account.executionLocked = false
  approved : intent.state = .approved
  free : ∀ other ∈ store.intents.values, other.accountRole = intent.accountRole →
    other.state ≠ .claimed
  authorized : requireAuthorizationOrigin intent now store = .ok ()
  scheduled : actor ≠ .owner
  autonomous : account.autonomousEnabled = true
  budgeted : store.budgets.get intent.accountRole = some budget
  clean : requireCleanBaseline intent.accountRole store = .ok ()
  unreserved : budget.reservedIntentId = none
  within : validateEntryLimits limits
    (proposedEntry intent account budget intent.envelope.approvedMaxLoss) = .ok ()

/-- Releasing a claim writes its budget and itself after every check. -/
theorem releaseUnsubmittedClaim_agrees (intentId : Uuid) :
    (releaseUnsubmittedClaim intentId).Agrees store
      (Memory.releaseUnsubmittedClaim intentId store) := by
  refine .read_bind ?_
  refine .check_bind fun intent _ => ?_
  refine .check_bind fun attempts _ => ?_
  refine .check_bind fun _ _ => ?_
  refine .check_bind fun budget _ => ?_
  exact .write_bind (.of_write _)

/-! ## Attempts -/

/-- Adding an attempt writes the attempts of its intent after every check. -/
theorem addAttempt_agrees (attempt : OrderAttempt) :
    (addAttempt attempt).Agrees store (Memory.addAttempt attempt store) := by
  refine .read_bind ?_
  refine .check_bind fun _ _ => ?_
  refine .check_bind fun attempts _ => ?_
  refine .check_bind fun _ _ => ?_
  refine .check_bind fun _ _ => ?_
  exact .of_write _

/-- Replacing an attempt writes the attempts of its intent after every check. -/
theorem replaceAttempt_agrees (attempt : OrderAttempt) :
    (replaceAttempt attempt).Agrees store (Memory.replaceAttempt attempt store) := by
  refine .read_bind ?_
  refine .check_bind fun _ _ => ?_
  refine .check_bind fun attempts _ => ?_
  refine .check_bind fun existing _ => ?_
  refine .check_bind fun _ _ => ?_
  refine .check_bind fun _ _ => ?_
  refine .check_bind fun _ _ => ?_
  exact .of_write _

/-! ## Finalization -/

variable [Digest] in
/-- Finalizing an execution writes five dictionaries after every check. The charge of the budget
is the last step that may raise. -/
theorem finalizeExecution_agrees (now : Int) (certificate : ExecutionCertificate)
    (reconciliation : Reconciliation) (requestedStatus : String) :
    (finalizeExecution limits now certificate reconciliation requestedStatus).Agrees store
      (Memory.finalizeExecution limits now certificate reconciliation requestedStatus
        store) := by
  refine .read_bind ?_
  refine .check_bind fun _ _ => ?_
  refine .check_bind fun _ _ => ?_
  refine .check_bind fun intent _ => ?_
  refine .check_bind fun _ _ => ?_
  refine .check_bind fun attempts _ => ?_
  refine .check_bind fun outcome _ => ?_
  obtain ⟨normalized, hasFill⟩ := outcome
  refine .check_bind fun account _ => ?_
  refine .check_bind fun budget _ => ?_
  refine .check_bind fun charged _ => ?_
  exact .write_bind (.write_bind (.write_bind (.write_bind (.write_bind (.of_pure _)))))

/-- Reserving the budget of a claimed entry again writes it after it was found. -/
theorem recoverReservation_agrees (intent : ExecutionIntent) :
    (recoverReservation intent).Agrees store (Memory.recoverReservation store intent) := by
  unfold recoverReservation Memory.recoverReservation
  split
  · refine .read_bind ?_
    refine .check_bind fun budget _ => ?_
    exact .of_write _
  · exact .of_pure ()

/-- Where the role of an intent has a budget its reservation is recovered, and the roles that have
a budget are the same. -/
theorem recoverReservation_total {intent : ExecutionIntent}
    (hbudget : (store.budgets.get intent.accountRole).isSome) :
    ∃ next, Memory.recoverReservation store intent = .ok next ∧
      ∀ role, (store.budgets.get role).isSome → (next.budgets.get role).isSome := by
  obtain ⟨budget, hget⟩ := Option.isSome_iff_exists.mp hbudget
  unfold Memory.recoverReservation
  split
  · rw [hget]
    refine ⟨_, rfl, fun role hrole => ?_⟩
    rw [Dict.get_set]
    split
    · rfl
    · exact hrole
  · exact ⟨store, rfl, fun _ hrole => hrole⟩

/-- Where every role of some intents has a budget the loop over them raises nothing. -/
theorem recoverReservations_agrees (intents : List ExecutionIntent)
    (hbudgets : ∀ intent ∈ intents, (store.budgets.get intent.accountRole).isSome) :
    ∃ last, intents.foldlM Memory.recoverReservation store = .ok last ∧
      (recoverReservations intents).Agrees store (.ok last) := by
  induction intents generalizing store with
  | nil => exact ⟨store, rfl, .of_pure ()⟩
  | cons intent rest ih =>
      obtain ⟨next, hnext, hkept⟩ := recoverReservation_total (hbudgets intent (by simp))
      obtain ⟨last, hlast, hagrees⟩ := ih fun other hother =>
        hkept other.accountRole (hbudgets other (by simp [hother]))
      refine ⟨last, ?_, ?_⟩
      · rw [List.foldlM_cons, hnext]
        exact hlast
      · have hfirst : (recoverReservation intent).Agrees store
            (Memory.recoverReservation store intent) := recoverReservation_agrees intent
        rw [hnext] at hfirst
        obtain ⟨value, hvalue⟩ := hfirst
        obtain ⟨returned, hreturned⟩ := hagrees
        refine ⟨returned, ?_⟩
        show Action.bind (recoverReservation intent) _ store = (.ok returned, last)
        rw [Action.bind, hvalue]
        exact hreturned

end AlphaDecay.InMemoryExecutionRepository
