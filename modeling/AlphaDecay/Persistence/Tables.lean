import AlphaDecay.Persistence.Repository

/-!
# Which tables a transaction writes

`WritesOnly` says that a transaction leaves every table alone that is not on a list. Each
transaction has one lemma with its list, so that a result about one table opens only the
transactions that write it.
-/

namespace AlphaDecay

open Foundation Table

inductive TableName where
  | accounts
  | baselines
  | budgets
  | states
  | reconciliations
  | permits
  | attempts
  | observations
  | intents
  | certificates
  | origins
deriving DecidableEq

/-- Two databases have the same rows in a table. -/
def TableName.Same (db after : Database) : TableName → Prop
  | accounts => after.accounts = db.accounts
  | baselines => after.baselines = db.baselines
  | budgets => after.budgets = db.budgets
  | states => after.states = db.states
  | reconciliations => after.reconciliations = db.reconciliations
  | permits => after.permits = db.permits
  | attempts => after.attempts = db.attempts
  | observations => after.observations = db.observations
  | intents => after.intents = db.intents
  | certificates => after.certificates = db.certificates
  | origins => after.origins = db.origins

def WritesOnly (names : List TableName) (db after : Database) : Prop :=
  ∀ name, names.contains name = false → name.Same db after

section Compose

variable {names more : List TableName} {db middle after : Database}

theorem TableName.Same.refl (name : TableName) (db : Database) : name.Same db db := by
  cases name <;> rfl

theorem TableName.Same.trans {name : TableName} (h : name.Same db middle)
    (h' : name.Same middle after) : name.Same db after := by
  cases name <;> exact Eq.trans h' h

theorem WritesOnly.refl (db : Database) : WritesOnly names db db :=
  fun name _ => TableName.Same.refl name db

theorem WritesOnly.trans (h : WritesOnly names db middle) (h' : WritesOnly names middle after) :
    WritesOnly names db after :=
  fun name hname => (h name hname).trans (h' name hname)

/-- Writes to the tables of a list are writes to those of a longer one. -/
theorem WritesOnly.mono (h : WritesOnly names db after)
    (hnames : names.all more.contains = true) : WritesOnly more db after := by
  intro name hname
  refine h name ?_
  rw [List.all_eq_true] at hnames
  by_contra hmem
  rw [Bool.not_eq_false, List.contains_iff_mem] at hmem
  rw [hnames name hmem] at hname
  cases hname

end Compose

/-! ## Writes -/

namespace Database

variable {names : List TableName} {db after : Database}
variable {role : AccountRole}

theorem changeAccount_writes {change : AccountRoleRow → AccountRoleRow}
    (h : db.changeAccount role change = .ok after) (hname : names.contains .accounts = true) :
    WritesOnly names db after := by
  simp only [changeAccount, require_bind_ok] at h
  obtain ⟨accounts, -, h⟩ := h
  cases h
  intro name hother
  cases name
  case accounts => exact absurd (hother.symm.trans hname) Bool.false_ne_true
  all_goals rfl

variable {change : CompetitionEntryBudgetRow → CompetitionEntryBudgetRow}

theorem changeBudget_writes (h : db.changeBudget role change = .ok after)
    (hname : names.contains .budgets = true) : WritesOnly names db after := by
  simp only [changeBudget, require_bind_ok] at h
  obtain ⟨budgets, -, h⟩ := h
  cases h
  intro name hother
  cases name
  case budgets => exact absurd (hother.symm.trans hname) Bool.false_ne_true
  all_goals rfl

theorem changeIntent_writes {intentId : Uuid} {change : ExecutionIntentRow → ExecutionIntentRow}
    (h : db.changeIntent intentId change = .ok after) (hname : names.contains .intents = true) :
    WritesOnly names db after := by
  simp only [changeIntent, require_bind_ok] at h
  obtain ⟨intents, -, h⟩ := h
  cases h
  intro name hother
  cases name
  case intents => exact absurd (hother.symm.trans hname) Bool.false_ne_true
  all_goals rfl

theorem changeAttempt_writes {attemptId : Uuid} {change : OrderAttemptRow → OrderAttemptRow}
    (h : db.changeAttempt attemptId change = .ok after) (hname : names.contains .attempts = true) :
    WritesOnly names db after := by
  simp only [changeAttempt, require_bind_ok] at h
  obtain ⟨attempts, -, h⟩ := h
  cases h
  intro name hother
  cases name
  case attempts => exact absurd (hother.symm.trans hname) Bool.false_ne_true
  all_goals rfl

theorem changePermits_writes {permitIds : List Uuid}
    {change : BrokerMutationPermit → BrokerMutationPermit}
    (h : db.changePermits permitIds change = .ok after) (hname : names.contains .permits = true) :
    WritesOnly names db after := by
  simp only [changePermits, require_bind_ok] at h
  obtain ⟨permits, -, h⟩ := h
  cases h
  intro name hother
  cases name
  case permits => exact absurd (hother.symm.trans hname) Bool.false_ne_true
  all_goals rfl

theorem addReconciliation_writes {row : WholeAccountReconciliationRow}
    (h : db.addReconciliation row = .ok after) (hname : names.contains .reconciliations = true) :
    WritesOnly names db after := by
  simp only [addReconciliation, require_bind_ok] at h
  obtain ⟨reconciliations, -, h⟩ := h
  cases h
  intro name hother
  cases name
  case reconciliations => exact absurd (hother.symm.trans hname) Bool.false_ne_true
  all_goals rfl

theorem addPermit_writes {row : BrokerMutationPermit} (h : db.addPermit row = .ok after)
    (hname : names.contains .permits = true) : WritesOnly names db after := by
  simp only [addPermit, require_bind_ok] at h
  obtain ⟨permits, -, h⟩ := h
  cases h
  intro name hother
  cases name
  case permits => exact absurd (hother.symm.trans hname) Bool.false_ne_true
  all_goals rfl

theorem addAttempt_writes {row : OrderAttemptRow} (h : db.addAttempt row = .ok after)
    (hname : names.contains .attempts = true) : WritesOnly names db after := by
  simp only [addAttempt, require_bind_ok] at h
  obtain ⟨attempts, -, h⟩ := h
  cases h
  intro name hother
  cases name
  case attempts => exact absurd (hother.symm.trans hname) Bool.false_ne_true
  all_goals rfl

theorem addObservation_writes {row : AttemptObservationRow} (h : db.addObservation row = .ok after)
    (hname : names.contains .observations = true) : WritesOnly names db after := by
  simp only [addObservation, require_bind_ok] at h
  obtain ⟨observations, -, h⟩ := h
  cases h
  intro name hother
  cases name
  case observations => exact absurd (hother.symm.trans hname) Bool.false_ne_true
  all_goals rfl

theorem addIntent_writes {row : ExecutionIntentRow} (h : db.addIntent row = .ok after)
    (hname : names.contains .intents = true) : WritesOnly names db after := by
  simp only [addIntent, require_bind_ok] at h
  obtain ⟨intents, -, h⟩ := h
  cases h
  intro name hother
  cases name
  case intents => exact absurd (hother.symm.trans hname) Bool.false_ne_true
  all_goals rfl

theorem changeBudget_rows (h : db.changeBudget role change = .ok after) :
    after.budgets.rows = modify (fun row => row.accountRole == role) change db.budgets.rows := by
  simp only [changeBudget, require_bind_ok] at h
  obtain ⟨budgets, hupdate, h⟩ := h
  cases h
  exact Checked.rows_update hupdate

theorem changeIntent_rows {intentId : Uuid} {change : ExecutionIntentRow → ExecutionIntentRow}
    (h : db.changeIntent intentId change = .ok after) :
    after.intents.rows = modify (fun row => row.intentId == intentId) change db.intents.rows := by
  simp only [changeIntent, require_bind_ok] at h
  obtain ⟨intents, hupdate, h⟩ := h
  cases h
  exact Checked.rows_update hupdate

/-- A new intent is appended. -/
theorem addIntent_rows {row : ExecutionIntentRow} (h : db.addIntent row = .ok after) :
    after.intents.rows = db.intents.rows ++ [row] := by
  simp only [addIntent, require_bind_ok] at h
  obtain ⟨intents, hinsert, h⟩ := h
  cases h
  exact Checked.rows_insert hinsert

/-- A new reconciliation state is appended, and nothing else is written. -/
theorem addState_rows {row : AccountReconciliationStateRow} (h : db.addState row = .ok after) :
    after.states.rows = db.states.rows ++ [row] ∧ WritesOnly [.states] db after := by
  simp only [addState, require_bind_ok] at h
  obtain ⟨states, hinsert, h⟩ := h
  cases h
  refine ⟨Checked.rows_insert hinsert, fun name hother => ?_⟩
  cases name
  case states => cases hother
  all_goals rfl

/-- A new certificate is appended, and nothing else is written. -/
theorem addCertificate_rows {row : ExecutionCertificate} (h : db.addCertificate row = .ok after) :
    after.certificates.rows = db.certificates.rows ++ [row] ∧
      WritesOnly [.certificates] db after := by
  simp only [addCertificate, require_bind_ok] at h
  obtain ⟨certificates, hinsert, h⟩ := h
  cases h
  refine ⟨Checked.rows_insert hinsert, fun name hother => ?_⟩
  cases name
  case certificates => cases hother
  all_goals rfl

end Database

/-! ## Transactions -/

variable {settings : RepositorySettings} {db after : Database} {role : AccountRole}
  {start now : Int} {fresh : Uuid}
variable {claim : ExecutionIntent} {permitId : Uuid} {permit : BrokerMutationPermit}
  {result : AttemptObservation}

variable {intentId : Uuid} {source : AttemptObservationSource}

theorem registerAccount_writes {fingerprint : String} {equity : Decimal}
    (h : registerAccount db role fingerprint equity = .ok after) :
    WritesOnly [.accounts, .budgets] db after := by
  simp only [registerAccount, check_bind_ok] at h
  obtain ⟨-, h⟩ := h
  split at h
  · simp only [check_bind_ok] at h
    exact Database.changeAccount_writes h.2 rfl
  · simp only [check_bind_ok, require_bind_ok] at h
    obtain ⟨-, accounts, -, budgets, -, h⟩ := h
    cases h
    intro name hother
    cases name
    case accounts => cases hother
    case budgets => cases hother
    all_goals rfl

theorem setAutonomousEnabled_writes {enabled : Bool} {actor : Actor}
    (h : setAutonomousEnabled db role enabled actor = .ok after) :
    WritesOnly [.accounts] db after := by
  simp only [setAutonomousEnabled, check_bind_ok] at h
  exact Database.changeAccount_writes h.2.2.2 rfl

theorem observeAccountAdjustment_writes {activity : String}
    (h : observeAccountAdjustment db role activity = .ok after) :
    WritesOnly [.baselines] db after := by
  simp only [observeAccountAdjustment, check_bind_ok] at h
  obtain ⟨-, h⟩ := h
  split at h
  · simp only [require_bind_ok] at h
    obtain ⟨baselines, -, h⟩ := h
    cases h
    intro name hother
    cases name
    case baselines => cases hother
    all_goals rfl
  · cases h
    exact WritesOnly.refl db

theorem releaseUnsubmittedClaim_writes (h : releaseUnsubmittedClaim db intentId = .ok after) :
    WritesOnly [.budgets, .intents] db after := by
  simp only [releaseUnsubmittedClaim, require_bind_ok, check_bind_ok] at h
  obtain ⟨row, -, -, h⟩ := h
  obtain ⟨middle, hbudget, h⟩ := bind_ok.mp h
  exact (Database.changeBudget_writes hbudget rfl).trans
    (Database.changeIntent_writes h rfl)

/-- The end of claims that ran out writes budgets and intents. -/
theorem expireUnsubmittedClaims_writes {ids : List Uuid}
    (h : expireUnsubmittedClaims db role now = .ok (after, ids)) :
    WritesOnly [.budgets, .intents] db after := by
  simp only [expireUnsubmittedClaims, check_bind_ok] at h
  obtain ⟨-, h⟩ := h
  obtain ⟨middle, hbudget, h⟩ := bind_ok.mp h
  simp only [require_bind_ok] at h
  obtain ⟨intents, -, h⟩ := h
  cases h
  refine (Database.changeBudget_writes hbudget rfl).trans fun name hother => ?_
  cases name
  case intents => cases hother
  all_goals rfl

theorem recoverReservations_writes {rows : List ExecutionIntentRow}
    (h : rows.foldlM recoverReservation db = .ok after) : WritesOnly [.budgets] db after := by
  induction rows generalizing db with
  | nil =>
      cases h
      exact WritesOnly.refl _
  | cons row rest ih =>
      rw [List.foldlM_cons] at h
      obtain ⟨middle, hrow, h⟩ := bind_ok.mp h
      simp only [recoverReservation, check_bind_ok] at hrow
      exact (Database.changeBudget_writes hrow.2 rfl).trans (ih h)

/-- A lock that a stalled order may need writes accounts. -/
theorem latchStalled_writes {account : AccountRoleRow} {state : AttemptState} {startedAt : Int}
    (h : latchStalled db account state startedAt now fresh = .ok after) :
    WritesOnly [.accounts] db after := by
  unfold latchStalled at h
  split at h
  · exact Database.changeAccount_writes h rfl
  · cases h
    exact WritesOnly.refl db

theorem targetedLookupAuthority_writes {authority : Option (Uuid × OrderAttempt)}
    (h : targetedLookupAuthority settings db claim now fresh = .ok (after, authority)) :
    WritesOnly [.accounts] db after := by
  unfold targetedLookupAuthority at h
  obtain ⟨⟨intent, account⟩, -, h⟩ := bind_ok.mp h
  obtain ⟨attempts, -, h⟩ := bind_ok.mp h
  simp only [require_bind_ok] at h
  obtain ⟨row, -, h⟩ := h
  split at h
  · simp only [ambiguousLookup, require_bind_ok] at h
    obtain ⟨dispatchAcquiredAt, -, h⟩ := h
    split at h
    · cases h
      exact WritesOnly.refl db
    · split at h
      · split at h
        · cases h
          exact WritesOnly.refl db
        · simp only [require_bind_ok] at h
          obtain ⟨startedAt, -, h⟩ := h
          obtain ⟨middle, hstalled, h⟩ := bind_ok.mp h
          cases h
          exact latchStalled_writes hstalled
      · cases h
        exact WritesOnly.refl db
  · cases h
  · split at h
    · cases h
      exact WritesOnly.refl db
    · split at h
      · cases h
        exact WritesOnly.refl db
      · simp only [openLookup] at h
        obtain ⟨permit, -, h⟩ := bind_ok.mp h
        simp only [check_bind_ok, require_bind_ok] at h
        obtain ⟨-, sight, -, -, latest, -, h⟩ := h
        split at h
        · cases h
          exact WritesOnly.refl db
        · simp only [require_bind_ok] at h
          obtain ⟨startedAt, -, h⟩ := h
          obtain ⟨middle, hstalled, h⟩ := bind_ok.mp h
          cases h
          exact latchStalled_writes hstalled

variable [Digest]

theorem captureBaseline_writes {baseline : SubmissionBaseline}
    (h : captureBaseline db role baseline = .ok after) : WritesOnly [.baselines] db after := by
  simp only [captureBaseline, check_bind_ok, require_bind_ok] at h
  obtain ⟨-, account, -, -, -, -, baselines, -, h⟩ := h
  cases h
  intro name hother
  cases name
  case baselines => cases hother
  all_goals rfl

theorem approveIntent_writes {envelope : OrderEnvelope} {intent : ExecutionIntent}
    (h : approveIntent db intentId role envelope = .ok (after, intent)) :
    WritesOnly [.intents] db after := by
  simp only [approveIntent, check_bind_ok] at h
  obtain ⟨-, h⟩ := h
  split at h
  · unfold sameIntent at h
    obtain ⟨found, -, h⟩ := bind_ok.mp h
    simp only [check_bind_ok] at h
    cases h.2
    exact WritesOnly.refl db
  · simp only [conflictAs_ok, approveNew, check_bind_ok] at h
    obtain ⟨-, -, h⟩ := h
    obtain ⟨middle, hadd, h⟩ := bind_ok.mp h
    obtain ⟨approved, -, h⟩ := bind_ok.mp h
    cases h
    exact Database.addIntent_writes hadd rfl

theorem claimIntent_writes {actor : Actor} {fingerprint : String} {intent : ExecutionIntent}
    (h : claimIntent settings db intentId actor role fingerprint now fresh = .ok (after, intent)) :
    WritesOnly [.accounts, .budgets, .intents] db after := by
  simp only [claimIntent, check_bind_ok, require_bind_ok] at h
  obtain ⟨row, -, -, account, -, -, budget, -, -, -, -, h⟩ := h
  obtain ⟨approved, -, h⟩ := bind_ok.mp h
  simp only [check_bind_ok] at h
  obtain ⟨-, -, h⟩ := h
  obtain ⟨reserved, hreserved, h⟩ := bind_ok.mp h
  obtain ⟨counted, hcounted, h⟩ := bind_ok.mp h
  obtain ⟨claimed, hclaimed, h⟩ := bind_ok.mp h
  obtain ⟨result, -, h⟩ := bind_ok.mp h
  cases h
  have hbudget : WritesOnly [.accounts, .budgets, .intents] db reserved := by
    unfold reserveIfEntry at hreserved
    split at hreserved
    · simp only [reserveEntry, check_bind_ok] at hreserved
      exact Database.changeBudget_writes hreserved.2.2.2 rfl
    · cases hreserved
      exact WritesOnly.refl db
  exact (hbudget.trans (Database.changeAccount_writes hcounted rfl)).trans
    (Database.changeIntent_writes hclaimed rfl)

def preparationTables : List TableName :=
  [.accounts, .reconciliations, .permits, .attempts]

omit [Digest] in
/-- A preparation that locks the account writes accounts. -/
theorem latchedPreparation_writes {reason : String}
    {reconciliation : WholeAccountReconciliation} {preparation : BrokerMutationPreparation}
    (h : latchedPreparation db role reason now fresh reconciliation = .ok (after, preparation)) :
    WritesOnly [.accounts] db after := by
  unfold latchedPreparation at h
  obtain ⟨locked, hlocked, h⟩ := bind_ok.mp h
  cases h
  exact Database.changeAccount_writes hlocked rfl

/-- The issue of a permit writes permits and attempts. -/
theorem writeIssuance_writes {attempt : OrderAttempt} {issuance : Issuance}
    (h : writeIssuance db attempt issuance permit now = .ok after) :
    WritesOnly preparationTables db after := by
  unfold writeIssuance at h
  obtain ⟨expired, hexpired, h⟩ := bind_ok.mp h
  obtain ⟨refreshed, hrefreshed, h⟩ := bind_ok.mp h
  obtain ⟨added, hadded, hcreated⟩ := bind_ok.mp h
  have hrefresh : WritesOnly preparationTables expired refreshed := by
    unfold refreshAttempt at hrefreshed
    split at hrefreshed
    · exact Database.changeAttempt_writes hrefreshed rfl
    · cases hrefreshed
      exact WritesOnly.refl _
  have hcreate : WritesOnly preparationTables added after := by
    unfold createAttempt at hcreated
    split at hcreated
    · exact Database.addAttempt_writes hcreated rfl
    · cases hcreated
      exact WritesOnly.refl _
  have hexpire : WritesOnly preparationTables db expired :=
    Database.changePermits_writes hexpired rfl
  have hadd : WritesOnly preparationTables refreshed added :=
    Database.addPermit_writes hadded rfl
  exact ((hexpire.trans hrefresh).trans hadd).trans hcreate

/-- The tables that the dispatch of a permit and its outcome write. -/
def dispatchTables : List TableName :=
  [.accounts, .permits, .attempts, .observations]

omit [Digest] in
/-- The dispatch of a permit writes permits. -/
theorem acquireBrokerDispatch_writes
    (h : acquireBrokerDispatch db permitId claim start now fresh = .ok (after, permit)) :
    WritesOnly dispatchTables db after := by
  unfold acquireBrokerDispatch at h
  obtain ⟨⟨prepared, intent, account⟩, -, h⟩ := bind_ok.mp h
  simp only [check_bind_ok, require_bind_ok] at h
  obtain ⟨-, -, -, -, attempt, -, -, -, -, h⟩ := h
  obtain ⟨written, hwritten, h⟩ := bind_ok.mp h
  cases h
  exact Database.changePermits_writes hwritten rfl

omit [Digest] in
theorem markBrokerDispatchAmbiguous_writes {nonce : Uuid}
    (h : markBrokerDispatchAmbiguous db permitId nonce claim = .ok (after, permit)) :
    WritesOnly dispatchTables db after := by
  unfold markBrokerDispatchAmbiguous at h
  obtain ⟨⟨dispatched, intent, account⟩, -, h⟩ := bind_ok.mp h
  simp only [check_bind_ok] at h
  obtain ⟨-, -, -, h⟩ := h
  obtain ⟨written, hwritten, h⟩ := bind_ok.mp h
  cases h
  exact Database.changePermits_writes hwritten rfl

theorem recordAttemptObservation_writes {observed : OrderAttempt} {nonce : Option Uuid}
    (h : recordAttemptObservation settings db permitId observed source claim nonce now =
      .ok (after, result)) : WritesOnly dispatchTables db after := by
  unfold recordAttemptObservation at h
  obtain ⟨⟨permit, intent, account⟩, -, h⟩ := bind_ok.mp h
  simp only [check_bind_ok, require_bind_ok] at h
  obtain ⟨-, -, -, -, row, -, -, -, h⟩ := h
  obtain ⟨written, hwritten, h⟩ := bind_ok.mp h
  cases h
  unfold writeObservation at hwritten
  obtain ⟨changed, hchanged, hwritten⟩ := bind_ok.mp hwritten
  obtain ⟨consumed, hconsumed, hadded⟩ := bind_ok.mp hwritten
  have hattempt : WritesOnly dispatchTables db changed :=
    Database.changeAttempt_writes hchanged rfl
  have hpermit : WritesOnly dispatchTables changed consumed :=
    Database.changePermits_writes hconsumed rfl
  exact (hattempt.trans hpermit).trans (Database.addObservation_writes hadded rfl)

/-- The note of a failed lookup writes observations. -/
theorem recordAttemptLookupFailure_writes
    (h : recordAttemptLookupFailure db permitId claim now = .ok (after, result)) :
    WritesOnly dispatchTables db after := by
  unfold recordAttemptLookupFailure at h
  obtain ⟨⟨permit, intent, account⟩, -, h⟩ := bind_ok.mp h
  simp only [check_bind_ok, require_bind_ok] at h
  obtain ⟨-, -, target, -, h⟩ := h
  obtain ⟨written, hadded, h⟩ := bind_ok.mp h
  cases h
  exact Database.addObservation_writes hadded rfl

/-- The note of an absence writes accounts and observations. -/
theorem recordAttemptAbsence_writes
    (h : recordAttemptAbsence settings db permitId source claim now fresh = .ok (after, result)) :
    WritesOnly dispatchTables db after := by
  simp only [recordAttemptAbsence, check_bind_ok] at h
  obtain ⟨-, h⟩ := h
  obtain ⟨⟨permit, intent, account⟩, -, h⟩ := bind_ok.mp h
  simp only [check_bind_ok, require_bind_ok] at h
  obtain ⟨-, -, target, -, -, h⟩ := h
  obtain ⟨latched, hlatched, h⟩ := bind_ok.mp h
  obtain ⟨written, hadded, h⟩ := bind_ok.mp h
  cases h
  have hlatch : WritesOnly dispatchTables db latched := by
    unfold latchMissing at hlatched
    split at hlatched
    · cases hlatched
      exact WritesOnly.refl db
    · exact Database.changeAccount_writes hlatched rfl
  exact hlatch.trans (Database.addObservation_writes hadded rfl)

end AlphaDecay
