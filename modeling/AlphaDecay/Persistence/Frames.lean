import AlphaDecay.Persistence.Tables

/-!
# Frames

Most writes leave the permits, attempts and observations alone and keep every intent with the
envelope it was approved with. This module says so for the writes of the database and for the
transactions that do nothing else.
-/

namespace AlphaDecay

open Foundation Table

/-! ## Frames -/

structure SameOrders (db after : Database) : Prop where
  permits : after.permits = db.permits
  attempts : after.attempts = db.attempts
  observations : after.observations = db.observations

/-- Every intent stays, with the envelope that it was approved with. -/
def KeepsIntents (db after : Database) : Prop :=
  ∀ row ∈ db.intents.rows, ∃ kept ∈ after.intents.rows,
    kept.intentId = row.intentId ∧ kept.envelope = row.envelope

/-- The permits, attempts and observations are the same, and every intent stays. -/
structure Frame (db after : Database) : Prop extends SameOrders db after where
  intents : KeepsIntents db after

section Frames

variable {db middle after : Database}

theorem KeepsIntents.of_eq (h : after.intents = db.intents) : KeepsIntents db after := by
  intro row hrow
  exact ⟨row, h ▸ hrow, rfl, rfl⟩

theorem KeepsIntents.trans (h : KeepsIntents db middle) (h' : KeepsIntents middle after) :
    KeepsIntents db after := by
  intro row hrow
  obtain ⟨kept, hkept, hid, henvelope⟩ := h row hrow
  obtain ⟨last, hlast, hid', henvelope'⟩ := h' kept hkept
  exact ⟨last, hlast, hid'.trans hid, henvelope'.trans henvelope⟩

theorem Frame.refl (db : Database) : Frame db db :=
  ⟨⟨rfl, rfl, rfl⟩, KeepsIntents.of_eq rfl⟩

theorem Frame.trans (h : Frame db middle) (h' : Frame middle after) : Frame db after where
  permits := h'.permits.trans h.permits
  attempts := h'.attempts.trans h.attempts
  observations := h'.observations.trans h.observations
  intents := h.intents.trans h'.intents

/-- Writes to other tables leave the orders and the intents alone. -/
theorem WritesOnly.frame {names : List TableName} (h : WritesOnly names db after)
    (hnames : [TableName.permits, .attempts, .observations, .intents].all
      (fun name => !names.contains name) = true) : Frame db after := by
  simp only [List.all_cons, List.all_nil, Bool.and_true, Bool.and_eq_true,
    Bool.not_eq_true'] at hnames
  obtain ⟨hpermits, hattempts, hobservations, hintents⟩ := hnames
  exact ⟨⟨h _ hpermits, h _ hattempts, h _ hobservations⟩, KeepsIntents.of_eq (h _ hintents)⟩

end Frames

/-! ## Writes -/

namespace Database

variable {db after : Database}

/-- The change of an account touches no order and no intent. -/
theorem changeAccount_frame {role : AccountRole} {change : AccountRoleRow → AccountRoleRow}
    (h : db.changeAccount role change = .ok after) : Frame db after := by
  have hwrites : WritesOnly [.accounts] db after := Database.changeAccount_writes h rfl
  exact hwrites.frame rfl

/-- The change of a budget touches no order and no intent. -/
theorem changeBudget_frame {role : AccountRole}
    {change : CompetitionEntryBudgetRow → CompetitionEntryBudgetRow}
    (h : db.changeBudget role change = .ok after) : Frame db after := by
  have hwrites : WritesOnly [.budgets] db after := Database.changeBudget_writes h rfl
  exact hwrites.frame rfl

/-- A new reconciliation touches no order and no intent. -/
theorem addReconciliation_frame {row : WholeAccountReconciliationRow}
    (h : db.addReconciliation row = .ok after) : Frame db after := by
  have hwrites : WritesOnly [.reconciliations] db after := Database.addReconciliation_writes h rfl
  exact hwrites.frame rfl

/-- A new reconciliation state touches no order and no intent. -/
theorem addState_frame {row : AccountReconciliationStateRow}
    (h : db.addState row = .ok after) : Frame db after :=
  (addState_rows h).2.frame rfl

/-- A new certificate touches no order and no intent. -/
theorem addCertificate_frame {row : ExecutionCertificate}
    (h : db.addCertificate row = .ok after) : Frame db after :=
  (addCertificate_rows h).2.frame rfl

variable {change : ExecutionIntentRow → ExecutionIntentRow}

/-- Intents that are changed without their id and envelope are kept. -/
theorem keepsIntents_update {intents : Checked intentSchema} {condition : ExecutionIntentRow → Bool}
    (h : db.intents.update condition change = some intents)
    (hchange : ∀ row, (change row).intentId = row.intentId ∧ (change row).envelope = row.envelope) :
    KeepsIntents db { db with intents } := by
  intro row hrow
  rw [show ({ db with intents } : Database).intents.rows = _ from Checked.rows_update h]
  cases hcondition : condition row with
  | true => exact ⟨change row, change_mem_modify hrow hcondition, hchange row⟩
  | false => exact ⟨row, mem_modify_of_not hrow hcondition, rfl, rfl⟩

/-- The change of an intent touches no order and keeps the intents. -/
theorem changeIntent_frame {intentId : Uuid} (h : db.changeIntent intentId change = .ok after)
    (hchange : ∀ row, (change row).intentId = row.intentId ∧ (change row).envelope = row.envelope) :
    Frame db after := by
  simp only [changeIntent, require_bind_ok] at h
  obtain ⟨intents, hupdate, h⟩ := h
  cases h
  exact ⟨⟨rfl, rfl, rfl⟩, keepsIntents_update hupdate hchange⟩

/-- A new intent touches no order and keeps the intents. -/
theorem addIntent_frame {row : ExecutionIntentRow} (h : db.addIntent row = .ok after) :
    Frame db after := by
  simp only [addIntent, require_bind_ok] at h
  obtain ⟨intents, hinsert, h⟩ := h
  cases h
  refine ⟨⟨rfl, rfl, rfl⟩, fun old hold => ⟨old, ?_, rfl, rfl⟩⟩
  show old ∈ intents.rows
  rw [Checked.rows_insert hinsert]
  exact List.mem_append_left _ hold

theorem changePermits_rows {permitIds : List Uuid}
    {change : BrokerMutationPermit → BrokerMutationPermit}
    (h : db.changePermits permitIds change = .ok after) :
    after.permits.rows =
      modify (fun row => permitIds.contains row.permitId) change db.permits.rows ∧
    after.attempts = db.attempts ∧ after.observations = db.observations ∧
    after.intents = db.intents := by
  simp only [changePermits, require_bind_ok] at h
  obtain ⟨permits, hupdate, h⟩ := h
  cases h
  exact ⟨Checked.rows_update hupdate, rfl, rfl, rfl⟩

theorem changeAttempt_rows {attemptId : Uuid} {change : OrderAttemptRow → OrderAttemptRow}
    (h : db.changeAttempt attemptId change = .ok after) :
    after.attempts.rows =
      modify (fun row => row.attemptId == attemptId) change db.attempts.rows ∧
    after.permits = db.permits ∧ after.observations = db.observations ∧
    after.intents = db.intents := by
  simp only [changeAttempt, require_bind_ok] at h
  obtain ⟨attempts, hupdate, h⟩ := h
  cases h
  exact ⟨Checked.rows_update hupdate, rfl, rfl, rfl⟩

/-- A new permit is appended. -/
theorem addPermit_rows {row : BrokerMutationPermit} (h : db.addPermit row = .ok after) :
    after.permits.rows = db.permits.rows ++ [row] ∧ after.attempts = db.attempts ∧
    after.observations = db.observations ∧ after.intents = db.intents := by
  simp only [addPermit, require_bind_ok] at h
  obtain ⟨permits, hinsert, h⟩ := h
  cases h
  exact ⟨Checked.rows_insert hinsert, rfl, rfl, rfl⟩

/-- A new attempt is appended. -/
theorem addAttempt_rows {row : OrderAttemptRow} (h : db.addAttempt row = .ok after) :
    after.attempts.rows = db.attempts.rows ++ [row] ∧ after.permits = db.permits ∧
    after.observations = db.observations ∧ after.intents = db.intents := by
  simp only [addAttempt, require_bind_ok] at h
  obtain ⟨attempts, hinsert, h⟩ := h
  cases h
  exact ⟨Checked.rows_insert hinsert, rfl, rfl, rfl⟩

/-- A new observation is appended. -/
theorem addObservation_rows {row : AttemptObservationRow} (h : db.addObservation row = .ok after) :
    after.observations.rows = db.observations.rows ++ [row] ∧ after.permits = db.permits ∧
    after.attempts = db.attempts ∧ after.intents = db.intents := by
  simp only [addObservation, require_bind_ok] at h
  obtain ⟨observations, hinsert, h⟩ := h
  cases h
  exact ⟨Checked.rows_insert hinsert, rfl, rfl, rfl⟩

end Database

/-! ## Transactions without an effect on orders -/

variable {settings : RepositorySettings} {db after : Database} {role : AccountRole}
  {start now : Int} {fresh : Uuid}

variable {intentId : Uuid} {certificate : ExecutionCertificate}

theorem releaseUnsubmittedClaim_frame (h : releaseUnsubmittedClaim db intentId = .ok after) :
    Frame db after := by
  simp only [releaseUnsubmittedClaim, require_bind_ok, check_bind_ok] at h
  obtain ⟨row, -, -, h⟩ := h
  obtain ⟨middle, hbudget, h⟩ := bind_ok.mp h
  exact (Database.changeBudget_frame hbudget).trans
    (Database.changeIntent_frame h fun _ => ⟨rfl, rfl⟩)

/-- The end of claims that ran out is framed. -/
theorem expireUnsubmittedClaims_frame {ids : List Uuid}
    (h : expireUnsubmittedClaims db role now = .ok (after, ids)) : Frame db after := by
  simp only [expireUnsubmittedClaims, check_bind_ok] at h
  obtain ⟨-, h⟩ := h
  obtain ⟨middle, hbudget, h⟩ := bind_ok.mp h
  simp only [require_bind_ok] at h
  obtain ⟨intents, hupdate, h⟩ := h
  cases h
  exact (Database.changeBudget_frame hbudget).trans
    ⟨⟨rfl, rfl, rfl⟩, Database.keepsIntents_update hupdate fun _ => ⟨rfl, rfl⟩⟩

variable [Digest]

theorem initializeReconciliationState_frame {sweep : SweepObservation}
    {state : AccountReconciliationState}
    (h : initializeReconciliationState db sweep now = .ok (after, state)) : Frame db after := by
  simp only [initializeReconciliationState, check_bind_ok, require_bind_ok] at h
  obtain ⟨-, account, -, baseline, -, -, -, -, h⟩ := h
  obtain ⟨expectation, -, h⟩ := bind_ok.mp h
  obtain ⟨evaluated, -, h⟩ := bind_ok.mp h
  simp only [check_bind_ok] at h
  obtain ⟨-, h⟩ := h
  obtain ⟨state, -, h⟩ := bind_ok.mp h
  obtain ⟨middle, hadd, h⟩ := bind_ok.mp h
  cases h
  exact Database.addState_frame hadd

theorem approveIntent_frame {envelope : OrderEnvelope} {intent : ExecutionIntent}
    (h : approveIntent db intentId role envelope = .ok (after, intent)) : Frame db after := by
  simp only [approveIntent, check_bind_ok] at h
  obtain ⟨-, h⟩ := h
  split at h
  · unfold sameIntent at h
    obtain ⟨found, -, h⟩ := bind_ok.mp h
    simp only [check_bind_ok] at h
    cases h.2
    exact Frame.refl db
  · simp only [conflictAs_ok, approveNew, check_bind_ok] at h
    obtain ⟨-, -, h⟩ := h
    obtain ⟨middle, hadd, h⟩ := bind_ok.mp h
    obtain ⟨approved, -, h⟩ := bind_ok.mp h
    cases h
    exact Database.addIntent_frame hadd

theorem claimIntent_frame {actor : Actor} {fingerprint : String} {intent : ExecutionIntent}
    (h : claimIntent settings db intentId actor role fingerprint now fresh = .ok (after, intent)) :
    Frame db after := by
  simp only [claimIntent, check_bind_ok, require_bind_ok] at h
  obtain ⟨row, -, -, account, -, -, budget, -, -, -, -, h⟩ := h
  obtain ⟨approved, -, h⟩ := bind_ok.mp h
  simp only [check_bind_ok] at h
  obtain ⟨-, -, h⟩ := h
  obtain ⟨reserved, hreserved, h⟩ := bind_ok.mp h
  obtain ⟨counted, hcounted, h⟩ := bind_ok.mp h
  obtain ⟨claimed, hclaimed, h⟩ := bind_ok.mp h
  obtain ⟨result, -, h⟩ := bind_ok.mp h
  cases h
  have hbudget : Frame db reserved := by
    unfold reserveIfEntry at hreserved
    split at hreserved
    · simp only [reserveEntry, check_bind_ok] at hreserved
      exact Database.changeBudget_frame hreserved.2.2.2
    · cases hreserved
      exact Frame.refl db
  exact (hbudget.trans (Database.changeAccount_frame hcounted)).trans
    (Database.changeIntent_frame hclaimed fun _ => ⟨rfl, rfl⟩)

theorem writeFinalization_frame {rows : FinalizationRows} {evaluated : WholeAccountReconciliation}
    {latest : AttemptObservationRow} {hasFill : Bool} {requestedStatus : String}
    (h : writeFinalization settings db rows evaluated latest certificate hasFill requestedStatus now
      fresh = .ok after) : Frame db after := by
  unfold writeFinalization at h
  obtain ⟨⟨budget, consumed⟩, -, h⟩ := bind_ok.mp h
  obtain ⟨locked, hlocked, h⟩ := bind_ok.mp h
  obtain ⟨charged, hcharged, h⟩ := bind_ok.mp h
  obtain ⟨state, -, h⟩ := bind_ok.mp h
  simp only [require_bind_ok] at h
  obtain ⟨permit, -, h⟩ := h
  obtain ⟨ended, hended, h⟩ := bind_ok.mp h
  obtain ⟨moved, hmoved, hadded⟩ := bind_ok.mp h
  have hbooks := (Database.changeAccount_frame hlocked).trans (Database.changeBudget_frame hcharged)
  have hintent := hbooks.trans (Database.changeIntent_frame hended fun _ => ⟨rfl, rfl⟩)
  exact (hintent.trans (Database.addState_frame hmoved)).trans
    (Database.addCertificate_frame hadded)

theorem finalizeExecutionAuthorized_frame {sweep : SweepObservation} {requestedStatus : String}
    {claim : ExecutionIntent} {positionGreeks : List PositionGreekObservation}
    {result : Option ExecutionCertificate}
    (h : finalizeExecutionAuthorized settings db certificate sweep requestedStatus claim
      positionGreeks now fresh = .ok (after, result)) : Frame db after := by
  have hlatch : ∀ {db after role reason result},
      latchedFinalization db role reason now fresh = .ok (after, result) → Frame db after := by
    intro db after role reason result h
    unfold latchedFinalization at h
    obtain ⟨locked, hlocked, h⟩ := bind_ok.mp h
    cases h
    exact Database.changeAccount_frame hlocked
  simp only [finalizeExecutionAuthorized, conflictAs_ok] at h
  obtain ⟨rows, -, h⟩ := bind_ok.mp h
  split at h
  · unfold reconcileFinalization at h
    obtain ⟨evaluated, -, h⟩ := bind_ok.mp h
    obtain ⟨reconciled, hreconciled, h⟩ := bind_ok.mp h
    refine (Database.addReconciliation_frame hreconciled).trans ?_
    simp only [require_bind_ok, check_bind_ok] at h
    obtain ⟨latest, -, -, h⟩ := h
    split at h
    · exact hlatch h
    · simp only [certifyFinalization, check_bind_ok] at h
      obtain ⟨-, h⟩ := h
      split at h
      · exact hlatch h
      · cases h
      · obtain ⟨complete, -, h⟩ := bind_ok.mp h
        obtain ⟨intent, -, h⟩ := bind_ok.mp h
        obtain ⟨⟨normalized, hasFill⟩, -, h⟩ := bind_ok.mp h
        obtain ⟨written, hwritten, h⟩ := bind_ok.mp h
        cases h
        exact writeFinalization_frame hwritten
  · split at h
    · exact hlatch h
    · cases h

end AlphaDecay
