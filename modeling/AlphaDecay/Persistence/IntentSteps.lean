import AlphaDecay.Persistence.StateChain

/-!
# The steps of intents

An intent is approved, then claimed, then over. `run_intents` says for every transaction which of
these steps it makes, and what it checked before. Everything of an intent but its claim is fixed
when it is approved.
-/

namespace AlphaDecay

open Foundation Table

variable {settings : RepositorySettings} {db middle after : Database}

/-! ## What is fixed -/

/-- Everything of an intent but its claim is the same. -/
structure IntentKept (old new : ExecutionIntentRow) : Prop where
  intentId : new.intentId = old.intentId
  accountRole : new.accountRole = old.accountRole
  intentDigest : new.intentDigest = old.intentDigest
  action : new.action = old.action
  policyHash : new.policyHash = old.policyHash
  entryApprovalId : new.entryApprovalId = old.entryApprovalId
  assessmentCertificateId : new.assessmentCertificateId = old.assessmentCertificateId
  fingerprint : new.fingerprint = old.fingerprint
  envelope : new.envelope = old.envelope

theorem IntentKept.refl (row : ExecutionIntentRow) : IntentKept row row :=
  ⟨rfl, rfl, rfl, rfl, rfl, rfl, rfl, rfl, rfl⟩

/-- Intents are kept up to their claims, and new ones are appended. -/
def IntentsGrow (db after : Database) : Prop :=
  ∃ change added, after.intents.rows = db.intents.rows.map change ++ added ∧
    ∀ row, IntentKept row (change row)

theorem IntentsGrow.of_eq (h : after.intents = db.intents) : IntentsGrow db after :=
  ⟨id, [], by rw [h, List.map_id, List.append_nil], IntentKept.refl⟩

/-- An intent with an id stays. -/
theorem IntentsGrow.find? {condition : ExecutionIntentRow → Bool} {row : ExecutionIntentRow}
    (h : IntentsGrow db after)
    (hcondition : ∀ old new, IntentKept old new → condition new = condition old)
    (hfind : db.intents.rows.find? condition = some row) :
    ∃ kept, after.intents.rows.find? condition = some kept ∧ IntentKept row kept := by
  obtain ⟨change, added, hrows, hkept⟩ := h
  refine ⟨change row, ?_, hkept row⟩
  have hsame : condition ∘ change = condition := funext fun old => hcondition _ _ (hkept old)
  rw [hrows, List.find?_append, List.find?_map, hsame, hfind]
  rfl

/-! ## Steps -/

variable [Digest]
variable {now : Int} {role : AccountRole}

variable {intentId : Uuid}

structure IntentClaim (settings : RepositorySettings) (db after : Database)
    (row : ExecutionIntentRow) (now : Int) : Prop where
  row_mem : row ∈ db.intents.rows
  approved : row.state = .approved
  authorized : ∃ intent, intentFromRow db row = .ok intent ∧ validateOrigin db intent now = .ok ()
  rows : ∃ actor account token, after.intents.rows = modify
    (fun found => found.intentId == row.intentId) (claimedRow actor account now token)
    db.intents.rows

/-- What a transaction does to the intents. -/
inductive IntentStep (settings : RepositorySettings) (db : Database) (now : Int)
    (after : Database) : Prop where
  | kept (h : after.intents = db.intents)
  | approved {row : ExecutionIntentRow} (state : row.state = .approved)
      (rows : after.intents.rows = db.intents.rows ++ [row])
  | claimed {row : ExecutionIntentRow} (h : IntentClaim settings db after row now)
  | ended {condition : ExecutionIntentRow → Bool}
      {c : ExecutionIntentRow → Bool}
      (claimed : ∀ row ∈ db.intents.rows, condition row = true → row.state = .claimed)
      (rows : after.intents.rows = modify condition
        (fun row => { row with state := .terminal, firstFillConsumed := c row })
        db.intents.rows)

/-- A step keeps what is fixed of the intents. -/
theorem IntentStep.grow (h : IntentStep settings db now after) : IntentsGrow db after := by
  have hmodify : ∀ {condition : ExecutionIntentRow → Bool}
      {change : ExecutionIntentRow → ExecutionIntentRow},
      after.intents.rows = modify condition change db.intents.rows →
      (∀ row, IntentKept row (change row)) → IntentsGrow db after := by
    intro condition change hrows hkept
    refine ⟨fun row => if condition row then change row else row, [], ?_, fun row => ?_⟩
    · rw [List.append_nil]
      exact hrows
    · show IntentKept row (if condition row then change row else row)
      split
      · exact hkept row
      · exact .refl row
  cases h with
  | kept h => exact .of_eq h
  | @approved row state rows =>
      exact ⟨id, [row], by rw [rows, List.map_id], IntentKept.refl⟩
  | claimed h =>
      obtain ⟨actor, account, token, hrows⟩ := h.rows
      exact hmodify hrows fun row => ⟨rfl, rfl, rfl, rfl, rfl, rfl, rfl, rfl, rfl⟩
  | ended _ rows => exact hmodify rows fun row => ⟨rfl, rfl, rfl, rfl, rfl, rfl, rfl, rfl, rfl⟩

/-! ## Transactions -/

/-- An approval approves a new intent, or returns one that was approved before. -/
theorem approveIntent_intents {envelope : OrderEnvelope} {intent : ExecutionIntent}
    (h : approveIntent db intentId role envelope = .ok (after, intent)) :
    IntentStep settings db now after := by
  simp only [approveIntent, check_bind_ok] at h
  obtain ⟨-, h⟩ := h
  split at h
  · unfold sameIntent at h
    obtain ⟨found, -, h⟩ := bind_ok.mp h
    simp only [check_bind_ok] at h
    cases h.2
    exact .kept rfl
  · simp only [conflictAs_ok, approveNew, check_bind_ok] at h
    obtain ⟨-, -, h⟩ := h
    obtain ⟨added, hadd, h⟩ := bind_ok.mp h
    obtain ⟨approved, -, h⟩ := bind_ok.mp h
    cases h
    exact .approved rfl (Database.addIntent_rows hadd)

/-- A claim claims an approved intent whose authorization stands. -/
theorem claimIntent_claim {actor : Actor} {fingerprint : String} {token : Uuid}
    {intent : ExecutionIntent}
    (h : claimIntent settings db intentId actor role fingerprint now token = .ok (after, intent)) :
    ∃ row, row.intentId = intentId ∧ IntentClaim settings db after row now := by
  simp only [claimIntent, check_bind_ok, require_bind_ok, raiseIf_ok, bne_eq_false_iff_eq] at h
  obtain ⟨row, hrow, -, account, -, -, budget, -, -, happroved, -, h⟩ := h
  obtain ⟨approved, hread, h⟩ := bind_ok.mp h
  simp only [check_bind_ok] at h
  obtain ⟨-, horigin, h⟩ := h
  obtain ⟨held, hheld, h⟩ := bind_ok.mp h
  obtain ⟨counted, hcounted, h⟩ := bind_ok.mp h
  obtain ⟨claimed, hclaimed, h⟩ := bind_ok.mp h
  obtain ⟨result, -, h⟩ := bind_ok.mp h
  cases h
  obtain ⟨hmem, hid⟩ := lookup_some hrow
  have hheldIntents : held.intents = db.intents := by
    unfold reserveIfEntry at hheld
    split at hheld
    · simp only [reserveEntry, check_bind_ok] at hheld
      have hwrites : WritesOnly [.budgets] db held :=
        Database.changeBudget_writes hheld.2.2.2 rfl
      exact hwrites .intents rfl
    · cases hheld
      rfl
  have hcount : WritesOnly [.accounts] held counted := Database.changeAccount_writes hcounted rfl
  have hrows := Database.changeIntent_rows hclaimed
  rw [show counted.intents = held.intents from hcount .intents rfl, hheldIntents, ← hid] at hrows
  exact ⟨row, hid, {
    row_mem := hmem
    approved := happroved
    authorized := ⟨approved, hread, horigin⟩
    rows := ⟨actor, account, token, hrows⟩ }⟩

theorem releaseUnsubmittedClaim_intents (h : releaseUnsubmittedClaim db intentId = .ok after) :
    IntentStep settings db now after := by
  simp only [releaseUnsubmittedClaim, require_bind_ok, check_bind_ok, raiseIf_ok,
    Bool.or_eq_false_iff, bne_eq_false_iff_eq] at h
  obtain ⟨row, hrow, ⟨hclaimed, -⟩, h⟩ := h
  obtain ⟨charged, hbudget, h⟩ := bind_ok.mp h
  obtain ⟨hmem, hid⟩ := lookup_some hrow
  have hwrites : WritesOnly [.budgets] db charged := Database.changeBudget_writes hbudget rfl
  have hrows := Database.changeIntent_rows h
  rw [show charged.intents = db.intents from hwrites .intents rfl] at hrows
  refine .ended (c := fun row => row.firstFillConsumed) (fun found hfound hcondition => ?_)
    hrows
  rw [eq_of_intentId hfound hmem ((beq_iff_eq.mp hcondition).trans hid.symm)]
  exact hclaimed

/-- Claims that ran out end their intents. -/
theorem expireUnsubmittedClaims_intents {time : Int} {ids : List Uuid}
    (h : expireUnsubmittedClaims db role now = .ok (after, ids)) :
    IntentStep settings db time after := by
  simp only [expireUnsubmittedClaims, check_bind_ok] at h
  obtain ⟨-, h⟩ := h
  obtain ⟨charged, hbudget, h⟩ := bind_ok.mp h
  simp only [require_bind_ok] at h
  obtain ⟨intents, hupdate, h⟩ := h
  cases h
  have hwrites : WritesOnly [.budgets] db charged := Database.changeBudget_writes hbudget rfl
  have hrows := Checked.rows_update hupdate
  rw [show charged.intents = db.intents from hwrites .intents rfl] at hrows
  refine .ended (c := fun row => row.firstFillConsumed) (fun found _ hcondition => ?_) hrows
  simp only [isExpiredUnsubmitted, Bool.and_eq_true, beq_iff_eq] at hcondition
  exact hcondition.1.1.2

/-- A finalization ends the intent that it charges. -/
theorem Settlement.intents {claim : ExecutionIntent} {sweep : SweepObservation}
    {requestedStatus : String} {time : Int} {lockId : Uuid} {rows : FinalizationRows}
    {evaluated : WholeAccountReconciliation} {latest : AttemptObservationRow}
    {permit : BrokerMutationPermit} {state : AccountReconciliationState}
    {complete certificate : ExecutionCertificate} {hasFill : Bool}
    (h : Settlement settings db after claim sweep requestedStatus now lockId rows evaluated latest
      permit state complete certificate hasFill) : IntentStep settings db time after := by
  have hread := readFinalization_rows h.read
  obtain ⟨hmem, -⟩ := lookup_some hread.intent
  obtain ⟨budget, consumed, -, -, hintents⟩ := h.charge
  refine .ended (c := fun _ => consumed) (fun found hfound hcondition => ?_) hintents
  rw [eq_of_intentId hfound hmem (beq_iff_eq.mp hcondition)]
  exact hread.claimed

/-- A transaction that commits makes one of the steps. -/
theorem run_intents {transaction : Transaction} (h : run settings transaction db = .ok after) :
    IntentStep settings db transaction.now after := by
  have hwrites := run_writes h
  obtain ⟨call, start, now, fresh⟩ := transaction
  cases call with
  | approveIntent intentId role envelope =>
      obtain ⟨intent, h⟩ := fst_map_ok h
      exact approveIntent_intents h
  | claimIntent intentId actor role fingerprint =>
      obtain ⟨intent, h⟩ := fst_map_ok h
      obtain ⟨row, -, hclaim⟩ := claimIntent_claim h
      exact .claimed hclaim
  | releaseUnsubmittedClaim intentId => exact releaseUnsubmittedClaim_intents h
  | expireUnsubmittedClaims role =>
      obtain ⟨ids, h⟩ := fst_map_ok h
      exact expireUnsubmittedClaims_intents h
  | finalizeExecutionAuthorized certificate sweep requestedStatus claim positionGreeks =>
      obtain ⟨result, h⟩ := fst_map_ok h
      rcases finalizeExecutionAuthorized_settlement h with ⟨-, hwrites⟩ |
        ⟨stored, rows, evaluated, latest, permit, state, complete, hasFill, -, hsettled⟩
      · exact .kept (hwrites .intents rfl)
      · exact hsettled.intents
  | addAuthorizedIntent intentId role envelope =>
      exact .approved rfl (Database.addIntent_rows h)
  | _ => exact .kept (hwrites .intents rfl)

/-- Certificates are only added. -/
theorem run_certificates {transaction : Transaction} (h : run settings transaction db = .ok after) :
    ∃ added, after.certificates.rows = db.certificates.rows ++ added := by
  cases run_states h with
  | kept _ hcertificates => exact ⟨[], by rw [hcertificates, List.append_nil]⟩
  | opened h =>
      have heq : after.certificates = db.certificates := h.writes .certificates rfl
      exact ⟨[], by rw [heq, List.append_nil]⟩
  | settled _ _ h => exact ⟨_, h.certificateRows⟩

end AlphaDecay
