import AlphaDecay.Persistence.Frames

/-!
# What transactions do to orders

A transaction that commits either leaves the permits, attempts and observations alone, or has one
of five effects on them: it issues a permit, dispatches one, marks a dispatch as ambiguous, records
what was seen of an attempt, or notes a lookup that saw nothing. `run_effect` says which, with what
the transaction checked first. The results about runs rest on it and never open a transaction.
-/

namespace AlphaDecay

open Foundation Table

def Call.reported : Call → Option OrderAttempt
  | .recordAttemptObservation _ observed _ _ _ => some observed
  | _ => none

variable {settings : RepositorySettings} {db after : Database} {start now : Int} {fresh : Uuid}
  {reported : Option OrderAttempt}

/-! ## Effects -/

/-- Everything that is known of a mutation whose permit is issued. -/
structure Issue [Digest] (settings : RepositorySettings) (db after : Database)
    (rows : PreparationRows)
    (evaluated : WholeAccountReconciliation) (attempt : OrderAttempt) (issuance : Issuance)
    (now : Int) : Prop where
  intent_mem : rows.intent ∈ db.intents.rows
  attempts_read : rows.attempts = db.attemptsOf rows.intent.intentId
  permits_read : rows.permits = db.permitsOf rows.intent.intentId
  attemptIntent : attempt.intentId = rows.intent.intentId
  replacement : evaluated.expectation.purpose = .replace →
    validateReplacementAttempt rows.intent rows.attempts attempt (some now) = .ok () ∧
    validateReplacementDue rows.attempts rows.permits attempt = .ok ()
  canonical : requireCanonicalAttempt rows.intent evaluated.expectation.purpose attempt
    rows.attempts = .ok ()
  target : ∃ target, mutationTarget rows.intent rows.state evaluated.expectation.purpose attempt
    rows.attempts = .ok target
  follows : issuanceOf settings rows evaluated.expectation.purpose attempt
    (priorGeneration rows evaluated.expectation.purpose attempt.ordinal)
    evaluated.expectation.requestHash now = .ok issuance
  permitRows : after.permits.rows =
    modify (fun row => issuance.expired.contains row.permitId) (expirePermit now) db.permits.rows ++
      [issuedPermit settings rows evaluated attempt issuance now]
  attemptRows : after.attempts.rows =
    (modify (fun row => issuance.refreshed == some row.attemptId)
      (refreshPreparedReplacement attempt) db.attempts.rows) ++
      issuance.created.toList.map (createdRow attempt
        (issuedPermit settings rows evaluated attempt issuance now).permitId)
  observations : after.observations = db.observations
  intents : KeepsIntents db after

/-- Everything that is known of a permit that is dispatched. -/
structure Dispatch (db after : Database) (permit : BrokerMutationPermit) (dispatchedAt : Int)
    (nonce : Uuid) : Prop where
  permit_mem : permit ∈ db.permits.rows
  ready : acquirable permit dispatchedAt = true
  attempt_row : ∃ row, db.attempt permit.intentId permit.attemptOrdinal = some row ∧
    (permit.mutationKind = .replace →
      requireReplacementDispatch db permit row dispatchedAt = .ok ())
  permitRows : after.permits.rows =
    modify (fun row => row.permitId == permit.permitId) (dispatchPermit dispatchedAt nonce)
      db.permits.rows
  attempts : after.attempts = db.attempts
  observations : after.observations = db.observations
  intents : KeepsIntents db after

/-- Everything that is known of a dispatch that is marked as ambiguous. -/
structure Ambiguity (db after : Database) (permit : BrokerMutationPermit) : Prop where
  permit_mem : permit ∈ db.permits.rows
  dispatching : permit.state = .dispatching
  permitRows : after.permits.rows =
    modify (fun row => row.permitId == permit.permitId) ambiguousPermit db.permits.rows
  attempts : after.attempts = db.attempts
  observations : after.observations = db.observations
  intents : KeepsIntents db after

/-- Everything that is known of an observation that shows an attempt. -/
structure Sighting (db after : Database) (permit : BrokerMutationPermit) (row : OrderAttemptRow)
    (observed : OrderAttempt) (observation : AttemptObservationRow) (now : Int) : Prop where
  permit_mem : permit ∈ db.permits.rows
  dispatched : permit.state = .dispatching ∨ mayBeLookedUp permit.state = true
  row_mem : row ∈ db.attempts.rows
  observedIntent : observed.intentId = row.intentId
  observedOrdinal : observed.ordinal = row.ordinal
  valid : validateAttemptObservation (attemptFromRow row (db.attemptsOf permit.intentId)) observed =
    .ok ()
  shows : observation.observedAttempt = some observed
  attemptRows : after.attempts.rows =
    modify (fun other => other.attemptId == row.attemptId) (observedRow observed) db.attempts.rows
  permitRows : after.permits.rows =
    modify (fun other => (if consumes permit observed then [permit.permitId] else []).contains
      other.permitId) (consumePermit now observation.observationHash) db.permits.rows
  observations : after.observations.rows = db.observations.rows ++ [observation]
  intents : KeepsIntents db after

/-- Everything that is known of an observation that shows no attempt. -/
structure Note (db after : Database) (observation : AttemptObservationRow) : Prop where
  shows : observation.observedAttempt = none
  permits : after.permits = db.permits
  attempts : after.attempts = db.attempts
  observations : after.observations.rows = db.observations.rows ++ [observation]
  intents : KeepsIntents db after

/-- What a transaction does to orders, where it reports the given attempt. -/
inductive Effect [Digest] (settings : RepositorySettings) (db : Database) (start now : Int)
    (reported : Option OrderAttempt) (after : Database) : Prop where
  | frame (h : Frame db after)
  | issue {rows : PreparationRows} {evaluated : WholeAccountReconciliation}
      {attempt : OrderAttempt} {issuance : Issuance}
      (h : Issue settings db after rows evaluated attempt issuance now)
  | dispatch {permit : BrokerMutationPermit} {nonce : Uuid}
      (h : Dispatch db after permit (dispatchTime permit start now) nonce)
  | ambiguity {permit : BrokerMutationPermit} (h : Ambiguity db after permit)
  | sighting {permit : BrokerMutationPermit} {row : OrderAttemptRow} {observed : OrderAttempt}
      {observation : AttemptObservationRow}
      (h : Sighting db after permit row observed observation now)
      (hreported : reported = some observed)
  | note {observation : AttemptObservationRow} (h : Note db after observation)

/-! ## Preparations -/

variable {permit : BrokerMutationPermit}

/-- A preparation that locks the account issues no permit. -/
theorem latchedPreparation_permit {role : AccountRole} {reason : String} {lockId : Uuid}
    {reconciliation : WholeAccountReconciliation} {preparation : BrokerMutationPreparation}
    (h : latchedPreparation db role reason now lockId reconciliation = .ok (after, preparation)) :
    preparation.permit = none := by
  unfold latchedPreparation at h
  obtain ⟨changed, -, h⟩ := bind_ok.mp h
  cases h
  rfl

section Prepare

variable [Digest] {rows : PreparationRows} {evaluated : WholeAccountReconciliation}
  {attempt : OrderAttempt} {issuance : Issuance}
variable {claim : ExecutionIntent} {requested : OrderAttempt}
  {preparation : BrokerMutationPreparation}

variable {reconciliation : WholeAccountReconciliation}

theorem writeIssuance_rows (h : writeIssuance db attempt issuance permit now = .ok after) :
    after.permits.rows =
      modify (fun row => issuance.expired.contains row.permitId) (expirePermit now)
        db.permits.rows ++ [permit] ∧
    after.attempts.rows =
      (modify (fun row => issuance.refreshed == some row.attemptId)
        (refreshPreparedReplacement attempt) db.attempts.rows) ++
        issuance.created.toList.map (createdRow attempt permit.permitId) ∧
    after.observations = db.observations ∧ after.intents = db.intents := by
  unfold writeIssuance at h
  obtain ⟨expired, hexpired, h⟩ := bind_ok.mp h
  obtain ⟨refreshed, hrefreshed, h⟩ := bind_ok.mp h
  obtain ⟨added, hadded, hcreated⟩ := bind_ok.mp h
  obtain ⟨hep, hea, heo, hei⟩ := Database.changePermits_rows hexpired
  obtain ⟨hap, haa, hao, hai⟩ := Database.addPermit_rows hadded
  have hrefresh : refreshed.permits = expired.permits ∧
      refreshed.attempts.rows = modify (fun row => issuance.refreshed == some row.attemptId)
        (refreshPreparedReplacement attempt) expired.attempts.rows ∧
      refreshed.observations = expired.observations ∧ refreshed.intents = expired.intents := by
    unfold refreshAttempt at hrefreshed
    split at hrefreshed
    · rename_i attemptId heq
      obtain ⟨hra, hrp, hro, hri⟩ := Database.changeAttempt_rows hrefreshed
      refine ⟨hrp, ?_, hro, hri⟩
      rw [hra, heq]
      congr 1
      funext row
      simp [eq_comm]
    · rename_i heq
      cases hrefreshed
      refine ⟨rfl, ?_, rfl, rfl⟩
      rw [heq]
      exact (modify_of_not fun row _ => rfl).symm
  obtain ⟨hrp, hra, hro, hri⟩ := hrefresh
  unfold createAttempt at hcreated
  split at hcreated
  · rename_i replacesId heq
    obtain ⟨hca, hcp, hco, hci⟩ := Database.addAttempt_rows hcreated
    rw [hcp, hca, hco, hci, hap, haa, hao, hai, hrp, hra, hro, hri, hep, hea, heo, hei, heq]
    exact ⟨rfl, rfl, rfl, rfl⟩
  · rename_i heq
    cases hcreated
    rw [hap, haa, hao, hai, hrp, hra, hro, hri, hep, hea, heo, hei, heq]
    exact ⟨rfl, by simp, rfl, rfl⟩

/-- The rows of a preparation are those of the database. -/
theorem readPreparation_rows (h : readPreparation db claim start = .ok rows) :
    rows.intent ∈ db.intents.rows ∧ rows.attempts = db.attemptsOf rows.intent.intentId ∧
      rows.permits = db.permitsOf rows.intent.intentId := by
  simp only [readPreparation, require_bind_ok, check_bind_ok] at h
  obtain ⟨intent, hintent, account, -, budget, -, -, claimToken, -, -, h⟩ := h
  obtain ⟨value, -, h⟩ := bind_ok.mp h
  simp only [check_bind_ok, require_bind_ok] at h
  obtain ⟨-, -, state, -, h⟩ := h
  cases h
  exact ⟨(lookup_some hintent).1, rfl, rfl⟩

/-- The rows of a preparation are those of the intent that was claimed. -/
theorem readPreparation_intentId (h : readPreparation db claim start = .ok rows) :
    rows.intent.intentId = claim.intentId := by
  simp only [readPreparation, require_bind_ok, check_bind_ok] at h
  obtain ⟨intent, hintent, account, -, budget, -, -, claimToken, -, -, h⟩ := h
  obtain ⟨value, -, h⟩ := bind_ok.mp h
  simp only [check_bind_ok, require_bind_ok] at h
  obtain ⟨-, -, state, -, h⟩ := h
  cases h
  simpa using (lookup_some hintent).2

/-- The attempt of a replacement has been validated with the time at which it is prepared. -/
theorem requestedAttempt_replacement
    (h : requestedAttempt rows .replace requested now = .ok attempt) :
    validateReplacementAttempt rows.intent rows.attempts attempt (some now) = .ok () ∧
      validateReplacementDue rows.attempts rows.permits attempt = .ok () := by
  simp only [requestedAttempt, if_true, check_bind_ok] at h
  obtain ⟨-, h⟩ := h
  obtain ⟨timed, -, h⟩ := bind_ok.mp h
  simp only [check_bind_ok] at h
  obtain ⟨hvalid, hdue, h⟩ := h
  cases h
  exact ⟨hvalid, hdue⟩

/-- The expectation of a mutation has its purpose, and the attempt has been checked. -/
theorem reconciliationExpectationFromRows_facts {intent : ExecutionIntentRow}
    {state : AccountReconciliationStateRow} {purpose : ReconciliationPurpose}
    {attempts : List OrderAttemptRow} {candidates : Option (List ActivityItem)}
    {expectation : ReconciliationExpectation}
    (h : reconciliationExpectationFromRows intent state purpose attempt attempts candidates =
      .ok expectation) :
    expectation.purpose = purpose ∧ attempt.intentId = intent.intentId ∧
      requireCanonicalAttempt intent purpose attempt attempts = .ok () ∧
      ∃ target, mutationTarget intent state purpose attempt attempts = .ok target := by
  simp only [reconciliationExpectationFromRows, check_bind_ok, raiseIf_ok, Bool.or_eq_false_iff,
    bne_eq_false_iff_eq] at h
  obtain ⟨⟨hintent, -⟩, -, hcanonical, h⟩ := h
  obtain ⟨target, htarget, h⟩ := bind_ok.mp h
  obtain ⟨positions, -, h⟩ := bind_ok.mp h
  obtain ⟨activities, -, h⟩ := bind_ok.mp h
  obtain ⟨hvalid, hbuilt⟩ := build_ok.mp h
  rw [← hbuilt]
  exact ⟨rfl, hintent, hcanonical, target, htarget⟩

/-- The issue of a permit after a safe reconciliation. -/
theorem issuePreparation_issue
    (h : issuePreparation settings db rows attempt evaluated now = .ok (after, preparation)) :
    ∃ issuance, issuanceOf settings rows evaluated.expectation.purpose attempt
        (priorGeneration rows evaluated.expectation.purpose attempt.ordinal)
        evaluated.expectation.requestHash now = .ok issuance ∧
      writeIssuance db attempt issuance
        (issuedPermit settings rows evaluated attempt issuance now) now = .ok after ∧
      preparation.permit = some (issuedPermit settings rows evaluated attempt issuance now) := by
  unfold issuePreparation at h
  obtain ⟨issuance, hissuance, h⟩ := bind_ok.mp h
  obtain ⟨written, hwritten, h⟩ := bind_ok.mp h
  cases h
  exact ⟨issuance, hissuance, hwritten, rfl⟩

/-- A preparation locks the account and leaves the orders alone, or issues a permit. -/
theorem prepareBrokerMutation_effect
    (h : prepareBrokerMutation settings db reconciliation requested claim start now fresh =
      .ok (after, preparation)) : Effect settings db start now reported after := by
  simp only [prepareBrokerMutation, conflictAs_ok] at h
  obtain ⟨rows, hrows, h⟩ := bind_ok.mp h
  obtain ⟨attempt, hattempt, h⟩ := bind_ok.mp h
  obtain ⟨observed, hobserved, h⟩ := bind_ok.mp h
  have hequity := Database.changeAccount_frame hobserved
  split at h
  · rename_i expectation hexpectation
    obtain ⟨hpurpose, hintent, hcanonical, htarget⟩ :=
      reconciliationExpectationFromRows_facts hexpectation
    unfold reconcilePreparation at h
    obtain ⟨evaluated, hevaluated, h⟩ := bind_ok.mp h
    obtain ⟨-, rfl, -⟩ := WholeAccountReconciliation.evaluate_ok hevaluated
    obtain ⟨reconciled, hreconciled, h⟩ := bind_ok.mp h
    have hbooks := hequity.trans (Database.addReconciliation_frame hreconciled)
    split at h
    · exact .frame (hbooks.trans ((latchedPreparation_writes h).frame rfl))
    · obtain ⟨reason, -, h⟩ := bind_ok.mp h
      split at h
      · exact .frame (hbooks.trans ((latchedPreparation_writes h).frame rfl))
      · obtain ⟨issuance, hissuance, hwritten, -⟩ := issuePreparation_issue h
        obtain ⟨hmem, hattempts, hpermits⟩ := readPreparation_rows hrows
        obtain ⟨hpermitRows, hattemptRows, hobservations, hintents⟩ := writeIssuance_rows hwritten
        rw [← hpurpose] at hattempt hcanonical htarget
        refine .issue {
          intent_mem := hmem
          attempts_read := hattempts
          permits_read := hpermits
          attemptIntent := hintent
          replacement := ?_
          canonical := hcanonical
          target := htarget
          follows := hissuance
          permitRows := ?_
          attemptRows := ?_
          observations := hobservations.trans hbooks.observations
          intents := hbooks.intents.trans (KeepsIntents.of_eq hintents) }
        · intro hreplace
          rw [hreplace] at hattempt
          exact requestedAttempt_replacement hattempt
        · rw [hpermitRows, hbooks.permits]
        · rw [hattemptRows, hbooks.attempts]
  · split at h
    · exact .frame (hequity.trans ((latchedPreparation_writes h).frame rfl))
    · cases h

/-- A preparation writes accounts, reconciliations, permits and attempts. -/
theorem prepareBrokerMutation_writes
    (h : prepareBrokerMutation settings db reconciliation requested claim start now fresh =
      .ok (after, preparation)) : WritesOnly preparationTables db after := by
  simp only [prepareBrokerMutation, conflictAs_ok] at h
  obtain ⟨rows, -, h⟩ := bind_ok.mp h
  obtain ⟨attempt, -, h⟩ := bind_ok.mp h
  obtain ⟨observed, hobserved, h⟩ := bind_ok.mp h
  refine (Database.changeAccount_writes hobserved rfl).trans ?_
  split at h
  · unfold reconcilePreparation at h
    obtain ⟨evaluated, -, h⟩ := bind_ok.mp h
    obtain ⟨reconciled, hreconciled, h⟩ := bind_ok.mp h
    refine (Database.addReconciliation_writes hreconciled rfl).trans ?_
    split at h
    · exact (latchedPreparation_writes h).mono rfl
    · obtain ⟨reason, -, h⟩ := bind_ok.mp h
      split at h
      · exact (latchedPreparation_writes h).mono rfl
      · obtain ⟨issuance, -, hwritten, -⟩ := issuePreparation_issue h
        exact writeIssuance_writes hwritten
  · split at h
    · exact (latchedPreparation_writes h).mono rfl
    · cases h

end Prepare

/-! ## Dispatches and observations -/

section

variable {permitId : Uuid} {claim : ExecutionIntent} {claimed : ClaimedPermit}
variable {source : AttemptObservationSource} {result : AttemptObservation}

theorem claimedPermit_facts (h : claimedPermit db permitId claim = .ok claimed) :
    claimed.permit ∈ db.permits.rows ∧ claimed.permit.permitId = permitId ∧
      claimed.intent.intentId = claimed.permit.intentId := by
  simp only [claimedPermit, require_bind_ok, check_bind_ok] at h
  obtain ⟨permit, hpermit, intent, hintent, account, -, -, h⟩ := h
  cases h
  obtain ⟨hmem, hid⟩ := lookup_some hpermit
  exact ⟨hmem, hid, (lookup_some hintent).2⟩

theorem requireDispatchAuthority_replace {row : OrderAttemptRow}
    (h : requireDispatchAuthority db permit row now = .ok ()) :
    permit.mutationKind = .replace → requireReplacementDispatch db permit row now = .ok () := by
  intro hkind
  rwa [requireDispatchAuthority, if_pos hkind] at h

theorem changePermit_rows {change : BrokerMutationPermit → BrokerMutationPermit}
    (h : db.changePermits [permitId] change = .ok after) :
    after.permits.rows = modify (fun row => row.permitId == permitId) change db.permits.rows ∧
    after.attempts = db.attempts ∧ after.observations = db.observations ∧
    after.intents = db.intents := by
  obtain ⟨hpermits, hrest⟩ := Database.changePermits_rows h
  refine ⟨?_, hrest⟩
  rw [hpermits]
  congr 1
  funext row
  simp only [List.contains_cons, List.contains_nil, Bool.or_false]

theorem acquireBrokerDispatch_effect
    (h : acquireBrokerDispatch db permitId claim start now fresh = .ok (after, permit)) :
    ∃ prepared, Dispatch db after prepared (dispatchTime prepared start now) fresh := by
  unfold acquireBrokerDispatch at h
  obtain ⟨⟨prepared, intent, account⟩, hclaimed, h⟩ := bind_ok.mp h
  obtain ⟨hmem, hid, -⟩ := claimedPermit_facts hclaimed
  simp only [check_bind_ok, require_bind_ok, raiseIf_ok, Bool.not_eq_false'] at h
  obtain ⟨-, -, -, -, row, hrow, -, hauthority, hready, h⟩ := h
  obtain ⟨written, hwritten, h⟩ := bind_ok.mp h
  cases h
  obtain ⟨hpermits, hattempts, hobservations, hintents⟩ := changePermit_rows hwritten
  refine ⟨prepared, {
    permit_mem := hmem
    ready := hready
    attempt_row := ⟨row, hrow, ?_⟩
    permitRows := ?_
    attempts := hattempts
    observations := hobservations
    intents := KeepsIntents.of_eq hintents }⟩
  · intro hkind
    rw [dispatchTime, if_pos hkind]
    exact requireDispatchAuthority_replace hauthority hkind
  · rw [hpermits, ← hid]

theorem markBrokerDispatchAmbiguous_effect {nonce : Uuid}
    (h : markBrokerDispatchAmbiguous db permitId nonce claim = .ok (after, permit)) :
    ∃ dispatched, Ambiguity db after dispatched := by
  unfold markBrokerDispatchAmbiguous at h
  obtain ⟨⟨dispatched, intent, account⟩, hclaimed, h⟩ := bind_ok.mp h
  obtain ⟨hmem, hid, -⟩ := claimedPermit_facts hclaimed
  simp only [check_bind_ok, raiseIf_ok, bne_eq_false_iff_eq] at h
  obtain ⟨hstate, -, -, h⟩ := h
  obtain ⟨written, hwritten, h⟩ := bind_ok.mp h
  cases h
  obtain ⟨hpermits, hattempts, hobservations, hintents⟩ := changePermit_rows hwritten
  refine ⟨dispatched, {
    permit_mem := hmem
    dispatching := hstate
    permitRows := ?_
    attempts := hattempts
    observations := hobservations
    intents := KeepsIntents.of_eq hintents }⟩
  rw [hpermits, ← hid]

/-- A source reports on a permit that is being dispatched or may be looked up. -/
theorem requireObservationSource_state {nonce : Option Uuid}
    (h : requireObservationSource settings permit source nonce now = .ok ()) :
    permit.state = .dispatching ∨ mayBeLookedUp permit.state = true := by
  cases source with
  | dispatchOutcome =>
      simp only [requireObservationSource, check_bind_ok, raiseIf_ok, bne_eq_false_iff_eq] at h
      exact Or.inl h.1
  | targetedLookup =>
      simp only [requireObservationSource, check_bind_ok, raiseIf_ok, Bool.or_eq_false_iff,
        Bool.not_eq_false'] at h
      exact Or.inr h.1.2
  | targetedLookupFailure => cases h

/-- The account of an order that is missing is locked, and its orders are left alone. -/
theorem latchMissing_frame {role : AccountRole}
    (h : latchMissing db permit role now fresh = .ok after) : Frame db after := by
  unfold latchMissing at h
  split at h
  · cases h
    exact Frame.refl db
  · exact Database.changeAccount_frame h

variable [Digest]

/-- What was seen of an attempt is recorded. -/
theorem recordAttemptObservation_effect {observed : OrderAttempt} {nonce : Option Uuid}
    (h : recordAttemptObservation settings db permitId observed source claim nonce now =
      .ok (after, result)) :
    ∃ permit row observation, Sighting db after permit row observed observation now := by
  unfold recordAttemptObservation at h
  obtain ⟨⟨permit, intent, account⟩, hclaimed, h⟩ := bind_ok.mp h
  obtain ⟨hmem, hid, hintent⟩ := claimedPermit_facts hclaimed
  simp only at hmem hid hintent
  simp only [check_bind_ok, require_bind_ok, raiseIf_ok, Bool.or_eq_false_iff,
    bne_eq_false_iff_eq] at h
  obtain ⟨-, -, hsource, ⟨hobservedIntent, hobservedOrdinal⟩, row, hrow, -, hvalid, h⟩ := h
  obtain ⟨written, hwritten, h⟩ := bind_ok.mp h
  cases h
  unfold writeObservation at hwritten
  obtain ⟨changed, hchanged, hwritten⟩ := bind_ok.mp hwritten
  obtain ⟨consumed, hconsumed, hadded⟩ := bind_ok.mp hwritten
  obtain ⟨hca, hcp, hco, hci⟩ := Database.changeAttempt_rows hchanged
  obtain ⟨hpp, hpa, hpo, hpi⟩ := Database.changePermits_rows hconsumed
  obtain ⟨hao, hap, haa, hai⟩ := Database.addObservation_rows hadded
  have hfound := List.mem_of_find?_eq_some hrow
  have hordinal := List.find?_some hrow
  simp only [beq_iff_eq] at hordinal
  rw [hintent] at hfound hvalid
  obtain ⟨hrowMem, hrowIntent⟩ := Database.mem_attemptsOf.mp hfound
  refine ⟨permit, row, nextObservation permit row.attemptId (db.observationsOf intent.intentId)
    source (some observed) now, {
    permit_mem := hmem
    dispatched := requireObservationSource_state hsource
    row_mem := hrowMem
    observedIntent := hobservedIntent.trans (hintent.trans hrowIntent.symm)
    observedOrdinal := hordinal.symm
    valid := hvalid
    shows := rfl
    attemptRows := ?_
    permitRows := ?_
    observations := ?_
    intents := KeepsIntents.of_eq (hai.trans (hpi.trans hci)) }⟩
  · rw [haa, hpa, hca]
  · rw [hap, hpp, hcp]
  · rw [hao, hpo, hco]

theorem recordAttemptLookupFailure_effect
    (h : recordAttemptLookupFailure db permitId claim now = .ok (after, result)) :
    ∃ observation, Note db after observation := by
  unfold recordAttemptLookupFailure at h
  obtain ⟨⟨permit, intent, account⟩, -, h⟩ := bind_ok.mp h
  simp only [check_bind_ok, require_bind_ok] at h
  obtain ⟨-, -, target, -, h⟩ := h
  obtain ⟨written, hadded, h⟩ := bind_ok.mp h
  cases h
  obtain ⟨hobservations, hpermits, hattempts, hintents⟩ := Database.addObservation_rows hadded
  exact ⟨nextObservation permit target.attemptId (db.observationsOf intent.intentId)
    .targetedLookupFailure none now, {
    shows := rfl
    permits := hpermits
    attempts := hattempts
    observations := hobservations
    intents := KeepsIntents.of_eq hintents }⟩

/-- A lookup that found no order is noted. -/
theorem recordAttemptAbsence_effect
    (h : recordAttemptAbsence settings db permitId source claim now fresh = .ok (after, result)) :
    ∃ observation, Note db after observation := by
  simp only [recordAttemptAbsence, check_bind_ok] at h
  obtain ⟨-, h⟩ := h
  obtain ⟨⟨permit, intent, account⟩, -, h⟩ := bind_ok.mp h
  simp only [check_bind_ok, require_bind_ok] at h
  obtain ⟨-, -, target, -, -, h⟩ := h
  obtain ⟨latched, hlatched, h⟩ := bind_ok.mp h
  obtain ⟨written, hadded, h⟩ := bind_ok.mp h
  cases h
  have hframe := latchMissing_frame hlatched
  obtain ⟨hobservations, hpermits, hattempts, hintents⟩ := Database.addObservation_rows hadded
  exact ⟨nextObservation permit target.attemptId (db.observationsOf intent.intentId) source
    none now, {
    shows := rfl
    permits := hpermits.trans hframe.permits
    attempts := hattempts.trans hframe.attempts
    observations := by rw [hobservations, hframe.observations]
    intents := hframe.intents.trans (KeepsIntents.of_eq hintents) }⟩

end

/-! ## Transactions -/

theorem fst_map_ok {α β : Type} {result : Except Failure (α × β)} {first : α}
    (h : Prod.fst <$> result = .ok first) : ∃ second, result = .ok (first, second) := by
  cases result with
  | error failure => cases h
  | ok value =>
      cases h
      exact ⟨value.2, rfl⟩

/-- A transaction that commits has one of the effects. -/
theorem run_effect [Digest] {transaction : Transaction}
    (h : run settings transaction db = .ok after) :
    Effect settings db transaction.start transaction.now transaction.call.reported after := by
  obtain ⟨call, start, now, fresh⟩ := transaction
  cases call with
  | registerAccount role fingerprint equity => exact .frame ((registerAccount_writes h).frame rfl)
  | setAutonomousEnabled role enabled actor =>
      exact .frame ((setAutonomousEnabled_writes h).frame rfl)
  | captureBaseline role baseline => exact .frame ((captureBaseline_writes h).frame rfl)
  | observeAccountAdjustment role activity =>
      exact .frame ((observeAccountAdjustment_writes h).frame rfl)
  | initializeReconciliationState sweep =>
      obtain ⟨state, h⟩ := fst_map_ok h
      exact .frame (initializeReconciliationState_frame h)
  | approveIntent intentId role envelope =>
      obtain ⟨intent, h⟩ := fst_map_ok h
      exact .frame (approveIntent_frame h)
  | claimIntent intentId actor role fingerprint =>
      obtain ⟨intent, h⟩ := fst_map_ok h
      exact .frame (claimIntent_frame h)
  | releaseUnsubmittedClaim intentId => exact .frame (releaseUnsubmittedClaim_frame h)
  | expireUnsubmittedClaims role =>
      obtain ⟨ids, h⟩ := fst_map_ok h
      exact .frame (expireUnsubmittedClaims_frame h)
  | recoverEntryReservations => exact .frame ((recoverReservations_writes h).frame rfl)
  | prepareBrokerMutation reconciliation attempt claim =>
      obtain ⟨preparation, h⟩ := fst_map_ok h
      exact prepareBrokerMutation_effect h
  | acquireBrokerDispatch permitId claim =>
      obtain ⟨permit, h⟩ := fst_map_ok h
      obtain ⟨prepared, hdispatch⟩ := acquireBrokerDispatch_effect h
      exact .dispatch hdispatch
  | markBrokerDispatchAmbiguous permitId nonce claim =>
      obtain ⟨permit, h⟩ := fst_map_ok h
      obtain ⟨dispatched, hambiguity⟩ := markBrokerDispatchAmbiguous_effect h
      exact .ambiguity hambiguity
  | recordAttemptObservation permitId observed source claim nonce =>
      obtain ⟨observation, h⟩ := fst_map_ok h
      obtain ⟨permit, row, observation, hsighting⟩ := recordAttemptObservation_effect h
      exact .sighting hsighting rfl
  | recordAttemptLookupFailure permitId claim =>
      obtain ⟨result, h⟩ := fst_map_ok h
      obtain ⟨observation, hnote⟩ := recordAttemptLookupFailure_effect h
      exact .note hnote
  | recordAttemptAbsence permitId source claim =>
      obtain ⟨result, h⟩ := fst_map_ok h
      obtain ⟨observation, hnote⟩ := recordAttemptAbsence_effect h
      exact .note hnote
  | targetedLookupAuthority claim =>
      obtain ⟨authority, h⟩ := fst_map_ok h
      exact .frame ((targetedLookupAuthority_writes h).frame rfl)
  | finalizeExecutionAuthorized certificate sweep requestedStatus claim positionGreeks =>
      obtain ⟨result, h⟩ := fst_map_ok h
      exact .frame (finalizeExecutionAuthorized_frame h)
  | changeOrigins origins =>
      cases h
      exact .frame ⟨⟨rfl, rfl, rfl⟩, KeepsIntents.of_eq rfl⟩
  | addAuthorizedIntent intentId role envelope => exact .frame (Database.addIntent_frame h)

variable {observation : AttemptObservationRow}

/-- A transaction that shows an attempt adds an observation. -/
theorem Sighting.observations_ne {row : OrderAttemptRow} {observed : OrderAttempt}
    (h : Sighting db after permit row observed observation now) :
    after.observations ≠ db.observations := by
  intro hsame
  have hrows := h.observations
  rw [hsame] at hrows
  simp at hrows

/-- What a transaction shows of an attempt is what it reports. -/
theorem Effect.reported_of_sighting [Digest] (h : Effect settings db start now reported after)
    {row : OrderAttemptRow} {observed : OrderAttempt}
    (hsighting : Sighting db after permit row observed observation now) :
    reported = some observed := by
  have hrows := hsighting.observations
  cases h with
  | frame h => exact absurd h.observations hsighting.observations_ne
  | issue h => exact absurd h.observations hsighting.observations_ne
  | dispatch h => exact absurd h.observations hsighting.observations_ne
  | ambiguity h => exact absurd h.observations hsighting.observations_ne
  | sighting h hreported =>
      obtain ⟨-, hlast⟩ := List.append_inj' (h.observations.symm.trans hrows) rfl
      cases hlast
      rw [hreported, ← h.shows, hsighting.shows]
  | note h =>
      obtain ⟨-, hlast⟩ := List.append_inj' (h.observations.symm.trans hrows) rfl
      cases hlast
      have hshows := hsighting.shows
      rw [h.shows] at hshows
      cases hshows

end AlphaDecay
