import AlphaDecay.Persistence.ReplacementChain

/-!
# What a replacement is dispatched against

The target of a replacement is checked when its permit is prepared, and not again when the permit
is dispatched. The target is still an order that may be replaced then, unless a report on it was
recorded in between that shows it filled, finished or otherwise out of reach.
-/

namespace AlphaDecay

open Foundation Table

variable {settings : RepositorySettings} {db after : Database} {start now clock : Int}
  {reported : Option OrderAttempt}

/-! ## Late reports -/

/-- The permit of a replacement that may still be dispatched at a time. -/
def BrokerMutationPermit.mayReplace (permit : BrokerMutationPermit) (now : Int) : Bool :=
  permit.mutationKind == .replace && permit.state == .prepared && now < permit.expiresAt

/-- A permit would replace the attempt of an ordinal of an intent. -/
def BrokerMutationPermit.targets (permit : BrokerMutationPermit) (intentId : Uuid)
    (ordinal : Int) : Bool :=
  permit.intentId == intentId && permit.attemptOrdinal == ordinal + 1

/-- A transaction records that an attempt is in a state in which it may not be replaced, while a
permit is prepared that would replace it. -/
def lateReport (world : World) (transaction : Transaction) : Bool :=
  match transaction.call with
  | .recordAttemptObservation _ observed _ _ _ =>
      !mayBeReplaced observed.state && world.db.permits.rows.any fun permit =>
        permit.mayReplace transaction.now && permit.targets observed.intentId observed.ordinal
  | _ => false

/-! ## Fills -/

/-- The filled quantity of an attempt fits its state. -/
def FillFits (row : OrderAttemptRow) : Prop :=
  ∀ state, row.state = .broker state →
    brokerStateMatchesFill state row.filledQuantity row.quantity = true

/-- The states in which an attempt may be replaced. -/
theorem mayBeReplaced_iff {state : AttemptState} :
    mayBeReplaced state = true ↔
      state = .broker .new ∨ state = .broker .accepted ∨ state = .broker .pendingNew := by
  cases state with
  | broker state => cases state <;> simp [mayBeReplaced, AttemptState.isMutationEligible,
      AttemptState.satisfies, BrokerOrderState.isMutationEligible, BrokerOrderState.phase]
  | prepared => simp [mayBeReplaced, AttemptState.isMutationEligible, AttemptState.satisfies]
  | assignmentLocked => simp [mayBeReplaced, AttemptState.isMutationEligible,
      AttemptState.satisfies]
  | unknown text => simp [mayBeReplaced, AttemptState.isMutationEligible, AttemptState.satisfies]

/-- An attempt that may be replaced is not filled. -/
theorem FillFits.unfilled {row : OrderAttemptRow} (h : FillFits row)
    (hstate : mayBeReplaced row.state = true) : row.filledQuantity = 0 := by
  rcases mayBeReplaced_iff.mp hstate with hrow | hrow | hrow
  · exact brokerStateMatchesFill_zero (h _ hrow) rfl
  · exact brokerStateMatchesFill_zero (h _ hrow) rfl
  · exact brokerStateMatchesFill_zero (h _ hrow) rfl

theorem timely_of_not_lateReport {world : World} {transaction : Transaction}
    (h : lateReport world transaction = false) {permit : BrokerMutationPermit}
    (hpermit : permit ∈ world.db.permits.rows) (hmay : permit.mayReplace transaction.now = true) :
    ∀ observed, transaction.call.reported = some observed →
      permit.targets observed.intentId observed.ordinal = true →
      mayBeReplaced observed.state = true := by
  intro observed hreported htargets
  unfold Call.reported at hreported
  split at hreported
  · rename_i _ _ _ _ _ hcall
    cases hreported
    simp only [lateReport, hcall, Bool.and_eq_false_iff, Bool.not_eq_false'] at h
    rcases h with h | h
    · exact h
    · rw [List.any_eq_false] at h
      exact absurd (by rw [hmay, htargets]; rfl) (h permit hpermit)
  · cases hreported

/-- A permit that may replace an attempt after a transaction might before it. -/
theorem Advance.mayReplace {old new : BrokerMutationPermit} (h : Advance start now old new)
    (hnew : new.mayReplace now = true) : old.mayReplace now = true ∧ new = old := by
  simp only [BrokerMutationPermit.mayReplace, Bool.and_eq_true, beq_iff_eq, decide_eq_true_eq]
    at hnew ⊢
  cases h with
  | stay => exact ⟨hnew, rfl⟩
  | dispatch nonce h => cases hnew.1.2
  | ambiguity h => cases hnew.1.2
  | consume outcomeHash h => cases hnew.1.2
  | expire h => cases hnew.1.2

section Step

variable [Digest] {old new : OrderAttemptRow}

variable {evaluated : WholeAccountReconciliation}

/-- A revision of an attempt keeps a fill that fits. -/
theorem Revision.fillFits (h : Revision settings db after now old new) (hold : FillFits old) :
    FillFits new := by
  cases h with
  | stay => exact hold
  | @observed permit attempt observation h =>
      intro state hstate
      obtain ⟨found, hfound, hfits⟩ := validateAttemptObservation_state h.valid
      cases hfound.symm.trans hstate
      exact hfits
  | refreshed h hrefreshed => exact hold

theorem Issue.created_prepared {rows : PreparationRows} {attempt : OrderAttempt}
    {issuance : Issuance} {replacesId : Option Uuid}
    (h : Issue settings db after rows evaluated attempt issuance now)
    (hcreated : issuance.created = some replacesId) : attempt.state = .prepared := by
  rcases h.created_facts hcreated with ⟨hpurpose, -⟩ | ⟨-, target, -, -, hvalid⟩
  · exact (h.submission_facts hpurpose).2.2.1
  · exact hvalid.state

/-- What every attempt of an issue has and every revision keeps holds of all attempts in every
state that the repository reaches. -/
theorem attempts_of_reachable {P : OrderAttemptRow → Prop} {world : World}
    (h : (repository settings).Reachable world)
    (hrevised : ∀ {db after now old new}, Revision settings db after now old new → P old → P new)
    (hcreated : ∀ {db after rows evaluated attempt issuance now replacesId},
      Issue settings db after rows evaluated attempt issuance now →
      issuance.created = some replacesId → ∀ permitId, P (createdRow attempt permitId replacesId)) :
    ∀ row ∈ world.db.attempts.rows, P row := by
  refine h.invariant (P := fun world => ∀ row ∈ world.db.attempts.rows, P row) ?_ ?_
  · intro world hempty row hrow
    rw [show world.db = {} from hempty] at hrow
    cases hrow
  · intro world transaction next hfits hstep new hnew
    rcases (step_effect hstep).1.attempts.2 new hnew with ⟨old, hold, hrevision⟩ |
      ⟨rows, evaluated, attempt, issuance, replacesId, hissue, hmade, rfl⟩
    · exact hrevised hrevision (hfits old hold)
    · exact hcreated hissue hmade _

/-- The fills fit in every state that the repository reaches. -/
theorem fillFits_of_reachable {world : World} (h : (repository settings).Reachable world) :
    ∀ row ∈ world.db.attempts.rows, FillFits row := by
  refine attempts_of_reachable h Revision.fillFits fun hissue hmade _ state hstate => ?_
  cases (hissue.created_prepared hmade).symm.trans hstate

/-! ## The invariant -/

/-- The attempt that a permit would replace may be replaced. -/
def TargetOpen (db : Database) (permit : BrokerMutationPermit) : Prop :=
  ∃ row ∈ db.attempts.rows, permit.targets row.intentId row.ordinal = true ∧
    mayBeReplaced row.state = true

/-- Every permit that may still replace an attempt is aimed at one that may be replaced. -/
def TargetsOpen (db : Database) (clock : Int) : Prop :=
  ∀ permit ∈ db.permits.rows, permit.mayReplace clock = true → TargetOpen db permit

/-- The issue of a replacement is aimed at an attempt that may be replaced. -/
theorem Issue.targetOpen {rows : PreparationRows} {attempt : OrderAttempt} {issuance : Issuance}
    (h : Issue settings db after rows evaluated attempt issuance now)
    (hreplace : evaluated.expectation.purpose = .replace) :
    TargetOpen db (issuedPermit settings rows evaluated attempt issuance now) := by
  obtain ⟨last, target, -, hvalid, htarget, -⟩ := h.replacement_facts hreplace
  obtain ⟨hmem, hintent⟩ := h.mem_attempts htarget
  refine ⟨target, hmem, ?_, hvalid.mayBeReplaced⟩
  show (rows.intent.intentId == target.intentId && attempt.ordinal == target.ordinal + 1) = true
  rw [hintent, hvalid.ordinal, beq_self_eq_true, beq_self_eq_true]
  rfl

/-- A transaction that is not a late report leaves the target of a replacement open. -/
theorem Effect.targetOpen (h : Effect settings db start now reported after)
    {permit : BrokerMutationPermit} (hopen : TargetOpen db permit)
    (htimely : after.observations ≠ db.observations → ∀ observed, reported = some observed →
      permit.targets observed.intentId observed.ordinal = true →
      mayBeReplaced observed.state = true) :
    TargetOpen after permit := by
  obtain ⟨row, hrow, htarget, hstate⟩ := hopen
  obtain ⟨new, hnew, hrevision⟩ := h.attempts.1 row hrow
  have hsame := hrevision.same
  refine ⟨new, hnew, ?_, ?_⟩
  · rw [hsame.intentId, hsame.ordinal]
    exact htarget
  · cases hrevision with
    | stay => exact hstate
    | observed hsighting =>
        refine htimely hsighting.observations_ne _ (h.reported_of_sighting hsighting) ?_
        rw [hsighting.observedIntent, hsighting.observedOrdinal]
        exact htarget
    | refreshed hissue hrefreshed =>
        obtain ⟨-, last, target, hlast, hid, -, hprepared, -⟩ := hissue.refreshed_facts hrefreshed
        cases eq_of_attemptId (hissue.mem_attempts hlast).1 hrow hid
        exact absurd hprepared (ne_prepared_of_mayBeReplaced hstate)

/-- In a run without late reports every permit that may replace an attempt is aimed at one that
may be replaced. -/
theorem targetsOpen_of_reachable {world : World}
    (h : ((repository settings).restrict fun world transaction =>
      lateReport world transaction = false).Reachable world) :
        TargetsOpen world.db world.clock := by
  refine h.invariant (P := fun world => TargetsOpen world.db world.clock) ?_ ?_
  · intro world hempty permit hpermit
    rw [show world.db = {} from hempty] at hpermit
    cases hpermit
  · intro world transaction next hopen hstep permit hpermit hmay
    obtain ⟨heffect, hstart, hnow, hclock⟩ := step_effect hstep.2
    rw [hclock] at hmay
    rcases heffect.traced hpermit with ⟨old, hold, hadvance⟩ |
      ⟨rows, evaluated, attempt, issuance, hissue, rfl⟩
    · obtain ⟨hbefore, rfl⟩ := hadvance.mayReplace hmay
      refine heffect.targetOpen (hopen permit hold ?_) fun _ =>
        timely_of_not_lateReport hstep.1 hold hbefore
      simp only [BrokerMutationPermit.mayReplace, Bool.and_eq_true, beq_iff_eq,
        decide_eq_true_eq] at hbefore ⊢
      exact ⟨hbefore.1, by omega⟩
    · have hkind : evaluated.expectation.purpose = .replace := by
        simp only [BrokerMutationPermit.mayReplace, Bool.and_eq_true, beq_iff_eq] at hmay
        exact hmay.1.1
      exact heffect.targetOpen (hissue.targetOpen hkind) fun hgrows =>
        absurd hissue.observations hgrows

/-- In a run without late reports a replacement is only dispatched against an order that is open
and not filled: whenever a step dispatches the permit of a replacement, the recorded attempt before
it may be replaced, and nothing of it is filled. -/
theorem replacement_dispatchedAgainstOpen {world next : World} {transaction : Transaction}
    (hreach : ((repository settings).restrict fun world transaction =>
      lateReport world transaction = false).Reachable world)
    (hstep : (repository settings).step world transaction next) {permit : BrokerMutationPermit}
    (hdispatch : Dispatches world next permit) (hkind : permit.mutationKind = .replace) :
    ∃ row ∈ next.db.attempts.rows, row.intentId = permit.intentId ∧
      row.ordinal + 1 = permit.attemptOrdinal ∧
      (row.state = .broker .new ∨ row.state = .broker .accepted ∨
        row.state = .broker .pendingNew) ∧ row.filledQuantity = 0 := by
  have hplain : (repository settings).Reachable world := by
    obtain ⟨initial, labels, hinitial, hrun⟩ := hreach
    exact ⟨initial, labels, hinitial, hrun.of_restrict⟩
  obtain ⟨old, nonce, dispatchedAt, hfacts, rfl, hstart, hnow⟩ := hdispatch.facts hstep
  obtain ⟨hprepared, -, hlives⟩ := acquirable_facts hfacts.ready
  obtain ⟨-, hclock, -, -⟩ := step_effect hstep
  have hmay : old.mayReplace world.clock = true := by
    simp only [BrokerMutationPermit.mayReplace, Bool.and_eq_true, beq_iff_eq, decide_eq_true_eq]
    exact ⟨⟨hkind, hprepared⟩, by omega⟩
  obtain ⟨row, hrow, htargets, hstate⟩ := targetsOpen_of_reachable hreach old hfacts.permit_mem hmay
  simp only [BrokerMutationPermit.targets, Bool.and_eq_true, beq_iff_eq] at htargets
  refine ⟨row, ?_, htargets.1.symm, htargets.2.symm, mayBeReplaced_iff.mp hstate,
    (fillFits_of_reachable hplain row hrow).unfilled hstate⟩
  rw [hfacts.attempts]
  exact hrow

end Step

section Rehearsed

open Rehearsal

/-- A replacement that a rehearsal dispatches, with the attempt before it. -/
theorem exists_replacedAttempt {world next : World} {state : AttemptState} {filled : Int}
    (hworld : permitsIn world = [(submitSlot, .consumed), (replaceSlot, .prepared)])
    (hnext : permitsIn next = [(submitSlot, .consumed), (replaceSlot, .dispatching)])
    (hattempts : attemptsIn next = [(intentId, 0, state, filled), (intentId, 1, .prepared, 0)]) :
    ∃ permit, Dispatches world next permit ∧ permit.mutationKind = .replace ∧
      ∃ row ∈ next.db.attempts.rows, row.intentId = permit.intentId ∧
        row.ordinal + 1 = permit.attemptOrdinal ∧ row.state = state ∧
        row.filledQuantity = filled := by
  obtain ⟨permit, hdispatch, hslot⟩ :=
    exists_dispatches world next replaceSlot (by simp [hworld]) (by simp [hnext])
  have hrow : (intentId, 0, state, filled) ∈ attemptsIn next := by
    rw [hattempts]
    exact List.mem_cons_self
  obtain ⟨row, hmem, heq⟩ := List.mem_map.mp hrow
  obtain ⟨hintent, hordinal, hstate, hfilled⟩ := by simpa only [Prod.mk.injEq] using heq
  obtain ⟨hpermitIntent, hkind, hpermitOrdinal⟩ := Slot.mk.inj hslot
  refine ⟨permit, hdispatch, hkind, row, hmem, hintent.trans hpermitIntent.symm, ?_, hstate,
    hfilled⟩
  rw [hordinal, hpermitOrdinal]
  rfl

/-- A lookup that started before a replacement was prepared may report a partial fill while it is,
and the replacement is dispatched all the same. -/
theorem replacement_dispatchedAgainstPartialFill :
    ∃ (world next : World) (transaction : Transaction) (permit : BrokerMutationPermit),
      (repository Rehearsal.settings).Reachable world ∧
      (repository Rehearsal.settings).step world transaction next ∧
      Dispatches world next permit ∧ permit.mutationKind = .replace ∧
      ∃ row ∈ next.db.attempts.rows, row.intentId = permit.intentId ∧
        row.ordinal + 1 = permit.attemptOrdinal ∧ row.state = .broker .partiallyFilled ∧
        row.filledQuantity = 1 := by
  obtain ⟨s, hplayed, hshown⟩ := exists_stages
  obtain ⟨-, -, hplanned⟩ := hplayed.reachable
  obtain ⟨_, hreported⟩ := run_of_play hplayed.reported
  obtain ⟨transaction, -, hraced⟩ := step_of_play hplayed.raced
  obtain ⟨permit, hdispatch, hkind, hrow⟩ :=
    exists_replacedAttempt hshown.reported hshown.raced hshown.racedAttempts
  exact ⟨s.reported, s.raced, transaction, permit, hplanned.run hreported, hraced, hdispatch, hkind,
    hrow⟩

/-- A worker reports nothing late. -/
def Quiet (worker : Worker) : Prop :=
  ∀ (world : World) (transaction : Transaction), worker world.db = .ok transaction →
    lateReport world transaction = false

/-- A worker that prepares a mutation reports nothing late. -/
theorem quiet_prepare (purpose : ReconciliationPurpose)
    (replacement : OrderAttemptRow → Except Failure (Option OrderAttempt)) (time : Int) :
    Quiet (prepare purpose replacement time) := by
  intro world transaction h
  simp only [prepare, bind_ok] at h
  obtain ⟨_, -, _, -, _, -, _, -, _, -, h⟩ := h
  cases h
  rfl

/-- A worker that acquires a dispatch reports nothing late. -/
theorem quiet_acquire (time : Int) (nonce : Nat) : Quiet (acquire time nonce) := by
  intro world transaction h
  simp only [acquire, bind_ok] at h
  obtain ⟨_, -, _, -, h⟩ := h
  cases h
  rfl

/-- A worker that sees an order open reports nothing late. -/
theorem quiet_observe (ordinal : Int) (index : Nat) (source : AttemptObservationSource)
    (nonce : Option Uuid) (time : Int) :
    Quiet (observe ordinal index .new 0 none source nonce time) := by
  intro world transaction h
  simp only [observe, bind_ok] at h
  obtain ⟨_, -, _, -, _, -, h⟩ := h
  cases h
  rfl

/-- The workers of the opening report nothing late. -/
theorem quiet_opening : ∀ worker ∈ opening, Quiet worker := by
  simp only [opening, List.forall_mem_cons]
  refine ⟨?_, ?_, ?_, ?_, ?_, ?_, ?_, fun _ h => nomatch h⟩
  all_goals
    intro world transaction h
    simp only [bind_ok] at h
  case refine_4 =>
    obtain ⟨_, -, h⟩ := h
    cases h
    rfl
  all_goals
    cases h
    rfl

/-- In the rehearsal without a late report the replacement is dispatched against an order that is
open and not filled. -/
theorem replacement_dispatchedAgainstOpen_rehearsed :
    ∃ (world next : World) (permit : BrokerMutationPermit),
      ((repository Rehearsal.settings).restrict fun world transaction =>
        lateReport world transaction = false).Reachable world ∧
      Dispatches world next permit ∧ permit.mutationKind = .replace ∧
      ∃ row ∈ next.db.attempts.rows, row.intentId = permit.intentId ∧
        row.ordinal + 1 = permit.attemptOrdinal ∧
        (row.state = .broker .new ∨ row.state = .broker .accepted ∨
          row.state = .broker .pendingNew) ∧ row.filledQuantity = 0 := by
  obtain ⟨s, hplayed, hshown⟩ := exists_stages
  obtain ⟨_, hdrafted⟩ := run_of_play_when (C := fun world transaction =>
    lateReport world transaction = false) (by
      intro worker hworker
      rcases List.mem_append.mp hworker with hopening | hlast
      · exact quiet_opening worker hopening
      · rw [List.mem_singleton.mp hlast]
        exact quiet_prepare _ _ _) hplayed.drafted
  obtain ⟨_, hsubmitted⟩ := run_of_play_when (C := fun world transaction =>
    lateReport world transaction = false) (by
      intro worker hworker
      rw [List.mem_singleton.mp hworker]
      exact quiet_acquire _ _) hplayed.submitted
  obtain ⟨_, hplaced⟩ := run_of_play_when (C := fun world transaction =>
    lateReport world transaction = false) (by
      intro worker hworker
      rcases List.mem_cons.mp hworker with rfl | hlast
      · exact quiet_observe _ _ _ _ _
      · rw [List.mem_singleton.mp hlast]
        exact quiet_observe _ _ _ _ _) hplayed.placed
  obtain ⟨_, hplanned⟩ := run_of_play_when (C := fun world transaction =>
    lateReport world transaction = false) (by
      intro worker hworker
      rw [List.mem_singleton.mp hworker]
      exact quiet_prepare _ _ _) hplayed.planned
  obtain ⟨_, -, hreplaced⟩ := step_of_play hplayed.replaced
  obtain ⟨permit, hdispatch, hkind, -⟩ :=
    exists_replacedAttempt hshown.planned hshown.replaced hshown.replacedAttempts
  have hreach : ((repository Rehearsal.settings).restrict fun world transaction =>
      lateReport world transaction = false).Reachable s.planned :=
    ⟨{ db := {}, clock := 0 }, _, rfl, ((hdrafted.append hsubmitted).append hplaced).append
      hplanned⟩
  exact ⟨s.planned, s.replaced, permit, hreach, hdispatch, hkind,
    replacement_dispatchedAgainstOpen hreach hreplaced hdispatch hkind⟩

end Rehearsed

end AlphaDecay
