import AlphaDecay.Persistence.ReplacementChain

/-!
# The hard cancel

From ten minutes after the first dispatch on, an order is canceled and not replaced. The schedule
leaves a cancel out while any permit is prepared, also one that has expired, and a cancel that
superseded a prepared replacement cannot be authorized again.
-/

namespace AlphaDecay

open Foundation Table

variable {settings : RepositorySettings} {db after : Database} {start now clock : Int}
  {reported : Option OrderAttempt}

/-! ## The permits behind attempts -/

/-- The first generation of the permit that created an attempt. -/
def CreatedBy (db : Database) (row : OrderAttemptRow) (permit : BrokerMutationPermit) : Prop :=
  permit ∈ db.permits.rows ∧ permit.slot = row.creationSlot ∧ permit.generation = 1 ∧
    row.brokerPermitId = some permit.permitId

/-- The first attempt of an intent was dispatched before a time. -/
def SubmittedBefore (db : Database) (intentId : Uuid) (time : Int) : Prop :=
  ∃ permit ∈ db.permits.rows, permit.slot = ⟨intentId, .submit, 0⟩ ∧
    ∃ dispatchedAt, permit.dispatchAcquiredAt = some dispatchedAt ∧ dispatchedAt ≤ time

/-- What ties permits and attempts together in every state that the repository reaches. -/
structure OrdersTied (db : Database) : Prop where
  /-- Every attempt was created by the first generation of a permit. -/
  created : ∀ row ∈ db.attempts.rows, ∃ permit, CreatedBy db row permit
  /-- Nothing but the submission is authorized before the submission was dispatched. -/
  anchored : ∀ permit ∈ db.permits.rows, permit.mutationKind ≠ .submit →
    SubmittedBefore db permit.intentId permit.issuedAt

theorem dispatched_of_consumed {permit : BrokerMutationPermit} (h : permit ∈ db.permits.rows)
    (hstate : permit.state = .consumed) :
    ∃ dispatchedAt, permit.dispatchAcquiredAt = some dispatchedAt := by
  have hfits := (permit_checked h).2.2
  simp only [BrokerMutationPermit.fieldsFit, hstate, Bool.and_eq_true] at hfits
  exact Option.isSome_iff_exists.mp hfits.1.1.2

section Step

variable [Digest]

variable {evaluated : WholeAccountReconciliation}

/-- A submission stays dispatched. -/
theorem SubmittedBefore.step {intentId : Uuid} {time : Int} (h : SubmittedBefore db intentId time)
    (heffect : Effect settings db start now reported after) :
    SubmittedBefore after intentId time := by
  obtain ⟨permit, hpermit, hslot, dispatchedAt, hdispatched, hle⟩ := h
  obtain ⟨kept, hkept, hadvance⟩ := heffect.kept hpermit
  exact ⟨kept, hkept, hadvance.same.slot.trans hslot, dispatchedAt,
    hadvance.dispatchKept.kept _ hdispatched, hle⟩

/-- A cancel or a replacement is issued after the submission was dispatched. -/
theorem Issue.anchored {rows : PreparationRows} {attempt : OrderAttempt} {issuance : Issuance}
    (h : Issue settings db after rows evaluated attempt issuance now)
    (hpermits : PermitsSound db clock) (hattempts : AttemptsSound db) (htied : OrdersTied db)
    (hnow : clock ≤ now) (hkind : evaluated.expectation.purpose ≠ .submit) :
    SubmittedBefore db rows.intent.intentId now := by
  cases hpurpose : evaluated.expectation.purpose with
  | submit => exact absurd hpurpose hkind
  | baselineInitialization =>
      have hfollows := h.follows
      rw [hpurpose] at hfollows
      cases hfollows
  | replace =>
      obtain ⟨-, -, initial, permit, dispatchedAt, -, hinitial, hpermit, hdispatched, -⟩ :=
        validateReplacementDue_facts (h.replacement hpurpose).2
      obtain ⟨hmem, hslot⟩ := creationPermit_mem hpermit
      rw [h.permits_read] at hmem
      have hin := (Database.mem_permitsOf.mp hmem).1
      have hfirst := (h.mem_attempts (List.mem_of_head? hinitial)).2
      rw [h.attempts_read] at hinitial
      refine ⟨permit, hin, ?_, dispatchedAt, hdispatched, ?_⟩
      · rw [hslot, OrderAttemptRow.creationSlot, hattempts.head_ordinal hinitial, hfirst]
        rfl
      · have hclock := (hpermits.timely permit hin dispatchedAt hdispatched).2.2
        omega
  | cancel =>
      have hfollows := h.follows
      rw [hpurpose] at hfollows
      obtain ⟨target, _, permit, htarget, hpermit, hconsumed, -⟩ := cancelIssuance_facts hfollows
      obtain ⟨hmem, hslot⟩ := creationPermit_mem hpermit
      rw [h.permits_read] at hmem
      obtain ⟨hin, hintent⟩ := Database.mem_permitsOf.mp hmem
      obtain ⟨dispatchedAt, hdispatched⟩ := dispatched_of_consumed hin hconsumed
      obtain ⟨-, -, hclock⟩ := hpermits.timely permit hin dispatchedAt hdispatched
      by_cases hsubmit : permit.mutationKind = .submit
      · refine ⟨permit, hin, ?_, dispatchedAt, hdispatched, by omega⟩
        have hzero : permit.attemptOrdinal = 0 := (hpermits.kinds permit hin).1 hsubmit
        rw [BrokerMutationPermit.slot, hintent, hsubmit, hzero]
      · obtain ⟨first, hfirst, hfirstSlot, firstAt, hfirstAt, hle⟩ :=
          htied.anchored permit hin hsubmit
        have hissued := hpermits.issued permit hin
        rw [hintent] at hfirstSlot
        exact ⟨first, hfirst, hfirstSlot, firstAt, hfirstAt, by omega⟩

/-- The permit that an issue creates an attempt with is the first of its slot. -/
theorem Issue.created_by {rows : PreparationRows} {attempt : OrderAttempt} {issuance : Issuance}
    {replacesId : Option Uuid} (h : Issue settings db after rows evaluated attempt issuance now)
    (hcreated : issuance.created = some replacesId) :
    (issuedPermit settings rows evaluated attempt issuance now).slot =
        (createdRow attempt (issuedPermit settings rows evaluated attempt issuance now).permitId
          replacesId).creationSlot ∧
      (issuedPermit settings rows evaluated attempt issuance now).generation = 1 := by
  have hfollows := h.follows
  rcases h.created_facts hcreated with ⟨hpurpose, hordinal, -⟩ | ⟨hpurpose, target, htarget,
    -, hvalid⟩
  · rw [hpurpose] at hfollows
    rcases submitIssuance_facts hfollows with ⟨-, hprior, -⟩ | ⟨_, _, -, -, -, -, -, rfl⟩
    · refine ⟨?_, ?_⟩
      · show (⟨rows.intent.intentId, evaluated.expectation.purpose, attempt.ordinal⟩ : Slot) =
          ⟨attempt.intentId, if attempt.ordinal = 0 then .submit else .replace, attempt.ordinal⟩
        rw [hpurpose, if_pos hordinal, h.attemptIntent]
      · show nextGeneration (priorGeneration rows evaluated.expectation.purpose attempt.ordinal) = 1
        rw [hpurpose, hprior]
        rfl
    · cases hcreated
  · have hne := replacement_ordinal_ne hvalid (h.mem_attempts htarget).1
    rw [hpurpose] at hfollows
    obtain ⟨last, -, hcase⟩ := replacementIssuance_facts hfollows
    rcases hcase with ⟨_, _, -, -, -, -, -, -, rfl⟩ | ⟨_, -, -, -, -, hprior, -⟩
    · cases hcreated
    · refine ⟨?_, ?_⟩
      · show (⟨rows.intent.intentId, evaluated.expectation.purpose, attempt.ordinal⟩ : Slot) =
          ⟨attempt.intentId, if attempt.ordinal = 0 then .submit else .replace, attempt.ordinal⟩
        rw [hpurpose, if_neg hne, h.attemptIntent]
      · show nextGeneration (priorGeneration rows evaluated.expectation.purpose attempt.ordinal) = 1
        rw [hpurpose, hprior]
        rfl

/-- A permit that created an attempt stays the one that created it. -/
theorem CreatedBy.step {old new : OrderAttemptRow} {permit : BrokerMutationPermit}
    (h : CreatedBy db old permit) (heffect : Effect settings db start now reported after)
    (hsame : SameAttempt old new) : ∃ kept, CreatedBy after new kept := by
  obtain ⟨hpermit, hslot, hgeneration, hid⟩ := h
  obtain ⟨kept, hkept, hadvance⟩ := heffect.kept hpermit
  refine ⟨kept, hkept, ?_, ?_, ?_⟩
  · rw [hadvance.same.slot, hslot, OrderAttemptRow.creationSlot, OrderAttemptRow.creationSlot,
      hsame.intentId, hsame.ordinal]
  · rw [hadvance.same.generation, hgeneration]
  · rw [hsame.brokerPermitId, hid, hadvance.same.permitId]

/-- A transaction keeps permits and attempts tied. -/
theorem Effect.ordersTied (h : Effect settings db start now reported after)
    (hpermits : PermitsSound db clock) (hattempts : AttemptsSound db) (htied : OrdersTied db)
    (hstart : clock ≤ start) (hnow : start ≤ now) : OrdersTied after := by
  constructor
  · intro row hrow
    rcases h.attempts.2 row hrow with ⟨old, hold, hrevision⟩ |
      ⟨rows, evaluated, attempt, issuance, replacesId, hissue, hcreated, rfl⟩
    · obtain ⟨permit, hpermit⟩ := htied.created old hold
      exact hpermit.step h hrevision.same
    · obtain ⟨hslot, hgeneration⟩ := hissue.created_by hcreated
      refine ⟨issuedPermit settings rows evaluated attempt issuance now, ?_, hslot,
        hgeneration, rfl⟩
      rw [hissue.permitRows]
      exact List.mem_append_right _ (List.mem_singleton_self _)
  · intro permit hpermit hkind
    rcases h.traced hpermit with ⟨old, hold, hadvance⟩ |
      ⟨rows, evaluated, attempt, issuance, hissue, rfl⟩
    · obtain ⟨hintent, hsameKind, -⟩ := Slot.mk.inj hadvance.same.slot
      rw [hintent, hadvance.same.issuedAt]
      rw [hsameKind] at hkind
      exact (htied.anchored old hold hkind).step h
    · exact (hissue.anchored hpermits hattempts htied (by omega) hkind).step h

/-- Permits and attempts are tied in every state that the repository reaches. -/
theorem ordersTied_of_reachable {world : World} (h : (repository settings).Reachable world) :
    OrdersTied world.db := by
  have hall : PermitsSound world.db world.clock ∧ AttemptsSound world.db ∧ OrdersTied world.db := by
    refine h.invariant (P := fun world => PermitsSound world.db world.clock ∧
      AttemptsSound world.db ∧ OrdersTied world.db) ?_ ?_
    · intro world hempty
      have hreach : (repository settings).Reachable world := .of_initial hempty
      refine ⟨permitsSound_of_reachable hreach, attemptsSound_of_reachable hreach, ?_⟩
      have hrows : world.db.attempts.rows = [] ∧ world.db.permits.rows = [] := by
        rw [show world.db = {} from hempty]
        exact ⟨rfl, rfl⟩
      constructor <;> simp [hrows]
    · rintro world transaction next ⟨hpermits, hattempts, htied⟩ hstep
      obtain ⟨heffect, hstart, hnow, hclock⟩ := step_effect hstep
      rw [hclock]
      exact ⟨heffect.permitsSound hpermits hstart hnow, heffect.attemptsSound hattempts,
        heffect.ordersTied hpermits hattempts htied hstart hnow⟩
  exact hall.2.2

end Step

/-! ## The first dispatch -/

section

variable {row : OrderAttemptRow}

variable {attempts : List OrderAttemptRow}

/-- The permit of an attempt is found: it is the newest of its slot. -/
theorem OrdersTied.creationPermit_ok (htied : OrdersTied db) (hrow : row ∈ db.attempts.rows) :
    ∃ newest, creationPermit row (db.permitsOf row.intentId) = .ok newest ∧
      newest ∈ db.permits.rows ∧ newest.slot = row.creationSlot ∧
      ∀ permit ∈ db.permits.rows, permit.slot = row.creationSlot →
        permit.generation ≤ newest.generation := by
  obtain ⟨permit, hpermit, hslot, hgeneration, hid⟩ := htied.created row hrow
  have hintent : permit.intentId = row.intentId := congrArg Slot.intentId hslot
  have hread : ∀ {other}, other ∈ db.permits.rows → other.slot = row.creationSlot →
      other ∈ db.permitsOf row.intentId := fun hother hsame =>
    Database.mem_permitsOf.mpr ⟨hother, congrArg Slot.intentId hsame⟩
  have hordinals : ∀ {left right : BrokerMutationPermit}, left.slot = row.creationSlot →
      right.slot = row.creationSlot → left.attemptOrdinal = right.attemptOrdinal :=
    fun hleft hright => congrArg Slot.attemptOrdinal (hleft.trans hright.symm)
  cases hhead : ((db.permitsOf row.intentId).filter fun permit =>
      permit.slot == row.creationSlot).head? with
  | none =>
      rw [List.head?_eq_none_iff, List.filter_eq_nil_iff] at hhead
      exact absurd (beq_iff_eq.mpr hslot) (hhead permit (hread hpermit hslot))
  | some first =>
      cases hlast : ((db.permitsOf row.intentId).filter fun permit =>
          permit.slot == row.creationSlot).getLast? with
      | none =>
          rw [List.getLast?_eq_none_iff] at hlast
          rw [hlast] at hhead
          cases hhead
      | some newest =>
          obtain ⟨hfirst, hfirstSlot, hleast⟩ := head_filter_least orderBy_pairwise hhead
          obtain ⟨hnewest, hnewestSlot, hgreatest⟩ := last_filter_greatest orderBy_pairwise hlast
          simp only [beq_iff_eq] at hfirstSlot hleast hnewestSlot hgreatest
          have hfirstRow := (Database.mem_permitsOf.mp hfirst).1
          -- The least generation of the slot is the one that created the attempt.
          have hsame : first = permit := by
            refine eq_of_slot_generation hfirstRow hpermit (hfirstSlot.trans hslot.symm) ?_
            have hle := generation_le_of_permitOrder (hordinals hfirstSlot hslot)
              (hleast permit (hread hpermit hslot) hslot)
            have hpos := (permit_checked hfirstRow).2.1
            omega
          refine ⟨newest, ?_, (Database.mem_permitsOf.mp hnewest).1, hnewestSlot, ?_⟩
          · simp only [creationPermit, hid, hhead, hlast, require_some, ok_bind, hsame]
            simp [raiseIf]
          · intro other hother hotherSlot
            exact generation_le_of_permitOrder (hordinals hotherSlot hnewestSlot)
              (hgreatest other (hread hother hotherSlot) hotherSlot)

/-- A submission that was dispatched is the newest permit of its slot. -/
theorem PermitsSound.newest_of_dispatched (hsound : PermitsSound db clock)
    {permit newest : BrokerMutationPermit} (hpermit : permit ∈ db.permits.rows)
    (hnewest : newest ∈ db.permits.rows) (hslot : permit.slot = newest.slot)
    (hkind : permit.mutationKind ≠ .cancel) {dispatchedAt : Int}
    (hdispatched : permit.dispatchAcquiredAt = some dispatchedAt)
    (hle : permit.generation ≤ newest.generation) : permit = newest := by
  rcases eq_or_lt_of_le hle with heq | hlt
  · exact eq_of_slot_generation hpermit hnewest hslot heq
  · rcases hsound.settled permit hpermit newest hnewest hslot hlt with hexpired | hcancel
    · rw [undispatched_of_expired hpermit hexpired] at hdispatched
      cases hdispatched
    · exact absurd hcancel.1 hkind

/-- The times at which permits of an intent were dispatched. -/
def dispatchTimes (db : Database) (intentId : Uuid) : Set Int :=
  {dispatchedAt | ∃ permit ∈ db.permitsOf intentId,
    permit.dispatchAcquiredAt = some dispatchedAt}

theorem submission_of_firstDispatch (hpermits : PermitsSound db clock) (htied : OrdersTied db)
    {intentId : Uuid} {firstAt : Int} (hfirst : IsLeast (dispatchTimes db intentId) firstAt) :
    ∃ permit ∈ db.permits.rows, permit.slot = ⟨intentId, .submit, 0⟩ ∧
      permit.dispatchAcquiredAt = some firstAt := by
  obtain ⟨⟨permit, hread, hdispatched⟩, hleast⟩ := hfirst
  obtain ⟨hpermit, hintent⟩ := Database.mem_permitsOf.mp hread
  by_cases hsubmit : permit.mutationKind = .submit
  · have hzero : permit.attemptOrdinal = 0 := (hpermits.kinds permit hpermit).1 hsubmit
    refine ⟨permit, hpermit, ?_, hdispatched⟩
    rw [BrokerMutationPermit.slot, hintent, hsubmit, hzero]
  · obtain ⟨submission, hsubmission, hslot, submittedAt, hsubmitted, hle⟩ :=
      htied.anchored permit hpermit hsubmit
    rw [hintent] at hslot
    have hissued := (hpermits.timely permit hpermit firstAt hdispatched).1
    have hlower : firstAt ≤ submittedAt := hleast ⟨submission,
      Database.mem_permitsOf.mpr ⟨hsubmission, congrArg Slot.intentId hslot⟩, hsubmitted⟩
    have hsame : submittedAt = firstAt := by omega
    exact ⟨submission, hsubmission, hslot, hsame ▸ hsubmitted⟩

/-- The attempts that count are the first ones. -/
theorem executionAttemptRows_initial {rows : List OrderAttemptRow}
    {permits : List BrokerMutationPermit} (h : executionAttemptRows rows permits = .ok attempts) :
    attempts <+: rows := by
  unfold executionAttemptRows at h
  split at h
  · unfold withoutSuperseded at h
    obtain ⟨permit, -, h⟩ := bind_ok.mp h
    simp only [check_bind_ok] at h
    cases h.2
    split
    · exact List.dropLast_prefix _
    · exact List.prefix_refl _
  · cases h
    exact List.prefix_refl _

/-- The time of the first dispatch is found. -/
theorem initialDispatch_ok (hpermits : PermitsSound db clock) (hattempts : AttemptsSound db)
    (htied : OrdersTied db) {intentId : Uuid} {firstAt : Int}
    (hfirst : IsLeast (dispatchTimes db intentId) firstAt)
    (hinitialRows : attempts <+: db.attemptsOf intentId) (hne : attempts ≠ []) :
    initialDispatch attempts (db.permitsOf intentId) = .ok firstAt := by
  obtain ⟨first, rest, rfl⟩ := List.exists_cons_of_ne_nil hne
  obtain ⟨others, hothers⟩ := hinitialRows
  have hhead : (db.attemptsOf intentId).head? = some first := by
    rw [← hothers]
    rfl
  obtain ⟨hmem, hintent, -⟩ := head_attemptsOf hhead
  have hordinal := hattempts.head_ordinal hhead
  obtain ⟨newest, hcreation, hnewest, hslot, hgreatest⟩ := htied.creationPermit_ok hmem
  have hcreationSlot : first.creationSlot = ⟨intentId, .submit, 0⟩ := by
    rw [OrderAttemptRow.creationSlot, hordinal, hintent]
    rfl
  obtain ⟨permit, hpermit, hpermitSlot, hdispatched⟩ :=
    submission_of_firstDispatch hpermits htied hfirst
  have hkind : permit.mutationKind ≠ .cancel := by
    rw [(Slot.mk.inj hpermitSlot).2.1]
    intro h
    cases h
  have hsame : permit = newest := by
    refine hpermits.newest_of_dispatched hpermit hnewest ?_ hkind hdispatched
      (hgreatest permit hpermit ?_)
    · rw [hpermitSlot, hslot, hcreationSlot]
    · rw [hpermitSlot, hcreationSlot]
  rw [hintent] at hcreation
  simp only [initialDispatch, List.head?_cons, require_some, ok_bind, hcreation, ← hsame,
    hdispatched]

end

/-! ## The schedule of the hard cancel -/

/-- A cancel is scheduled exactly while no permit is prepared. In every state that the repository
reaches, for a claimed intent of an account that is not locked: where no permit is in flight, the
latest attempt is open and was looked up, and ten minutes have passed since the first dispatch, the
cancel is due if and only if no permit is prepared, whether it has expired or not. -/
theorem hardCancel_scheduled_iff [Digest] {world : World}
    (hreach : (repository settings).Reachable world) {claim : ExecutionIntent}
    {intent : ExecutionIntentRow} {account : AccountRoleRow} {attempts : List OrderAttemptRow}
    {latest : OrderAttemptRow} {firstAt time : Int}
    (hclaim : claimedIntent world.db claim = .ok (intent, account))
    (hunlocked : account.executionLocked = false)
    (hflight : ∀ permit ∈ world.db.permitsOf claim.intentId,
      permit.state ≠ .dispatching ∧ permit.state ≠ .lookupOnly)
    (hattempts : executionAttemptRows (world.db.attemptsOf claim.intentId)
      (world.db.permitsOf claim.intentId) = .ok attempts)
    (hlatest : attempts.getLast? = some latest)
    (heligible : latest.state.isMutationEligible = true)
    (hlookup : wasLookedUp (world.db.observationsOf claim.intentId) latest.ordinal = true)
    (hfirst : IsLeast (dispatchTimes world.db claim.intentId) firstAt)
    (hdue : Calendar.seconds 600 ≤ time - firstAt) :
    nextBrokerMutation world.db claim time = .ok (some ⟨.cancel, time⟩) ↔
      ∀ permit ∈ world.db.permitsOf claim.intentId, permit.state ≠ .prepared := by
  have hnext : nextBrokerMutation world.db claim time =
      scheduleOf attempts (world.db.permitsOf claim.intentId)
        (world.db.observationsOf claim.intentId) latest time := by
    simp only [nextBrokerMutation, hclaim, hattempts, hlatest, hunlocked, ok_bind, raiseIf]
    rfl
  have hstate : latest.state ≠ .prepared := by
    intro h
    rw [h] at heligible
    cases heligible
  have hschedule : scheduleOf attempts (world.db.permitsOf claim.intentId)
      (world.db.observationsOf claim.intentId) latest time =
      if (world.db.permitsOf claim.intentId).any fun permit => permit.state.isActive then .ok none
      else do
        let dispatchedAt ← initialDispatch attempts (world.db.permitsOf claim.intentId)
        return scheduleOfOpen latest dispatchedAt time := by
    rw [scheduleOf, if_neg hstate, heligible, hlookup]
    rfl
  rw [hnext, hschedule]
  constructor
  · intro h permit hpermit hprepared
    have hactive : ((world.db.permitsOf claim.intentId).any fun permit =>
        permit.state.isActive) = true := by
      rw [List.any_eq_true]
      refine ⟨permit, hpermit, ?_⟩
      rw [hprepared]
      rfl
    rw [if_pos hactive] at h
    cases h
  · intro hnone
    have hactive : ¬((world.db.permitsOf claim.intentId).any fun permit =>
        permit.state.isActive) = true := by
      rw [List.any_eq_true]
      rintro ⟨permit, hpermit, h⟩
      have hprepared := hnone permit hpermit
      have hinflight := hflight permit hpermit
      cases hpermitState : permit.state <;> simp_all [PermitState.isActive]
    have hne : attempts ≠ [] := by
      rintro rfl
      cases hlatest
    rw [if_neg hactive, initialDispatch_ok (permitsSound_of_reachable hreach)
      (attemptsSound_of_reachable hreach) (ordersTied_of_reachable hreach) hfirst
      (executionAttemptRows_initial hattempts) hne, ok_bind, scheduleOfOpen,
      if_pos (Or.inr (show cancelDue ≤ time - firstAt from hdue))]
    rfl

section Rehearsed

open Rehearsal

/-- What a worker reads where its reading passes a check. -/
theorem reading_of_readsAs {world : World} {check : Reading → Bool}
    (h : readsAs world check = true) :
    ∃ reading, readingOf world.db = .ok reading ∧ check reading = true := by
  unfold readsAs at h
  split at h
  · rename_i reading hreading
    exact ⟨reading, hreading, h⟩
  · cases h

/-- The reads that make up a reading. -/
theorem readingOf_facts {db : Database} {reading : Reading} (h : readingOf db = .ok reading) :
    claimedIntent db reading.claim = .ok (reading.intent, reading.account) ∧
      executionAttemptRows (db.attemptsOf reading.claim.intentId)
        (db.permitsOf reading.claim.intentId) = .ok reading.attempts ∧
      reading.attempts.getLast? = some reading.latest := by
  unfold readingOf at h
  obtain ⟨claim, -, h⟩ := bind_ok.mp h
  obtain ⟨⟨intent, account⟩, hclaimed, h⟩ := bind_ok.mp h
  obtain ⟨attempts, hattempts, h⟩ := bind_ok.mp h
  obtain ⟨latest, hlatest, h⟩ := bind_ok.mp h
  cases h
  exact ⟨hclaimed, hattempts, require_ok.mp hlatest⟩

/-- The only dispatch of an intent is its first. -/
theorem isLeast_dispatchTimes {db : Database} {intentId : Uuid} {firstAt : Int}
    (h : (db.permitsOf intentId).filterMap (fun permit => permit.dispatchAcquiredAt) = [firstAt]) :
    IsLeast (dispatchTimes db intentId) firstAt := by
  have hmem : ∀ {time : Int}, time ∈ dispatchTimes db intentId ↔ time = firstAt := by
    intro time
    rw [← List.mem_singleton, ← h, List.mem_filterMap]
    rfl
  refine ⟨hmem.mpr rfl, fun time htime => ?_⟩
  rw [hmem.mp htime]

/-- The facts about an order that may be canceled. -/
theorem isDue_facts {world : World} {time : Int} {reading : Reading}
    (h : isDue world time reading = true) :
    reading.account.executionLocked = false ∧ reading.latest.state.isMutationEligible = true ∧
      wasLookedUp (world.db.observationsOf reading.claim.intentId) reading.latest.ordinal = true ∧
      (∀ permit ∈ world.db.permitsOf reading.claim.intentId, permit.state = .consumed ∨
        permit.state = .prepared ∧ permit.expiresAt ≤ time) ∧
      IsLeast (dispatchTimes world.db reading.claim.intentId) (timeAt 2) := by
  simp only [isDue, Reading.isCancelable, Bool.and_eq_true, Bool.not_eq_true', List.all_eq_true,
    Bool.or_eq_true, beq_iff_eq, decide_eq_true_eq] at h
  obtain ⟨⟨⟨⟨hunlocked, heligible⟩, hlookup⟩, hpermits⟩, hdispatched⟩ := h
  exact ⟨hunlocked, heligible, hlookup, hpermits, isLeast_dispatchTimes hdispatched⟩

/-- A cancel that was prepared and expired keeps the next one from being due: no permit is in
flight, every prepared permit has expired, the order is open and was looked up, ten minutes have
passed, and still nothing is due. -/
theorem hardCancel_missed :
    ∃ (world : World) (claim : ExecutionIntent) (intent : ExecutionIntentRow)
      (account : AccountRoleRow) (attempts : List OrderAttemptRow) (latest : OrderAttemptRow)
      (firstAt time : Int),
      (repository Rehearsal.settings).Reachable world ∧
      claimedIntent world.db claim = .ok (intent, account) ∧ account.executionLocked = false ∧
      (∀ permit ∈ world.db.permitsOf claim.intentId,
        permit.state ≠ .dispatching ∧ permit.state ≠ .lookupOnly) ∧
      (∀ permit ∈ world.db.permitsOf claim.intentId,
        permit.state = .prepared → permit.expiresAt ≤ time) ∧
      executionAttemptRows (world.db.attemptsOf claim.intentId)
        (world.db.permitsOf claim.intentId) = .ok attempts ∧
      attempts.getLast? = some latest ∧ latest.state.isMutationEligible = true ∧
      wasLookedUp (world.db.observationsOf claim.intentId) latest.ordinal = true ∧
      IsLeast (dispatchTimes world.db claim.intentId) firstAt ∧
      Calendar.seconds 600 ≤ time - firstAt ∧
      nextBrokerMutation world.db claim time = .ok none := by
  obtain ⟨s, hplayed, hshown⟩ := exists_stages
  obtain ⟨-, hplaced, -⟩ := hplayed.reachable
  obtain ⟨_, hrun⟩ := run_of_play hplayed.canceling
  obtain ⟨reading, hreading, hstuck⟩ := reading_of_readsAs hshown.canceling
  obtain ⟨hclaimed, hattempts, hlatest⟩ := readingOf_facts hreading
  simp only [isStuck, Bool.and_eq_true, decide_eq_true_eq] at hstuck
  obtain ⟨⟨hdue, -⟩, hnext⟩ := hstuck
  obtain ⟨hunlocked, heligible, hlookup, hpermits, hfirst⟩ := isDue_facts hdue
  refine ⟨s.canceling, reading.claim, reading.intent, reading.account, reading.attempts,
    reading.latest, timeAt 2, timeAt 640, hplaced.run hrun, hclaimed, hunlocked, ?_, ?_, hattempts,
    hlatest, heligible, hlookup, hfirst, by decide, hnext⟩
  · intro permit hpermit
    rcases hpermits permit hpermit with hstate | ⟨hstate, -⟩
    · rw [hstate]
      decide
    · rw [hstate]
      decide
  · intro permit hpermit hprepared
    rcases hpermits permit hpermit with hstate | ⟨-, hexpired⟩
    · rw [hstate] at hprepared
      cases hprepared
    · exact hexpired

/-- Without a prepared permit the rehearsal schedules the cancel ten minutes after the first
dispatch. -/
theorem hardCancel_scheduled_rehearsed :
    ∃ (world : World) (claim : ExecutionIntent), (repository Rehearsal.settings).Reachable world ∧
      (nextBrokerMutation world.db claim (timeAt 603) = .ok (some ⟨.cancel, timeAt 603⟩) ↔
        ∀ permit ∈ world.db.permitsOf claim.intentId, permit.state ≠ .prepared) := by
  obtain ⟨s, hplayed, hshown⟩ := exists_stages
  obtain ⟨-, hplaced, -⟩ := hplayed.reachable
  obtain ⟨reading, hreading, hdue⟩ := reading_of_readsAs hshown.placed
  obtain ⟨hclaimed, hattempts, hlatest⟩ := readingOf_facts hreading
  obtain ⟨hunlocked, heligible, hlookup, hpermits, hfirst⟩ := isDue_facts hdue
  refine ⟨s.placed, reading.claim, hplaced, hardCancel_scheduled_iff hplaced hclaimed hunlocked ?_
    hattempts hlatest heligible hlookup hfirst (by decide)⟩
  intro permit hpermit
  rcases hpermits permit hpermit with hstate | ⟨hstate, -⟩
  · rw [hstate]
    decide
  · rw [hstate]
    decide

end Rehearsed

/-! ## The cancel after a superseded replacement -/

section

variable [Digest]

/-- Where the last attempt is a prepared replacement whose permit has expired, a preparation of a
cancel that returns has issued no permit. -/
theorem prepareCancel_issuesNothing {reconciliation : WholeAccountReconciliation}
    {requested : OrderAttempt} {claim : ExecutionIntent} {fresh : Uuid}
    {preparation : BrokerMutationPreparation} {predecessor replacement : OrderAttemptRow}
    {stale : BrokerMutationPermit}
    (hreplacement : preparedReplacement (db.attemptsOf claim.intentId) =
      some (predecessor, replacement))
    (hstale : creationPermit replacement (db.permitsOf claim.intentId) = .ok stale)
    (hexpired : stale.state = .expired)
    (hpurpose : reconciliation.expectation.purpose = .cancel)
    (h : prepareBrokerMutation settings db reconciliation requested claim start now fresh =
      .ok (after, preparation)) : preparation.permit = none := by
  simp only [prepareBrokerMutation, conflictAs_ok] at h
  obtain ⟨rows, hrows, h⟩ := bind_ok.mp h
  obtain ⟨attempt, -, h⟩ := bind_ok.mp h
  obtain ⟨observed, -, h⟩ := bind_ok.mp h
  have hread := readPreparation_rows hrows
  have hintent := readPreparation_intentId hrows
  rw [hintent] at hread
  split at h
  · rename_i expectation hexpectation
    obtain ⟨hsame, -⟩ := reconciliationExpectationFromRows_facts hexpectation
    unfold reconcilePreparation at h
    obtain ⟨evaluated, hevaluated, h⟩ := bind_ok.mp h
    obtain ⟨-, rfl, -⟩ := WholeAccountReconciliation.evaluate_ok hevaluated
    obtain ⟨reconciled, -, h⟩ := bind_ok.mp h
    split at h
    · exact latchedPreparation_permit h
    · obtain ⟨reason, -, h⟩ := bind_ok.mp h
      split at h
      · exact latchedPreparation_permit h
      · obtain ⟨issuance, hissuance, -, -⟩ := issuePreparation_issue h
        rw [hsame, hpurpose] at hissuance
        have hcancel : cancelIssuance settings rows _ _ now = .ok issuance := hissuance
        obtain ⟨target, found, _, htarget, -⟩ := cancelIssuance_facts hcancel
        -- The target of a cancel is read from all rows, so the stale replacement is found again.
        rcases hardCancelTarget_facts htarget with ⟨hnone, -⟩ |
          ⟨_, permit, first, initialPermit, hsome, -, hcreation, -, -, hsupersedable⟩
        · rw [hread.2.1, hreplacement] at hnone
          cases hnone
        · rw [hread.2.1, hreplacement] at hsome
          cases hsome
          rw [hread.2.2, hstale] at hcreation
          cases hcreation
          rw [(requireSupersedable_facts hsupersedable).2] at hexpired
          cases hexpired
  · split at h
    · exact latchedPreparation_permit h
    · cases h

/-- Once a cancel has superseded a prepared replacement, no further cancel is authorized: where the
last attempt is a prepared replacement whose permit has expired, no preparation of a cancel issues
a permit, whatever its reconciliation, its attempt and its time. -/
theorem supersededReplacement_blocksCancel (claim : ExecutionIntent)
    {predecessor replacement : OrderAttemptRow} {stale : BrokerMutationPermit}
    (hreplacement : preparedReplacement (db.attemptsOf claim.intentId) =
      some (predecessor, replacement))
    (hstale : creationPermit replacement (db.permitsOf claim.intentId) = .ok stale)
    (hexpired : stale.state = .expired) :
    ¬∃ (reconciliation : WholeAccountReconciliation) (requested : OrderAttempt) (start now : Int)
      (fresh : Uuid) (after : Database) (preparation : BrokerMutationPreparation)
      (permit : BrokerMutationPermit), reconciliation.expectation.purpose = .cancel ∧
      prepareBrokerMutation settings db reconciliation requested claim start now fresh =
        .ok (after, preparation) ∧ preparation.permit = some permit := by
  rintro ⟨reconciliation, requested, start, now, fresh, after, preparation, permit, hpurpose, h,
    hpermit⟩
  rw [prepareCancel_issuesNothing hreplacement hstale hexpired hpurpose h] at hpermit
  cases hpermit

end

section Rehearsed

open Rehearsal

/-- The last two attempts where a cancel has superseded the replacement. -/
theorem isSuperseded_facts {db : Database} (h : isSuperseded db = true) :
    ∃ predecessor replacement stale,
      preparedReplacement (db.attemptsOf intentId) = some (predecessor, replacement) ∧
      creationPermit replacement (db.permitsOf intentId) = .ok stale ∧ stale.state = .expired := by
  unfold isSuperseded at h
  obtain ⟨⟨predecessor, replacement⟩, hreplacement, h⟩ := (Option.any_eq_true _ _).mp h
  dsimp only at h
  split at h
  · rename_i stale hstale
    exact ⟨predecessor, replacement, stale, hreplacement, hstale, beq_iff_eq.mp h⟩
  · cases h

theorem isCancelExpired_facts {db : Database} {time : Int} (h : isCancelExpired db time = true) :
    ∃ newest, ((db.permitsOf intentId).filter fun permit =>
        permit.mutationKind == .cancel).getLast? = some newest ∧
      newest.state = .prepared ∧ newest.expiresAt ≤ time := by
  unfold isCancelExpired at h
  obtain ⟨newest, hnewest, h⟩ := (Option.any_eq_true _ _).mp h
  simp only [Bool.and_eq_true, beq_iff_eq, decide_eq_true_eq] at h
  exact ⟨newest, hnewest, h.1, h.2⟩

/-- The preparation that is refused. -/
theorem refusesCancel_facts {world : World} {time : Int} (h : refusesCancel world time = true) :
    ∃ (reconciliation : WholeAccountReconciliation) (attempt : OrderAttempt)
      (claim : ExecutionIntent) (start : Int) (fresh : Uuid), claim.intentId = intentId ∧
      reconciliation.safe = true ∧ reconciliation.expectation.purpose = .cancel ∧
      prepareBrokerMutation Rehearsal.settings world.db reconciliation attempt claim start time
        fresh = .error (.blocked "BROKER_PERMIT_REAUTHORIZATION_NOT_PROVEN") := by
  unfold refusesCancel at h
  split at h
  · rename_i reconciliation attempt claim start now fresh hprepare
    simp only [Bool.and_eq_true, beq_iff_eq] at h
    obtain ⟨⟨⟨⟨hnow, hsafe⟩, hpurpose⟩, hintent⟩, h⟩ := h
    split at h
    · rename_i code hcode
      rw [hnow, beq_iff_eq.mp h] at hcode
      exact ⟨reconciliation, attempt, claim, start, fresh, hintent, hsafe, hpurpose, hcode⟩
    · cases h
  · cases h

/-- A cancel that superseded a replacement and expired cannot be prepared again: the preparation is
refused although its reconciliation is safe. -/
theorem supersededReplacement_refused :
    ∃ (world : World) (reconciliation : WholeAccountReconciliation) (attempt : OrderAttempt)
      (claim : ExecutionIntent) (predecessor replacement : OrderAttemptRow)
      (stale newest : BrokerMutationPermit) (start time : Int) (fresh : Uuid),
      (repository Rehearsal.settings).Reachable world ∧
      preparedReplacement (world.db.attemptsOf claim.intentId) = some (predecessor, replacement) ∧
      creationPermit replacement (world.db.permitsOf claim.intentId) = .ok stale ∧
      stale.state = .expired ∧
      ((world.db.permitsOf claim.intentId).filter fun permit =>
        permit.mutationKind == .cancel).getLast? = some newest ∧
      newest.state = .prepared ∧ newest.expiresAt ≤ time ∧
      reconciliation.safe = true ∧ reconciliation.expectation.purpose = .cancel ∧
      prepareBrokerMutation Rehearsal.settings world.db reconciliation attempt claim start time
        fresh = .error (.blocked "BROKER_PERMIT_REAUTHORIZATION_NOT_PROVEN") := by
  obtain ⟨s, hplayed, hshown⟩ := exists_stages
  obtain ⟨-, -, hplanned⟩ := hplayed.reachable
  obtain ⟨_, hrun⟩ := run_of_play hplayed.superseded
  obtain ⟨predecessor, replacement, stale, hreplacement, hstale, hexpired⟩ :=
    isSuperseded_facts hshown.superseded
  obtain ⟨newest, hnewest, hprepared, hlate⟩ := isCancelExpired_facts hshown.cancelExpired
  obtain ⟨reconciliation, attempt, claim, start, fresh, hintent, hsafe, hpurpose, hrefused⟩ :=
    refusesCancel_facts hshown.refused
  rw [← hintent] at hreplacement hstale hnewest
  exact ⟨s.superseded, reconciliation, attempt, claim, predecessor, replacement, stale, newest,
    start, timeAt 640, fresh, hplanned.run hrun, hreplacement, hstale, hexpired, hnewest, hprepared,
    hlate, hsafe, hpurpose, hrefused⟩

/-- In the rehearsal no cancel is authorized after the one that superseded the replacement. -/
theorem supersededReplacement_blocksCancel_rehearsed :
    ∃ (world : World) (claim : ExecutionIntent), (repository Rehearsal.settings).Reachable world ∧
      ¬∃ (reconciliation : WholeAccountReconciliation) (requested : OrderAttempt) (start now : Int)
        (fresh : Uuid) (after : Database) (preparation : BrokerMutationPreparation)
        (permit : BrokerMutationPermit), reconciliation.expectation.purpose = .cancel ∧
        prepareBrokerMutation Rehearsal.settings world.db reconciliation requested claim start now
          fresh = .ok (after, preparation) ∧ preparation.permit = some permit := by
  obtain ⟨s, hplayed, hshown⟩ := exists_stages
  obtain ⟨-, -, hplanned⟩ := hplayed.reachable
  obtain ⟨_, hrun⟩ := run_of_play hplayed.superseded
  obtain ⟨predecessor, replacement, stale, hreplacement, hstale, hexpired⟩ :=
    isSuperseded_facts hshown.superseded
  obtain ⟨_, _, claim, _, _, hintent, -⟩ := refusesCancel_facts hshown.refused
  rw [← hintent] at hreplacement hstale
  exact ⟨s.superseded, claim, hplanned.run hrun,
    supersededReplacement_blocksCancel claim hreplacement hstale hexpired⟩

end Rehearsed

end AlphaDecay
