import AlphaDecay.Persistence.PermitLife
import AlphaDecay.Persistence.Rehearsal

/-!
# Orders are dispatched at most once

Of the permits of one slot only the newest may still lead to an order: the generations before it
have expired undispatched, or were cancels that left their target open. So at most one permit that
submits or replaces a given attempt is ever dispatched, however the transactions interleave.
-/

namespace AlphaDecay

open Foundation Table

variable {settings : RepositorySettings} {db after : Database} {start now clock : Int}
  {reported : Option OrderAttempt}

/-! ## Generations -/

/-- Under the same ordinal permits are read by generation. -/
theorem generation_le_of_permitOrder {left right : BrokerMutationPermit}
    (hordinal : left.attemptOrdinal = right.attemptOrdinal)
    (h : Database.permitOrder left ≤ Database.permitOrder right) :
    left.generation ≤ right.generation := by
  by_contra hlt
  refine absurd h (not_le.mpr ?_)
  simp only [Database.permitOrder, hordinal, List.cons_lt_cons_iff]
  exact Or.inr ⟨trivial, Or.inl (not_le.mp hlt)⟩

/-- The newest permit that an issue looks at is the newest of its slot. -/
theorem priorGeneration_newest {rows : PreparationRows} {purpose : ReconciliationPurpose}
    {ordinal : Int} (hread : rows.permits = db.permitsOf rows.intent.intentId)
    {permit : BrokerMutationPermit} (hpermit : permit ∈ db.permits.rows)
    (hslot : permit.slot = ⟨rows.intent.intentId, purpose, ordinal⟩) :
    ∃ newest, priorGeneration rows purpose ordinal = some newest ∧ newest ∈ db.permits.rows ∧
      newest.slot = permit.slot ∧ permit.generation ≤ newest.generation := by
  obtain ⟨hintent, hkind, hordinal⟩ := Slot.mk.inj hslot
  have hin : permit ∈ db.permitsOf rows.intent.intentId := Database.mem_permitsOf.mpr ⟨hpermit,
    hintent⟩
  cases hnewest : priorGeneration rows purpose ordinal with
  | none =>
      rw [priorGeneration, List.getLast?_eq_none_iff, List.filter_eq_nil_iff, hread] at hnewest
      exact absurd (by simp [hkind, hordinal]) (hnewest permit hin)
  | some newest =>
      rw [priorGeneration, hread] at hnewest
      obtain ⟨hmem, hcondition, hgreatest⟩ := last_filter_greatest orderBy_pairwise hnewest
      simp only [Bool.and_eq_true, beq_iff_eq] at hcondition hgreatest
      obtain ⟨hrow, hnewestIntent⟩ := Database.mem_permitsOf.mp hmem
      refine ⟨newest, rfl, hrow, ?_, ?_⟩
      · rw [hslot, BrokerMutationPermit.slot, hnewestIntent, hcondition.1, hcondition.2]
      · exact generation_le_of_permitOrder (hordinal.trans hcondition.2.symm)
          (hgreatest permit hin ⟨hkind, hordinal⟩)

/-! ## The invariant -/

/-- A permit can no longer lead to the order of its slot: it expired, or it was the cancel of an
order that stayed open. -/
def BrokerMutationPermit.isSettled (permit : BrokerMutationPermit) : Prop :=
  permit.state = .expired ∨ (permit.mutationKind = .cancel ∧ permit.state = .consumed)

/-- A submission is of the first attempt, and a replacement of a later one. -/
def Slot.kindFits (slot : Slot) : Prop :=
  (slot.mutationKind = .submit → slot.attemptOrdinal = 0) ∧
    (slot.mutationKind = .replace → 1 ≤ slot.attemptOrdinal)

/-- What holds of the permits in every state that the repository reaches. -/
structure PermitsSound (db : Database) (clock : Int) : Prop where
  /-- A submission is of the first attempt, and a replacement of a later one. -/
  kinds : ∀ permit ∈ db.permits.rows, permit.slot.kindFits
  /-- Of the permits of a slot all but the newest are settled. -/
  settled : ∀ permit ∈ db.permits.rows, ∀ newer ∈ db.permits.rows, permit.slot = newer.slot →
    permit.generation < newer.generation → permit.isSettled
  /-- A permit was issued in the past. -/
  issued : ∀ permit ∈ db.permits.rows, permit.issuedAt ≤ clock
  /-- A permit that was dispatched was dispatched in the past, while it lived. -/
  timely : ∀ permit ∈ db.permits.rows, ∀ dispatchedAt,
    permit.dispatchAcquiredAt = some dispatchedAt →
      permit.issuedAt ≤ dispatchedAt ∧ dispatchedAt < permit.expiresAt ∧ dispatchedAt ≤ clock

/-- A settled permit stays settled. -/
theorem Advance.settled {old new : BrokerMutationPermit} (h : Advance start now old new)
    (hold : old.isSettled) : new.isSettled := by
  have hstates : old.state = .expired ∨ old.state = .consumed := hold.imp id And.right
  cases h with
  | stay => exact hold
  | dispatch nonce h =>
      have hprepared := (acquirable_facts h).1
      rcases hstates with hstate | hstate <;> rw [hprepared] at hstate <;> cases hstate
  | ambiguity h => rcases hstates with hstate | hstate <;> rw [h] at hstate <;> cases hstate
  | consume outcomeHash h =>
      rcases hstates with hstate | hstate <;> rcases h with h | h <;> rw [h] at hstate <;>
        cases hstate
  | expire h => rcases hstates with hstate | hstate <;> rw [h] at hstate <;> cases hstate

section Step

variable [Digest]

variable {evaluated : WholeAccountReconciliation}

/-- The permits before an issued one in its slot are settled by the issue, and older. -/
theorem Issue.settles {rows : PreparationRows} {attempt : OrderAttempt} {issuance : Issuance}
    (h : Issue settings db after rows evaluated attempt issuance now)
    (hsound : PermitsSound db clock) {old : BrokerMutationPermit} (hold : old ∈ db.permits.rows)
    (hslot : old.slot = (issuedPermit settings rows evaluated attempt issuance now).slot) :
    old.generation < (issuedPermit settings rows evaluated attempt issuance now).generation ∧
      (old.isSettled ∨ (old.state = .prepared ∧ old.permitId ∈ issuance.expired)) := by
  obtain ⟨newest, hnewest, hmem, hsame, hle⟩ :=
    priorGeneration_newest h.permits_read hold hslot
  have hgeneration : (issuedPermit settings rows evaluated attempt issuance now).generation =
      newest.generation + 1 := by
    exact congrArg nextGeneration hnewest
  refine ⟨by omega, ?_⟩
  by_cases hlt : old.generation < newest.generation
  · exact Or.inl (hsound.settled old hold newest hmem hsame.symm hlt)
  · have hsameGeneration : old.generation = newest.generation := by omega
    cases eq_of_slot_generation hold hmem hsame.symm hsameGeneration
    have hkind := (priorGeneration_mem hnewest).2.1
    rcases issuanceOf_prior h.follows hnewest with hexpires | ⟨hcancel, hconsumed⟩
    · exact Or.inr hexpires
    · exact Or.inl (Or.inr ⟨hkind.trans hcancel, hconsumed⟩)

/-- An issue settles the permits before the one that it issues. -/
theorem Issue.settled {rows : PreparationRows} {evaluated : WholeAccountReconciliation}
    {attempt : OrderAttempt} {issuance : Issuance}
    (h : Issue settings db after rows evaluated attempt issuance now)
    (hsound : PermitsSound db clock) {old new : BrokerMutationPermit}
    (hold : old ∈ db.permits.rows) (hadvance : Advance start now old new)
    (hnew : new ∈ after.permits.rows)
    (hslot : new.slot = (issuedPermit settings rows evaluated attempt issuance now).slot) :
    new.isSettled := by
  have hsame := hadvance.same
  rcases (h.settles hsound hold (hsame.slot.symm.trans hslot)).2 with hsettled | ⟨hstate, hid⟩
  · exact hadvance.settled hsettled
  · have hexpired : expirePermit now old ∈ after.permits.rows := by
      rw [h.permitRows]
      exact List.mem_append_left _
        (change_mem_modify hold (List.contains_iff_mem.mpr hid))
    cases eq_of_permitId hnew hexpired hsame.permitId
    exact Or.inl rfl

theorem Issue.kindFits {rows : PreparationRows} {attempt : OrderAttempt} {issuance : Issuance}
    (h : Issue settings db after rows evaluated attempt issuance now) :
    (issuedPermit settings rows evaluated attempt issuance now).slot.kindFits := by
  show (evaluated.expectation.purpose = .submit → attempt.ordinal = 0) ∧
    (evaluated.expectation.purpose = .replace → 1 ≤ attempt.ordinal)
  constructor
  · intro hsubmit
    obtain ⟨target, htarget⟩ := h.target
    rw [hsubmit] at htarget
    simp only [mutationTarget, submitTarget, check_bind_ok, raiseIf_ok, bne_eq_false_iff_eq]
      at htarget
    exact htarget.1
  · intro hreplace
    have hdue := (h.replacement hreplace).2
    simp only [validateReplacementDue, check_bind_ok, raiseIf_ok, Bool.not_eq_false',
      List.contains_iff_mem, List.mem_cons, List.not_mem_nil, or_false] at hdue
    omega

/-- A transaction keeps the permits sound. -/
theorem Effect.permitsSound (h : Effect settings db start now reported after)
    (hsound : PermitsSound db clock) (hstart : clock ≤ start) (hnow : start ≤ now) :
    PermitsSound after now := by
  constructor
  · intro permit hpermit
    rcases h.traced hpermit with ⟨old, hold, hadvance⟩ |
      ⟨rows, evaluated, attempt, issuance, hissue, rfl⟩
    · rw [hadvance.same.slot]
      exact hsound.kinds old hold
    · exact hissue.kindFits
  · obtain ⟨moved, issued, hrows, hmoved, hissued⟩ := h.permits
    intro permit hpermit newer hnewer hslot hlt
    rw [hrows] at hpermit hnewer
    rcases List.mem_append.mp hpermit with hmem | hmem
    · obtain ⟨old, hold, hadvance⟩ := hmoved.traced permit hmem
      have hsame := hadvance.same
      rcases List.mem_append.mp hnewer with hnewer | hnewer
      · -- Both permits were there: the older one was settled, and stays so.
        obtain ⟨oldNewer, holdNewer, hadvanceNewer⟩ := hmoved.traced newer hnewer
        have hsameNewer := hadvanceNewer.same
        refine hadvance.settled (hsound.settled old hold oldNewer holdNewer ?_ ?_)
        · rw [← hsame.slot, hslot, hsameNewer.slot]
        · rw [← hsame.generation, ← hsameNewer.generation]
          exact hlt
      · rcases hissued with rfl | ⟨rows, evaluated, attempt, issuance, hissue, rfl⟩
        · cases hnewer
        · rw [List.mem_singleton.mp hnewer] at hslot
          refine hissue.settled hsound hold hadvance ?_ hslot
          rw [hrows]
          exact List.mem_append_left _ hmem
    · rcases hissued with rfl | ⟨rows, evaluated, attempt, issuance, hissue, rfl⟩
      · cases hmem
      · -- Nothing in the slot of an issued permit is newer than it.
        rw [List.mem_singleton.mp hmem] at hslot hlt
        rcases List.mem_append.mp hnewer with hnewer | hnewer
        · obtain ⟨oldNewer, holdNewer, hadvanceNewer⟩ := hmoved.traced newer hnewer
          have hsameNewer := hadvanceNewer.same
          have hold := (hissue.settles hsound holdNewer (hsameNewer.slot.symm.trans hslot.symm)).1
          rw [hsameNewer.generation] at hlt
          omega
        · rw [List.mem_singleton.mp hnewer] at hlt
          omega
  · intro permit hpermit
    rcases h.traced hpermit with ⟨old, hold, hadvance⟩ |
      ⟨rows, evaluated, attempt, issuance, hissue, rfl⟩
    · have hissued := hsound.issued old hold
      rw [hadvance.same.issuedAt]
      omega
    · exact le_refl now
  · intro permit hpermit dispatchedAt hdispatched
    rcases h.traced hpermit with ⟨old, hold, hadvance⟩ |
      ⟨rows, evaluated, attempt, issuance, hissue, rfl⟩
    · rw [hadvance.same.issuedAt, hadvance.same.expiresAt]
      rcases hadvance.dispatchKept.traced dispatchedAt hdispatched with hbefore | ⟨hat, hlives⟩
      · obtain ⟨hissued, hexpires, hclock⟩ := hsound.timely old hold dispatchedAt hbefore
        exact ⟨hissued, hexpires, by omega⟩
      · have hissued := hsound.issued old hold
        have htime : start ≤ dispatchedAt ∧ dispatchedAt ≤ now := by
          rw [hat, dispatchTime]
          split <;> omega
        exact ⟨by omega, hlives, htime.2⟩
    · cases hdispatched

/-- A transaction that raises leaves the database as it was, and one that commits has an effect. -/
theorem execute_effect (transaction : Transaction) (db : Database) :
    Effect settings db transaction.start transaction.now transaction.call.reported
      (execute settings transaction db) := by
  unfold execute
  split
  · exact run_effect ‹_›
  · exact .frame (Frame.refl db)

theorem step_effect {world next : World} {transaction : Transaction}
    (h : (repository settings).step world transaction next) :
    Effect settings world.db transaction.start transaction.now transaction.call.reported next.db ∧
      world.clock ≤ transaction.start ∧ transaction.start ≤ transaction.now ∧
      next.clock = transaction.now := by
  obtain ⟨htimed, rfl⟩ := h
  exact ⟨execute_effect transaction world.db, htimed.start_ge, htimed.now_ge, rfl⟩

/-- The permits are sound in every state that the repository reaches. -/
theorem permitsSound_of_reachable {world : World} (h : (repository settings).Reachable world) :
    PermitsSound world.db world.clock := by
  refine h.invariant (P := fun world => PermitsSound world.db world.clock) ?_ ?_
  · intro world hempty
    have hrows : world.db.permits.rows = [] := by
      rw [show world.db = {} from hempty]
      rfl
    constructor <;> simp [hrows]
  · intro world transaction next hsound hstep
    obtain ⟨heffect, hstart, hnow, hclock⟩ := step_effect hstep
    rw [hclock]
    exact heffect.permitsSound hsound hstart hnow

end Step

/-! ## One dispatch for each attempt -/

section

variable {permit other : BrokerMutationPermit}

/-- The constraints of a permit. -/
theorem permit_checked (h : permit ∈ db.permits.rows) :
    permit.mutationKind ≠ .baselineInitialization ∧ 0 < permit.generation ∧
      permit.fieldsFit = true := by
  have hcheck := db.permits.holds.1 permit h
  simp only [permitSchema, Bool.and_eq_true, bne_iff_ne, decide_eq_true_eq] at hcheck
  exact ⟨hcheck.1.1.1.1.1.1, hcheck.1.1.1.1.2, hcheck.1.1.2⟩

theorem undispatched_of_expired (h : permit ∈ db.permits.rows) (hstate : permit.state = .expired) :
    permit.dispatchAcquiredAt = none := by
  have hfits := (permit_checked h).2.2
  simp only [BrokerMutationPermit.fieldsFit, hstate, Bool.and_eq_true,
    Option.isNone_iff_eq_none] at hfits
  exact hfits.1.1.2

theorem undispatched_of_prepared (h : permit ∈ db.permits.rows)
    (hstate : permit.state = .prepared) : permit.dispatchAcquiredAt = none := by
  have hfits := (permit_checked h).2.2
  simp only [BrokerMutationPermit.fieldsFit, hstate, Bool.and_eq_true,
    Option.isNone_iff_eq_none] at hfits
  exact hfits.1.1.2

/-- The permit of a submission or replacement that was dispatched is the only one in its slot
that did not expire. -/
theorem PermitsSound.dispatched_eq (hsound : PermitsSound db clock)
    (hpermit : permit ∈ db.permits.rows) (hother : other ∈ db.permits.rows)
    (hslot : permit.slot = other.slot) (hkind : permit.mutationKind ≠ .cancel)
    {dispatchedAt : Int} (hdispatched : permit.dispatchAcquiredAt = some dispatchedAt)
    (hstate : other.state ≠ .expired) : permit = other := by
  have hotherKind : other.mutationKind ≠ .cancel := by
    rw [← (Slot.mk.inj hslot).2.1]
    exact hkind
  rcases lt_trichotomy permit.generation other.generation with hlt | heq | hlt
  · rcases hsound.settled permit hpermit other hother hslot hlt with hexpired | hcancel
    · rw [undispatched_of_expired hpermit hexpired] at hdispatched
      cases hdispatched
    · exact absurd hcancel.1 hkind
  · exact eq_of_slot_generation hpermit hother hslot heq
  · rcases hsound.settled other hother permit hpermit hslot.symm hlt with hexpired | hcancel
    · exact absurd hexpired hstate
    · exact absurd hcancel.1 hotherKind

/-- Permits that submit or replace the same attempt have the same slot. -/
theorem PermitsSound.slot_eq (hsound : PermitsSound db clock)
    (hpermit : permit ∈ db.permits.rows) (hother : other ∈ db.permits.rows)
    (hintent : permit.intentId = other.intentId)
    (hordinal : permit.attemptOrdinal = other.attemptOrdinal)
    (hkind : permit.mutationKind ≠ .cancel) (hotherKind : other.mutationKind ≠ .cancel) :
    permit.slot = other.slot := by
  have hfits := hsound.kinds permit hpermit
  have hotherFits := hsound.kinds other hother
  have hbaseline := (permit_checked hpermit).1
  have hotherBaseline := (permit_checked hother).1
  simp only [Slot.kindFits, BrokerMutationPermit.slot] at hfits hotherFits
  have hkinds : permit.mutationKind = other.mutationKind := by
    cases hp : permit.mutationKind <;> cases hq : other.mutationKind <;> simp_all
    all_goals omega
  rw [BrokerMutationPermit.slot, BrokerMutationPermit.slot, hintent, hordinal, hkinds]

end

/-! ## Dispatches -/

/-- A step dispatches a permit. -/
def Dispatches (world next : World) (permit : BrokerMutationPermit) : Prop :=
  permit ∈ next.db.permits.rows ∧ permit.state = .dispatching ∧
    ∀ old ∈ world.db.permits.rows, old.permitId = permit.permitId → old.state ≠ .dispatching

section Dispatches

variable [Digest] {world next later last : World} {transaction another : Transaction}
  {labels : List Transaction} {permit other : BrokerMutationPermit}

/-- A dispatched permit stays dispatched over a run. -/
theorem run_dispatchKept (hrun : (repository settings).Run next labels later)
    (hpermit : permit ∈ next.db.permits.rows) {dispatchedAt : Int}
    (hdispatched : permit.dispatchAcquiredAt = some dispatchedAt) :
    ∃ kept ∈ later.db.permits.rows, SameAuthority permit kept ∧
      kept.dispatchAcquiredAt = some dispatchedAt := by
  induction hrun with
  | refl => exact ⟨permit, hpermit, ⟨rfl, rfl, rfl, rfl, rfl, rfl⟩, hdispatched⟩
  | snoc run step ih =>
      obtain ⟨kept, hkept, hsame, hat⟩ := ih
      obtain ⟨heffect, -, -, -⟩ := step_effect step
      obtain ⟨new, hnew, hadvance⟩ := heffect.kept hkept
      exact ⟨new, hnew, hsame.trans hadvance.same, hadvance.dispatchKept.kept _ hat⟩

/-- A permit that a step dispatches was ready, and is dispatched at the time of the step. -/
theorem Dispatches.facts (h : Dispatches world next permit)
    (hstep : (repository settings).step world transaction next) :
    ∃ old nonce dispatchedAt, Dispatch world.db next.db old dispatchedAt nonce ∧
      permit = dispatchPermit dispatchedAt nonce old ∧
      transaction.start ≤ dispatchedAt ∧ dispatchedAt ≤ transaction.now := by
  obtain ⟨heffect, -, hnow, -⟩ := step_effect hstep
  obtain ⟨old, nonce, hdispatch, rfl⟩ := heffect.dispatched h.1 h.2.1 h.2.2
  have htime : transaction.start ≤ dispatchTime old transaction.start transaction.now ∧
      dispatchTime old transaction.start transaction.now ≤ transaction.now := by
    unfold dispatchTime
    split <;> omega
  exact ⟨old, nonce, _, hdispatch, rfl, htime⟩

/-- The order of an attempt is dispatched at most once. For any two steps of a run, in every state
that the repository reaches: the second step dispatches no permit that submits or replaces an
attempt whose submission or replacement the first one dispatched; permits move only along the
moves of their states and are issued as prepared; a permit is dispatched at a time before it
expires; and no two permits of one slot may both still lead to a mutation. -/
theorem dispatch_atMostOnce (hreach : (repository settings).Reachable world)
    (hstep : (repository settings).step world transaction next)
    (hrun : (repository settings).Run next labels later)
    (hlast : (repository settings).step later another last) :
    (∀ permit other, Dispatches world next permit → Dispatches later last other →
      permit.intentId = other.intentId → permit.attemptOrdinal = other.attemptOrdinal →
      permit.mutationKind = .cancel ∨ other.mutationKind = .cancel) ∧
    (∀ old ∈ world.db.permits.rows, ∃ new ∈ next.db.permits.rows,
      new.permitId = old.permitId ∧ new.slot = old.slot ∧
      (new.state = old.state ∨ old.state.mayBecome new.state = true)) ∧
    (∀ new ∈ next.db.permits.rows,
      (∀ old ∈ world.db.permits.rows, old.permitId ≠ new.permitId) → new.state = .prepared) ∧
    (∀ permit, Dispatches world next permit → ∃ dispatchedAt,
      permit.dispatchAcquiredAt = some dispatchedAt ∧ transaction.start ≤ dispatchedAt ∧
      dispatchedAt ≤ transaction.now ∧ dispatchedAt < permit.expiresAt) ∧
    (∀ permit ∈ world.db.permits.rows, ∀ other ∈ world.db.permits.rows,
      permit.slot = other.slot → permit.state.isActive = true → other.state.isActive = true →
      permit = other) := by
  have hnext := hreach.run (System.Run.single hstep)
  have hlater := hnext.run hrun
  obtain ⟨heffect, -, -, -⟩ := step_effect hstep
  refine ⟨?_, ?_, ?_, ?_, ?_⟩
  · intro permit other hfirst hsecond hintent hordinal
    by_contra hkinds
    obtain ⟨hpermitKind, hotherKind⟩ := not_or.mp hkinds
    obtain ⟨_, nonce, dispatchedAt, -, hpermit, -⟩ := hfirst.facts hstep
    have hdispatched : permit.dispatchAcquiredAt = some dispatchedAt := by
      rw [hpermit]
      rfl
    obtain ⟨kept, hkept, hsame, hat⟩ := run_dispatchKept hrun hfirst.1 hdispatched
    obtain ⟨old, _, _, hdispatch, rfl, -⟩ := hsecond.facts hlast
    have hold := hdispatch.permit_mem
    have hprepared := (acquirable_facts hdispatch.ready).1
    have hsound := permitsSound_of_reachable hlater
    obtain ⟨hkeptIntent, hsameKind, hkeptOrdinal⟩ := Slot.mk.inj hsame.slot
    have hkeptKind : kept.mutationKind ≠ .cancel := by
      rw [hsameKind]
      exact hpermitKind
    have hslot : kept.slot = old.slot :=
      hsound.slot_eq hkept hold (hkeptIntent.trans hintent) (hkeptOrdinal.trans hordinal)
        hkeptKind hotherKind
    -- The permit that was dispatched first is the one that the second step finds prepared.
    have hstate : old.state ≠ .expired := by
      rw [hprepared]
      intro h
      cases h
    cases hsound.dispatched_eq hkept hold hslot hkeptKind hat hstate
    rw [undispatched_of_prepared hkept hprepared] at hat
    cases hat
  · intro old hold
    obtain ⟨new, hnew, hadvance⟩ := heffect.kept hold
    exact ⟨new, hnew, hadvance.same.permitId, hadvance.same.slot, hadvance.moves⟩
  · intro new hnew hfresh
    rcases heffect.traced hnew with ⟨old, hold, hadvance⟩ |
      ⟨rows, evaluated, attempt, issuance, -, rfl⟩
    · exact absurd hadvance.same.permitId.symm (hfresh old hold)
    · rfl
  · intro permit hdispatch
    obtain ⟨old, nonce, dispatchedAt, hfacts, rfl, hstart, hnow⟩ := hdispatch.facts hstep
    exact ⟨dispatchedAt, rfl, hstart, hnow, (acquirable_facts hfacts.ready).2.2⟩
  · intro permit hpermit other hother hslot hactive hotherActive
    exact eq_of_active hpermit hother hslot hactive hotherActive

end Dispatches

section Rehearsed

open Rehearsal

/-- Where no permit was being dispatched, a permit that is being dispatched next was dispatched by
the step. -/
theorem exists_dispatches (world next : World) (slot : Slot)
    (hnone : ∀ entry ∈ permitsIn world, entry.2 ≠ .dispatching)
    (hsome : (slot, .dispatching) ∈ permitsIn next) :
    ∃ permit, Dispatches world next permit ∧ permit.slot = slot := by
  obtain ⟨permit, hpermit, heq⟩ := List.mem_map.mp hsome
  obtain ⟨hslot, hstate⟩ := Prod.mk.inj heq
  refine ⟨permit, ⟨hpermit, hstate, fun old hold _ => ?_⟩, hslot⟩
  exact hnone (old.slot, old.state) (List.mem_map_of_mem hold)

/-- In the rehearsal a submission is dispatched and later its replacement, and no submission or
replacement of one ordinal twice. -/
theorem dispatch_atMostOnce_rehearsed :
    ∃ (world next later last : World) (first second : BrokerMutationPermit),
      (repository Rehearsal.settings).Reachable world ∧
      Dispatches world next first ∧ first.slot = submitSlot ∧
      Dispatches later last second ∧ second.slot = replaceSlot ∧
      ∀ permit other, Dispatches world next permit → Dispatches later last other →
        permit.intentId = other.intentId → permit.attemptOrdinal = other.attemptOrdinal →
        permit.mutationKind = .cancel ∨ other.mutationKind = .cancel := by
  obtain ⟨s, hplayed, hshown⟩ := exists_stages
  obtain ⟨hdrafted, -, -⟩ := hplayed.reachable
  obtain ⟨_, -, hsubmitted⟩ := step_of_play hplayed.submitted
  obtain ⟨_, hplaced⟩ := run_of_play hplayed.placed
  obtain ⟨_, hplanned⟩ := run_of_play hplayed.planned
  obtain ⟨_, -, hreplaced⟩ := step_of_play hplayed.replaced
  obtain ⟨first, hfirst, hfirstSlot⟩ := exists_dispatches s.drafted s.submitted submitSlot
    (by simp [hshown.drafted]) (by simp [hshown.submitted])
  obtain ⟨second, hsecond, hsecondSlot⟩ := exists_dispatches s.planned s.replaced replaceSlot
    (by simp [hshown.planned]) (by simp [hshown.replaced])
  exact ⟨s.drafted, s.submitted, s.planned, s.replaced, first, second, hdrafted, hfirst, hfirstSlot,
    hsecond, hsecondSlot,
    (dispatch_atMostOnce hdrafted hsubmitted (hplaced.append hplanned) hreplaced).1⟩

end Rehearsed

end AlphaDecay
