import AlphaDecay.Persistence.Effects

/-!
# The life of a permit

What a transaction may make of a permit, and what holds of the permits in every state that the
repository reaches: of the permits of one slot only the newest may still lead to an order, and a
permit that was dispatched was dispatched while it lived.
-/

namespace AlphaDecay

open Foundation Table

variable {settings : RepositorySettings} {db after : Database} {start now : Int}
  {reported : Option OrderAttempt} {old new : BrokerMutationPermit}

/-! ## What a transaction makes of a permit -/

/-- What a transaction may make of a permit. -/
inductive Advance (start now : Int) (old : BrokerMutationPermit) : BrokerMutationPermit → Prop where
  | stay : Advance start now old old
  | dispatch (nonce : Uuid) (h : acquirable old (dispatchTime old start now) = true) :
      Advance start now old (dispatchPermit (dispatchTime old start now) nonce old)
  | ambiguity (h : old.state = .dispatching) : Advance start now old (ambiguousPermit old)
  | consume (outcomeHash : String) (h : old.state = .dispatching ∨ old.state = .lookupOnly) :
      Advance start now old (consumePermit now outcomeHash old)
  | expire (h : old.state = .prepared) : Advance start now old (expirePermit now old)

/-- The moves of a permit between its states. -/
def PermitState.mayBecome : PermitState → PermitState → Bool
  | .prepared, .dispatching | .prepared, .expired => true
  | .dispatching, .lookupOnly | .dispatching, .consumed => true
  | .lookupOnly, .consumed => true
  | _, _ => false

/-- Everything of a permit that is fixed when it is issued. -/
structure SameAuthority (old new : BrokerMutationPermit) : Prop where
  permitId : new.permitId = old.permitId
  slot : new.slot = old.slot
  generation : new.generation = old.generation
  issuedAt : new.issuedAt = old.issuedAt
  expiresAt : new.expiresAt = old.expiresAt
  predecessorPermitId : new.predecessorPermitId = old.predecessorPermitId

/-- The authority of a permit that stays twice stays. -/
theorem SameAuthority.trans {middle : BrokerMutationPermit} (h : SameAuthority old middle)
    (h' : SameAuthority middle new) : SameAuthority old new where
  permitId := h'.permitId.trans h.permitId
  slot := h'.slot.trans h.slot
  generation := h'.generation.trans h.generation
  issuedAt := h'.issuedAt.trans h.issuedAt
  expiresAt := h'.expiresAt.trans h.expiresAt
  predecessorPermitId := h'.predecessorPermitId.trans h.predecessorPermitId

structure DispatchKept (start now : Int) (old new : BrokerMutationPermit) : Prop where
  kept : ∀ dispatchedAt, old.dispatchAcquiredAt = some dispatchedAt →
    new.dispatchAcquiredAt = some dispatchedAt
  traced : ∀ dispatchedAt, new.dispatchAcquiredAt = some dispatchedAt →
    old.dispatchAcquiredAt = some dispatchedAt ∨
      (dispatchedAt = dispatchTime old start now ∧ dispatchedAt < old.expiresAt)

theorem Advance.same (h : Advance start now old new) : SameAuthority old new := by
  cases h <;> exact ⟨rfl, rfl, rfl, rfl, rfl, rfl⟩

/-- A permit stays in its state or makes one of the moves. -/
theorem Advance.moves (h : Advance start now old new) :
    new.state = old.state ∨ old.state.mayBecome new.state = true := by
  cases h with
  | stay => exact Or.inl rfl
  | dispatch nonce h =>
      simp only [acquirable, Bool.and_eq_true, beq_iff_eq] at h
      rw [h.1.1.1.1.1]
      exact Or.inr rfl
  | ambiguity h =>
      rw [h]
      exact Or.inr rfl
  | consume outcomeHash h =>
      rcases h with h | h
      · rw [h]
        exact Or.inr rfl
      · rw [h]
        exact Or.inr rfl
  | expire h =>
      rw [h]
      exact Or.inr rfl

/-- A permit that can be acquired is prepared, was not dispatched and lives. -/
theorem acquirable_facts {permit : BrokerMutationPermit} {now : Int}
    (h : acquirable permit now = true) :
    permit.state = .prepared ∧ permit.dispatchAcquiredAt = none ∧ now < permit.expiresAt := by
  simp only [acquirable, Bool.and_eq_true, beq_iff_eq, Option.isNone_iff_eq_none,
    decide_eq_true_eq] at h
  obtain ⟨⟨⟨⟨⟨hstate, -⟩, hacquired⟩, -⟩, -⟩, hlives⟩ := h
  exact ⟨hstate, hacquired, hlives⟩

/-- A transaction keeps the dispatch of a permit. -/
theorem Advance.dispatchKept (h : Advance start now old new) : DispatchKept start now old new := by
  cases h with
  | dispatch nonce h =>
      obtain ⟨-, hacquired, hlives⟩ := acquirable_facts h
      refine ⟨fun dispatchedAt hold => ?_, fun dispatchedAt hnew => Or.inr ?_⟩
      · rw [hacquired] at hold
        cases hold
      · cases hnew
        exact ⟨rfl, hlives⟩
  | stay => exact ⟨fun _ => id, fun _ => Or.inl⟩
  | ambiguity h => exact ⟨fun _ => id, fun _ => Or.inl⟩
  | consume outcomeHash h => exact ⟨fun _ => id, fun _ => Or.inl⟩
  | expire h => exact ⟨fun _ => id, fun _ => Or.inl⟩

/-! ## What the issue of a permit follows -/

section

variable {rows : PreparationRows} {attempt : OrderAttempt} {issuance : Issuance}
  {purpose : ReconciliationPurpose} {prior : Option BrokerMutationPermit} {requestHash : String}
variable {permit : BrokerMutationPermit}

variable {generation : BrokerMutationPermit}

/-- The permit of an attempt is one of the permits, in the slot that created the attempt. -/
theorem creationPermit_mem {row : OrderAttemptRow} {permits : List BrokerMutationPermit}
    (h : creationPermit row permits = .ok permit) :
    permit ∈ permits ∧ permit.slot = row.creationSlot := by
  simp only [creationPermit, require_bind_ok, check_bind_ok, require_ok] at h
  obtain ⟨brokerPermitId, -, first, -, -, hlast⟩ := h
  simpa using List.mem_filter.mp (List.mem_of_getLast? hlast)

/-- An expired generation is a prepared one whose time has come. -/
theorem requireExpiredGeneration_facts
    (h : requireExpiredGeneration permit now requestHash = .ok ()) :
    permit.state = .prepared ∧ permit.expiresAt ≤ now := by
  simp only [requireExpiredGeneration, check_bind_ok, raiseIf_ok, bne_eq_false_iff_eq,
    decide_eq_false_iff_not, not_lt] at h
  exact h.2

/-- A submission is the first permit of an intent, or follows a generation that expired. -/
theorem submitIssuance_facts
    (h : submitIssuance rows attempt prior requestHash now = .ok issuance) :
    (rows.attempts = [] ∧ prior = none ∧
      issuance = { predecessorPermitId := none, created := some none }) ∨
    ∃ first generation, rows.attempts = [first] ∧
      (attemptFromRow first rows.attempts == attempt) = true ∧ prior = some generation ∧
      generation.state = .prepared ∧ generation.expiresAt ≤ now ∧ issuance = {
        predecessorPermitId := some generation.permitId
        expired := [generation.permitId] } := by
  unfold submitIssuance at h
  split at h
  · rename_i first hfirst
    simp only [check_bind_ok, require_bind_ok, raiseIf_ok, Bool.or_eq_false_iff, bne,
      Bool.not_eq_false', beq_iff_eq] at h
    obtain ⟨⟨hlength, hattempt⟩, generation, hgeneration, hexpired, h⟩ := h
    obtain ⟨hprepared, hdue⟩ := requireExpiredGeneration_facts hexpired
    obtain ⟨only, honly⟩ := List.length_eq_one_iff.mp hlength
    rw [honly] at hfirst
    cases hfirst
    cases h
    exact Or.inr ⟨first, generation, honly, hattempt, hgeneration, hprepared, hdue, rfl⟩
  · rename_i hempty
    simp only [check_bind_ok, raiseIf_ok, Option.isSome_eq_false_iff,
      Option.isNone_iff_eq_none] at h
    obtain ⟨hprior, h⟩ := h
    cases h
    exact Or.inl ⟨List.head?_eq_none_iff.mp hempty, hprior, rfl⟩

/-- A replacement authorizes a prepared attempt again, or creates the next attempt. -/
theorem replacementIssuance_facts
    (h : replacementIssuance rows attempt prior now = .ok issuance) :
    ∃ last, rows.attempts.getLast? = some last ∧
      ((∃ generation target, last.ordinal = attempt.ordinal ∧ last.state = .prepared ∧
        prior = some generation ∧ rows.attempts.dropLast.getLast? = some target ∧
        generation.state = .prepared ∧ generation.expiresAt ≤ now ∧
        issuance = { predecessorPermitId := some generation.permitId, target := some target,
                     expired := [generation.permitId], refreshed := some last.attemptId }) ∨
      (∃ targetPermit, ¬(last.ordinal = attempt.ordinal ∧ last.state = .prepared) ∧
        attempt.ordinal = rows.attempts.length ∧ creationPermit last rows.permits =
          .ok targetPermit ∧
        targetPermit.state = .consumed ∧ prior = none ∧
        issuance = { predecessorPermitId := some targetPermit.permitId, target := some last,
                     created := some (some last.attemptId) })) := by
  simp only [replacementIssuance, require_bind_ok] at h
  obtain ⟨last, hlast, h⟩ := h
  refine ⟨last, hlast, ?_⟩
  split at h
  · rename_i hagain
    simp only [reauthorizeIssuance, check_bind_ok, require_bind_ok] at h
    obtain ⟨generation, hgeneration, target, htarget, hexpired, h⟩ := h
    obtain ⟨hprepared, hdue⟩ := requireExpiredGeneration_facts hexpired
    cases h
    exact Or.inl ⟨generation, target, hagain.1, hagain.2, hgeneration, htarget, hprepared, hdue,
      rfl⟩
  · rename_i hnew
    simp only [replaceIssuance, check_bind_ok, raiseIf_ok, bne_eq_false_iff_eq] at h
    obtain ⟨hordinal, h⟩ := h
    obtain ⟨targetPermit, hcreation, h⟩ := bind_ok.mp h
    simp only [check_bind_ok, raiseIf_ok, bne_eq_false_iff_eq, Option.isSome_eq_false_iff,
      Option.isNone_iff_eq_none] at h
    obtain ⟨hconsumed, hprior, h⟩ := h
    cases h
    exact Or.inr ⟨targetPermit, hnew, hordinal, hcreation, hconsumed, hprior, rfl⟩

/-- A cancel is aimed at the last attempt, or at the one before a prepared replacement whose
permit it supersedes. -/
theorem hardCancelTarget_facts {target : OrderAttemptRow} {stale : Option BrokerMutationPermit}
    (h : hardCancelTarget rows now = .ok (target, stale)) :
    (preparedReplacement rows.attempts = none ∧ rows.attempts.getLast? = some target ∧
      stale = none) ∨
    ∃ replacement permit first initialPermit,
      preparedReplacement rows.attempts = some (target, replacement) ∧ stale = some permit ∧
      creationPermit replacement rows.permits = .ok permit ∧
      rows.attempts.head? = some first ∧ creationPermit first rows.permits = .ok initialPermit ∧
      requireSupersedable permit initialPermit now = .ok () := by
  simp only [hardCancelTarget, require_bind_ok] at h
  obtain ⟨last, hlast, h⟩ := h
  split at h
  · rename_i predecessor replacement hreplacement
    obtain ⟨permit, hpermit, h⟩ := bind_ok.mp h
    simp only [require_bind_ok] at h
    obtain ⟨first, hfirst, h⟩ := h
    obtain ⟨initialPermit, hinitial, h⟩ := bind_ok.mp h
    simp only [check_bind_ok] at h
    obtain ⟨hsupersedable, h⟩ := h
    cases h
    exact Or.inr ⟨replacement, permit, first, initialPermit, hreplacement, rfl, hpermit, hfirst,
      hinitial, hsupersedable⟩
  · rename_i hnone
    cases h
    exact Or.inl ⟨hnone, hlast, rfl⟩

/-- A permit that a cancel may supersede is the prepared permit of a replacement. -/
theorem requireSupersedable_facts {initialPermit : BrokerMutationPermit}
    (h : requireSupersedable permit initialPermit now = .ok ()) :
    permit.mutationKind = .replace ∧ permit.state = .prepared := by
  simp only [requireSupersedable, check_bind_ok, raiseIf_ok, Bool.or_eq_false_iff,
    bne_eq_false_iff_eq] at h
  exact h.1.1.1.1.1

/-- A cancel follows the newest generation of its own, or supersedes a replacement, or follows the
permit of its target. -/
theorem cancelIssuance_facts
    (h : cancelIssuance settings rows prior requestHash now = .ok issuance) :
    ∃ target stale targetPermit, hardCancelTarget rows now = .ok (target, stale) ∧
      creationPermit target rows.permits = .ok targetPermit ∧ targetPermit.state = .consumed ∧
      issuance.created = none ∧ issuance.refreshed = none ∧ issuance.target = some target ∧
      ((∃ generation, prior = some generation ∧
        requireCancelRetry settings rows target generation requestHash now = .ok () ∧
        issuance.predecessorPermitId = some generation.permitId ∧
        issuance.expired =
          stale.toList.map (fun permit => permit.permitId) ++ preparedId generation) ∨
      (prior = none ∧ issuance.predecessorPermitId = some (stale.getD targetPermit).permitId ∧
        issuance.expired = stale.toList.map fun permit => permit.permitId)) := by
  unfold cancelIssuance at h
  obtain ⟨⟨target, stale⟩, htarget, h⟩ := bind_ok.mp h
  obtain ⟨targetPermit, hcreation, h⟩ := bind_ok.mp h
  simp only [check_bind_ok, raiseIf_ok, bne_eq_false_iff_eq] at h
  obtain ⟨hconsumed, h⟩ := h
  refine ⟨target, stale, targetPermit, htarget, hcreation, hconsumed, ?_⟩
  cases prior with
  | some generation =>
    simp only [check_bind_ok] at h
    obtain ⟨hretry, h⟩ := h
    cases h
    exact ⟨rfl, rfl, rfl, Or.inl ⟨generation, rfl, hretry, rfl, rfl⟩⟩
  | none =>
    cases h
    exact ⟨rfl, rfl, rfl, Or.inr ⟨rfl, rfl, rfl⟩⟩

/-- A cancel may follow a generation that expired undispatched, or one that was consumed. -/
theorem requireCancelRetry_facts {target : OrderAttemptRow}
    (h : requireCancelRetry settings rows target generation requestHash now = .ok ()) :
    generation.state = .prepared ∨ generation.state = .consumed := by
  unfold requireCancelRetry at h
  split at h
  · exact Or.inl ‹_›
  · exact Or.inr ‹_›
  · cases h

/-- What a permit follows in its slot: nothing, a generation that expires with the issue, or a
cancel that was consumed. -/
theorem issuanceOf_prior
    (h : issuanceOf settings rows purpose attempt prior requestHash now = .ok issuance)
    (hprior : prior = some generation) :
    (generation.state = .prepared ∧ generation.permitId ∈ issuance.expired) ∨
      (purpose = .cancel ∧ generation.state = .consumed) := by
  subst hprior
  cases purpose with
  | submit =>
      rcases submitIssuance_facts h with ⟨-, hnone, -⟩ | ⟨-, found, -, -, hfound, hstate, -, rfl⟩
      · cases hnone
      · cases hfound
        exact Or.inl ⟨hstate, List.mem_singleton_self _⟩
  | replace =>
      obtain ⟨last, -, hcase⟩ := replacementIssuance_facts h
      rcases hcase with ⟨found, target, -, -, hfound, -, hstate, -, rfl⟩ | ⟨-, -, -, -, -, hnone, -⟩
      · cases hfound
        exact Or.inl ⟨hstate, List.mem_singleton_self _⟩
      · cases hnone
  | cancel =>
      have hcancel : cancelIssuance settings rows (some generation) requestHash now =
          .ok issuance := h
      obtain ⟨target, stale, targetPermit, -, -, -, -, -, -, hcase⟩ :=
        cancelIssuance_facts hcancel
      rcases hcase with ⟨found, hfound, hretry, -, hexpired⟩ | ⟨hnone, -⟩
      · cases hfound
        rcases requireCancelRetry_facts hretry with hstate | hstate
        · refine Or.inl ⟨hstate, ?_⟩
          simp [hexpired, preparedId, hstate]
        · exact Or.inr ⟨rfl, hstate⟩
      · cases hnone
  | baselineInitialization => cases h

theorem issuanceOf_expired
    (h : issuanceOf settings rows purpose attempt prior requestHash now = .ok issuance)
    (hprior : ∀ generation, prior = some generation → generation ∈ rows.permits) {permitId : Uuid}
    (hid : permitId ∈ issuance.expired) :
    ∃ permit ∈ rows.permits, permit.permitId = permitId ∧ permit.state = .prepared := by
  cases purpose with
  | submit =>
      rcases submitIssuance_facts h with ⟨-, -, rfl⟩ | ⟨-, found, -, -, hfound, hstate, -, rfl⟩
      · cases hid
      · exact ⟨found, hprior found hfound, (List.mem_singleton.mp hid).symm, hstate⟩
  | replace =>
      obtain ⟨last, -, hcase⟩ := replacementIssuance_facts h
      rcases hcase with ⟨found, target, -, -, hfound, -, hstate, -, rfl⟩ | ⟨_, -, -, -, -, -, rfl⟩
      · exact ⟨found, hprior found hfound, (List.mem_singleton.mp hid).symm, hstate⟩
      · simp at hid
  | cancel =>
      have hcancel : cancelIssuance settings rows prior requestHash now = .ok issuance := h
      obtain ⟨target, stale, targetPermit, htarget, -, -, -, -, -, hcase⟩ :=
        cancelIssuance_facts hcancel
      have hstale : permitId ∈ stale.toList.map (fun permit => permit.permitId) →
          ∃ permit ∈ rows.permits, permit.permitId = permitId ∧ permit.state = .prepared := by
        intro hmem
        obtain ⟨permit, hpermit, hpermitId⟩ := List.mem_map.mp hmem
        rcases hardCancelTarget_facts htarget with ⟨-, -, rfl⟩ |
          ⟨_, found, _, _, -, rfl, hfound, -, -, hsupersedable⟩
        · cases hpermit
        · cases List.mem_singleton.mp hpermit
          exact ⟨permit, (creationPermit_mem hfound).1, hpermitId,
            (requireSupersedable_facts hsupersedable).2⟩
      rcases hcase with ⟨generation, hgeneration, -, -, hexpired⟩ | ⟨-, -, hexpired⟩
      · rw [hexpired] at hid
        rcases List.mem_append.mp hid with hid | hid
        · exact hstale hid
        · unfold preparedId at hid
          split at hid
          · rename_i hstate
            exact ⟨generation, hprior generation hgeneration, (List.mem_singleton.mp hid).symm,
              hstate⟩
          · cases hid
      · rw [hexpired] at hid
        exact hstale hid
  | baselineInitialization => cases h

end

/-! ## Permits before and after a transaction -/

section

theorem permits_unique (db : Database) : Unique (fun permit => some permit.permitId)
    db.permits.rows := by
  refine db.permits.unique fun left right hclash => ?_
  simp only [permitSchema, Bool.or_eq_false_iff] at hclash
  simpa [clashOn] using hclash.1.1.1.1.1

theorem slotGenerations_unique (db : Database) :
    Unique (fun permit => some permit.slotGeneration) db.permits.rows := by
  refine db.permits.unique fun left right hclash => ?_
  simp only [permitSchema, Bool.or_eq_false_iff] at hclash
  simpa [clashOn] using hclash.1.2

theorem activeSlots_unique (db : Database) :
    Unique BrokerMutationPermit.activeSlot db.permits.rows := by
  refine db.permits.unique fun left right hclash => ?_
  simp only [permitSchema, Bool.or_eq_false_iff] at hclash
  exact hclash.2

variable {left right : BrokerMutationPermit}

theorem eq_of_permitId (hleft : left ∈ db.permits.rows) (hright : right ∈ db.permits.rows)
    (hid : left.permitId = right.permitId) : left = right :=
  (permits_unique db).eq hleft hright rfl (congrArg some hid.symm)

theorem eq_of_slot_generation (hleft : left ∈ db.permits.rows) (hright : right ∈ db.permits.rows)
    (hslot : left.slot = right.slot) (hgeneration : left.generation = right.generation) :
    left = right := by
  refine (slotGenerations_unique db).eq hleft hright rfl (congrArg some ?_)
  rw [BrokerMutationPermit.slotGeneration, BrokerMutationPermit.slotGeneration, hslot, hgeneration]

/-- Two permits of a slot that may both still lead to a mutation are the same. -/
theorem eq_of_active (hleft : left ∈ db.permits.rows) (hright : right ∈ db.permits.rows)
    (hslot : left.slot = right.slot) (hl : left.state.isActive = true)
    (hr : right.state.isActive = true) : left = right := by
  refine (activeSlots_unique db).eq hleft hright (?_ : left.activeSlot = some left.slot) ?_
  · rw [BrokerMutationPermit.activeSlot, if_pos hl]
  · rw [BrokerMutationPermit.activeSlot, if_pos hr, hslot]

end

structure Advances (start now : Int) (table moved : List BrokerMutationPermit) : Prop where
  kept : ∀ old ∈ table, ∃ new ∈ moved, Advance start now old new
  traced : ∀ new ∈ moved, ∃ old ∈ table, Advance start now old new

theorem Advances.refl (table : List BrokerMutationPermit) : Advances start now table table :=
  ⟨fun old hold => ⟨old, hold, .stay⟩, fun new hnew => ⟨new, hnew, .stay⟩⟩

variable {change : BrokerMutationPermit → BrokerMutationPermit} {table : List BrokerMutationPermit}
  {condition : BrokerMutationPermit → Bool}

/-- The change of the permits that meet a condition is a move of each permit. -/
theorem advances_modify
    (hchange : ∀ permit ∈ table, condition permit = true →
      Advance start now permit (change permit)) :
    Advances start now table (modify condition change table) := by
  constructor
  · intro old hold
    cases hcondition : condition old with
    | true => exact ⟨_, change_mem_modify hold hcondition, hchange old hold hcondition⟩
    | false => exact ⟨old, mem_modify_of_not hold hcondition, .stay⟩
  · intro new hnew
    obtain ⟨old, hold, rfl⟩ := mem_modify.mp hnew
    refine ⟨old, hold, ?_⟩
    split
    · exact hchange old hold ‹_›
    · exact .stay

/-- The newest permit of a slot that an issue looks at. -/
theorem priorGeneration_mem {rows : PreparationRows} {purpose : ReconciliationPurpose}
    {ordinal : Int} {generation : BrokerMutationPermit}
    (h : priorGeneration rows purpose ordinal = some generation) :
    generation ∈ rows.permits ∧ generation.mutationKind = purpose ∧
      generation.attemptOrdinal = ordinal := by
  simpa using List.mem_filter.mp (List.mem_of_getLast? h)

/-- A change that does not dispatch leaves the dispatched permits as they were. -/
theorem mem_of_mem_modify_dispatching (hnew : new ∈ modify condition change table)
    (hstate : new.state = .dispatching) (hchange : ∀ permit, (change permit).state ≠ .dispatching) :
    new ∈ table := by
  obtain ⟨old, hold, rfl⟩ := mem_modify.mp hnew
  split at hstate
  · exact absurd hstate (hchange old)
  · rw [if_neg ‹_›]
    exact hold

variable [Digest]

/-- Every permit makes a move, and at most one permit is new: it is issued. -/
theorem Effect.permits (h : Effect settings db start now reported after) :
    ∃ moved issued, after.permits.rows = moved ++ issued ∧
      Advances start now db.permits.rows moved ∧
      (issued = [] ∨ ∃ rows evaluated attempt issuance,
        Issue settings db after rows evaluated attempt issuance now ∧
        issued = [issuedPermit settings rows evaluated attempt issuance now]) := by
  cases h with
  | frame h => exact ⟨_, [], by rw [h.permits, List.append_nil], Advances.refl _, Or.inl rfl⟩
  | @issue rows evaluated attempt issuance h =>
      refine ⟨_, _, h.permitRows, advances_modify fun permit hpermit hcondition => ?_,
        Or.inr ⟨rows, evaluated, attempt, issuance, h, rfl⟩⟩
      obtain ⟨found, hfound, hid, hstate⟩ := issuanceOf_expired h.follows
        (fun generation hgeneration => (priorGeneration_mem hgeneration).1)
        (List.contains_iff_mem.mp hcondition)
      rw [h.permits_read] at hfound
      rw [← eq_of_permitId (Database.mem_permitsOf.mp hfound).1 hpermit hid]
      exact .expire hstate
  | @dispatch permit nonce h =>
      refine ⟨_, [], by rw [h.permitRows, List.append_nil],
        advances_modify fun other hother hcondition => ?_, Or.inl rfl⟩
      rw [eq_of_permitId hother h.permit_mem (beq_iff_eq.mp hcondition)]
      exact .dispatch nonce h.ready
  | @ambiguity permit h =>
      refine ⟨_, [], by rw [h.permitRows, List.append_nil],
        advances_modify fun other hother hcondition => ?_, Or.inl rfl⟩
      rw [eq_of_permitId hother h.permit_mem (beq_iff_eq.mp hcondition)]
      exact .ambiguity h.dispatching
  | @sighting permit row observed observation h _ =>
      refine ⟨_, [], by rw [h.permitRows, List.append_nil],
        advances_modify fun other hother hcondition => ?_, Or.inl rfl⟩
      split at hcondition
      · rename_i hconsumes
        have hid := List.mem_singleton.mp (List.contains_iff_mem.mp hcondition)
        rw [eq_of_permitId hother h.permit_mem hid]
        refine .consume _ ?_
        simp only [consumes, Bool.or_eq_true, Bool.and_eq_true, beq_iff_eq] at hconsumes
        exact hconsumes.imp id And.left
      · cases hcondition
  | note h => exact ⟨_, [], by rw [h.permits, List.append_nil], Advances.refl _, Or.inl rfl⟩

/-- A permit of the database makes a move. -/
theorem Effect.kept (h : Effect settings db start now reported after)
    (hold : old ∈ db.permits.rows) :
    ∃ new ∈ after.permits.rows, Advance start now old new := by
  obtain ⟨moved, issued, hrows, hmoved, -⟩ := h.permits
  obtain ⟨new, hnew, hadvance⟩ := hmoved.kept old hold
  exact ⟨new, hrows ▸ List.mem_append_left _ hnew, hadvance⟩

/-- A permit comes from a permit that made a move, or it is issued. -/
theorem Effect.traced (h : Effect settings db start now reported after)
    (hnew : new ∈ after.permits.rows) :
    (∃ old ∈ db.permits.rows, Advance start now old new) ∨
      ∃ rows evaluated attempt issuance,
        Issue settings db after rows evaluated attempt issuance now ∧
        new = issuedPermit settings rows evaluated attempt issuance now := by
  obtain ⟨moved, issued, hrows, hmoved, hissued⟩ := h.permits
  rw [hrows] at hnew
  rcases List.mem_append.mp hnew with hnew | hnew
  · exact Or.inl (hmoved.traced new hnew)
  · rcases hissued with rfl | ⟨rows, evaluated, attempt, issuance, hissue, rfl⟩
    · cases hnew
    · exact Or.inr ⟨rows, evaluated, attempt, issuance, hissue, List.mem_singleton.mp hnew⟩

/-- A permit that comes to be dispatched was dispatched by the transaction. -/
theorem Effect.dispatched (h : Effect settings db start now reported after)
    (hnew : new ∈ after.permits.rows) (hstate : new.state = .dispatching)
    (hfresh : ∀ old ∈ db.permits.rows, old.permitId = new.permitId → old.state ≠ .dispatching) :
    ∃ prepared nonce, Dispatch db after prepared (dispatchTime prepared start now) nonce ∧
      new = dispatchPermit (dispatchTime prepared start now) nonce prepared := by
  have hout : new ∉ db.permits.rows := fun hmem => hfresh new hmem rfl hstate
  cases h with
  | @dispatch permit nonce h =>
      rw [h.permitRows] at hnew
      obtain ⟨source, hsource, rfl⟩ := mem_modify.mp hnew
      by_cases hcondition : (source.permitId == permit.permitId) = true
      · rw [if_pos hcondition]
        cases eq_of_permitId hsource h.permit_mem (beq_iff_eq.mp hcondition)
        exact ⟨permit, nonce, h, rfl⟩
      · rw [if_neg hcondition] at hout
        exact absurd hsource hout
  | frame h =>
      rw [h.permits] at hnew
      exact absurd hnew hout
  | issue h =>
      rw [h.permitRows] at hnew
      rcases List.mem_append.mp hnew with hnew | hnew
      · exact absurd (mem_of_mem_modify_dispatching hnew hstate fun _ hp => by cases hp) hout
      · rw [List.mem_singleton.mp hnew] at hstate
        cases hstate
  | ambiguity h =>
      rw [h.permitRows] at hnew
      exact absurd (mem_of_mem_modify_dispatching hnew hstate fun _ hp => by cases hp) hout
  | sighting h _ =>
      rw [h.permitRows] at hnew
      exact absurd (mem_of_mem_modify_dispatching hnew hstate fun _ hp => by cases hp) hout
  | note h =>
      rw [h.permits] at hnew
      exact absurd hnew hout

end AlphaDecay
