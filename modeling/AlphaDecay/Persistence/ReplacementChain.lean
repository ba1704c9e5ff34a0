import AlphaDecay.Persistence.AttemptLife

/-!
# The chain of replacements

The attempts of an intent are numbered without a gap. Each replaces the one before it, at a higher
limit within the envelope, and a replacement is dispatched only while it is due.
-/

namespace AlphaDecay

open Foundation Table

variable {settings : RepositorySettings} {db : Database} {intentId : Uuid}
  {row target : OrderAttemptRow}

theorem attempts_nodup (db : Database) : db.attempts.rows.Nodup := by
  refine db.attempts.holds.2.imp fun {left right} hclash => ?_
  rintro rfl
  simp [attemptSchema] at hclash

/-- The attempts of an intent are read in strict order of their ordinals. -/
theorem attemptsOf_strict (db : Database) (intentId : Uuid) :
    (db.attemptsOf intentId).Pairwise fun left right => left.ordinal < right.ordinal := by
  have hsorted : (db.attemptsOf intentId).Pairwise fun left right =>
      Database.attemptOrder left ≤ Database.attemptOrder right := orderBy_pairwise
  have hnodup : (db.attemptsOf intentId).Nodup :=
    orderBy_perm.nodup_iff.mpr ((attempts_nodup db).filter _)
  refine (hsorted.and hnodup).imp_of_mem fun {left right} hleft hright h => ?_
  obtain ⟨hl, hlintent⟩ := Database.mem_attemptsOf.mp hleft
  obtain ⟨hr, hrintent⟩ := Database.mem_attemptsOf.mp hright
  have hne : left.ordinal ≠ right.ordinal := fun heq =>
    h.2 (eq_of_ordinal hl hr (hlintent.trans hrintent.symm) heq)
  have hle := ordinal_le_of_attemptOrder h.1
  omega

/-- The attempts of an intent stand at their ordinals. -/
theorem AttemptsSound.ordinal_getElem (hsound : AttemptsSound db) {index : Nat}
    (h : index < (db.attemptsOf intentId).length) :
    (db.attemptsOf intentId)[index].ordinal = index := by
  refine column_getElem (attemptsOf_strict db intentId) ?_ ?_ h
  · intro row hrow
    exact (attempt_bounds (Database.mem_attemptsOf.mp hrow).1).1
  · intro row hrow hne
    obtain ⟨hmem, hintent⟩ := Database.mem_attemptsOf.mp hrow
    obtain ⟨target, htarget⟩ := hsound.follows row hmem hne
    refine ⟨target, Database.mem_attemptsOf.mpr ⟨htarget.target_mem, ?_⟩, htarget.ordinal⟩
    exact htarget.intentId.trans hintent

/-- The attempt after another one replaces it. -/
theorem AttemptsSound.replaces_getElem (hsound : AttemptsSound db) {index : Nat}
    (h : index + 1 < (db.attemptsOf intentId).length) :
    Replaces db (db.attemptsOf intentId)[index + 1] (db.attemptsOf intentId)[index] := by
  have hindex : index < (db.attemptsOf intentId).length := by omega
  obtain ⟨hmem, hintent⟩ := Database.mem_attemptsOf.mp (List.getElem_mem h)
  obtain ⟨hprior, hpriorIntent⟩ := Database.mem_attemptsOf.mp (List.getElem_mem hindex)
  have hordinal := hsound.ordinal_getElem h
  have hpriorOrdinal := hsound.ordinal_getElem hindex
  obtain ⟨target, htarget⟩ := hsound.follows _ hmem (by omega)
  have hsame : target = (db.attemptsOf intentId)[index] := by
    refine eq_of_ordinal htarget.target_mem hprior ?_ ?_
    · rw [htarget.intentId, hintent, hpriorIntent]
    · have hnext := htarget.ordinal
      omega
  rw [← hsame]
  exact htarget

theorem clientOrderIdOf_attemptsOf (h : target ∈ db.attemptsOf intentId) :
    clientOrderIdOf (db.attemptsOf intentId) target.attemptId = some target.clientOrderId := by
  rw [clientOrderIdOf, lastByKey_eq_some h rfl, Option.map_some]
  intro other hother hid
  exact eq_of_attemptId (Database.mem_attemptsOf.mp hother).1 (Database.mem_attemptsOf.mp h).1 hid

theorem envelope_limits (envelope : OrderEnvelope) :
    envelope.minimumLimit ≤ envelope.maximumLimit := by
  have hvalid := envelope.valid
  simp only [OrderEnvelopeFields.postInit, check_bind_ok, raiseIf_ok, decide_eq_false_iff_not]
    at hvalid
  rw [Decimal.le_iff_value]
  exact not_lt.mp fun hlt => hvalid.2.1 (Decimal.lt_iff_value.mpr hlt)

/-- The limit at which an attempt stands is within its envelope. -/
theorem AttemptsSound.limit_le (hsound : AttemptsSound db) {intent : ExecutionIntentRow}
    (hintent : intent ∈ db.intents.rows) (hrow : row ∈ db.attemptsOf intent.intentId) :
    limitOf intent row.limitPrice ≤ intent.envelope.maximumLimit := by
  obtain ⟨hmem, hid⟩ := Database.mem_attemptsOf.mp hrow
  by_cases hzero : row.ordinal = 0
  · rw [hsound.first row hmem hzero]
    exact envelope_limits intent.envelope
  · obtain ⟨target, htarget⟩ := hsound.follows row hmem hzero
    obtain ⟨found, hfound, hsame, limit, hlimit, -, hupper⟩ := htarget.limit
    cases eq_of_intentId hfound hintent (hsame.trans hid)
    rw [hlimit]
    exact hupper

theorem attempt_some {ordinal : Int} (h : db.attempt intentId ordinal = some row) :
    row ∈ db.attempts.rows ∧ row.intentId = intentId ∧ row.ordinal = ordinal := by
  have hcondition := List.find?_some h
  simp only [Bool.and_eq_true, beq_iff_eq] at hcondition
  exact ⟨List.mem_of_find?_eq_some h, hcondition⟩

variable {permit : BrokerMutationPermit}

/-- What is required when a replacement is dispatched: the cancel is not due, as the dispatch of
the first attempt says, and the authority of the replacement is not from the future. -/
theorem requireReplacementDispatch_facts {now : Int}
    (h : requireReplacementDispatch db permit row now = .ok ()) :
    ∃ initialPermit dispatchedAt, initialPermit ∈ db.permits.rows ∧
      initialPermit.slot = ⟨permit.intentId, .submit, 0⟩ ∧
      initialPermit.dispatchAcquiredAt = some dispatchedAt ∧ now - dispatchedAt < cancelDue ∧
      ∀ timedAt, row.timingAuthorityAt = some timedAt → timedAt ≤ now := by
  simp only [requireReplacementDispatch, require_bind_ok, check_bind_ok] at h
  obtain ⟨initial, hinitial, -, h⟩ := h
  obtain ⟨initialPermit, hpermit, h⟩ := bind_ok.mp h
  simp only [validateReplacementDispatchAuthority, require_bind_ok, check_bind_ok, raiseIf_ok,
    Bool.or_eq_false_iff, Bool.not_eq_false', decide_eq_false_iff_not, not_le] at h
  obtain ⟨dispatchedAt, hdispatched, hcancel, ⟨-, htimed⟩, -⟩ := h
  obtain ⟨hmem, hslot⟩ := creationPermit_mem hpermit
  obtain ⟨-, hintent, hordinal⟩ := attempt_some hinitial
  refine ⟨initialPermit, dispatchedAt, (Database.mem_permitsOf.mp hmem).1, ?_, hdispatched, hcancel,
    ?_⟩
  · rw [hslot, OrderAttemptRow.creationSlot, hintent, hordinal]
    rfl
  · intro timedAt hat
    simp only [hat, Option.any_some, isRecent, Bool.and_eq_true, decide_eq_true_eq] at htimed
    exact htimed.1

/-- A replacement is dispatched while it is due, counted from the dispatch of the first attempt. -/
theorem replacement_dispatchedWhenDue [Digest] {world next : World} {transaction : Transaction}
    (hreach : (repository settings).Reachable world)
    (hstep : (repository settings).step world transaction next)
    (hdispatch : Dispatches world next permit) (hkind : permit.mutationKind = .replace) :
    ∃ first ∈ world.db.permits.rows, first.slot = ⟨permit.intentId, .submit, 0⟩ ∧
      ∃ firstAt dispatchedAt, first.dispatchAcquiredAt = some firstAt ∧
        permit.dispatchAcquiredAt = some dispatchedAt ∧
        replacementDue permit.attemptOrdinal ≤ dispatchedAt - firstAt ∧
        dispatchedAt - firstAt < cancelDue := by
  have hsound := attemptsSound_of_reachable hreach
  have hpermits := permitsSound_of_reachable hreach
  obtain ⟨prepared, nonce, dispatchedAt, hfacts, rfl, -⟩ := hdispatch.facts hstep
  obtain ⟨row, hrow, hauthority⟩ := hfacts.attempt_row
  have hrequired := hauthority hkind
  -- The attempt was authorized when it was due, and that authority is recent.
  obtain ⟨hmem, hintent, hordinal⟩ := attempt_some hrow
  have hne : row.ordinal ≠ 0 := by
    have hone := (hpermits.kinds prepared hfacts.permit_mem).2 hkind
    simp only [BrokerMutationPermit.slot] at hone
    omega
  obtain ⟨first, hfirst, hslot, firstAt, timedAt, hfirstAt, htimed, hdue, -⟩ :=
    hsound.timed row hmem hne
  obtain ⟨initialPermit, lastAt, hinitial, hinitialSlot, hlastAt, hcancel, hrecent⟩ :=
    requireReplacementDispatch_facts hrequired
  -- The permit that it is counted from is the one that the check found.
  have hsame : first = initialPermit := by
    refine hpermits.dispatched_eq hfirst hinitial ?_ ?_ hfirstAt ?_
    · rw [hslot, hinitialSlot, hintent]
    · rw [(Slot.mk.inj hslot).2.1]
      intro h
      cases h
    · intro hexpired
      rw [undispatched_of_expired hinitial hexpired] at hlastAt
      cases hlastAt
  subst hsame
  rw [hfirstAt] at hlastAt
  cases hlastAt
  have hpast := hrecent timedAt htimed
  refine ⟨first, hfirst, ?_, firstAt, dispatchedAt, hfirstAt, rfl, ?_, hcancel⟩
  · rw [hslot, hintent]
    rfl
  · show replacementDue prepared.attemptOrdinal ≤ _
    rw [← hordinal]
    omega

/-- The chain of replacements. In every state that the repository reaches, the attempts of an
intent are numbered from zero and there are at most four; each attempt after the first replaces
the client order id of the one before it and carries its request hash; their limits rise strictly
from the minimum of the envelope and stay within its maximum; and any step that dispatches a
replacement of ordinal `k` does so at least `150 k` and less than `600` seconds after the first
dispatch. -/
theorem attempts_chain [Digest] {world : World} (hreach : (repository settings).Reachable world)
    {intent : ExecutionIntentRow} (hintent : intent ∈ world.db.intents.rows) :
    ((world.db.attemptsOf intent.intentId).length ≤ 4 ∧
      ∀ index (h : index < (world.db.attemptsOf intent.intentId).length),
        (world.db.attemptsOf intent.intentId)[index].ordinal = index) ∧
    (∀ index (h : index + 1 < (world.db.attemptsOf intent.intentId).length),
      (attemptFromRow (world.db.attemptsOf intent.intentId)[index + 1]
        (world.db.attemptsOf intent.intentId)).replacesClientOrderId =
          some (world.db.attemptsOf intent.intentId)[index].clientOrderId ∧
      (world.db.attemptsOf intent.intentId)[index + 1].priorRequestHash =
        some (world.db.attemptsOf intent.intentId)[index].requestHash ∧
      limitOf intent (world.db.attemptsOf intent.intentId)[index].limitPrice <
        limitOf intent (world.db.attemptsOf intent.intentId)[index + 1].limitPrice) ∧
    (∀ row, (world.db.attemptsOf intent.intentId).head? = some row →
      limitOf intent row.limitPrice = intent.envelope.minimumLimit) ∧
    (∀ row ∈ world.db.attemptsOf intent.intentId,
      limitOf intent row.limitPrice ≤ intent.envelope.maximumLimit) ∧
    (∀ transaction next permit, (repository settings).step world transaction next →
      Dispatches world next permit → permit.mutationKind = .replace →
      permit.intentId = intent.intentId →
      ∃ first ∈ world.db.permits.rows, first.slot = ⟨intent.intentId, .submit, 0⟩ ∧
        ∃ firstAt dispatchedAt, first.dispatchAcquiredAt = some firstAt ∧
          permit.dispatchAcquiredAt = some dispatchedAt ∧
          Calendar.seconds (150 * permit.attemptOrdinal) ≤ dispatchedAt - firstAt ∧
          dispatchedAt - firstAt < Calendar.seconds 600) := by
  have hsound := attemptsSound_of_reachable hreach
  refine ⟨⟨?_, fun index h => hsound.ordinal_getElem h⟩, ?_, ?_, ?_, ?_⟩
  · by_contra hlong
    have hfifth : 4 < (world.db.attemptsOf intent.intentId).length := by omega
    have hordinal := hsound.ordinal_getElem hfifth
    have hbounds := attempt_bounds (Database.mem_attemptsOf.mp (List.getElem_mem hfifth)).1
    omega
  · intro index h
    have hindex : index < (world.db.attemptsOf intent.intentId).length := by omega
    have hreplaces := hsound.replaces_getElem h
    obtain ⟨found, hfound, hsame, limit, hlimit, hlower, -⟩ := hreplaces.limit
    have hid := (Database.mem_attemptsOf.mp (List.getElem_mem h)).2
    cases eq_of_intentId hfound hintent (hsame.trans hid)
    refine ⟨?_, hreplaces.priorRequestHash, ?_⟩
    · simp only [attemptFromRow, hreplaces.replacesAttemptId, Option.bind_some]
      exact clientOrderIdOf_attemptsOf (List.getElem_mem hindex)
    · rw [hlimit]
      exact hlower
  · intro row hrow
    have hmem := (Database.mem_attemptsOf.mp (List.mem_of_head? hrow)).1
    rw [hsound.first row hmem (hsound.head_ordinal hrow)]
    rfl
  · intro row hrow
    exact hsound.limit_le hintent hrow
  · intro transaction next permit hstep hdispatch hkind hpermit
    rw [← hpermit]
    exact replacement_dispatchedWhenDue hreach hstep hdispatch hkind

section Rehearsed

open Rehearsal

/-- In the rehearsal a replacement is dispatched in time, and its attempt follows the first one. -/
theorem attempts_chain_rehearsed :
    ∃ (world : World) (intent : ExecutionIntentRow),
      (repository Rehearsal.settings).Reachable world ∧ intent ∈ world.db.intents.rows ∧
      (world.db.attempts.rows.map fun row => row.ordinal) = [0, 1] ∧
      (world.db.attemptsOf intent.intentId).length ≤ 4 ∧
      ∀ row ∈ world.db.attemptsOf intent.intentId,
        limitOf intent row.limitPrice ≤ intent.envelope.maximumLimit := by
  obtain ⟨s, hplayed, hshown⟩ := exists_stages
  obtain ⟨-, -, hplanned⟩ := hplayed.reachable
  obtain ⟨_, hrun⟩ := run_of_play hplayed.replaced
  have hreach := hplanned.run hrun
  have hne : s.replaced.db.intents.rows ≠ [] := by
    intro hnil
    have hintents := hshown.intents
    rw [hnil] at hintents
    cases hintents
  obtain ⟨intent, hintent⟩ := List.exists_mem_of_ne_nil _ hne
  have hordinals : (s.replaced.db.attempts.rows.map fun row => row.ordinal) = [0, 1] := by
    have hattempts := congrArg (List.map fun entry => entry.2.1) hshown.replacedAttempts
    simpa [attemptsIn, List.map_map, Function.comp_def] using hattempts
  have hchain := attempts_chain hreach hintent
  exact ⟨s.replaced, intent, hreach, hintent, hordinals, hchain.1.1, hchain.2.2.2.1⟩

end Rehearsed

end AlphaDecay
