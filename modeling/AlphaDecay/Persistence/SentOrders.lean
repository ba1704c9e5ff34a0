import AlphaDecay.Persistence.HardCancel

/-!
# The orders that are sent

Whatever transactions do, at most four orders are sent to the broker for an intent, and nothing is
sent for it before its submission.
-/

namespace AlphaDecay

open Foundation Table

/-- The permits of an intent by which orders were sent: of its submission and its replacements. -/
def Database.sentOrders (db : Database) (intentId : Uuid) : List BrokerMutationPermit :=
  db.permits.rows.filter fun permit => permit.intentId == intentId &&
    permit.mutationKind != .cancel && permit.dispatchAcquiredAt.isSome

theorem Database.mem_sentOrders {db : Database} {intentId : Uuid} {permit : BrokerMutationPermit} :
    permit ∈ db.sentOrders intentId ↔ permit ∈ db.permits.rows ∧ permit.intentId = intentId ∧
      permit.mutationKind ≠ .cancel ∧ ∃ sentAt, permit.dispatchAcquiredAt = some sentAt := by
  simp [sentOrders, Option.isSome_iff_exists, and_assoc]

/-- No two orders are sent for one attempt of an intent. -/
theorem PermitsSound.sentOrders_nodup {db : Database} {clock : Int} (h : PermitsSound db clock)
    (intentId : Uuid) : ((db.sentOrders intentId).map (·.attemptOrdinal)).Nodup := by
  rw [List.Nodup, List.pairwise_map]
  refine ((permits_unique db).filter _).imp_of_mem ?_
  intro left right hleft hright hclash hordinal
  obtain ⟨hleft, hintent, hkind, sentAt, hsent⟩ := Database.mem_sentOrders.mp hleft
  obtain ⟨hright, hother, hotherKind, otherAt, hotherSent⟩ := Database.mem_sentOrders.mp hright
  have hslot := h.slot_eq hleft hright (hintent.trans hother.symm) hordinal hkind hotherKind
  have hstate : right.state ≠ .expired := by
    intro hexpired
    rw [undispatched_of_expired hright hexpired] at hotherSent
    cases hotherSent
  have hsame := h.dispatched_eq hleft hright hslot hkind hsent hstate
  rw [hsame] at hclash
  rcases hclash with hnone | hne
  · cases hnone
  · exact hne rfl

section Sent

variable [Digest] {settings : RepositorySettings} {world : World}

/-- In every run at most four orders are sent for an intent, and whatever is sent for it, an order
or a cancel, is sent after its submission. -/
theorem orders_sent (hreach : (repository settings).Reachable world) (intentId : Uuid) :
    (world.db.sentOrders intentId).length ≤ 4 ∧
    ∀ permit ∈ world.db.permits.rows, permit.intentId = intentId →
      ∀ sentAt, permit.dispatchAcquiredAt = some sentAt →
        ∃ submission ∈ world.db.sentOrders intentId, submission.mutationKind = .submit ∧
          ∃ submittedAt, submission.dispatchAcquiredAt = some submittedAt ∧
            submittedAt ≤ sentAt := by
  have hsound := permitsSound_of_reachable hreach
  constructor
  -- Ordinals are at most three, and no two orders share one.
  · have hordinals : (world.db.sentOrders intentId).map (·.attemptOrdinal) ⊆ [0, 1, 2, 3] := by
      intro ordinal hordinal
      obtain ⟨permit, hpermit, rfl⟩ := List.mem_map.mp hordinal
      have hchecked := world.db.permits.holds.1 permit (Database.mem_sentOrders.mp hpermit).1
      simp only [permitSchema, Bool.and_eq_true, decide_eq_true_eq] at hchecked
      simp only [List.mem_cons, List.not_mem_nil, or_false]
      omega
    have hlength := ((hsound.sentOrders_nodup intentId).subperm hordinals).length_le
    rwa [List.length_map] at hlength
  · intro permit hpermit hintent sentAt hsent
    by_cases hkind : permit.mutationKind = .submit
    · exact ⟨permit, Database.mem_sentOrders.mpr ⟨hpermit, hintent, by simp [hkind], sentAt, hsent⟩,
        hkind, sentAt, hsent, le_refl _⟩
    · obtain ⟨submission, hmem, hslot, submittedAt, hsubmitted, hle⟩ :=
        (ordersTied_of_reachable hreach).anchored permit hpermit hkind
      obtain ⟨hsame, hsubmit, -⟩ := Slot.mk.inj hslot
      have hlater := (hsound.timely permit hpermit sentAt hsent).1
      exact ⟨submission, Database.mem_sentOrders.mpr ⟨hmem, hsame.trans hintent,
        by simp [hsubmit], submittedAt, hsubmitted⟩, hsubmit, submittedAt, hsubmitted, by omega⟩

end Sent

section Rehearsed

open Rehearsal

/-- In the rehearsal a replacement is sent, and its submission before it. -/
theorem orders_sent_rehearsed :
    ∃ (world : World) (replacement submission : BrokerMutationPermit),
      (repository Rehearsal.settings).Reachable world ∧ replacement.slot = replaceSlot ∧
      submission ∈ world.db.sentOrders replacement.intentId ∧
      submission.mutationKind = .submit := by
  obtain ⟨s, hplayed, hshown⟩ := exists_stages
  obtain ⟨-, -, hplanned⟩ := hplayed.reachable
  obtain ⟨_, hrun⟩ := run_of_play hplayed.replaced
  have hreach := hplanned.run hrun
  obtain ⟨permit, ⟨hpermit, hstate, -⟩, hslot⟩ := exists_dispatches s.planned s.replaced replaceSlot
    (by simp [hshown.planned]) (by simp [hshown.replaced])
  have hfits := (permit_checked hpermit).2.2
  simp only [BrokerMutationPermit.fieldsFit, hstate, Bool.and_eq_true] at hfits
  obtain ⟨sentAt, hsent⟩ := Option.isSome_iff_exists.mp hfits.1.1.2
  obtain ⟨submission, hmem, hsubmit, -⟩ :=
    (orders_sent hreach permit.intentId).2 permit hpermit rfl sentAt hsent
  exact ⟨s.replaced, permit, submission, hreach, hslot, hmem, hsubmit⟩

end Rehearsed

end AlphaDecay
