import AlphaDecay.Agent.ExactlyOnce

/-!
# Claims and decisions

An intent is claimed only for a decision that the agent recorded. The claim looks the decision up,
and no transaction loses it afterwards, so that every intent that was ever claimed has one.
-/

namespace AlphaDecay.Agent

open Foundation Table

variable {settings : RepositorySettings} {serverAutonomyEnabled : Bool} {store after : Store}
  {world : World}

/-- A decision authorizes an intent: it was made for its account and under its policy, with an
outcome of its action. -/
def Decides (decision : DecisionRow) (intent : ExecutionIntentRow) : Prop :=
  decision.accountRole = intent.accountRole ∧ decision.policyHash = intent.policyHash ∧
    decision.autonomyAuthorized = true ∧
    decision.decisionKind = (authorizingOutcomes intent.action).1 ∧
    decision.outcome ∈ (authorizingOutcomes intent.action).2

theorem Decides.policy {decision : DecisionRow} {intent : ExecutionIntentRow}
    (h : Decides decision intent) : decision.isAudit = false := by
  have hall : ∀ action, ∀ outcome ∈ (authorizingOutcomes action).2,
      isNonPolicyAudit (authorizingOutcomes action).1 outcome = false := by
    intro action
    cases action <;> decide
  obtain ⟨-, -, -, hkind, houtcome⟩ := h
  rw [DecisionRow.isAudit, hkind]
  exact hall intent.action decision.outcome houtcome

section Claimed

variable [Digest]

/-- An intent whose origin is valid was decided. -/
theorem decides_of_origin {row : ExecutionIntentRow} {now : Int} {intent : ExecutionIntent}
    (hintent : intentFromRow store.database row = .ok intent)
    (horigin : validateOrigin store.database intent now = .ok ()) :
    ∃ decision ∈ store.decisions.rows, Decides decision row := by
  simp only [intentFromRow, require_bind_ok, check_bind_ok, raiseIf_ok, Bool.not_eq_false']
    at hintent
  obtain ⟨account, -, hmatches, hintent⟩ := hintent
  cases hintent
  simp only [ExecutionIntentRow.matchesEnvelope, Bool.and_eq_true, beq_iff_eq, and_assoc]
    at hmatches
  obtain ⟨-, -, haction, hpolicy, -⟩ := hmatches
  unfold validateOrigin at horigin
  obtain ⟨origin, -, horigin⟩ := bind_ok.mp horigin
  have hdecision := (check_bind_ok.mp horigin).1
  simp only [requireDecisionOrigin, require_bind_ok, raiseIf_ok, Bool.not_eq_false',
    decisionAuthorizes, Bool.and_eq_true, beq_iff_eq, List.contains_iff_mem, and_assoc] at hdecision
  obtain ⟨decisionId, -, decision, hfound, snapshot, -, thesis, -, tick, -, hautonomy, -, -, hrole,
    -, -, -, -, hpolicyHash, -, -, -, -, -, -, -, hkind, houtcome⟩ := hdecision
  obtain ⟨recorded, hmem, rfl⟩ := List.mem_map.mp (lookup_some hfound).1
  rw [haction] at hkind houtcome
  exact ⟨recorded, hmem, hrole, hpolicyHash.trans hpolicy, hautonomy, hkind, houtcome⟩

/-- What a transaction does to the intents. -/
theorem Effect.intentStep {transaction : Transaction}
    (h : Effect settings serverAutonomyEnabled store transaction after) :
    IntentStep settings store.database transaction.now after.execution := by
  cases h with
  | unchanged h => exact .kept (by rw [h]; rfl)
  | reserved call frame =>
      obtain ⟨ticks, -, h⟩ := frame
      exact .kept (by rw [h]; rfl)
  | recorded call h =>
      cases h.order with
      | nothing supplied execution => exact .kept (by rw [execution]; rfl)
      | entry _ _ _ _ execution | assessment _ _ _ _ execution =>
          have hrows := Database.addIntent_rows execution
          exact @IntentStep.approved _ _ _ _ _ (approvedRow _ _ _) rfl hrows
  | repeated call h =>
      obtain ⟨bindings, ticks, h, -⟩ := h.frame
      exact .kept (by rw [h]; rfl)
  | completed call checked reserved frame =>
      obtain ⟨ticks, h, -⟩ := frame
      exact .kept (by rw [h]; rfl)
  | executed execution others h =>
      obtain ⟨db, hrun, h⟩ := h
      rw [h]
      exact run_intents hrun
  | surroundings call h => exact .kept (by rw [h]; rfl)

/-- Every intent that was ever claimed has its decision. -/
def ClaimsDecided (store : Store) : Prop :=
  ∀ intent ∈ store.execution.intents.rows, intent.state ≠ .approved →
    ∃ decision ∈ store.decisions.rows, Decides decision intent

theorem ClaimsDecided.step {now : Int} (h : ClaimsDecided store)
    (hstep : IntentStep settings store.database now after.execution)
    (hdecisions : Appends store.decisions.rows after.decisions.rows) : ClaimsDecided after := by
  have hkept : ∀ intent ∈ store.execution.intents.rows, intent.state ≠ .approved →
      ∃ decision ∈ after.decisions.rows, Decides decision intent := by
    intro intent hintent hstate
    obtain ⟨decision, hmem, hdecides⟩ := h intent hintent hstate
    exact ⟨decision, hdecisions.mem hmem, hdecides⟩
  intro intent hintent hstate
  -- Only a claim needs a new decision, and it has looked it up.
  cases hstep with
  | kept hsame =>
      rw [hsame] at hintent
      exact hkept intent hintent hstate
  | @approved row state rows =>
      rw [rows] at hintent
      rcases List.mem_append.mp hintent with hold | hnew
      · exact hkept intent hold hstate
      · rw [List.mem_singleton.mp hnew] at hstate
        exact absurd state hstate
  | @claimed row claim =>
      obtain ⟨actor, account, token, rows⟩ := claim.rows
      obtain ⟨approved, hread, horigin⟩ := claim.authorized
      obtain ⟨decision, hmem, hdecides⟩ := decides_of_origin hread horigin
      rw [rows] at hintent
      obtain ⟨old, hold, rfl⟩ := mem_modify.mp hintent
      cases hid : old.intentId == row.intentId with
      | true =>
          obtain rfl := eq_of_intentId hold claim.row_mem (beq_iff_eq.mp hid)
          exact ⟨decision, hdecisions.mem hmem, hdecides⟩
      | false =>
          rw [hid] at hstate
          exact hkept old hold hstate
  | @ended condition _ claimed rows =>
      rw [rows] at hintent
      obtain ⟨old, hold, rfl⟩ := mem_modify.mp hintent
      cases hcondition : condition old with
      | true =>
          have hclaimed : old.state ≠ .approved := by simp [claimed old hold hcondition]
          exact hkept old hold hclaimed
      | false =>
          rw [hcondition] at hstate
          exact hkept old hold hstate

/-- In every run an intent is claimed for a decision of the policy: one that was recorded for the
account and the policy of the intent, with an outcome that authorizes its action, on an input that
is recorded too, and as the only decision of the policy at its boundary. -/
theorem claims_decided (h : (repository settings serverAutonomyEnabled).Reachable world) :
    ∀ intent ∈ world.store.execution.intents.rows, intent.state ≠ .approved →
      ∃ decision ∈ world.store.decisions.rows, Decides decision intent ∧
        (∃ input ∈ world.store.snapshots.rows, input.snapshotId = decision.inputSnapshotId ∧
          inputBoundary input = decision.boundary) ∧
        ∀ other ∈ world.store.decisions.rows, other.boundary = decision.boundary →
          other.isAudit = false → other = decision := by
  have hclaims : ClaimsDecided world.store := by
    refine h.invariant (P := fun world => ClaimsDecided world.store) (fun {world} hinitial => ?_)
      fun {world transaction next} hworld hstep => ?_
    · rw [show world.store = {} from hinitial]
      exact fun intent hintent => absurd hintent List.not_mem_nil
    · rw [hstep.2]
      have heffect : Effect settings serverAutonomyEnabled world.store transaction
          (execute settings serverAutonomyEnabled transaction world.store) :=
        execute_effect transaction
      exact hworld.step heffect.intentStep heffect.grows.decisions
  obtain ⟨hlineage, -⟩ := lineage_of_reachable h
  intro intent hintent hstate
  obtain ⟨decision, hmem, hdecides⟩ := hclaims intent hintent hstate
  exact ⟨decision, hmem, hdecides, hlineage.inputs decision hmem, fun other hother hsame haudit =>
    hlineage.policy other hother decision hmem hsame haudit hdecides.policy⟩

end Claimed

section Rehearsed

open Rehearsal AgentRehearsal

attribute [local instance] agentDigest

/-- The calls that fund the account and claim the entry. -/
def claiming : List Transaction := [
  callAtTime (.execution (.captureBaseline .submission {
    equity := dollars 100000, capturedAt := fundedAt, accountFingerprint := fingerprint
    positionsHash := "", ordersHash := "", activitiesHash := "", clean := true })) (timeAt 1) 0,
  callAtTime (.execution (.claimIntent intentId .scheduler .submission fingerprint)) (timeAt 1) 20]

/-- In the rehearsal the entry is claimed, and its decision is on record. -/
theorem claims_decided_rehearsed :
    ∃ intent ∈ (worldAfter (decided ++ claiming)).store.execution.intents.rows,
      intent.state = .claimed ∧
      ∃ decision ∈ (worldAfter (decided ++ claiming)).store.decisions.rows,
        Decides decision intent := by
  have hplay : fitsAll (decided ++ claiming) = true ∧
      (worldAfter (decided ++ claiming)).store.execution.intents.rows.any
        (fun intent => intent.state == .claimed) = true := by
    decide +kernel
  obtain ⟨intent, hintent, hclaimed⟩ := List.any_eq_true.mp hplay.2
  have hstate : intent.state = .claimed := beq_iff_eq.mp hclaimed
  obtain ⟨decision, hmem, hdecides, -⟩ := claims_decided (reachable_worldAfter hplay.1) intent
    hintent (by simp [hstate])
  exact ⟨intent, hintent, hstate, decision, hmem, hdecides⟩

end Rehearsed

end AlphaDecay.Agent
