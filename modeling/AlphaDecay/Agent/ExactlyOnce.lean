import AlphaDecay.Agent.Lineage
import AlphaDecay.Agent.Rehearsal

/-!
# Ticks and decisions happen once

Callers reserve ticks, record decisions and complete ticks in any order, and retry as they like. A
key gets a token once, a completed tick stays as it is and answers every later completion alike, and
a boundary has one decision of the policy and one order.

The decision of a tick may change, though: a second new decision that is recorded with the token of
a reserved tick replaces the first. It never changes in a run in which every new decision is
recorded for a tick without one.
-/

namespace AlphaDecay.Agent

open Foundation Table

section Once

variable {settings : RepositorySettings} {serverAutonomyEnabled : Bool} {store after : Store}
  [Digest]
variable {world : World} {transaction : Transaction} {row : TickRow} {decision : DecisionRow}
  {labels : List Transaction}

variable {decisionId : Uuid} {later : World} {boundary : AccountRole × String × Int}

/-! ## Completed ticks -/

omit [Digest] in
/-- A grant that is found for a recorded decision stays the one that is found, and none is found
later where there was none. -/
theorem GrantsAppend.find? {Row : Type} {decisionOf : Row → Option Uuid} {rows later : List Row}
    (h : GrantsAppend decisionOf store rows later) (hdecision : decision ∈ store.decisions.rows) :
    later.find? (fun row => decisionOf row == some decision.decisionId) =
      rows.find? (fun row => decisionOf row == some decision.decisionId) := by
  obtain ⟨added, hlater, hfresh⟩ := h
  have hnone : added.find? (fun row => decisionOf row == some decision.decisionId) = none :=
    List.find?_eq_none.mpr fun row hrow hsame =>
      hfresh row hrow decision hdecision (beq_iff_eq.mp hsame)
  rw [hlater, List.find?_append, hnone, Option.or_none]

omit [Digest] in
/-- The intent of a recorded decision never changes. -/
theorem decisionIntentId_grows (hlineage : Lineage store) (hgrows : Grows store after)
    (hdecision : decision ∈ store.decisions.rows) :
    after.decisionIntentId decision.decisionId = store.decisionIntentId decision.decisionId := by
  unfold Store.decisionIntentId
  rw [hgrows.approvals.find? hdecision, hgrows.assessments.find? hdecision]
  split
  · rename_i approval hfound
    obtain ⟨intent, hintent⟩ := hlineage.approvals approval (List.mem_of_find?_eq_some hfound)
    obtain ⟨kept, hkept, hsame⟩ := hgrows.intents.find?
      (fun old new h => by rw [h.entryApprovalId]) hintent
    rw [hintent, hkept]
    exact congrArg some hsame.intentId
  · split
    · rename_i assessment hfound
      obtain ⟨intent, hintent⟩ := hlineage.assessments assessment
        (List.mem_of_find?_eq_some hfound)
      obtain ⟨kept, hkept, hsame⟩ := hgrows.intents.find?
        (fun old new h => by rw [h.assessmentCertificateId]) hintent
      rw [hintent, hkept]
      exact congrArg some hsame.intentId
    · rfl

omit [Digest] in
/-- The authorization that a certificate names stays the one that it names. -/
theorem originMatches_grows {certificate : ExecutionCertificate} {old new : ExecutionIntentRow}
    (hgrows : Grows store after) (hkept : IntentKept old new)
    (h : originMatches store certificate old decisionId = true) :
    originMatches after certificate new decisionId = true := by
  have happrovals : Appends store.approvals.rows after.approvals.rows := by
    obtain ⟨added, hrows, -⟩ := hgrows.approvals
    exact ⟨added, hrows⟩
  have hassessments : Appends store.assessments.rows after.assessments.rows := by
    obtain ⟨added, hrows, -⟩ := hgrows.assessments
    exact ⟨added, hrows⟩
  unfold originMatches at h ⊢
  rw [hkept.entryApprovalId, hkept.assessmentCertificateId, hkept.action]
  split at h
  · obtain ⟨approval, hfound, hmatches⟩ := (Option.any_eq_true _ _).mp h
    exact (Option.any_eq_true _ _).mpr ⟨approval, happrovals.find? hfound, hmatches⟩
  · obtain ⟨assessment, hfound, hmatches⟩ := (Option.any_eq_true _ _).mp h
    obtain ⟨certificateId, hid, hfound⟩ := Option.bind_eq_some_iff.mp hfound
    refine (Option.any_eq_true _ _).mpr ⟨assessment, ?_, hmatches⟩
    exact Option.bind_eq_some_iff.mpr ⟨certificateId, hid, hassessments.find? hfound⟩

omit [Digest] in
/-- A certificate that fits a decision keeps fitting it. -/
theorem certificateMatchesDecision_grows {certificateId : Uuid} {terminalCode : String}
    (hgrows : Grows store after)
    (h : certificateMatchesDecision store certificateId decisionId terminalCode = true) :
    certificateMatchesDecision after certificateId decisionId terminalCode = true := by
  unfold certificateMatchesDecision at h ⊢
  obtain ⟨certificate, hfound, h⟩ := (Option.any_eq_true _ _).mp h
  refine (Option.any_eq_true _ _).mpr ⟨certificate, hgrows.certificates.find? hfound, ?_⟩
  obtain ⟨hstatus, h⟩ := Bool.and_eq_true_iff.mp h
  obtain ⟨intent, hintent, h⟩ := (Option.any_eq_true _ _).mp h
  obtain ⟨hmatches, hfailed⟩ := Bool.and_eq_true_iff.mp h
  obtain ⟨kept, hkept, hsame⟩ := hgrows.intents.find?
    (fun old new h => by rw [h.intentId]) hintent
  refine Bool.and_eq_true_iff.mpr ⟨hstatus, (Option.any_eq_true _ _).mpr ⟨kept, hkept, ?_⟩⟩
  refine Bool.and_eq_true_iff.mpr ⟨originMatches_grows hgrows hsame hmatches, ?_⟩
  rw [hsame.action]
  exact hfailed

omit [Digest] in
/-- A terminal code that comes with what it needs keeps doing so. -/
theorem requireCertificate_grows {terminalCode : String} {certificateId : Option Uuid}
    (hlineage : Lineage store) (hgrows : Grows store after)
    (hdecision : decision ∈ store.decisions.rows)
    (h : requireCertificate store decision.decisionId terminalCode certificateId = .ok ()) :
    requireCertificate after decision.decisionId terminalCode certificateId = .ok () := by
  have hintent := decisionIntentId_grows hlineage hgrows hdecision
  cases certificateId with
  | none =>
      simp only [requireCertificate] at h ⊢
      rw [hintent]
      exact h
  | some certificateId =>
      simp only [requireCertificate, check_bind_ok, raiseIf_ok, Bool.not_eq_false'] at h ⊢
      rw [hintent]
      exact ⟨certificateMatchesDecision_grows hgrows h.1, h.2⟩

def TickRow.completion (row : TickRow) : Option Completion :=
  row.terminalCode.map fun terminalCode => {
    tickId := row.tickId
    reservationToken := row.reservationToken
    terminalCode
    decisionId := row.decisionId
    executionCertificateId := row.executionCertificateId }

/-- A tick was completed with a completion that still passes its checks. -/
def CompletedOnce (store : Store) (row : TickRow) : Prop :=
  row.status = .completed ∧ ∃ completion proofHash decision, row.completion = some completion ∧
    row.proofHash = some proofHash ∧ CompletionChecked store completion ⟨row, proofHash⟩ decision

/-- A completed tick is never changed. -/
theorem CompletedOnce.grows (hlineage : Lineage store) (hgrows : Grows store after)
    (h : CompletedOnce store row) : CompletedOnce after row := by
  obtain ⟨hcompleted, completion, proofHash, decision, hcompletion, hproof, hchecked⟩ := h
  obtain ⟨hmem, hid⟩ := lookup_some hchecked.tick
  obtain ⟨hdecision, -⟩ := lookup_some hchecked.decision_eq
  obtain ⟨change, added, hrows, hkept⟩ := hgrows.ticks
  have hstays : row ∈ after.ticks.rows := by
    rw [hrows]
    refine List.mem_append_left added (List.mem_map.mpr ⟨row, hmem, ?_⟩)
    exact (hkept row hmem).completed hcompleted
  exact ⟨hcompleted, completion, proofHash, decision, hcompletion, hproof, { hchecked with
    tick := tick_eq hstays hid
    decision_eq := hgrows.decisions.find? hchecked.decision_eq
    certificate := requireCertificate_grows hlineage hgrows hdecision hchecked.certificate }⟩

/-- Every completed tick was completed with a completion that still passes its checks. -/
def CompletedTicks (store : Store) : Prop :=
  ∀ row ∈ store.ticks.rows, row.status = .completed → CompletedOnce store row

/-- Ticks that were completed before stay completed as they are. -/
theorem CompletedTicks.grows (hlineage : Lineage store) (hgrows : Grows store after)
    (h : CompletedTicks store)
    (hold : ∀ row ∈ after.ticks.rows, row.status = .completed → row ∈ store.ticks.rows) :
    CompletedTicks after :=
  fun row hrow hcompleted =>
    (h row (hold row hrow hcompleted) hcompleted).grows hlineage hgrows

omit [Digest] in
/-- A tick that gets its decision was not completed. -/
theorem mem_withDecision {request : DecisionRequest} {tick : TickRow}
    (htick : requireReservedTick store request = .ok tick)
    (hrow : row ∈ withDecision tick.tickId decisionId store.ticks.rows)
    (hcompleted : row.status = .completed) : row ∈ store.ticks.rows := by
  obtain ⟨old, hold, heq⟩ := mem_modify.mp hrow
  rw [heq] at hcompleted ⊢
  split
  · rename_i hid
    have hkept : TickKept old { old with decisionId := some decisionId } :=
      withDecision_kept htick hold hid
    rw [if_pos hid] at hcompleted
    rw [hkept.completed hcompleted]
    exact hold
  · exact hold

/-- Every transaction keeps what is known of completed ticks. -/
theorem Effect.completedTicks (hlineage : Lineage store) (hticks : CompletedTicks store)
    (h : Effect settings serverAutonomyEnabled store transaction after) : CompletedTicks after := by
  have hgrows := h.grows
  have hsame : after.ticks = store.ticks → CompletedTicks after := by
    intro heq
    refine hticks.grows hlineage hgrows fun row hrow _ => ?_
    rw [heq] at hrow
    exact hrow
  cases h with
  | unchanged h => exact hsame (by rw [h])
  | reserved call frame =>
      obtain ⟨ticks, hinsert, h⟩ := frame
      refine hticks.grows hlineage hgrows fun row hrow hcompleted => ?_
      rw [h] at hrow
      have hrows : row ∈ ticks.rows := hrow
      rw [Checked.rows_insert hinsert] at hrows
      rcases List.mem_append.mp hrows with hold | hnew
      · exact hold
      · rw [List.mem_singleton.mp hnew] at hcompleted
        cases hcompleted
  | recorded call h =>
      refine hticks.grows hlineage hgrows fun row hrow hcompleted => ?_
      rw [h.ticks] at hrow
      exact mem_withDecision h.checked.tick_eq hrow hcompleted
  | repeated call h =>
      obtain ⟨bindings, ticks, hafter, hrows⟩ := h.frame
      refine hticks.grows hlineage hgrows fun row hrow hcompleted => ?_
      rw [hafter] at hrow
      have hmem : row ∈ ticks.rows := hrow
      rw [hrows] at hmem
      exact mem_withDecision h.checked.tick_eq hmem hcompleted
  | @completed completion rows call checked reserved frame =>
      obtain ⟨ticks, hafter, hrows⟩ := frame
      obtain ⟨decision, hchecked⟩ := checkCompletion_iff.mp checked
      obtain ⟨hdecision, -⟩ := lookup_some hchecked.decision_eq
      obtain ⟨-, htickId⟩ := lookup_some hchecked.tick
      intro row hrow hcompleted
      have hmem : row ∈ modify (fun row => row.tickId == completion.tickId)
          (completedRow completion rows.proofHash transaction.now) store.ticks.rows := by
        rw [← hrows]
        rw [hafter] at hrow
        exact hrow
      obtain ⟨old, hold, heq⟩ := mem_modify.mp hmem
      split at heq
      · rename_i hid
        have hsameTick : rows.row = old := Option.some.inj
          (hchecked.tick.symm.trans (tick_eq hold (beq_iff_eq.mp hid)))
        rw [← hsameTick] at heq
        refine ⟨hcompleted, completion, rows.proofHash, decision, ?_, ?_, ?_⟩
        · rw [heq]
          show some _ = some completion
          congr 1
          show ({ tickId := rows.row.tickId, reservationToken := rows.row.reservationToken,
                  terminalCode := completion.terminalCode, decisionId := rows.row.decisionId,
                  executionCertificateId := completion.executionCertificateId } : Completion) =
            completion
          rw [htickId, hchecked.token, hchecked.row_decision, ← hchecked.decisionId]
        · rw [heq]
          rfl
        · exact {
            terminalCode := hchecked.terminalCode
            tick := tick_eq hrow (by rw [heq]; exact htickId)
            token := by rw [heq]; exact hchecked.token
            row_decision := by rw [heq]; exact hchecked.row_decision
            decisionId := hchecked.decisionId
            decision_eq := hgrows.decisions.find? hchecked.decision_eq
            accountRole := by rw [heq]; exact hchecked.accountRole
            certificate := requireCertificate_grows hlineage hgrows hdecision hchecked.certificate
            proofHash := by
              rw [heq]
              exact hchecked.proofHash }
      · rw [heq] at hcompleted ⊢
        exact (hticks old hold hcompleted).grows hlineage hgrows
  | executed execution others h =>
      obtain ⟨db, -, h⟩ := h
      exact hsame (by rw [h])
  | surroundings call h => exact hsame (by rw [h])

/-- A completed tick answers its own completion with itself, and every other one with a failure. -/
theorem CompletedOnce.answers (h : CompletedOnce store row) {completion : Completion} {now : Int}
    (hid : completion.tickId = row.tickId) :
    if row.completion = some completion then
      completeTick store completion now = .ok (store, tickFromRow row false false)
    else ∃ failure, completeTick store completion now = .error failure := by
  obtain ⟨hcompleted, own, proofHash, decision, hown, hproof, hchecked⟩ := h
  split
  · rename_i hsame
    rw [hown] at hsame
    cases hsame
    have hrows : checkCompletion store completion = .ok ⟨row, proofHash⟩ :=
      checkCompletion_iff.mpr ⟨decision, hchecked⟩
    obtain ⟨code, hcode, hfields⟩ := Option.map_eq_some_iff.mp hown
    have hsame : sameCompletion row completion proofHash = true := by
      rw [← hfields]
      simp only [sameCompletion, hcode, hproof, beq_self_eq_true, Bool.and_self]
    unfold completeTick
    rw [hrows, ok_bind]
    show (if row.status = .completed then _ else _) = _
    rw [if_pos hcompleted, hsame]
    rfl
  · rename_i hother
    cases hresult : completeTick store completion now with
    | error failure => exact ⟨failure, rfl⟩
    | ok result =>
        obtain ⟨rows, hrows, hresult⟩ := bind_ok.mp hresult
        obtain ⟨found, hfound⟩ := checkCompletion_iff.mp hrows
        have hrow : rows.row = row := by
          have hmem := (lookup_some hchecked.tick).1
          exact Option.some.inj (hfound.tick.symm.trans (tick_eq hmem hid.symm))
        rw [if_pos (by rw [hrow]; exact hcompleted)] at hresult
        simp only [check_bind_ok, raiseIf_ok, Bool.not_eq_false', sameCompletion,
          Bool.and_eq_true, beq_iff_eq] at hresult
        obtain ⟨⟨⟨⟨hcode, hdecision⟩, hcertificate⟩, -⟩, -⟩ := hresult
        refine absurd ?_ hother
        rw [hrow] at hcode hdecision hcertificate
        have htoken : row.reservationToken = completion.reservationToken := by
          rw [← hrow]
          exact hfound.token
        unfold TickRow.completion
        rw [hcode, hdecision, hcertificate, htoken, ← hid]
        rfl

/-! ## Tokens and orders -/

/-- The account and key of the tick whose token a transaction returns. -/
def tokenOf (settings : RepositorySettings) (serverAutonomyEnabled : Bool) (world : World)
    (transaction : Transaction) : Option (AccountRole × String) :=
  match run settings serverAutonomyEnabled transaction world.store with
  | .ok (_, .tick tick) => tick.reservationToken.map fun _ => (tick.accountRole, tick.tickKey)
  | _ => none

/-- The boundary for which a transaction stores an order that comes from a decision. -/
def orderOf (settings : RepositorySettings) (serverAutonomyEnabled : Bool) (world : World)
    (transaction : Transaction) : Option (AccountRole × String × Int) :=
  match transaction.call with
  | .recordDecision request =>
      if (execute settings serverAutonomyEnabled transaction
          world.store).execution.intents.rows.length =
        world.store.execution.intents.rows.length then none else some request.boundary
  | _ => none

def IsReserved (key : AccountRole × String) (world : World) : Prop :=
  ∃ row ∈ world.store.ticks.rows, row.key = key

/-- A boundary has its decision of the policy. -/
def IsDecided (boundary : AccountRole × String × Int) (world : World) : Prop :=
  ∃ decision ∈ world.store.decisions.rows, decision.boundary = boundary ∧ decision.isAudit = false

/-- A token is returned for a key that was not reserved, and is reserved then. -/
theorem tokenOf_some {key : AccountRole × String}
    (h : tokenOf settings serverAutonomyEnabled world transaction = some key) :
    ¬ IsReserved key world ∧ IsReserved key {
      store := execute settings serverAutonomyEnabled transaction world.store
      clock := transaction.now } := by
  unfold tokenOf at h
  split at h
  · rename_i after tick hrun
    obtain ⟨token, htoken, hkey⟩ := Option.map_eq_some_iff.mp h
    obtain ⟨call, start, now, fresh⟩ := transaction
    cases call with
    | reserveTick reservation =>
        have hafter : execute settings serverAutonomyEnabled
            ⟨.reserveTick reservation, start, now, fresh⟩ world.store = after := by
          unfold execute
          rw [hrun]
        obtain ⟨⟨reserved, persisted⟩, hresult, hpair⟩ := map_ok.mp hrun
        cases hpair
        simp only [reserveTick, check_bind_ok] at hresult
        obtain ⟨-, -, hresult⟩ := hresult
        split at hresult
        · obtain ⟨existing, hexisting, hresult⟩ := map_ok.mp hresult
          cases hresult
          simp only [existingTick, check_bind_ok] at hexisting
          cases hexisting.2
          cases htoken
        · rename_i hfree
          simp only [reserveNew, check_bind_ok, require_bind_ok] at hresult
          obtain ⟨-, -, ticks, hinsert, hresult⟩ := hresult
          cases hresult
          subst hkey
          refine ⟨fun ⟨row, hrow, hsame⟩ => ?_, ?_⟩
          · exact List.find?_eq_none.mp hfree row hrow (beq_iff_eq.mpr hsame)
          · rw [hafter]
            refine ⟨reservation.row now fresh, ?_, rfl⟩
            show reservation.row now fresh ∈ ticks.rows
            rw [Checked.rows_insert hinsert]
            exact List.mem_append_right _ (List.mem_singleton_self _)
    | recordDecision request =>
        obtain ⟨pair, -, hpair⟩ := map_ok.mp hrun
        cases hpair
    | completeTick completion =>
        obtain ⟨⟨completed, persisted⟩, hresult, hpair⟩ := map_ok.mp hrun
        cases hpair
        obtain ⟨rows, -, hresult⟩ := bind_ok.mp hresult
        split at hresult
        · simp only [check_bind_ok] at hresult
          cases hresult.2
          cases htoken
        · simp only [require_bind_ok] at hresult
          obtain ⟨ticks, -, hresult⟩ := hresult
          cases hresult
          cases htoken
    | execution call =>
        obtain ⟨pair, -, hpair⟩ := map_ok.mp hrun
        cases hpair
    | surroundings surroundings => cases hrun
  · cases h

omit [Digest] in
/-- A key that is reserved stays so. -/
theorem IsReserved.grows {key : AccountRole × String} {next : World}
    (hgrows : Grows world.store next.store) (h : IsReserved key world) : IsReserved key next := by
  obtain ⟨row, hrow, hkey⟩ := h
  obtain ⟨change, added, hrows, hkept⟩ := hgrows.ticks
  refine ⟨change row, ?_, ?_⟩
  · rw [hrows]
    exact List.mem_append_left added (List.mem_map_of_mem hrow)
  · show ((change row).accountRole, (change row).tickKey) = key
    rw [(hkept row hrow).accountRole, (hkept row hrow).tickKey]
    exact hkey

omit [Digest] in
theorem IsDecided.grows {next : World} (hgrows : Grows world.store next.store)
    (h : IsDecided boundary world) : IsDecided boundary next := by
  obtain ⟨decision, hdecision, hfits⟩ := h
  exact ⟨decision, hgrows.decisions.mem hdecision, hfits⟩

/-- An order is stored for a boundary without a decision of the policy, which has one then. -/
theorem orderOf_some (hlineage : Lineage world.store)
    (h : orderOf settings serverAutonomyEnabled world transaction = some boundary) :
    ¬ IsDecided boundary world ∧ IsDecided boundary {
      store := execute settings serverAutonomyEnabled transaction world.store
      clock := transaction.now } := by
  unfold orderOf at h
  split at h
  · rename_i request hcall
    split at h
    · cases h
    rename_i hintents
    cases h
    have heffect : Effect settings serverAutonomyEnabled world.store transaction
        (execute settings serverAutonomyEnabled transaction world.store) :=
      execute_effect transaction
    generalize hafter : execute settings serverAutonomyEnabled transaction world.store = after
      at hintents heffect ⊢
    cases heffect with
    | unchanged h => exact absurd (by rw [h]) hintents
    | reserved call frame =>
        rw [hcall] at call
        cases call
    | @recorded recorded tick decisions call hfirst =>
        rw [hcall] at call
        cases call
        have hpolicy : isNonPolicyAudit request.decisionKind request.outcome = false := by
          cases hfirst.order with
          | nothing supplied execution approvals assessments =>
              exact absurd (by rw [execution]) hintents
          | entry authorized grant approvals assessments execution =>
              exact policy_of_grant hfirst.checked.values authorized.authorization_eq
                authorized.envelope_eq
          | assessment authorized grant approvals assessments execution =>
              exact policy_of_grant hfirst.checked.values authorized.authorization_eq
                authorized.envelope_eq
        refine ⟨fun ⟨decision, hdecision, hboundary, haudit⟩ => ?_, ?_⟩
        · rw [hfirst.policy_free hlineage hpolicy decision hdecision hboundary] at haudit
          cases haudit
        · refine ⟨request.decision transaction.now, ?_, rfl, hpolicy⟩
          show request.decision transaction.now ∈ after.decisions.rows
          rw [Checked.rows_insert hfirst.decisions]
          exact List.mem_append_right _ (List.mem_singleton_self _)
    | repeated call hrepeated =>
        obtain ⟨bindings, ticks, hsame, -⟩ := hrepeated.frame
        exact absurd (by rw [hsame]) hintents
    | completed call checked reserved frame =>
        rw [hcall] at call
        cases call
    | executed execution others h =>
        rw [hcall] at execution
        cases execution
    | surroundings call h =>
        rw [hcall] at call
        cases call
  · cases h

/-! ## The decision of a tick -/

/-- A decision that is recorded for a tick with a decision is one on an input that its boundary
already has. -/
def recordsOnce (world : World) (transaction : Transaction) : Bool :=
  match transaction.call with
  | .recordDecision request =>
      ((world.store.tick request.tickId).all fun tick => tick.decisionId.isNone) ||
      (boundaryInputs world.store request).any fun input =>
        input.inputHash == request.input.inputHash
  | _ => true

/-- Ticks keep the decisions that they have. -/
def TickDecisionsKept (store later : Store) : Prop :=
  ∀ tick ∈ store.ticks.rows, ∀ decisionId, tick.decisionId = some decisionId →
    ∃ kept ∈ later.ticks.rows, kept.tickId = tick.tickId ∧ kept.decisionId = some decisionId

omit [Digest] in
theorem TickDecisionsKept.trans {middle later : Store} (h : TickDecisionsKept store middle)
    (h' : TickDecisionsKept middle later) : TickDecisionsKept store later := by
  intro tick htick decisionId hdecision
  obtain ⟨kept, hkept, hid, hsame⟩ := h tick htick decisionId hdecision
  obtain ⟨last, hlast, hlastId, hlastSame⟩ := h' kept hkept decisionId hsame
  exact ⟨last, hlast, hlastId.trans hid, hlastSame⟩

omit [Digest] in
/-- Ticks keep their decisions when a change gives none another decision. -/
theorem TickDecisionsKept.of_modify {condition : TickRow → Bool} {change : TickRow → TickRow}
    (hrows : after.ticks.rows = modify condition change store.ticks.rows)
    (hkept : ∀ row ∈ store.ticks.rows, condition row = true → (change row).tickId = row.tickId ∧
      ∀ decisionId, row.decisionId = some decisionId → (change row).decisionId = some decisionId) :
    TickDecisionsKept store after := by
  intro tick htick decisionId hdecision
  rw [hrows]
  cases hcondition : condition tick with
  | true =>
      obtain ⟨hid, hsame⟩ := hkept tick htick hcondition
      exact ⟨change tick, change_mem_modify htick hcondition, hid, hsame decisionId hdecision⟩
  | false => exact ⟨tick, mem_modify_of_not htick hcondition, rfl, hdecision⟩

omit [Digest] in
theorem requireReservedTick_eq {request : DecisionRequest} {tick : TickRow}
    (htick : requireReservedTick store request = .ok tick) (hrow : row ∈ store.ticks.rows)
    (hid : (row.tickId == tick.tickId) = true) : row = tick := by
  obtain ⟨hmem, -⟩ := lookup_some (requireReservedTick_ok htick).1
  exact Option.some.inj ((tick_eq hrow (beq_iff_eq.mp hid)).symm.trans (tick_eq hmem rfl))

/-- A step that records no new decision for a tick with one keeps the decisions of ticks. -/
theorem Effect.tickDecisions {clock : Int}
    (hrecords : recordsOnce ⟨store, clock⟩ transaction = true)
    (h : Effect settings serverAutonomyEnabled store transaction after) :
    TickDecisionsKept store after := by
  have hsame : after.ticks = store.ticks → TickDecisionsKept store after := by
    intro heq tick htick decisionId hdecision
    rw [heq]
    exact ⟨tick, htick, rfl, hdecision⟩
  cases h with
  | unchanged h => exact hsame (by rw [h])
  | reserved call frame =>
      obtain ⟨ticks, hinsert, h⟩ := frame
      intro tick htick decisionId hdecision
      refine ⟨tick, ?_, rfl, hdecision⟩
      rw [h]
      show tick ∈ ticks.rows
      rw [Checked.rows_insert hinsert]
      exact List.mem_append_left _ htick
  | @recorded request tick decisions call hfirst =>
      have hfree : tick.decisionId = none := by
        unfold recordsOnce at hrecords
        rw [call] at hrecords
        rcases Bool.or_eq_true_iff.mp hrecords with hnone | hinput
        · have hfound := (requireReservedTick_ok hfirst.checked.tick_eq).1
          have hall : (some tick).all (fun tick => tick.decisionId.isNone) = true := by
            rw [← hfound]
            exact hnone
          exact Option.isNone_iff_eq_none.mp hall
        · obtain ⟨input, hmem, hhash⟩ := List.any_eq_true.mp hinput
          exact absurd (beq_iff_eq.mp hhash) (recordedAmong_others hfirst.recorded input hmem).1
      refine .of_modify hfirst.ticks fun row hrow hid => ⟨rfl, fun decisionId hdecision => ?_⟩
      rw [requireReservedTick_eq hfirst.checked.tick_eq hrow hid, hfree] at hdecision
      cases hdecision
  | @repeated request tick snapshot decision call hrepeated =>
      obtain ⟨bindings, ticks, hafter, hrows⟩ := hrepeated.frame
      have hmodified : after.ticks.rows =
          withDecision tick.tickId decision.decisionId store.ticks.rows := by
        rw [hafter]
        exact hrows
      refine .of_modify hmodified fun row hrow hid => ⟨rfl, fun decisionId hdecision => ?_⟩
      rw [requireReservedTick_eq hrepeated.checked.tick_eq hrow hid] at hdecision
      rcases hrepeated.tick_decision with hnone | hsome
      · rw [hnone] at hdecision
        cases hdecision
      · exact hsome.symm.trans hdecision
  | @completed completion rows call checked reserved frame =>
      obtain ⟨ticks, hafter, hrows⟩ := frame
      have hmodified : after.ticks.rows = modify (fun row => row.tickId == completion.tickId)
          (completedRow completion rows.proofHash transaction.now) store.ticks.rows := by
        rw [hafter]
        exact hrows
      exact .of_modify hmodified fun row _ _ => ⟨rfl, fun _ hsome => hsome⟩
  | executed execution others h =>
      obtain ⟨db, -, h⟩ := h
      exact hsame (by rw [h])
  | surroundings call h => exact hsame (by rw [h])

/-- A step that records a new decision for a tick with one changes the decision of the tick. -/
theorem recorded_changes {response : Response} (hlineage : Lineage world.store)
    (hrecords : recordsOnce world transaction = false)
    (h : run settings serverAutonomyEnabled transaction world.store = .ok (after, response)) :
    ¬ TickDecisionsKept world.store after := by
  unfold recordsOnce at hrecords
  split at hrecords
  · rename_i request hcall
    obtain ⟨hdecided, hnew⟩ := Bool.or_eq_false_iff.mp hrecords
    obtain ⟨persisted, hresult⟩ : ∃ persisted, recordDecision serverAutonomyEnabled world.store
        request transaction.now = .ok (after, persisted) := by
      obtain ⟨call, start, now, fresh⟩ := transaction
      cases hcall
      obtain ⟨⟨recorded, persisted⟩, hresult, hpair⟩ := map_ok.mp h
      cases hpair
      exact ⟨persisted, hresult⟩
    rcases recordDecision_record hresult with ⟨tick, decisions, hfirst⟩ |
      ⟨tick, snapshot, decision, hrepeated⟩
    · obtain ⟨hfound, -, -⟩ := requireReservedTick_ok hfirst.checked.tick_eq
      rw [hfound] at hdecided
      obtain ⟨hmem, hid⟩ := lookup_some hfound
      cases hdecision : tick.decisionId with
      | none =>
          have hnone : (some tick).all (fun tick => tick.decisionId.isNone) = true := by
            show tick.decisionId.isNone = true
            rw [hdecision]
            rfl
          rw [hnone] at hdecided
          cases hdecided
      | some decisionId =>
          intro hkept
          obtain ⟨kept, hkeptMem, hkeptId, hkeptDecision⟩ := hkept tick hmem decisionId hdecision
          rw [hfirst.ticks] at hkeptMem
          obtain ⟨old, hold, heq⟩ := mem_modify.mp hkeptMem
          obtain ⟨decision, hrecorded, hsame⟩ := hlineage.ticks tick hmem decisionId hdecision
          split at heq
          · rw [heq] at hkeptDecision
            exact hfirst.fresh decision hrecorded
              (hsame.trans (Option.some.inj hkeptDecision).symm)
          · rename_i hother
            rw [heq] at hkeptId
            exact hother (beq_iff_eq.mpr hkeptId)
    · obtain ⟨-, hinput, hhash⟩ := recordedAmong_same hrepeated.recorded
      exact absurd (beq_iff_eq.mpr hhash) (List.any_eq_false.mp hnew snapshot hinput)
  · cases hrecords

/-! ## Every run -/

/-- In a reachable world decisions have their lineage, and completed ticks their completions. -/
theorem lineage_of_reachable (h : (repository settings serverAutonomyEnabled).Reachable world) :
    Lineage world.store ∧ CompletedTicks world.store := by
  refine h.invariant (P := fun world => Lineage world.store ∧ CompletedTicks world.store)
    (fun {world} hinitial => ?_) fun {world transaction next} hworld hstep => ?_
  · have hempty : world.store = {} := hinitial
    rw [hempty]
    have hnone : ∀ {Row : Type} {row : Row}, row ∉ ([] : List Row) := List.not_mem_nil
    exact ⟨⟨fun _ h => absurd h hnone, fun _ h => absurd h hnone, fun _ h => absurd h hnone,
      fun _ h => absurd h hnone, fun _ h => absurd h hnone⟩, fun _ h => absurd h hnone⟩
  · rw [hstep.2]
    have heffect : Effect settings serverAutonomyEnabled world.store transaction
        (execute settings serverAutonomyEnabled transaction world.store) :=
      execute_effect transaction
    exact ⟨heffect.lineage hworld.1, heffect.completedTicks hworld.1 hworld.2⟩

theorem step_grows {next : World}
    (h : (repository settings serverAutonomyEnabled).step world transaction next) :
    Grows world.store next.store := by
  have heffect : Effect settings serverAutonomyEnabled world.store transaction
      (execute settings serverAutonomyEnabled transaction world.store) := execute_effect transaction
  rw [h.2]
  exact heffect.grows

/-- At every boundary there is one decision of the policy at most, then and later. -/
def PolicyOnce (store later : Store) : Prop :=
  ∀ left ∈ store.decisions.rows, ∀ right ∈ later.decisions.rows, left.boundary = right.boundary →
    left.isAudit = false → right.isAudit = false → left = right

/-- Completed ticks stay as they are. Repeating the completion of one returns it, and completing it
in another way fails. -/
def CompletedKept (store later : Store) : Prop :=
  ∀ row ∈ store.ticks.rows, row.status = .completed → row ∈ later.ticks.rows ∧
    ∀ completion now, completion.tickId = row.tickId →
      if row.completion = some completion then
        completeTick later completion now = .ok (later, tickFromRow row false false)
      else ∃ failure, completeTick later completion now = .error failure

/-- Decisions that are recorded stay recorded. -/
theorem decisions_run (hrun : (repository settings serverAutonomyEnabled).Run world labels later) :
    ∀ decision ∈ world.store.decisions.rows, decision ∈ later.store.decisions.rows := by
  intro decision hdecision
  exact hrun.preserves (P := fun world => decision ∈ world.store.decisions.rows)
    (fun hmem hstep => (step_grows hstep).decisions.mem hmem) hdecision

/-- Completed ticks stay completed with their completions. -/
theorem completedOnce_run (hreach : (repository settings serverAutonomyEnabled).Reachable world)
    (hrun : (repository settings serverAutonomyEnabled).Run world labels later)
    (h : CompletedOnce world.store row) : CompletedOnce later.store row := by
  have hkeeps := hrun.preserves
    (P := fun world => (repository settings serverAutonomyEnabled).Reachable world ∧
      CompletedOnce world.store row) (fun {state label next} hstate hstep => ?_) ⟨hreach, h⟩
  · exact hkeeps.2
  · exact ⟨hstate.1.run (.single hstep),
      hstate.2.grows (lineage_of_reachable hstate.1).1 (step_grows hstep)⟩

theorem tickDecisions_run
    (hrun : ((repository settings serverAutonomyEnabled).restrict fun world transaction =>
      recordsOnce world transaction = true).Run world labels later) :
    TickDecisionsKept world.store later.store := by
  induction hrun with
  | refl => exact fun tick htick _ hdecision => ⟨tick, htick, rfl, hdecision⟩
  | snoc run step ih =>
      obtain ⟨hrecords, -, hnext⟩ := step
      rw [hnext]
      exact ih.trans ((execute_effect _).tickDecisions hrecords)

/-- A key gets its token once. -/
theorem token_once : (repository settings serverAutonomyEnabled).AtMostOnce
    (tokenOf settings serverAutonomyEnabled) := by
  apply System.AtMostOnce.of_mark (I := fun _ => True) (P := IsReserved)
  · exact fun _ => trivial
  · intro world transaction next key _ hstep htoken
    rw [hstep.2]
    exact (tokenOf_some htoken).2
  · exact fun hmark hstep => hmark.grows (step_grows hstep)
  · exact fun _ hmark htoken => (tokenOf_some htoken).1 hmark

/-- A boundary gets its order once. -/
theorem order_once : (repository settings serverAutonomyEnabled).AtMostOnce
    (orderOf settings serverAutonomyEnabled) := by
  apply System.AtMostOnce.of_mark (I := fun world => Lineage world.store) (P := IsDecided)
  · exact fun hreach => (lineage_of_reachable hreach).1
  · intro world transaction next boundary hlineage hstep horder
    rw [hstep.2]
    exact (orderOf_some hlineage horder).2
  · exact fun hmark hstep => hmark.grows (step_grows hstep)
  · exact fun hlineage hmark horder => (orderOf_some hlineage horder).1 hmark

variable (settings serverAutonomyEnabled) in
/-- In every run a key gets its token once, a boundary its order and its decision of the policy
once, and a tick its completion once. A tick keeps its decision in every run whose new decisions
are recorded for ticks without one, and loses it to every other new decision. -/
theorem decisions_exactly_once :
    (repository settings serverAutonomyEnabled).AtMostOnce
      (tokenOf settings serverAutonomyEnabled) ∧
    (repository settings serverAutonomyEnabled).AtMostOnce
      (orderOf settings serverAutonomyEnabled) ∧
    ∀ world, (repository settings serverAutonomyEnabled).Reachable world →
      (∀ labels later, (repository settings serverAutonomyEnabled).Run world labels later →
        PolicyOnce world.store later.store ∧ CompletedKept world.store later.store) ∧
      (∀ labels later, ((repository settings serverAutonomyEnabled).restrict
        fun world transaction => recordsOnce world transaction = true).Run world labels later →
          TickDecisionsKept world.store later.store) ∧
      ∀ transaction after response, recordsOnce world transaction = false →
        run settings serverAutonomyEnabled transaction world.store = .ok (after, response) →
          ¬ TickDecisionsKept world.store after := by
  refine ⟨token_once, order_once, fun world hreach => ⟨fun labels later hrun => ⟨?_, ?_⟩,
    fun labels later hrun => tickDecisions_run hrun, fun transaction after response hrecords hrun =>
    recorded_changes (lineage_of_reachable hreach).1 hrecords hrun⟩⟩
  · intro left hleft right hright
    exact (lineage_of_reachable (hreach.run hrun)).1.policy left (decisions_run hrun left hleft)
      right hright
  · intro row hrow hcompleted
    have hlater : CompletedOnce later.store row := completedOnce_run hreach hrun
      ((lineage_of_reachable hreach).2 row hrow hcompleted)
    obtain ⟨completion, proofHash, decision, hown, hproof, hchecked⟩ := hlater.2
    exact ⟨(lookup_some hchecked.tick).1, fun other now hid => hlater.answers hid⟩

end Once

/-! ## In the rehearsal -/

section Rehearsed

open Rehearsal AgentRehearsal

attribute [local instance] agentDigest

/-- The call that records a decision at a later boundary with the token of the same tick. -/
def replacing : Transaction := callAtTime (.recordDecision (noTrade "tick" (timeAt 1))) (timeAt 2) 0

/-- The transactions of the rehearsal fit the clock. The first returns a token, the second stores
an order, and the completion keeps the decision of the tick. -/
theorem rehearsal_fits :
    (fitsAll registered = true ∧ fits (fun _ _ => true) (worldAfter registered) reserving = true ∧
      tokenOf settings true (worldAfter registered) reserving = some (.submission, "tick")) ∧
    (fitsAll reserved = true ∧ fits (fun _ _ => true) (worldAfter reserved) deciding = true ∧
      orderOf settings true (worldAfter reserved) deciding =
        some (.submission, "OPPORTUNITY", timeAt 0)) ∧
    fitsAll decided = true ∧
    System.allAlong (World.after settings true) (fits recordsOnce) (worldAfter decided)
      [completing] = true ∧
    ((worldAfter (decided ++ [completing])).store.ticks.rows.any fun row =>
      row.status == .completed) = true := by
  decide +kernel

/-- Before the account is registered a tick gets no token. -/
example : tokenOf settings true (worldAfter []) reserving = none := by decide +kernel

theorem replacing_commits : commits (worldAfter decided) replacing = true ∧
    recordsOnce (worldAfter decided) replacing = false ∧
    fits (fun _ _ => true) (worldAfter decided) replacing = true := by
  decide +kernel

/-- In the rehearsal the tick gets one token and one order, keeps its decision until it is completed
and its completion afterwards, and loses its decision to a later one. -/
theorem decisions_exactly_once_rehearsed :
    (∀ again, tokenOf settings true (worldAfter decided) again ≠ some (.submission, "tick")) ∧
    (∀ again, orderOf settings true (worldAfter decided) again ≠
      some (.submission, "OPPORTUNITY", timeAt 0)) ∧
    TickDecisionsKept (worldAfter decided).store (worldAfter (decided ++ [completing])).store ∧
    CompletedKept (worldAfter (decided ++ [completing])).store
      (worldAfter (decided ++ [completing])).store ∧
    ¬ TickDecisionsKept (worldAfter decided).store (worldAfter (decided ++ [replacing])).store := by
  obtain ⟨⟨hregistered, hreserving, htoken⟩, ⟨hreserved, hdeciding, horder⟩, hdecided,
    hcompleting, -⟩ := rehearsal_fits
  obtain ⟨htokens, horders, hruns⟩ := decisions_exactly_once settings true
  have hdecide := step_worldAfter hdeciding
  have hreach := reachable_worldAfter hdecided
  have hcomplete := run_worldAfter hcompleting
  obtain ⟨-, hkept, hreplaced⟩ := hruns (worldAfter decided) hreach
  obtain ⟨hcompletedRuns, -⟩ := hruns _ (hreach.run hcomplete.of_restrict)
  obtain ⟨response, hcommits⟩ := exists_commit replacing_commits.1
  refine ⟨fun again => ?_, fun again => ?_, ?_, ?_, ?_⟩
  · exact htokens (reachable_worldAfter hregistered) (step_worldAfter hreserving) htoken
      (.single hdecide)
  · exact horders (reachable_worldAfter hreserved) hdecide horder (.refl _)
  · exact hkept _ _ hcomplete
  · exact (hcompletedRuns _ _ (.refl _)).2
  · exact hreplaced _ _ _ replacing_commits.2.1 hcommits

/-- In the rehearsal a tick has the decision of its entry, and a decision at a later boundary that
is recorded with the same token takes its place. -/
theorem tickDecision_replaced :
    ∃ world transaction next, (repository settings true).Reachable world ∧
      (repository settings true).step world transaction next ∧
      ∃ tick ∈ world.store.ticks.rows, ∃ decisionId, tick.decisionId = some decisionId ∧
        ¬ ∃ kept ∈ next.store.ticks.rows, kept.tickId = tick.tickId ∧
          kept.decisionId = some decisionId := by
  obtain ⟨hcommits, hrecords, hfits⟩ := replacing_commits
  have hreach := reachable_worldAfter rehearsal_fits.2.2.1
  obtain ⟨response, hrun⟩ := exists_commit hcommits
  have hchanged := recorded_changes (lineage_of_reachable hreach).1 hrecords hrun
  simp only [TickDecisionsKept, not_forall] at hchanged
  obtain ⟨tick, hmem, decisionId, hdecision, hlost⟩ := hchanged
  exact ⟨_, replacing, _, hreach, step_worldAfter hfits, tick, hmem, decisionId, hdecision, hlost⟩

end Rehearsed

end AlphaDecay.Agent
