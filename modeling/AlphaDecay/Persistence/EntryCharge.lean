import AlphaDecay.Persistence.FinalRehearsal
import AlphaDecay.Persistence.MemoryCharge
import AlphaDecay.Persistence.StateChain

/-!
# Charging a filled entry in the database

A claimed entry has reserved its loss in the budget of its account, and no transaction between the
claim and the finalization touches the reservation or what the budget has used. At the finalization
the limits are checked again, and of everything that they look at only the equity of the account
can have moved.
-/

namespace AlphaDecay

open Foundation Table

section Reserved

variable {settings : RepositorySettings} {db after : Database}
variable {row : ExecutionIntentRow} {role : AccountRole} {limits : Option EntryBudgetLimits}
  {intent : ExecutionIntent}

variable {now : Int} {intentId : Uuid}

/-! ## Reservations -/

structure Reserves (limits : Option EntryBudgetLimits) (budget : CompetitionEntryBudgetRow)
    (row : ExecutionIntentRow) : Prop where
  role : budget.accountRole = row.accountRole
  intent : budget.reservedIntentId = some row.intentId
  risk : budget.reservedRisk.value = row.approvedMaxLoss.value
  allowed : ∃ required, limits = some required ∧ ∀ account,
    required.Allows (proposedEntryOf row account budget)

def ClaimsReserved (limits : Option EntryBudgetLimits) (db : Database) : Prop :=
  ∀ row ∈ db.intents.rows, row.state = .claimed → row.action = .entry →
    ∃ budget ∈ db.budgets.rows, Reserves limits budget row

/-- Every claim was there before, and the budget of its account stays. -/
def KeepsClaims (db after : Database) : Prop :=
  ∀ row ∈ after.intents.rows, row.state = .claimed → row ∈ db.intents.rows ∧
    ∀ budget ∈ db.budgets.rows, budget.accountRole = row.accountRole →
      budget ∈ after.budgets.rows

/-- The claims of an account are one. -/
theorem eq_of_claimed {other : ExecutionIntentRow} (hrow : row ∈ db.intents.rows)
    (hother : other ∈ db.intents.rows) (hclaimed : row.state = .claimed)
    (hotherClaimed : other.state = .claimed) (hrole : row.accountRole = other.accountRole) :
    row = other := by
  have hunique : Unique ExecutionIntentRow.lease db.intents.rows := by
    refine db.intents.unique fun left right hclash => ?_
    simp only [intentSchema, Bool.or_eq_false_iff] at hclash
    exact hclash.1.1.2
  have hlease : row.lease = some row.accountRole := if_pos hclaimed
  have hotherLease : other.lease = some row.accountRole := by
    rw [ExecutionIntentRow.lease, if_pos hotherClaimed, hrole]
  exact hunique.eq hrow hother hlease hotherLease

/-- An account has one budget. -/
theorem eq_of_budgetRole {budget other : CompetitionEntryBudgetRow}
    (hbudget : budget ∈ db.budgets.rows) (hother : other ∈ db.budgets.rows)
    (hrole : budget.accountRole = other.accountRole) : budget = other := by
  have hunique : Unique (fun row : CompetitionEntryBudgetRow => some row.accountRole)
      db.budgets.rows := by
    refine db.budgets.unique fun left right hclash => ?_
    simpa [budgetSchema, clashOn] using hclash
  exact hunique.eq hbudget hother rfl (congrArg some hrole.symm)

theorem ClaimsReserved.of_keeps (h : ClaimsReserved limits db) (hkeeps : KeepsClaims db after) :
    ClaimsReserved limits after := by
  intro row hrow hclaimed hentry
  obtain ⟨hold, hbudgets⟩ := hkeeps row hrow hclaimed
  obtain ⟨budget, hbudget, hreserves⟩ := h row hold hclaimed hentry
  exact ⟨budget, hbudgets budget hbudget hreserves.role, hreserves⟩

theorem KeepsClaims.of_writes {names : List TableName} (h : WritesOnly names db after)
    (hintents : names.contains .intents = false) (hbudgets : names.contains .budgets = false) :
    KeepsClaims db after := by
  have hsame : after.intents = db.intents := h .intents hintents
  have hsameBudgets : after.budgets = db.budgets := h .budgets hbudgets
  intro row hrow _
  exact ⟨hsame ▸ hrow, fun budget hbudget _ => hsameBudgets ▸ hbudget⟩

/-- Claims are kept where an intent is added that is not claimed. -/
theorem KeepsClaims.of_added (hwrites : WritesOnly [.intents] db after)
    (hrows : after.intents.rows = db.intents.rows ++ [row]) (hstate : row.state ≠ .claimed) :
    KeepsClaims db after := by
  have hbudgets : after.budgets = db.budgets := hwrites .budgets rfl
  intro found hfound hclaimed
  rw [hrows] at hfound
  rcases List.mem_append.mp hfound with hold | hnew
  · exact ⟨hold, fun budget hbudget _ => hbudgets ▸ hbudget⟩
  · rw [List.mem_singleton.mp hnew] at hclaimed
    exact absurd hclaimed hstate

/-- Claims are kept where the claim of an account ends and its budget changes. -/
theorem KeepsClaims.of_ended {change : CompetitionEntryBudgetRow → CompetitionEntryBudgetRow}
    {finish : ExecutionIntentRow → ExecutionIntentRow} (hrow : row ∈ db.intents.rows)
    (hclaimed : row.state = .claimed)
    (hintents : after.intents.rows =
      modify (fun found => found.intentId == row.intentId) finish db.intents.rows)
    (hfinish : ∀ found, (finish found).state ≠ .claimed)
    (hbudgets : after.budgets.rows =
      modify (fun budget => budget.accountRole == row.accountRole) change db.budgets.rows) :
    KeepsClaims db after := by
  intro found hfound hstill
  rw [hintents] at hfound
  obtain ⟨old, hold, rfl⟩ := mem_modify.mp hfound
  cases hid : old.intentId == row.intentId with
  | true =>
      rw [hid, if_pos rfl] at hstill
      exact absurd hstill (hfinish old)
  | false =>
      rw [hid] at hstill
      refine ⟨hold, fun budget hbudget hrole => ?_⟩
      rw [hbudgets]
      refine mem_modify_of_not hbudget ?_
      rw [beq_eq_false_iff_ne]
      -- The account has no second claim.
      intro hsame
      have heq := eq_of_claimed hold hrow hstill hclaimed (hrole.symm.trans hsame)
      rw [heq, beq_self_eq_true] at hid
      cases hid

/-! ## Transactions that keep claims -/

theorem registerAccount_claims {fingerprint : String} {equity : Decimal}
    (h : registerAccount db role fingerprint equity = .ok after) : KeepsClaims db after := by
  simp only [registerAccount, check_bind_ok] at h
  obtain ⟨-, h⟩ := h
  split at h
  · simp only [check_bind_ok] at h
    have hwrites : WritesOnly [.accounts] db after := Database.changeAccount_writes h.2 rfl
    exact .of_writes hwrites rfl rfl
  · simp only [check_bind_ok, require_bind_ok] at h
    obtain ⟨-, accounts, -, budgets, hinsert, h⟩ := h
    cases h
    intro row hrow _
    refine ⟨hrow, fun budget hbudget _ => ?_⟩
    show budget ∈ budgets.rows
    rw [Checked.rows_insert hinsert]
    exact List.mem_append_left _ hbudget

/-- The release of a claim keeps the claims of other accounts. -/
theorem releaseUnsubmittedClaim_claims (h : releaseUnsubmittedClaim db intentId = .ok after) :
    KeepsClaims db after := by
  simp only [releaseUnsubmittedClaim, require_bind_ok, check_bind_ok, raiseIf_ok,
    Bool.or_eq_false_iff, bne_eq_false_iff_eq] at h
  obtain ⟨row, hrow, ⟨hclaimed, -⟩, h⟩ := h
  obtain ⟨middle, hbudget, h⟩ := bind_ok.mp h
  obtain ⟨hmem, hid⟩ := lookup_some hrow
  have hfirst : WritesOnly [.budgets] db middle := Database.changeBudget_writes hbudget rfl
  have hsecond : WritesOnly [.intents] middle after := Database.changeIntent_writes h rfl
  have hintents := Database.changeIntent_rows h
  rw [show middle.intents = db.intents from hfirst .intents rfl, ← hid] at hintents
  have hbudgets := Database.changeBudget_rows hbudget
  rw [← show after.budgets = middle.budgets from hsecond .budgets rfl] at hbudgets
  refine .of_ended hmem hclaimed hintents (fun found hstate => ?_) hbudgets
  cases hstate

/-- The end of claims that ran out keeps the other claims. -/
theorem expireUnsubmittedClaims_claims {ids : List Uuid}
    (h : expireUnsubmittedClaims db role now = .ok (after, ids)) : KeepsClaims db after := by
  simp only [expireUnsubmittedClaims, check_bind_ok] at h
  obtain ⟨-, h⟩ := h
  obtain ⟨middle, hbudget, h⟩ := bind_ok.mp h
  simp only [require_bind_ok] at h
  obtain ⟨intents, hupdate, h⟩ := h
  cases h
  have hfirst : WritesOnly [.budgets] db middle := Database.changeBudget_writes hbudget rfl
  have hintents := Checked.rows_update hupdate
  have hexpiry : isExpiredUnsubmitted middle role now = isExpiredUnsubmitted db role now := by
    funext row
    simp only [isExpiredUnsubmitted, show middle.attempts = db.attempts from hfirst .attempts rfl]
  rw [show middle.intents = db.intents from hfirst .intents rfl, hexpiry] at hintents
  have hbudgets := Database.changeBudget_rows hbudget
  intro found hfound hstill
  change found ∈ intents.rows at hfound
  rw [hintents] at hfound
  obtain ⟨old, hold, rfl⟩ := mem_modify.mp hfound
  cases hexpired : isExpiredUnsubmitted db role now old with
  | true =>
      rw [hexpired, if_pos rfl] at hstill
      cases hstill
  | false =>
      rw [hexpired] at hstill
      refine ⟨hold, fun budget hmem hrole => ?_⟩
      show budget ∈ middle.budgets.rows
      rw [hbudgets]
      cases hcondition : budget.accountRole == role with
      | false => exact mem_modify_of_not hmem hcondition
      | true =>
          -- The claim that stays is the only one of the account, so that none ran out.
          have hnone : db.intents.rows.filter (isExpiredUnsubmitted db role now) = [] := by
            rw [List.filter_eq_nil_iff]
            intro other hother hgone
            have hclaim := hgone
            simp only [isExpiredUnsubmitted, Bool.and_eq_true, beq_iff_eq] at hclaim
            have hsame := eq_of_claimed hold hother hstill hclaim.1.1.2
              (hrole.symm.trans ((beq_iff_eq.mp hcondition).trans hclaim.1.1.1.symm))
            rw [hsame, hgone] at hexpired
            cases hexpired
          rw [hnone]
          exact mem_modify.mpr ⟨budget, hmem, by rw [if_pos hcondition]; rfl⟩

/-- The recovery of a reservation writes what is there. -/
theorem ClaimsReserved.recoverReservation (h : ClaimsReserved limits db)
    (hrow : row ∈ db.intents.rows) (hclaimed : row.state = .claimed) (hentry : row.action = .entry)
    (hrecover : recoverReservation db row = .ok after) : ClaimsReserved limits after := by
  simp only [AlphaDecay.recoverReservation, check_bind_ok] at hrecover
  obtain ⟨-, hchange⟩ := hrecover
  have hwrites : WritesOnly [.budgets] db after := Database.changeBudget_writes hchange rfl
  have hintents : after.intents = db.intents := hwrites .intents rfl
  have hbudgets := Database.changeBudget_rows hchange
  intro other hother hstill hopen
  rw [hintents] at hother
  obtain ⟨budget, hbudget, hreserves⟩ := h other hother hstill hopen
  rw [hbudgets]
  cases hcondition : budget.accountRole == row.accountRole with
  | false => exact ⟨budget, mem_modify_of_not hbudget hcondition, hreserves⟩
  | true =>
      have hsame := eq_of_claimed hother hrow hstill hclaimed
        (hreserves.role.symm.trans (beq_iff_eq.mp hcondition))
      subst hsame
      exact ⟨_, change_mem_modify hbudget hcondition, {
        role := hreserves.role
        intent := rfl
        risk := rfl
        allowed := hreserves.allowed }⟩

/-- The recovery of all reservations keeps them. -/
theorem ClaimsReserved.recoverReservations {rows : List ExecutionIntentRow}
    (h : ClaimsReserved limits db)
    (hrows : ∀ row ∈ rows, row ∈ db.intents.rows ∧ row.state = .claimed ∧ row.action = .entry)
    (hrecover : rows.foldlM AlphaDecay.recoverReservation db = .ok after) :
    ClaimsReserved limits after := by
  induction rows generalizing db with
  | nil =>
      cases hrecover
      exact h
  | cons row rest ih =>
      rw [List.foldlM_cons] at hrecover
      obtain ⟨middle, hfirst, hrest⟩ := bind_ok.mp hrecover
      obtain ⟨hmem, hclaimed, hentry⟩ := hrows row (List.mem_cons_self ..)
      have hintents : middle.intents = db.intents := by
        simp only [AlphaDecay.recoverReservation, check_bind_ok] at hfirst
        have hwrites : WritesOnly [.budgets] db middle :=
          Database.changeBudget_writes hfirst.2 rfl
        exact hwrites .intents rfl
      refine ih (h.recoverReservation hmem hclaimed hentry hfirst) (fun other hother => ?_) hrest
      rw [hintents]
      exact hrows other (List.mem_cons_of_mem _ hother)

variable [Digest]

/-- An intent repeats its row, and its envelope repeats the columns. -/
structure OfRow (row : ExecutionIntentRow) (intent : ExecutionIntent) : Prop where
  intentId : intent.intentId = row.intentId
  accountRole : intent.accountRole = row.accountRole
  action : intent.envelope.action = row.action
  policyHash : intent.envelope.policyHash = row.policyHash
  quantity : intent.envelope.quantity = row.quantity
  loss : intent.envelope.approvedMaxLoss.value = row.approvedMaxLoss.value

/-- An intent that is read repeats its row. -/
theorem intentFromRow_ofRow (h : intentFromRow db row = .ok intent) : OfRow row intent := by
  simp only [intentFromRow, require_bind_ok, check_bind_ok, raiseIf_ok, Bool.not_eq_false',
    ExecutionIntentRow.matchesEnvelope, Bool.and_eq_true, beq_iff_eq] at h
  obtain ⟨account, -, hmatches, h⟩ := h
  cases h
  exact {
    intentId := rfl
    accountRole := rfl
    action := hmatches.1.1.1.1.1.1.1.1.1.1.1.1.1.1.1.1.2
    policyHash := hmatches.1.1.1.1.1.1.1.1.1.1.1.1.1.1.1.2
    quantity := hmatches.1.1.1.1.1.1.1.1.1.1.1.2
    loss := Decimal.beq_iff_value.mp hmatches.1.1.1.1.1.1.1.1.2 }

theorem approveIntent_claims {envelope : OrderEnvelope}
    (h : approveIntent db intentId role envelope = .ok (after, intent)) : KeepsClaims db after := by
  have hwrites := approveIntent_writes h
  simp only [approveIntent, check_bind_ok] at h
  obtain ⟨-, h⟩ := h
  split at h
  · unfold sameIntent at h
    obtain ⟨found, -, h⟩ := bind_ok.mp h
    simp only [check_bind_ok] at h
    cases h.2
    exact fun row hrow _ => ⟨hrow, fun budget hbudget _ => hbudget⟩
  · simp only [conflictAs_ok, approveNew, check_bind_ok] at h
    obtain ⟨-, -, h⟩ := h
    obtain ⟨middle, hadd, h⟩ := bind_ok.mp h
    obtain ⟨approved, -, h⟩ := bind_ok.mp h
    cases h
    exact .of_added hwrites (Database.addIntent_rows hadd) (by rintro ⟨⟩)

/-- A claim reserves an entry and leaves the other reservations alone. -/
theorem claimIntent_claims {actor : Actor} {fingerprint : String} {token : Uuid}
    (h : claimIntent settings db intentId actor role fingerprint now token = .ok (after, intent))
    (hreserved : ClaimsReserved settings.entryLimits db) :
    ClaimsReserved settings.entryLimits after := by
  simp only [claimIntent, check_bind_ok, require_bind_ok, raiseIf_ok, bne_eq_false_iff_eq] at h
  obtain ⟨row, hrow, hrole, account, -, -, budget, hbudget, -, -, hfree, h⟩ := h
  obtain ⟨approved, happroved, h⟩ := bind_ok.mp h
  simp only [check_bind_ok] at h
  obtain ⟨-, -, h⟩ := h
  obtain ⟨held, hheld, h⟩ := bind_ok.mp h
  obtain ⟨counted, hcounted, h⟩ := bind_ok.mp h
  obtain ⟨claimed, hclaimed, h⟩ := bind_ok.mp h
  obtain ⟨result, -, h⟩ := bind_ok.mp h
  cases h
  obtain ⟨hmem, hid⟩ := lookup_some hrow
  obtain ⟨hbudgetMem, hbudgetRole⟩ := lookup_some hbudget
  have hofRow := intentFromRow_ofRow happroved
  have hsameRole : approved.accountRole = role := hofRow.accountRole.trans hrole
  have hcount : WritesOnly [.accounts] held counted := Database.changeAccount_writes hcounted rfl
  have hclaim : WritesOnly [.intents] counted after := Database.changeIntent_writes hclaimed rfl
  have hbudgets : after.budgets = held.budgets :=
    (hcount .budgets rfl).trans (hclaim .budgets rfl)
  have hheldIntents : held.intents = db.intents := by
    unfold reserveIfEntry at hheld
    split at hheld
    · simp only [reserveEntry, check_bind_ok] at hheld
      have hwrites : WritesOnly [.budgets] db held :=
        Database.changeBudget_writes hheld.2.2.2 rfl
      exact hwrites .intents rfl
    · cases hheld
      rfl
  have hintents := Database.changeIntent_rows hclaimed
  rw [show counted.intents = held.intents from hcount .intents rfl, hheldIntents] at hintents
  have hother : ∀ other ∈ db.intents.rows, other.state = .claimed →
      other.accountRole ≠ role := by
    intro other hother hstate hsame
    have hany : (db.intents.rows.any fun other =>
        other.accountRole == role && other.state == .claimed) = true := by
      rw [List.any_eq_true]
      exact ⟨other, hother, by rw [hsame, hstate]; simp⟩
    rw [hany] at hfree
    cases hfree
  intro found hfound hstill hentry
  rw [hintents] at hfound
  obtain ⟨old, hold, rfl⟩ := mem_modify.mp hfound
  rw [hbudgets]
  cases hsame : old.intentId == intentId with
  | false =>
      -- Another claim belongs to another account, whose budget stays.
      rw [hsame] at hstill hentry
      obtain ⟨kept, hkept, hreserves⟩ := hreserved old hold hstill hentry
      refine ⟨kept, ?_, hreserves⟩
      unfold reserveIfEntry at hheld
      split at hheld
      · simp only [reserveEntry, check_bind_ok] at hheld
        obtain ⟨-, -, -, hchange⟩ := hheld
        rw [Database.changeBudget_rows hchange]
        refine mem_modify_of_not hkept ?_
        rw [beq_eq_false_iff_ne]
        intro heq
        exact hother old hold hstill (hreserves.role.symm.trans (heq.trans hsameRole))
      · cases hheld
        exact hkept
  | true =>
      have hrowEq : old = row := eq_of_intentId hold hmem ((beq_iff_eq.mp hsame).trans hid.symm)
      subst hrowEq
      rw [if_pos rfl]
      rw [hsame, if_pos rfl] at hentry
      rw [reserveIfEntry, if_pos (hofRow.action.trans hentry)] at hheld
      simp only [reserveEntry, check_bind_ok] at hheld
      obtain ⟨-, -, hlimits, hchange⟩ := hheld
      obtain ⟨required, hrequired, hcheck⟩ := validateEntryLimits_ok.mp hlimits
      have hallows := (EntryBudgetLimits.validateEntry_iff_allows.mp hcheck).1
      have hcondition : (budget.accountRole == approved.accountRole) = true := by
        rw [hbudgetRole, hsameRole, beq_self_eq_true]
      rw [Database.changeBudget_rows hchange]
      exact ⟨_, change_mem_modify hbudgetMem hcondition, {
        role := hbudgetRole.trans hrole.symm
        intent := congrArg some hofRow.intentId
        risk := hofRow.loss
        allowed := ⟨required, hrequired, fun other => hallows.congr hofRow.policyHash.symm rfl rfl
          hofRow.loss.symm hofRow.quantity.symm⟩ }⟩

/-- A finalization ends the claim of its account. -/
theorem Settlement.claims {claim : ExecutionIntent} {sweep : SweepObservation}
    {requestedStatus : String} {lockId : Uuid} {rows : FinalizationRows}
    {evaluated : WholeAccountReconciliation} {latest : AttemptObservationRow}
    {permit : BrokerMutationPermit} {state : AccountReconciliationState}
    {complete certificate : ExecutionCertificate} {hasFill : Bool}
    (h : Settlement settings db after claim sweep requestedStatus now lockId rows evaluated latest
      permit state complete certificate hasFill) : KeepsClaims db after := by
  have hread := readFinalization_rows h.read
  obtain ⟨budget, consumed, -, hbudgets, hintents⟩ := h.charge
  refine .of_ended (lookup_some hread.intent).1 hread.claimed hintents (fun found hstate => ?_)
    hbudgets
  cases hstate

/-- A transaction that commits keeps every claimed entry reserved. -/
theorem ClaimsReserved.run (hreserved : ClaimsReserved settings.entryLimits db)
    {transaction : Transaction} (h : run settings transaction db = .ok after) :
    ClaimsReserved settings.entryLimits after := by
  have hwrites := run_writes h
  obtain ⟨call, start, now, fresh⟩ := transaction
  cases call with
  | registerAccount role fingerprint equity =>
      exact hreserved.of_keeps (registerAccount_claims h)
  | approveIntent intentId role envelope =>
      obtain ⟨intent, h⟩ := fst_map_ok h
      exact hreserved.of_keeps (approveIntent_claims h)
  | claimIntent intentId actor role fingerprint =>
      obtain ⟨intent, h⟩ := fst_map_ok h
      exact claimIntent_claims h hreserved
  | releaseUnsubmittedClaim intentId =>
      exact hreserved.of_keeps (releaseUnsubmittedClaim_claims h)
  | expireUnsubmittedClaims role =>
      obtain ⟨ids, h⟩ := fst_map_ok h
      exact hreserved.of_keeps (expireUnsubmittedClaims_claims h)
  | recoverEntryReservations =>
      refine hreserved.recoverReservations (fun row hrow => ?_) h
      obtain ⟨hmem, hopen⟩ := List.mem_filter.mp hrow
      simp only [Bool.and_eq_true, beq_iff_eq] at hopen
      exact ⟨hmem, hopen.1.2, hopen.1.1⟩
  | finalizeExecutionAuthorized certificate sweep requestedStatus claim positionGreeks =>
      obtain ⟨result, h⟩ := fst_map_ok h
      rcases finalizeExecutionAuthorized_settlement h with ⟨-, hwrites⟩ |
        ⟨stored, rows, evaluated, latest, permit, state, complete, hasFill, -, hsettled⟩
      · exact hreserved.of_keeps (.of_writes hwrites rfl rfl)
      · exact hreserved.of_keeps hsettled.claims
  | addAuthorizedIntent intentId role envelope =>
      exact hreserved.of_keeps
        (.of_added (Database.addIntent_writes h rfl) (Database.addIntent_rows h)
          (by rintro ⟨⟩))
  | _ => exact hreserved.of_keeps (.of_writes hwrites rfl rfl)

theorem claimsReserved_of_reachable {world : World}
    (h : (repository settings).Reachable world) :
    ClaimsReserved settings.entryLimits world.db := by
  refine h.invariant (P := fun world => ClaimsReserved settings.entryLimits world.db) ?_ ?_
  · intro world hempty
    have hrows : world.db.intents.rows = [] := by
      rw [show world.db = {} from hempty]
      rfl
    simp [ClaimsReserved, hrows]
  · intro world transaction next hreserved hstep
    obtain ⟨-, rfl⟩ := hstep
    show ClaimsReserved settings.entryLimits (execute settings transaction world.db)
    unfold execute
    split
    · rename_i after hrun
      exact hreserved.run hrun
    · exact hreserved

/-! ## The charge -/

omit [Digest] in
/-- A lock leaves the equity of an account alone. -/
theorem finalizedAccount_equity (hasFill : Bool) (requestedStatus : String) (now : Int)
    (lockId : Uuid) (account : AccountRoleRow) :
    (finalizedAccount hasFill requestedStatus now lockId account).equity = account.equity := by
  unfold finalizedAccount
  split
  · rfl
  · rfl

/-- The budget of an entry with a fill is charged exactly when the equity of the account is above
the floor at that time. All other limits still hold. -/
theorem applyBudgetFinalization_charges {world : World} (h : (repository settings).Reachable world)
    {claim : ExecutionIntent} {rows : FinalizationRows}
    (hread : readFinalization world.db claim now = .ok rows) (hentry : rows.intent.action = .entry)
    (requestedStatus : String) (lockId : Uuid) :
    applyBudgetFinalization settings.entryLimits rows.intent rows.budget
        (finalizedAccount true requestedStatus now lockId rows.account) true =
      .ok (withoutReservation (chargedBudget rows.budget), true) ↔
      ∃ required, settings.entryLimits = some required ∧
        required.equityFloor < rows.account.equity := by
  have hrows := readFinalization_rows hread
  obtain ⟨hmem, -⟩ := lookup_some hrows.intent
  obtain ⟨hbudget, hrole⟩ := lookup_some hrows.budget
  obtain ⟨held, hheld, hreserves⟩ :=
    claimsReserved_of_reachable h rows.intent hmem hrows.claimed hentry
  have hsame : held = rows.budget :=
    eq_of_budgetRole hheld hbudget (hreserves.role.trans hrole.symm)
  subst hsame
  obtain ⟨required, hrequired, hallows⟩ := hreserves.allowed
  have hrisk : (rows.budget.reservedRisk != rows.intent.approvedMaxLoss) = false := by
    rw [bne, Decimal.beq_iff_value.mpr hreserves.risk]
    rfl
  have hchecked : validateEntryLimits settings.entryLimits (proposedEntryOf rows.intent
      (finalizedAccount true requestedStatus now lockId rows.account) rows.budget) = .ok () ↔
      ∃ required, settings.entryLimits = some required ∧
        required.equityFloor < rows.account.equity := by
    rw [validateEntryLimits_ok]
    refine exists_congr fun found => and_congr_right fun hfound => ?_
    cases hrequired.symm.trans hfound
    rw [EntryBudgetLimits.validateEntry_iff_allows, proposedEntryOf, finalizedAccount_equity]
    exact and_iff_right (hallows rows.account)
  rw [← hchecked, applyBudgetFinalization, if_pos hentry]
  simp only [check_bind_ok, raiseIf_ok, if_true, hreserves.intent, bne_self_eq_false, hrisk,
    true_and, and_iff_left_iff_imp]
  intro _
  rfl

/-- A claimed entry with a fill is charged at its finalization exactly when the equity of the
account is above the floor at that time, in memory and in the database. No other limit can refuse
it. -/
theorem filledEntry_charged (settings : RepositorySettings) :
    (∀ store, (Memory.repository settings.entryLimits).Reachable store →
      ∀ now certificate normalized reconciliation requestedStatus intent attempts account budget,
        store.intents.get certificate.intentId = some intent →
        intent.envelope.action = .entry →
        store.attempts.get intent.intentId = some attempts →
        store.certificates.get certificate.certificateId = none →
        validateFinalization intent attempts certificate reconciliation requestedStatus now =
          .ok (normalized, true) →
        store.accounts.get intent.accountRole = some account →
        store.budgets.get intent.accountRole = some budget →
        ((∃ next, Memory.finalizeExecution settings.entryLimits now certificate reconciliation
            requestedStatus store = .ok next ∧
          next.budgets.get intent.accountRole = some {
            entriesUsed := budget.entriesUsed + 1
            grossApprovedRisk := budget.grossApprovedRisk + intent.envelope.approvedMaxLoss }) ↔
          ∃ required, settings.entryLimits = some required ∧
            required.equityFloor < account.equity)) ∧
    ∀ world, (repository settings).Reachable world →
      ∀ claim now rows requestedStatus lockId,
        readFinalization world.db claim now = .ok rows → rows.intent.action = .entry →
        (applyBudgetFinalization settings.entryLimits rows.intent rows.budget
            (finalizedAccount true requestedStatus now lockId rows.account) true =
          .ok (withoutReservation (chargedBudget rows.budget), true) ↔
          ∃ required, settings.entryLimits = some required ∧
            required.equityFloor < rows.account.equity) := by
  constructor
  · intro store hreach now certificate normalized reconciliation requestedStatus intent attempts
      account budget hget hentry hattempts hnew hvalid haccount hbudget
    exact Memory.finalizeExecution_charges hreach hget hentry hattempts hnew hvalid haccount hbudget
  · intro world hreach claim now rows requestedStatus lockId hread hentry
    exact applyBudgetFinalization_charges hreach hread hentry requestedStatus lockId

end Reserved

/-! ## Rehearsals -/

section Rehearsed

open Memory Rehearsal

def entryAttempt (state : AttemptState) (providerOrderId : Option String) (filledQuantity : Int)
    (fillCashFlow : Option Decimal) : OrderAttempt where
  intentId
  ordinal := 0
  clientOrderId := "C0"
  requestHash := zeros
  state
  providerOrderId
  filledQuantity
  quantity := 2
  fillCashFlow
  limitPrice := some (dollars 1)

/-- The entry is claimed, submitted and filled. -/
def filling : List Memory.Call := claiming ++ [
  .addAttempt (entryAttempt .prepared none 0 none),
  .replaceAttempt (entryAttempt (.broker .filled) (some "P0") 2 (some (dollars (-200))))]

/-- The equity of the account falls to the floor after the fill. -/
def sinking : List Memory.Call :=
  filling ++ [.registerAccount .submission fingerprint limitsFields.equityFloor]

def matching : Reconciliation where
  terminal := true
  remainderAbsent := true
  matchesExpected := true
  assignmentSuspected := false
  actualExposure := none

def filledCertificate : Except Failure ExecutionCertificate :=
  ExecutionCertificate.make {
    certificateId := Digest.uuid5 ("alphadecay:execution:" ++ intentDigest envelope)
    intentId
    entryApprovalId := some envelope.authorizationCertificateId
    assessmentCertificateId := none
    executionStatus := "FILLED"
    attemptIds := ["C0"]
    actualExposure := none
    reconciliationChecks
    createdAt := timeAt 5 }

structure FilledEntry (calls : List Memory.Call) where
  store : Store
  certificate : ExecutionCertificate
  normalized : ExecutionCertificate
  intent : ExecutionIntent
  attempts : List OrderAttempt
  account : AccountState
  budget : EntryBudget
  reached : callAll settings.entryLimits calls {} = .ok store
  read : store.intents.get certificate.intentId = some intent
  entry : intent.envelope.action = .entry
  attempted : store.attempts.get intent.intentId = some attempts
  fresh : store.certificates.get certificate.certificateId = none
  valid : validateFinalization intent attempts certificate matching "FILLED" (timeAt 5) =
    .ok (normalized, true)
  registered : store.accounts.get intent.accountRole = some account
  budgeted : store.budgets.get intent.accountRole = some budget

/-- The filled entry that some calls leave behind. -/
def filledEntry (calls : List Memory.Call) : Option (FilledEntry calls) :=
  match hreached : callAll settings.entryLimits calls {}, filledCertificate with
  | .ok store, .ok certificate =>
      match hread : store.intents.get certificate.intentId with
      | some intent =>
          match hattempted : store.attempts.get intent.intentId,
            hregistered : store.accounts.get intent.accountRole,
            hbudgeted : store.budgets.get intent.accountRole with
          | some attempts, some account, some budget =>
              match hvalid : validateFinalization intent attempts certificate matching "FILLED"
                (timeAt 5) with
              | .ok (normalized, true) =>
                  if h : intent.envelope.action = .entry ∧
                      (store.certificates.get certificate.certificateId).isNone = true then
                    some {
                      store, certificate, normalized, intent, attempts, account, budget
                      reached := hreached
                      read := hread
                      entry := h.1
                      attempted := hattempted
                      fresh := Option.isNone_iff_eq_none.mp h.2
                      valid := hvalid
                      registered := hregistered
                      budgeted := hbudgeted }
                  else none
              | _ => none
          | _, _, _ => none
      | none => none
  | _, _ => none

def FilledEntry.raises {calls : List Memory.Call} (filled : FilledEntry calls)
    (failure : Failure) : Bool :=
  match Memory.finalizeExecution settings.entryLimits (timeAt 5) filled.certificate matching
    "FILLED"
    filled.store with
  | .ok _ => false
  | .error raised => raised == failure

theorem filledEntry_ok :
    ((filledEntry filling).any fun filled =>
      decide (limitsFields.equityFloor < filled.account.equity)) = true ∧
    ((filledEntry sinking).any fun filled =>
      filled.raises (.blocked "ENTRY_EQUITY_FLOOR")) = true := by
  decide +kernel

/-- The rows of a filled entry in the database, with an equity above the floor. -/
def readsFilled (world : World) : Bool :=
  match claimOf world.db with
  | .ok claim =>
      match readFinalization world.db claim (timeAt 5) with
      | .ok rows => rows.intent.action == .entry &&
          decide (limitsFields.equityFloor < rows.account.equity)
      | .error _ => false
  | .error _ => false

theorem readsFilled_ok : endsAs filledPlay.dropLast readsFilled = true := by decide +kernel

/-- In the rehearsal the filled entry is charged, in memory and in the database. -/
theorem filledEntry_charged_rehearsed :
    (∃ (filled : FilledEntry filling) (next : Store),
      Memory.finalizeExecution settings.entryLimits (timeAt 5) filled.certificate matching "FILLED"
        filled.store = .ok next) ∧
    ∃ (world : World) (rows : FinalizationRows), (repository settings).Reachable world ∧
      applyBudgetFinalization settings.entryLimits rows.intent rows.budget
        (finalizedAccount true "FILLED" (timeAt 5) intentId rows.account) true =
          .ok (withoutReservation (chargedBudget rows.budget), true) := by
  constructor
  · obtain ⟨filled, -, hfloor⟩ := (Option.any_eq_true _ _).mp filledEntry_ok.1
    have hreach : (Memory.repository settings.entryLimits).Reachable filled.store :=
      ⟨{}, filling, rfl, run_of_callAll filled.reached⟩
    obtain ⟨next, hnext, -⟩ := ((filledEntry_charged settings).1 filled.store hreach (timeAt 5)
      filled.certificate filled.normalized matching "FILLED" filled.intent filled.attempts
      filled.account filled.budget filled.read filled.entry filled.attempted filled.fresh
      filled.valid filled.registered filled.budgeted).mpr ⟨_, rfl, of_decide_eq_true hfloor⟩
    exact ⟨filled, next, hnext⟩
  · obtain ⟨world, hplayed, hreads⟩ := exists_play readsFilled_ok
    obtain ⟨transactions, hrun⟩ := run_of_play hplayed
    have hreach : (repository settings).Reachable world :=
      ⟨{ db := {}, clock := 0 }, transactions, rfl, hrun⟩
    unfold readsFilled at hreads
    split at hreads
    · rename_i claim hclaim
      split at hreads
      · rename_i rows hread
        obtain ⟨hentry, hfloor⟩ := Bool.and_eq_true_iff.mp hreads
        exact ⟨world, rows, hreach, ((filledEntry_charged settings).2 world hreach claim (timeAt 5)
          rows "FILLED" intentId hread (beq_iff_eq.mp hentry)).mpr
            ⟨_, rfl, of_decide_eq_true hfloor⟩⟩
      · cases hreads
    · cases hreads

/-- In the rehearsal the equity of the account is registered at the floor after the fill, and the
finalization of the filled entry raises. -/
theorem filledEntry_refused : ∃ filled : FilledEntry sinking,
    (Memory.repository settings.entryLimits).Reachable filled.store ∧
    filled.intent.envelope.action = .entry ∧
    validateFinalization filled.intent filled.attempts filled.certificate matching "FILLED"
      (timeAt 5) = .ok (filled.normalized, true) ∧
    Memory.finalizeExecution settings.entryLimits (timeAt 5) filled.certificate matching "FILLED"
      filled.store = .error (.blocked "ENTRY_EQUITY_FLOOR") := by
  obtain ⟨filled, -, hraises⟩ := (Option.any_eq_true _ _).mp filledEntry_ok.2
  refine ⟨filled, ⟨{}, sinking, rfl, run_of_callAll filled.reached⟩, filled.entry, filled.valid, ?_⟩
  unfold FilledEntry.raises at hraises
  split at hraises
  · cases hraises
  · rename_i raised hfinalized
    rw [hfinalized, beq_iff_eq.mp hraises]

end Rehearsed

end AlphaDecay
