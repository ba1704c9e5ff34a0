import AlphaDecay.Persistence.EntryBudget

/-!
# Charging a filled entry in memory

When an entry is claimed its loss is checked against the limits and reserved. When it is finalized
with a fill the limits are checked again. `finalizeExecution_charges` says which of the checked
quantities can have moved in between: only the equity of the account.
-/

namespace AlphaDecay.Memory

open Foundation

variable {limits : Option EntryBudgetLimits} {store next : Store}

/-! ## What stays between claim and finalization -/

/-- What the charge of a claimed entry rests on: accounts that may execute, certificates of finished
intents only, and limits that still allow every claimed entry. -/
structure Chargeable (limits : Option EntryBudgetLimits) (store : Store) : Prop where
  executable : store.accounts.get .replay = none
  certified : ∀ id, (store.intentCertificateIds.get id).isSome → ∃ intent,
    store.intents.get id = some intent ∧ intent.state = .terminal
  allowed : ∀ intent ∈ store.intents.values, intent.state = .claimed →
    intent.envelope.action = .entry → ∃ required, limits = some required ∧
      ∀ account budget, store.budgets.get intent.accountRole = some budget →
        required.Allows (proposedEntry intent account budget intent.envelope.approvedMaxLoss)

/-- A finished intent stays finished. -/
theorem Effect.terminal_kept (h : Effect limits store next) {id : Uuid} {intent : ExecutionIntent}
    (hget : store.intents.get id = some intent) (hterminal : intent.state = .terminal) :
    ∃ kept, next.intents.get id = some kept ∧ kept.state = .terminal := by
  have hother : ∀ {key : Uuid} {new : ExecutionIntent}, next.intents = store.intents.set key new →
      key ≠ id → ∃ kept, next.intents.get id = some kept ∧ kept.state = .terminal := by
    intro key new hset hne
    refine ⟨intent, ?_, hterminal⟩
    rw [hset, Dict.get_set, if_neg hne]
    exact hget
  cases h with
  | frame hintents hbudgets hroles => exact ⟨intent, hintents ▸ hget, hterminal⟩
  | register role hintents hbudgets hnew hroles => exact ⟨intent, hintents ▸ hget, hterminal⟩
  | approve new hintents hnew hstate hfresh hslot haccount hbudgets hroles =>
      refine hother hintents fun heq => ?_
      rw [heq, hget] at hnew
      cases hnew
  | claim key old new hold hintents hid hrole henvelope hfill happroved hnew hfree hbudgets hlimits
      hroles =>
      refine hother hintents fun heq => ?_
      rw [heq, hget] at hold
      cases hold
      rw [hterminal] at happroved
      cases happroved
  | close key old new hold hintents hid hrole henvelope hclaimed hnew budget charged hbudget
      hbudgets hcharged hroles =>
      by_cases heq : key = id
      · refine ⟨new, ?_, hnew⟩
        rw [hintents, Dict.get_set, if_pos heq]
      · exact hother hintents heq

/-- The limits still allow every claimed entry after a call. -/
theorem Effect.allowed (h : Effect limits store next) (hinv : Inv limits store)
    (hchargeable : Chargeable limits store) : ∀ intent ∈ next.intents.values,
    intent.state = .claimed → intent.envelope.action = .entry →
    ∃ required, limits = some required ∧
      ∀ account budget, next.budgets.get intent.accountRole = some budget →
        required.Allows (proposedEntry intent account budget intent.envelope.approvedMaxLoss) := by
  intro intent hmem hclaimed hentry
  cases h with
  | frame hintents hbudgets hroles =>
      obtain ⟨required, hrequired, hallows⟩ :=
        hchargeable.allowed intent (hintents ▸ hmem) hclaimed hentry
      refine ⟨required, hrequired, fun account budget hbudget => ?_⟩
      exact hallows account budget ((hbudgets _).symm.trans hbudget)
  | register role hintents hbudgets hnew hroles =>
      rw [hintents] at hmem
      obtain ⟨required, hrequired, hallows⟩ := hchargeable.allowed intent hmem hclaimed hentry
      refine ⟨required, hrequired, fun account budget hbudget => ?_⟩
      -- A role that gets its budget has no intents yet.
      have hbudgeted := hinv.budgeted _ (hinv.registered intent hmem)
      rw [hbudgets, Dict.get_set, if_neg] at hbudget
      · exact hallows account budget hbudget
      · intro heq
        rw [← heq, hnew] at hbudgeted
        cases hbudgeted
  | approve new hintents hnew hstate hfresh hslot haccount hbudgets hroles =>
      rcases mem_intents_set hinv.keyed hintents hmem with rfl | ⟨hold, -⟩
      · rw [hstate] at hclaimed
        cases hclaimed
      · rw [hbudgets]
        exact hchargeable.allowed intent hold hclaimed hentry
  | claim id old new hget hintents hid hrole henvelope hfill hold hnew hfree hbudgets hlimits
      hroles =>
      rcases mem_intents_set hinv.keyed hintents hmem with rfl | ⟨hother, -⟩
      · rw [henvelope] at hentry
        rw [if_pos hentry] at hbudgets
        obtain ⟨budget, hbudget, hset⟩ := hbudgets
        obtain ⟨required, hrequired, hallows⟩ := hlimits hentry
        refine ⟨required, hrequired, fun account found hfound => ?_⟩
        rw [hset, hrole, Dict.get_set, if_pos rfl] at hfound
        cases hfound
        refine (hallows account budget hbudget).congr ?_ rfl rfl ?_ ?_
        all_goals simp only [proposedEntry, henvelope]
      · obtain ⟨required, hrequired, hallows⟩ :=
          hchargeable.allowed intent hother hclaimed hentry
        refine ⟨required, hrequired, fun account budget hbudget => hallows account budget ?_⟩
        split at hbudgets
        · obtain ⟨changed, -, hset⟩ := hbudgets
          rw [hset, Dict.get_set, if_neg] at hbudget
          · exact hbudget
          · exact fun heq => hfree intent hother heq.symm hclaimed
        · rwa [← hbudgets]
  | close id old new hget hintents hid hrole henvelope hold hnew budget charged hbudget hbudgets
      hcharged hroles =>
      rcases mem_intents_set hinv.keyed hintents hmem with rfl | ⟨hother, hne⟩
      · rw [hnew] at hclaimed
        cases hclaimed
      · obtain ⟨required, hrequired, hallows⟩ :=
          hchargeable.allowed intent hother hclaimed hentry
        refine ⟨required, hrequired, fun account found hfound => hallows account found ?_⟩
        rw [hbudgets, Dict.get_set, if_neg] at hfound
        · exact hfound
        · intro heq
          have hsame := hinv.lease old (Dict.mem_values.mpr ⟨id, hget⟩) intent hother heq hold
            hclaimed
          exact hne (hsame ▸ hinv.keyed id old hget)

/-- Recovery writes budgets only. -/
theorem recover_writes {intents : List ExecutionIntent}
    (h : intents.foldlM recoverReservation store = .ok next) :
    next.accounts = store.accounts ∧ next.intentCertificateIds = store.intentCertificateIds := by
  induction intents generalizing store with
  | nil =>
      cases h
      exact ⟨rfl, rfl⟩
  | cons intent rest ih =>
      simp only [List.foldlM_cons] at h
      obtain ⟨middle, hrecover, h⟩ := bind_ok.mp h
      obtain ⟨haccounts, hcertificates⟩ := ih h
      unfold recoverReservation at hrecover
      split at hrecover
      · simp only [require_bind_ok] at hrecover
        obtain ⟨budget, -, hrecover⟩ := hrecover
        cases hrecover
        exact ⟨haccounts, hcertificates⟩
      · cases hrecover
        exact ⟨haccounts, hcertificates⟩

/-- Changing the account of a role that has one gives no other role an account. -/
theorem accounts_set_of_some {role other : AccountRole} {old new : AccountState}
    (hget : store.accounts.get role = some old) (hother : store.accounts.get other = none) :
    (store.accounts.set role new).get other = none := by
  rw [Dict.get_set, if_neg]
  · exact hother
  · intro heq
    rw [← heq, hget] at hother
    cases hother

variable [Digest]

/-- What a call does to the accounts and the certificates. -/
theorem apply_certificates {call : Call} (h : apply limits call store = .ok next) :
    (store.accounts.get .replay = none → next.accounts.get .replay = none) ∧
      (next.intentCertificateIds = store.intentCertificateIds ∨
        ∃ id certificateId intent, next.intentCertificateIds =
            store.intentCertificateIds.set id certificateId ∧
          next.intents.get id = some intent ∧ intent.state = .terminal) := by
  cases call with
  | registerAccount role fingerprint equity =>
      simp only [apply, registerAccount, check_bind_ok, ensureExecutableRole, raiseIf_ok,
        beq_eq_false_iff_ne, pure, Except.pure, Except.ok.injEq] at h
      obtain ⟨hrole, -, -, rfl⟩ := h
      refine ⟨fun hnone => ?_, .inl rfl⟩
      rw [Dict.get_set, if_neg hrole]
      exact hnone
  | setAutonomousEnabled role enabled actor =>
      simp only [apply, setAutonomousEnabled, check_bind_ok, require_bind_ok, pure, Except.pure,
        Except.ok.injEq] at h
      obtain ⟨-, -, account, haccount, rfl⟩ := h
      exact ⟨accounts_set_of_some haccount, .inl rfl⟩
  | captureBaseline role baseline =>
      simp only [apply, captureBaseline, check_bind_ok, require_bind_ok, pure, Except.pure,
        Except.ok.injEq] at h
      obtain ⟨-, -, account, -, -, -, rfl⟩ := h
      exact ⟨id, .inl rfl⟩
  | observeAccountAdjustment role activity =>
      simp only [apply, observeAccountAdjustment, check_bind_ok, pure, Except.pure] at h
      obtain ⟨-, h⟩ := h
      split at h
      · cases h
        exact ⟨id, .inl rfl⟩
      · cases h
        exact ⟨id, .inl rfl⟩
  | addAssessmentCertificate certificate =>
      simp only [apply, addAssessmentCertificate, check_bind_ok, pure, Except.pure,
        Except.ok.injEq] at h
      obtain ⟨-, -, -, -, rfl⟩ := h
      exact ⟨id, .inl rfl⟩
  | addEntryApproval approval =>
      simp only [apply, addEntryApproval, check_bind_ok, pure, Except.pure, Except.ok.injEq] at h
      obtain ⟨-, -, -, rfl⟩ := h
      exact ⟨id, .inl rfl⟩
  | approveIntent intentId role envelope =>
      simp only [apply, approveIntent, check_bind_ok] at h
      obtain ⟨-, h⟩ := h
      split at h
      · simp only [require_bind_ok, check_bind_ok, pure, Except.pure, Except.ok.injEq] at h
        obtain ⟨_, -, -, rfl⟩ := h
        exact ⟨id, .inl rfl⟩
      · simp only [approveNew, require_bind_ok, check_bind_ok, pure, Except.pure,
          Except.ok.injEq] at h
        obtain ⟨-, -, account, -, -, rfl⟩ := h
        exact ⟨id, .inl rfl⟩
  | claimIntent now token intentId actor role fingerprint =>
      simp only [apply, claimIntent, require_bind_ok, check_bind_ok, pure, Except.pure] at h
      obtain ⟨intent, -, -, -, account, haccount, -, -, -, -, -, h⟩ := h
      obtain ⟨reserved, hreserve, h⟩ := bind_ok.mp h
      cases h
      have hkept : reserved.accounts = store.accounts ∧
          reserved.intentCertificateIds = store.intentCertificateIds := by
        unfold authorizeClaim at hreserve
        split at hreserve
        · simp only [reserveEntry, check_bind_ok, require_bind_ok, pure, Except.pure,
            Except.ok.injEq] at hreserve
          obtain ⟨-, -, budget, -, -, -, -, rfl⟩ := hreserve
          exact ⟨rfl, rfl⟩
        · simp only [check_bind_ok, pure, Except.pure, Except.ok.injEq] at hreserve
          obtain ⟨-, rfl⟩ := hreserve
          exact ⟨rfl, rfl⟩
      refine ⟨fun hnone => ?_, .inl hkept.2⟩
      rw [← hkept.1] at haccount hnone
      exact accounts_set_of_some haccount hnone
  | releaseUnsubmittedClaim intentId =>
      simp only [apply, releaseUnsubmittedClaim, require_bind_ok, check_bind_ok, pure,
        Except.pure, Except.ok.injEq] at h
      obtain ⟨intent, -, attempts, -, -, budget, -, rfl⟩ := h
      exact ⟨id, .inl rfl⟩
  | addAttempt attempt =>
      simp only [apply, addAttempt, require_bind_ok, check_bind_ok, pure, Except.pure,
        Except.ok.injEq] at h
      obtain ⟨-, attempts, -, -, -, rfl⟩ := h
      exact ⟨id, .inl rfl⟩
  | replaceAttempt attempt =>
      simp only [apply, replaceAttempt, require_bind_ok, check_bind_ok, pure, Except.pure,
        Except.ok.injEq] at h
      obtain ⟨-, attempts, -, existing, -, -, -, -, rfl⟩ := h
      exact ⟨id, .inl rfl⟩
  | finalizeExecution now certificate reconciliation requestedStatus =>
      simp only [apply, finalizeExecution, require_bind_ok, check_bind_ok] at h
      obtain ⟨-, -, intent, -, -, attempts, -, h⟩ := h
      obtain ⟨⟨normalized, hasFill⟩, -, h⟩ := bind_ok.mp h
      simp only [require_bind_ok] at h
      obtain ⟨account, haccount, budget, -, h⟩ := h
      obtain ⟨charged, -, h⟩ := bind_ok.mp h
      cases h
      refine ⟨accounts_set_of_some haccount, .inr ⟨certificate.intentId, certificate.certificateId,
        { intent with
          state := .terminal, firstFillConsumed := intent.firstFillConsumed || hasFill },
        rfl, ?_, rfl⟩⟩
      rw [Dict.get_set, if_pos rfl]
  | recoverEntryReservations =>
      obtain ⟨haccounts, hcertificates⟩ := recover_writes h
      exact ⟨fun hnone => haccounts ▸ hnone, .inl hcertificates⟩

/-- A step keeps what the charge of claimed entries rests on. -/
theorem Chargeable.step (h : Chargeable limits store) (hinv : Inv limits store) {call : Call}
    (hstep : (repository limits).step store call next) : Chargeable limits next := by
  rcases hstep with hcall | ⟨-, rfl⟩
  · have heffect := hinv.apply_effect hcall
    obtain ⟨hexecutable, hcertificates⟩ := apply_certificates hcall
    refine {
      executable := hexecutable h.executable
      certified := ?_
      allowed := heffect.allowed hinv h }
    intro id hcertified
    rcases hcertificates with heq | ⟨key, certificateId, intent, hset, hget, hterminal⟩
    · rw [heq] at hcertified
      obtain ⟨intent, hget, hterminal⟩ := h.certified id hcertified
      exact heffect.terminal_kept hget hterminal
    · by_cases hkey : key = id
      · exact ⟨intent, hkey ▸ hget, hterminal⟩
      · rw [hset, Dict.get_set, if_neg hkey] at hcertified
        obtain ⟨old, hold, hfinished⟩ := h.certified id hcertified
        exact heffect.terminal_kept hold hfinished
  · exact h

/-- What the charge of claimed entries rests on holds in every reachable store. -/
theorem Chargeable.of_reachable (h : (repository limits).Reachable store) :
    Chargeable limits store := by
  have hboth : Chargeable limits store ∧ Inv limits store := by
    refine h.invariant (P := fun store => Chargeable limits store ∧ Inv limits store) ?_ ?_
    · rintro _ rfl
      refine ⟨⟨rfl, ?_, ?_⟩, Inv.empty⟩
      · intro id hcertified
        cases hcertified
      · intro intent hmem
        cases hmem
    · intro state call next hstate hstep
      exact ⟨hstate.1.step hstate.2 hstep, hstate.2.step hstep⟩
  exact hboth.1

/-! ## The charge -/

/-- A claimed entry with a fill and a correct certificate is charged exactly when the equity of the
account is above the floor at that time. All other limits still hold. -/
theorem finalizeExecution_charges (h : (repository limits).Reachable store) {now : Int}
    {certificate normalized : ExecutionCertificate} {reconciliation : Reconciliation}
    {requestedStatus : String} {intent : ExecutionIntent} {attempts : List OrderAttempt}
    {account : AccountState} {budget : EntryBudget}
    (hget : store.intents.get certificate.intentId = some intent)
    (hentry : intent.envelope.action = .entry)
    (hattempts : store.attempts.get intent.intentId = some attempts)
    (hnew : store.certificates.get certificate.certificateId = none)
    (hvalid : validateFinalization intent attempts certificate reconciliation requestedStatus now =
      .ok (normalized, true))
    (haccount : store.accounts.get intent.accountRole = some account)
    (hbudget : store.budgets.get intent.accountRole = some budget) :
    (∃ next, finalizeExecution limits now certificate reconciliation requestedStatus store =
        .ok next ∧ next.budgets.get intent.accountRole = some {
          entriesUsed := budget.entriesUsed + 1
          grossApprovedRisk := budget.grossApprovedRisk + intent.envelope.approvedMaxLoss }) ↔
      ∃ required, limits = some required ∧ required.equityFloor < account.equity := by
  have hinv := Inv.of_reachable h
  have hchargeable := Chargeable.of_reachable h
  obtain ⟨hclaimed, -⟩ := validateFinalization_open hvalid
  have hmem : intent ∈ store.intents.values := Dict.mem_values.mpr ⟨_, hget⟩
  obtain ⟨required, hrequired, hallows⟩ := hchargeable.allowed intent hmem hclaimed hentry
  obtain ⟨hreserved, hrisk⟩ := hinv.reserved_of_claimed hget hbudget hclaimed hentry
  have hid : intent.intentId = certificate.intentId := hinv.keyed _ _ hget
  have hchecked : validateEntryLimits limits
      (proposedEntry intent account budget budget.reservedRisk) = .ok () ↔
      ∃ required, limits = some required ∧ required.equityFloor < account.equity := by
    rw [validateEntryLimits_ok]
    refine exists_congr fun found => and_congr_right fun hfound => ?_
    cases hrequired.symm.trans hfound
    rw [EntryBudgetLimits.validateEntry_iff_allows, hrisk]
    exact and_iff_right (hallows account budget hbudget)
  have huncertified : store.intentCertificateIds.get certificate.intentId = none := by
    cases hcertificate : store.intentCertificateIds.get certificate.intentId with
    | none => rfl
    | some other =>
        obtain ⟨found, hfound, hterminal⟩ := hchargeable.certified certificate.intentId
          (by rw [hcertificate]; rfl)
        cases hget.symm.trans hfound
        rw [hclaimed] at hterminal
        cases hterminal
  have hrole : intent.accountRole ≠ .replay := by
    intro heq
    rw [heq, hchargeable.executable] at haccount
    cases haccount
  rw [← hchecked]
  constructor
  · rintro ⟨next, hfinalized, -⟩
    simp only [finalizeExecution, require_bind_ok, check_bind_ok] at hfinalized
    obtain ⟨-, -, found, hfound, -, others, hothers, hfinalized⟩ := hfinalized
    cases hget.symm.trans hfound
    cases hattempts.symm.trans hothers
    rw [hvalid] at hfinalized
    obtain ⟨result, hresult, hfinalized⟩ := bind_ok.mp hfinalized
    cases hresult
    simp only [require_bind_ok] at hfinalized
    obtain ⟨same, hsame, held, hheld, hfinalized⟩ := hfinalized
    cases haccount.symm.trans hsame
    cases hbudget.symm.trans hheld
    obtain ⟨charged, hcharged, -⟩ := bind_ok.mp hfinalized
    rw [finalizeBudget, if_pos hentry] at hcharged
    simp only [chargeEntry, check_bind_ok, if_true] at hcharged
    exact hcharged.2.2.1
  · intro hlimits
    have hcharged : finalizeBudget limits intent account budget true = .ok {
        entriesUsed := budget.entriesUsed + 1
        grossApprovedRisk := budget.grossApprovedRisk + intent.envelope.approvedMaxLoss } := by
      rw [hrisk] at hlimits
      rw [finalizeBudget, if_pos hentry]
      simp only [chargeEntry, check_bind_ok, raiseIf_ok, if_true, hreserved, hrisk, hid, bne,
        Decimal.beq_self, beq_self_eq_true, Bool.not_true, true_and]
      exact ⟨hlimits, rfl⟩
    have hexecutable : ensureExecutableRole intent.accountRole = .ok () :=
      raiseIf_ok.mpr (beq_eq_false_iff_ne.mpr hrole)
    cases hfinalized : finalizeExecution limits now certificate reconciliation requestedStatus
      store with
    | ok next =>
        refine ⟨next, rfl, ?_⟩
        simp only [finalizeExecution, hnew, huncertified, hget, hattempts, hvalid, haccount,
          hbudget,
          hcharged, hexecutable, require, raiseIf, Option.isSome_none, Bool.false_eq_true, if_false,
          ok_bind] at hfinalized
        cases hfinalized
        rw [Dict.get_set, if_pos rfl]
    | error failure =>
        simp only [finalizeExecution, hnew, huncertified, hget, hattempts, hvalid, haccount,
          hbudget,
          hcharged, hexecutable, require, raiseIf, Option.isSome_none, Bool.false_eq_true, if_false,
          ok_bind] at hfinalized
        cases hfinalized

end AlphaDecay.Memory
