import AlphaDecay.Persistence.Memory
import AlphaDecay.Persistence.Rehearsal

/-!
# Conservation of the entry budget

The budget of a role is a function of its entries: `budgetOf` counts the entries that were filled,
adds up their approved losses and reserves the loss of the claimed one. The main result,
`Inv.of_reachable`, says that every reachable store of the repository in memory keeps each budget
equal to that function, with at most one claimed intent for a role and within the limits. What a
call can do to intents and budgets is said once, by `Effect`.
-/

namespace AlphaDecay.Memory

open Foundation

/-- The entries of a role in the order in which they were approved. -/
def entriesOf (store : Store) (role : AccountRole) : List ExecutionIntent :=
  store.intents.values.filter (isEntryOf role)

/-- The entries that were filled. -/
def consumedEntries (entries : List ExecutionIntent) : List ExecutionIntent :=
  entries.filter fun intent => intent.firstFillConsumed

def claimedEntry (entries : List ExecutionIntent) : Option ExecutionIntent :=
  entries.find? fun intent => intent.state = .claimed

/-- The sum of the approved losses of some entries. -/
def approvedRisk (entries : List ExecutionIntent) : Decimal :=
  entries.foldl (fun sum intent => sum + intent.envelope.approvedMaxLoss) (Decimal.ofInt 0)

/-- The budget that some entries leave: what the filled ones used and the claimed one reserves. -/
def budgetOf (entries : List ExecutionIntent) : EntryBudget where
  entriesUsed := (consumedEntries entries).length
  grossApprovedRisk := approvedRisk (consumedEntries entries)
  reservedIntentId := (claimedEntry entries).map fun intent => intent.intentId
  reservedRisk :=
    ((claimedEntry entries).map fun intent => intent.envelope.approvedMaxLoss).getD
      (Decimal.ofInt 0)

/-! ## How entries change the budget -/

section

variable {before after : List ExecutionIntent} {old new : ExecutionIntent}

def NoneClaimed (entries : List ExecutionIntent) : Prop :=
  ∀ intent ∈ entries, intent.state ≠ .claimed

theorem claimedEntry_of_noneClaimed {entries : List ExecutionIntent} (h : NoneClaimed entries) :
    claimedEntry entries = none := by
  simpa [claimedEntry, NoneClaimed] using h

theorem budgetOf_append (hstate : new.state ≠ .claimed) (hfresh : new.firstFillConsumed = false) :
    budgetOf (before ++ [new]) = budgetOf before := by
  simp [budgetOf, consumedEntries, claimedEntry, List.find?_append, hstate, hfresh]

/-- Claiming the last entry reserves its loss. -/
theorem budgetOf_claim (hbefore : NoneClaimed before) (hclaimed : new.state = .claimed)
    (hold : old.firstFillConsumed = false) (hnew : new.firstFillConsumed = false) :
    budgetOf (before ++ [new]) = { budgetOf (before ++ [old]) with
      reservedIntentId := some new.intentId
      reservedRisk := new.envelope.approvedMaxLoss } := by
  have hnone := claimedEntry_of_noneClaimed hbefore
  rw [claimedEntry] at hnone
  simp [budgetOf, claimedEntry, consumedEntries, List.find?_append, hnone, hclaimed, hold, hnew]

theorem claimedEntry_append (hbefore : NoneClaimed before) (hstate : new.state ≠ .claimed) :
    claimedEntry (before ++ [new]) = none := by
  refine claimedEntry_of_noneClaimed fun intent hmem => ?_
  rcases List.mem_append.mp hmem with h | h
  · exact hbefore intent h
  · rw [List.mem_singleton.mp h]
    exact hstate

/-- Ending the claim of the last entry without a fill ends its reservation. -/
theorem budgetOf_release (hbefore : NoneClaimed before) (hstate : new.state ≠ .claimed)
    (hold : old.firstFillConsumed = false) (hnew : new.firstFillConsumed = false) :
    budgetOf (before ++ [new]) = { budgetOf (before ++ [old]) with
      reservedIntentId := none
      reservedRisk := Decimal.ofInt 0 } := by
  simp [budgetOf, claimedEntry_append hbefore hstate, consumedEntries, hold, hnew]

/-- Filling the last entry charges its loss and ends its reservation. -/
theorem budgetOf_fill (hbefore : NoneClaimed before) (hstate : new.state ≠ .claimed)
    (hold : old.firstFillConsumed = false) (hnew : new.firstFillConsumed = true) :
    budgetOf (before ++ [new]) = {
      entriesUsed := (budgetOf (before ++ [old])).entriesUsed + 1
      grossApprovedRisk :=
        (budgetOf (before ++ [old])).grossApprovedRisk + new.envelope.approvedMaxLoss } := by
  simp [budgetOf, claimedEntry_append hbefore hstate, consumedEntries, approvedRisk, hold, hnew]

/-- Where every entry but the last is finished, an open entry is the last. -/
theorem last_of_open (hfinished : ∀ intent ∈ (before ++ old :: after).dropLast,
      intent.state = .terminal) (hopen : old.state ≠ .terminal) : after = [] := by
  by_contra hne
  refine hopen (hfinished old ?_)
  rw [List.dropLast_append_of_ne_nil (List.cons_ne_nil _ _), List.dropLast_cons_of_ne_nil hne]
  simp

end

/-! ## Reading a changed store -/

section

variable {store next : Store} {id : Uuid} {old new : ExecutionIntent}

/-- An intent of a store after one intent was set is that intent or one of the others. -/
theorem mem_intents_set (hkeyed : ∀ id intent, store.intents.get id = some intent →
      intent.intentId = id) (hset : next.intents = store.intents.set id new)
    {intent : ExecutionIntent} (h : intent ∈ next.intents.values) :
    intent = new ∨ intent ∈ store.intents.values ∧ intent.intentId ≠ id := by
  obtain ⟨key, hget⟩ := Dict.mem_values.mp h
  rw [hset, Dict.get_set] at hget
  split at hget
  · exact Or.inl (Option.some.inj hget).symm
  · rename_i hne
    refine Or.inr ⟨Dict.mem_values.mpr ⟨key, hget⟩, ?_⟩
    rw [hkeyed key intent hget]
    exact fun h => hne h.symm

/-- A new intent stands last among the entries of its role. -/
theorem entriesOf_new (hget : store.intents.get id = none)
    (hset : next.intents = store.intents.set id new) (role : AccountRole) :
    entriesOf next role =
      if isEntryOf role new then entriesOf store role ++ [new] else entriesOf store role := by
  rw [entriesOf, hset, Dict.values_set_of_new hget, List.filter_append]
  by_cases h : isEntryOf role new <;> simp [entriesOf, h]

/-- Changing an intent of a role changes one of its entries in place, or none of them. -/
theorem entriesOf_change (hget : store.intents.get id = some old)
    (hset : next.intents = store.intents.set id new) (hrole : new.accountRole = old.accountRole)
    (henvelope : new.envelope = old.envelope) (role : AccountRole) :
    (isEntryOf role old = true ∧ ∃ before after,
      entriesOf store role = before ++ old :: after ∧
      entriesOf next role = before ++ new :: after) ∨
    (isEntryOf role old = false ∧ entriesOf next role = entriesOf store role) := by
  obtain ⟨before, after, hvalues, hchanged⟩ := Dict.values_set_of_mem hget
  have hsame : isEntryOf role new = isEntryOf role old := by simp [isEntryOf, hrole, henvelope]
  cases hentry : isEntryOf role old with
  | true =>
      refine Or.inl ⟨rfl, before.filter (isEntryOf role), after.filter (isEntryOf role), ?_, ?_⟩
      · simp [entriesOf, hvalues, hentry]
      · simp [entriesOf, hset, hchanged, hsame, hentry]
  | false =>
      refine Or.inr ⟨rfl, ?_⟩
      simp [entriesOf, hset, hchanged, hvalues, hsame, hentry]

end

/-! ## The invariant -/

/-- What holds of every reachable store. -/
structure Inv (limits : Option EntryBudgetLimits) (store : Store) : Prop where
  keyed : ∀ id intent, store.intents.get id = some intent → intent.intentId = id
  budgeted : ∀ role, (store.accounts.get role).isSome → (store.budgets.get role).isSome
  registered : ∀ intent ∈ store.intents.values, (store.accounts.get intent.accountRole).isSome
  lease : ∀ intent ∈ store.intents.values, ∀ other ∈ store.intents.values,
    intent.accountRole = other.accountRole → intent.state = .claimed → other.state = .claimed →
      intent = other
  sequential : ∀ role, ∀ intent ∈ (entriesOf store role).dropLast, intent.state = .terminal
  unconsumed : ∀ intent ∈ store.intents.values, intent.state ≠ .terminal →
    intent.firstFillConsumed = false
  budget : ∀ role budget, store.budgets.get role = some budget →
    budget = budgetOf (entriesOf store role)
  capped : ∀ role budget, store.budgets.get role = some budget → ∀ required,
    limits = some required → budget.entriesUsed ≤ required.maximumLifetimeEntries ∧
      budget.grossApprovedRisk ≤ required.maximumLifetimeRisk

/-- Accounts stay, and a role gets an account together with a budget. -/
structure KeepsRoles (store next : Store) : Prop where
  kept : ∀ role, (store.accounts.get role).isSome → (next.accounts.get role).isSome
  budgeted : ∀ role, (next.accounts.get role).isSome →
    (store.accounts.get role).isSome ∨ (next.budgets.get role).isSome

/-- The budget after the claim of an intent ended: a filled entry is charged within the limits,
an entry without a fill gives its reservation back, and other actions draw on no budget. -/
inductive Closed (limits : Option EntryBudgetLimits) (old new : ExecutionIntent)
    (budget charged : EntryBudget) : Prop where
  | charge (hentry : old.envelope.action = .entry) (hfill : new.firstFillConsumed = true)
      (hcaps : ∀ required, limits = some required →
        budget.entriesUsed < required.maximumLifetimeEntries ∧
        ¬ budget.grossApprovedRisk + budget.reservedRisk > required.maximumLifetimeRisk)
      (hcharged : charged = {
        entriesUsed := budget.entriesUsed + 1
        grossApprovedRisk := budget.grossApprovedRisk + budget.reservedRisk })
  | release (hfill : old.envelope.action = .entry → new.firstFillConsumed = false)
      (hcharged : charged = releaseReservation old.intentId budget)
  | other (hentry : old.envelope.action ≠ .entry) (hcharged : charged = budget)

/-- What a successful call does to intents and budgets. -/
inductive Effect (limits : Option EntryBudgetLimits) (store next : Store) : Prop where
  | frame (hintents : next.intents = store.intents)
      (hbudgets : ∀ role, next.budgets.get role = store.budgets.get role)
      (hroles : KeepsRoles store next)
  | register (role : AccountRole) (hintents : next.intents = store.intents)
      (hbudgets : next.budgets = store.budgets.set role {})
      (hnew : store.budgets.get role = none) (hroles : KeepsRoles store next)
  | approve (intent : ExecutionIntent)
      (hintents : next.intents = store.intents.set intent.intentId intent)
      (hnew : store.intents.get intent.intentId = none)
      (hstate : intent.state = .approved) (hfresh : intent.firstFillConsumed = false)
      (hslot : intent.envelope.action = .entry →
        ∀ other ∈ entriesOf store intent.accountRole, other.state = .terminal)
      (haccount : (store.accounts.get intent.accountRole).isSome)
      (hbudgets : next.budgets = store.budgets) (hroles : KeepsRoles store next)
  | claim (id : Uuid) (old new : ExecutionIntent) (hget : store.intents.get id = some old)
      (hintents : next.intents = store.intents.set id new)
      (hid : new.intentId = old.intentId) (hrole : new.accountRole = old.accountRole)
      (henvelope : new.envelope = old.envelope)
      (hfill : new.firstFillConsumed = old.firstFillConsumed)
      (hold : old.state = .approved) (hnew : new.state = .claimed)
      (hfree : ∀ other ∈ store.intents.values, other.accountRole = old.accountRole →
        other.state ≠ .claimed)
      (hbudgets : if old.envelope.action = .entry then
          ∃ budget, store.budgets.get old.accountRole = some budget ∧
            next.budgets = store.budgets.set old.accountRole { budget with
              reservedIntentId := some old.intentId
              reservedRisk := old.envelope.approvedMaxLoss }
        else next.budgets = store.budgets)
      (hlimits : old.envelope.action = .entry → ∃ required, limits = some required ∧
        ∀ account budget, store.budgets.get old.accountRole = some budget →
          required.Allows (proposedEntry old account budget old.envelope.approvedMaxLoss))
      (hroles : KeepsRoles store next)
  | close (id : Uuid) (old new : ExecutionIntent) (hget : store.intents.get id = some old)
      (hintents : next.intents = store.intents.set id new)
      (hid : new.intentId = old.intentId) (hrole : new.accountRole = old.accountRole)
      (henvelope : new.envelope = old.envelope)
      (hold : old.state = .claimed) (hnew : new.state = .terminal)
      (budget charged : EntryBudget) (hbudget : store.budgets.get old.accountRole = some budget)
      (hbudgets : next.budgets = store.budgets.set old.accountRole charged)
      (hcharged : Closed limits old new budget charged) (hroles : KeepsRoles store next)

variable {store : Store}

theorem KeepsRoles.of_accounts {next : Store} (h : next.accounts = store.accounts) :
    KeepsRoles store next :=
  ⟨fun role hrole => by rwa [h], fun role hrole => Or.inl (by rwa [← h])⟩

theorem KeepsRoles.of_change {next : Store} {role : AccountRole} {account : AccountState}
    (hget : (store.accounts.get role).isSome)
    (h : next.accounts = store.accounts.set role account) : KeepsRoles store next := by
  refine ⟨fun other hother => ?_, fun other hother => Or.inl ?_⟩
  · rw [h, Dict.get_set]
    split
    · rfl
    · exact hother
  · rw [h, Dict.get_set] at hother
    split at hother
    · rename_i heq
      exact heq ▸ hget
    · exact hother

/-! ## What each call does -/

section

variable {limits : Option EntryBudgetLimits} {store next : Store}
variable {role : AccountRole}

variable {intentId : Uuid}

/-- Registering an account gives its role a budget, or updates an account that has one. -/
theorem registerAccount_effect {fingerprint : String} {equity : Decimal}
    (h : registerAccount role fingerprint equity store = .ok next) : Effect limits store next := by
  simp only [registerAccount, check_bind_ok, raiseIf_ok, pure, Except.pure, Except.ok.injEq] at h
  obtain ⟨-, -, -, rfl⟩ := h
  have hkept : ∀ account other, (store.accounts.get other).isSome →
      ((store.accounts.set role account).get other).isSome := by
    intro account other hother
    by_cases hrole : role = other <;> simp [hrole, hother]
  cases hbudget : store.budgets.get role with
  | none =>
      refine .register role rfl rfl hbudget ⟨hkept _, fun other hother => ?_⟩
      by_cases hrole : role = other
      · exact Or.inr (by simp [hrole])
      · exact Or.inl (by simpa [hrole] using hother)
  | some budget =>
      refine .frame rfl (fun _ => rfl) ⟨hkept _, fun other hother => ?_⟩
      by_cases hrole : role = other
      · exact Or.inr (by simp [← hrole, hbudget])
      · exact Or.inl (by simpa [hrole] using hother)

/-- Switching autonomy changes an account only. -/
theorem setAutonomousEnabled_effect {enabled : Bool} {actor : Actor}
    (h : setAutonomousEnabled role enabled actor store = .ok next) : Effect limits store next := by
  simp only [setAutonomousEnabled, check_bind_ok, require_bind_ok, raiseIf_ok, pure, Except.pure,
    Except.ok.injEq] at h
  obtain ⟨-, -, account, haccount, rfl⟩ := h
  exact .frame rfl (fun _ => rfl) (.of_change (by simp [haccount]) rfl)

/-- Capturing a baseline touches no intent and no budget. -/
theorem captureBaseline_effect {baseline : SubmissionBaseline}
    (h : captureBaseline role baseline store = .ok next) : Effect limits store next := by
  simp only [captureBaseline, check_bind_ok, require_bind_ok, raiseIf_ok, pure, Except.pure,
    Except.ok.injEq] at h
  obtain ⟨-, -, _, -, -, -, rfl⟩ := h
  exact .frame rfl (fun _ => rfl) (.of_accounts rfl)

/-- Observing an adjustment touches no intent and no budget. -/
theorem observeAccountAdjustment_effect {activity : String}
    (h : observeAccountAdjustment role activity store = .ok next) : Effect limits store next := by
  simp only [observeAccountAdjustment, check_bind_ok, pure, Except.pure] at h
  obtain ⟨-, h⟩ := h
  split at h
  · cases h
    exact .frame rfl (fun _ => rfl) (.of_accounts rfl)
  · cases h
    exact .frame rfl (fun _ => rfl) (.of_accounts rfl)

/-- Adding the certificate of an assessment touches no intent and no budget. -/
theorem addAssessmentCertificate_effect {certificate : AssessmentCertificate}
    (h : addAssessmentCertificate certificate store = .ok next) : Effect limits store next := by
  simp only [addAssessmentCertificate, check_bind_ok, raiseIf_ok, pure, Except.pure,
    Except.ok.injEq] at h
  obtain ⟨-, -, -, -, rfl⟩ := h
  exact .frame rfl (fun _ => rfl) (.of_accounts rfl)

/-- Adding the approval of an entry touches no intent and no budget. -/
theorem addEntryApproval_effect {approval : EntryApprovalAuthorization}
    (h : addEntryApproval approval store = .ok next) : Effect limits store next := by
  simp only [addEntryApproval, check_bind_ok, raiseIf_ok, pure, Except.pure,
    Except.ok.injEq] at h
  obtain ⟨-, -, -, rfl⟩ := h
  exact .frame rfl (fun _ => rfl) (.of_accounts rfl)

/-- Releasing a claim ends it and gives a reservation back. -/
theorem releaseUnsubmittedClaim_effect
    (hkeyed : ∀ id intent, store.intents.get id = some intent → intent.intentId = id)
    (hunconsumed : ∀ intent ∈ store.intents.values, intent.state ≠ .terminal →
      intent.firstFillConsumed = false) (h : releaseUnsubmittedClaim intentId store = .ok next) :
    Effect limits store next := by
  simp only [releaseUnsubmittedClaim, require_bind_ok, check_bind_ok, raiseIf_ok, pure,
    Except.pure, Except.ok.injEq, Bool.or_eq_false_iff, bne_eq_false_iff_eq] at h
  obtain ⟨intent, hget, attempts, -, ⟨hstate, -⟩, budget, hbudget, rfl⟩ := h
  refine .close intentId intent _ hget rfl rfl rfl rfl hstate rfl budget _ hbudget rfl ?_
    (.of_accounts rfl)
  refine .release (fun _ => ?_) (by rw [hkeyed intentId intent hget])
  exact hunconsumed intent (Dict.mem_values.mpr ⟨intentId, hget⟩) (by simp [hstate])

/-- Adding an attempt touches no intent and no budget. -/
theorem addAttempt_effect {attempt : OrderAttempt} (h : addAttempt attempt store = .ok next) :
    Effect limits store next := by
  simp only [addAttempt, require_bind_ok, check_bind_ok, raiseIf_ok, pure, Except.pure,
    Except.ok.injEq] at h
  obtain ⟨-, attempts, -, -, -, rfl⟩ := h
  exact .frame rfl (fun _ => rfl) (.of_accounts rfl)

/-- Replacing an attempt touches no intent and no budget. -/
theorem replaceAttempt_effect {attempt : OrderAttempt}
    (h : replaceAttempt attempt store = .ok next) : Effect limits store next := by
  simp only [replaceAttempt, require_bind_ok, check_bind_ok, raiseIf_ok, pure, Except.pure,
    Except.ok.injEq] at h
  obtain ⟨-, attempts, -, existing, -, -, -, -, rfl⟩ := h
  exact .frame rfl (fun _ => rfl) (.of_accounts rfl)

/-- Charging an entry leaves a budget that is charged or released. -/
theorem chargeEntry_closed {intent new : ExecutionIntent} {account : AccountState}
    {budget charged : EntryBudget} {hasFill : Bool} (hentry : intent.envelope.action = .entry)
    (hfill : new.firstFillConsumed = hasFill)
    (h : chargeEntry limits intent account budget hasFill = .ok charged) :
    Closed limits intent new budget charged := by
  simp only [chargeEntry, check_bind_ok, raiseIf_ok, bne_eq_false_iff_eq] at h
  obtain ⟨hreserved, -, h⟩ := h
  cases hasFill with
  | true =>
      simp only [if_true, check_bind_ok, pure, Except.pure, Except.ok.injEq] at h
      obtain ⟨hlimits, rfl⟩ := h
      refine .charge hentry hfill (fun required hrequired => ?_) rfl
      obtain ⟨found, hfound, hcheck⟩ := validateEntryLimits_ok.mp hlimits
      rw [hrequired, Option.some.injEq] at hfound
      subst hfound
      have hwithin := EntryBudgetLimits.validateEntry_ok.mp hcheck
      exact ⟨hwithin.2.2.1, hwithin.2.2.2.2.1⟩
  | false =>
      cases h
      exact .release (fun _ => hfill) (by simp [releaseReservation, hreserved])

variable [Digest]

/-- Approving an intent adds it, or finds it again. -/
theorem approveIntent_effect {envelope : OrderEnvelope}
    (h : approveIntent intentId role envelope store = .ok next) : Effect limits store next := by
  simp only [approveIntent, check_bind_ok] at h
  obtain ⟨-, h⟩ := h
  split at h
  · simp only [require_bind_ok, check_bind_ok, pure, Except.pure, Except.ok.injEq] at h
    obtain ⟨_, -, -, rfl⟩ := h
    exact .frame rfl (fun _ => rfl) (.of_accounts rfl)
  · simp only [approveNew, require_bind_ok, check_bind_ok, raiseIf_ok, pure, Except.pure,
      Except.ok.injEq, Option.isSome_eq_false_iff, Option.isNone_iff_eq_none] at h
    obtain ⟨hnew, hslot, account, haccount, -, rfl⟩ := h
    let approved : ExecutionIntent :=
      { intentId, accountRole := role, envelope, digest := intentDigest envelope, state :=
        .approved }
    refine .approve approved rfl hnew rfl rfl (fun hentry other hother => ?_)
      (by simp [approved, haccount]) rfl (.of_accounts rfl)
    rw [requireEntrySlot, if_pos (show envelope.action = .entry from hentry), check_bind_ok,
      raiseIf_ok, raiseIf_ok, List.any_eq_false] at hslot
    simp only [entriesOf, List.mem_filter] at hother
    have hopen := hslot.2 other hother.1
    rw [Bool.and_eq_true, not_and] at hopen
    simpa using hopen hother.2

/-- Claiming an intent claims it and reserves the loss of an entry. -/
theorem claimIntent_effect {now : Int} {token : Uuid} {actor : Actor} {fingerprint : String}
    (h : claimIntent limits now token intentId actor role fingerprint store = .ok next) :
    Effect limits store next := by
  simp only [claimIntent, require_bind_ok, check_bind_ok, raiseIf_ok, pure, Except.pure] at h
  obtain ⟨intent, hget, -, -, account, haccount, -, -, hstate, hfree, -, h⟩ := h
  obtain ⟨reserved, hreserve, h⟩ := bind_ok.mp h
  cases h
  have happroved : intent.state = .approved := by simpa using hstate
  have hnone : ∀ other ∈ store.intents.values, other.accountRole = intent.accountRole →
      other.state ≠ .claimed := by
    rw [List.any_eq_false] at hfree
    intro other hother hrole
    simpa [hrole] using hfree other hother
  unfold authorizeClaim at hreserve
  split at hreserve
  · rename_i hentry
    simp only [reserveEntry, check_bind_ok, require_bind_ok, raiseIf_ok, pure, Except.pure,
      Except.ok.injEq] at hreserve
    obtain ⟨-, -, budget, hbudget, -, -, hvalid, rfl⟩ := hreserve
    refine .claim intentId intent _ hget rfl rfl rfl rfl rfl happroved rfl hnone ?_ (fun _ => ?_)
      (.of_change (by simp [haccount]) rfl)
    · rw [if_pos hentry]
      exact ⟨budget, hbudget, rfl⟩
    · obtain ⟨required, hrequired, hcheck⟩ := validateEntryLimits_ok.mp hvalid
      refine ⟨required, hrequired, fun other found hfound => ?_⟩
      cases hbudget.symm.trans hfound
      exact (EntryBudgetLimits.validateEntry_iff_allows.mp hcheck).1.congr rfl rfl rfl rfl rfl
  · rename_i hentry
    simp only [check_bind_ok, raiseIf_ok, pure, Except.pure, Except.ok.injEq] at hreserve
    obtain ⟨-, rfl⟩ := hreserve
    refine .claim intentId intent _ hget rfl rfl rfl rfl rfl happroved rfl hnone ?_
      (fun h => absurd h hentry) (.of_change (by simp [haccount]) rfl)
    rw [if_neg hentry]

/-- Finalizing an execution ends its claim and charges a filled entry. -/
theorem finalizeExecution_effect {now : Int} {certificate : ExecutionCertificate}
    {reconciliation : Reconciliation} {requestedStatus : String}
    (h : finalizeExecution limits now certificate reconciliation requestedStatus store = .ok next) :
    Effect limits store next := by
  simp only [finalizeExecution, require_bind_ok, check_bind_ok, raiseIf_ok] at h
  obtain ⟨-, -, intent, hget, -, attempts, -, h⟩ := h
  obtain ⟨⟨normalized, hasFill⟩, hfinal, h⟩ := bind_ok.mp h
  simp only [require_bind_ok] at h
  obtain ⟨account, haccount, budget, hbudget, h⟩ := h
  obtain ⟨charged, hcharged, h⟩ := bind_ok.mp h
  cases h
  obtain ⟨hstate, hconsumed⟩ := validateFinalization_open hfinal
  refine .close certificate.intentId intent _ hget rfl rfl rfl rfl hstate rfl budget charged
    hbudget rfl ?_ (.of_change (by simp [haccount]) rfl)
  unfold finalizeBudget at hcharged
  split at hcharged
  · rename_i hentry
    exact chargeEntry_closed hentry (by simp [hconsumed]) hcharged
  · rename_i hentry
    cases hcharged
    exact .other hentry rfl

end

/-! ## Every call keeps the invariant -/

section

variable {limits : Option EntryBudgetLimits} {store next : Store}
variable {intent : ExecutionIntent} {role : AccountRole}

theorem mem_entriesOf :
    intent ∈ entriesOf store role ↔
      intent ∈ store.intents.values ∧ intent.accountRole = role ∧
        intent.envelope.action = .entry := by
  simp [entriesOf, isEntryOf]

/-- A role without a budget has no entries. -/
theorem Inv.entriesOf_unbudgeted (hinv : Inv limits store) (h : store.budgets.get role = none) :
    entriesOf store role = [] := by
  refine List.eq_nil_iff_forall_not_mem.mpr fun intent hmem => ?_
  obtain ⟨hvalue, hrole, -⟩ := mem_entriesOf.mp hmem
  have hbudget := hinv.budgeted _ (hinv.registered intent hvalue)
  simp [hrole, h] at hbudget

/-- The claimed entry of a role is the one that is reserved. -/
theorem Inv.claimedEntry_eq (hinv : Inv limits store) (hmem : intent ∈ store.intents.values)
    (hentry : intent.envelope.action = .entry) (hclaimed : intent.state = .claimed) :
    claimedEntry (entriesOf store intent.accountRole) = some intent := by
  have hin : intent ∈ entriesOf store intent.accountRole := mem_entriesOf.mpr ⟨hmem, rfl, hentry⟩
  cases hfound : claimedEntry (entriesOf store intent.accountRole) with
  | none =>
      rw [claimedEntry, List.find?_eq_none] at hfound
      exact absurd hclaimed (by simpa using hfound intent hin)
  | some found =>
      have hstate := List.find?_some hfound
      obtain ⟨hvalue, hrole, -⟩ := mem_entriesOf.mp (List.mem_of_find?_eq_some hfound)
      rw [hinv.lease found hvalue intent hmem hrole (by simpa using hstate) hclaimed]

theorem Inv.empty : Inv limits {} := by
  constructor <;> intros <;> simp_all [Dict.values, Dict.empty, Dict.get, Dict.find, entriesOf]

/-- Limits leave room for an account that has not traded. -/
theorem budget_capped_empty (required : EntryBudgetLimits) :
    (0 : Int) ≤ required.maximumLifetimeEntries ∧
      Decimal.ofInt 0 ≤ required.maximumLifetimeRisk := by
  have hvalid := required.valid
  simp only [EntryBudgetLimitsFields.postInit, raiseIf_ok, Bool.or_eq_false_iff,
    Bool.not_eq_eq_eq_not, Bool.not_false, decide_eq_true_eq] at hvalid
  obtain ⟨⟨⟨⟨-, hentries, -⟩, hloss, -⟩, hrisk, -⟩, -⟩ := hvalid
  rw [Decimal.lt_iff_value] at hloss
  rw [Decimal.le_iff_value] at hrisk ⊢
  exact ⟨by omega, le_of_lt (lt_of_lt_of_le hloss hrisk)⟩

/-- A store with the same intents and budgets keeps the invariant. -/
theorem Inv.frame (hinv : Inv limits store) (hintents : next.intents = store.intents)
    (hbudgets : ∀ role, next.budgets.get role = store.budgets.get role)
    (hroles : KeepsRoles store next) : Inv limits next := by
  have hentries : ∀ role, entriesOf next role = entriesOf store role := by
    intro role
    rw [entriesOf, hintents, entriesOf]
  refine ⟨?_, ?_, ?_, ?_, ?_, ?_, ?_, ?_⟩
  · simpa only [hintents] using hinv.keyed
  · intro role hrole
    rcases hroles.budgeted role hrole with h | h
    · rw [hbudgets]
      exact hinv.budgeted role h
    · exact h
  · intro intent hmem
    rw [hintents] at hmem
    exact hroles.kept _ (hinv.registered intent hmem)
  · simpa only [hintents] using hinv.lease
  · simpa only [hentries] using hinv.sequential
  · simpa only [hintents] using hinv.unconsumed
  · simpa only [hentries, hbudgets] using hinv.budget
  · simpa only [hbudgets] using hinv.capped

/-- Giving a new role its budget keeps the invariant. -/
theorem Inv.register (hinv : Inv limits store) (hintents : next.intents = store.intents)
    (hbudgets : next.budgets = store.budgets.set role {}) (hnew : store.budgets.get role = none)
    (hroles : KeepsRoles store next) : Inv limits next := by
  have hentries : ∀ role, entriesOf next role = entriesOf store role := by
    intro role
    rw [entriesOf, hintents, entriesOf]
  have hget : ∀ other budget, next.budgets.get other = some budget →
      other = role ∧ budget = {} ∨ store.budgets.get other = some budget := by
    intro other budget h
    rw [hbudgets, Dict.get_set] at h
    split at h
    · rename_i heq
      exact Or.inl ⟨heq.symm, (Option.some.inj h).symm⟩
    · exact Or.inr h
  refine ⟨?_, ?_, ?_, ?_, ?_, ?_, ?_, ?_⟩
  · simpa only [hintents] using hinv.keyed
  · intro other hother
    rcases hroles.budgeted other hother with h | h
    · have hold := hinv.budgeted other h
      rw [hbudgets, Dict.get_set]
      split
      · rfl
      · exact hold
    · exact h
  · intro intent hmem
    rw [hintents] at hmem
    exact hroles.kept _ (hinv.registered intent hmem)
  · simpa only [hintents] using hinv.lease
  · simpa only [hentries] using hinv.sequential
  · simpa only [hintents] using hinv.unconsumed
  · intro other budget h
    rw [hentries]
    rcases hget other budget h with ⟨rfl, rfl⟩ | hold
    · rw [hinv.entriesOf_unbudgeted hnew]
      rfl
    · exact hinv.budget other budget hold
  · intro other budget h required hrequired
    rcases hget other budget h with ⟨-, rfl⟩ | hold
    · exact budget_capped_empty required
    · exact hinv.capped other budget hold required hrequired

/-- Approving a new intent keeps the invariant. -/
theorem Inv.approve (hinv : Inv limits store)
    (hintents : next.intents = store.intents.set intent.intentId intent)
    (hnew : store.intents.get intent.intentId = none) (hstate : intent.state = .approved)
    (hfresh : intent.firstFillConsumed = false)
    (hslot : intent.envelope.action = .entry →
      ∀ other ∈ entriesOf store intent.accountRole, other.state = .terminal)
    (haccount : (store.accounts.get intent.accountRole).isSome)
    (hbudgets : next.budgets = store.budgets) (hroles : KeepsRoles store next) :
    Inv limits next := by
  have hmem : ∀ {other}, other ∈ next.intents.values →
      other = intent ∨ other ∈ store.intents.values ∧ other.intentId ≠ intent.intentId :=
    fun h => mem_intents_set hinv.keyed hintents h
  have hentries := entriesOf_new hnew hintents
  refine ⟨?_, ?_, ?_, ?_, ?_, ?_, ?_, ?_⟩
  · intro id other hget
    rw [hintents, Dict.get_set] at hget
    split at hget
    · rename_i heq
      rw [← Option.some.inj hget, heq]
    · exact hinv.keyed id other hget
  · intro role hrole
    rcases hroles.budgeted role hrole with h | h
    · rw [hbudgets]
      exact hinv.budgeted role h
    · exact h
  · intro other hother
    rcases hmem hother with rfl | ⟨hold, -⟩
    · exact hroles.kept _ haccount
    · exact hroles.kept _ (hinv.registered other hold)
  · intro left hleft right hright hrole hlc hrc
    rcases hmem hleft with rfl | ⟨hl, -⟩
    · simp [hstate] at hlc
    · rcases hmem hright with rfl | ⟨hr, -⟩
      · simp [hstate] at hrc
      · exact hinv.lease left hl right hr hrole hlc hrc
  · intro role other hother
    rw [hentries] at hother
    split at hother
    · rename_i hentry
      rw [List.dropLast_concat] at hother
      simp only [isEntryOf, Bool.and_eq_true, beq_iff_eq] at hentry
      exact hslot hentry.2 other (hentry.1 ▸ hother)
    · exact hinv.sequential role other hother
  · intro other hother hopen
    rcases hmem hother with rfl | ⟨hold, -⟩
    · exact hfresh
    · exact hinv.unconsumed other hold hopen
  · intro role budget hget
    rw [hbudgets] at hget
    rw [hentries, hinv.budget role budget hget]
    split
    · rw [budgetOf_append (by simp [hstate]) hfresh]
    · rfl
  · simpa only [hbudgets] using hinv.capped

section Change

variable {id : Uuid} {old new : ExecutionIntent}
variable {budget : EntryBudget}

/-- Changing an open intent changes the last entry of its role, or no entry at all. -/
theorem Inv.entriesOf_change (hinv : Inv limits store) (hget : store.intents.get id = some old)
    (hintents : next.intents = store.intents.set id new)
    (hrole : new.accountRole = old.accountRole) (henvelope : new.envelope = old.envelope)
    (hopen : old.state ≠ .terminal) (role : AccountRole) :
    (isEntryOf role old = true ∧ ∃ before, (∀ intent ∈ before, intent.state = .terminal) ∧
      entriesOf store role = before ++ [old] ∧ entriesOf next role = before ++ [new]) ∨
    (isEntryOf role old = false ∧ entriesOf next role = entriesOf store role) := by
  rcases Memory.entriesOf_change hget hintents hrole henvelope role with
    ⟨hentry, before, after, hstore, hnext⟩ | hother
  · have hfinished := hinv.sequential role
    rw [hstore] at hfinished
    have hlast : after = [] := last_of_open hfinished hopen
    subst hlast
    rw [List.dropLast_concat] at hfinished
    exact Or.inl ⟨hentry, before, hfinished, hstore, hnext⟩
  · exact Or.inr hother

/-- Changing an open intent keeps the invariant where the budgets follow the change. -/
theorem Inv.change (hinv : Inv limits store) (hget : store.intents.get id = some old)
    (hintents : next.intents = store.intents.set id new) (hid : new.intentId = old.intentId)
    (hrole : new.accountRole = old.accountRole) (henvelope : new.envelope = old.envelope)
    (hopen : old.state ≠ .terminal)
    (hlease : new.state = .claimed → ∀ other ∈ store.intents.values,
      other.accountRole = old.accountRole → other.state ≠ .claimed)
    (hfill : new.state ≠ .terminal → new.firstFillConsumed = false)
    (hkept : ∀ role, (store.budgets.get role).isSome → (next.budgets.get role).isSome)
    (hroles : KeepsRoles store next)
    (hbudget : ∀ role budget, next.budgets.get role = some budget →
      budget = budgetOf (entriesOf next role))
    (hcapped : ∀ role budget, next.budgets.get role = some budget → ∀ required,
      limits = some required → budget.entriesUsed ≤ required.maximumLifetimeEntries ∧
        budget.grossApprovedRisk ≤ required.maximumLifetimeRisk) : Inv limits next := by
  have hmem : ∀ {other}, other ∈ next.intents.values →
      other = new ∨ other ∈ store.intents.values ∧ other.intentId ≠ id :=
    fun h => mem_intents_set hinv.keyed hintents h
  have hold := Dict.mem_values.mpr ⟨id, hget⟩
  refine ⟨?_, ?_, ?_, ?_, ?_, ?_, hbudget, hcapped⟩
  · intro key other hkey
    rw [hintents, Dict.get_set] at hkey
    split at hkey
    · rename_i heq
      rw [← Option.some.inj hkey, hid, hinv.keyed id old hget, heq]
    · exact hinv.keyed key other hkey
  · intro role h
    rcases hroles.budgeted role h with h | h
    · exact hkept role (hinv.budgeted role h)
    · exact h
  · intro other hother
    rcases hmem hother with rfl | ⟨hin, -⟩
    · rw [hrole]
      exact hroles.kept _ (hinv.registered old hold)
    · exact hroles.kept _ (hinv.registered other hin)
  · intro left hleft right hright hsame hl hr
    rcases hmem hleft with rfl | ⟨hlin, -⟩
    · rcases hmem hright with rfl | ⟨hrin, -⟩
      · rfl
      · exact absurd hr (hlease hl right hrin (by rw [← hsame, hrole]))
    · rcases hmem hright with rfl | ⟨hrin, -⟩
      · exact absurd hl (hlease hr left hlin (by rw [hsame, hrole]))
      · exact hinv.lease left hlin right hrin hsame hl hr
  · intro role other hother
    rcases hinv.entriesOf_change hget hintents hrole henvelope hopen role with
      ⟨-, before, hfinished, -, hnext⟩ | ⟨-, hnext⟩
    · rw [hnext, List.dropLast_concat] at hother
      exact hfinished other hother
    · rw [hnext] at hother
      exact hinv.sequential role other hother
  · intro other hother hstate
    rcases hmem hother with rfl | ⟨hin, -⟩
    · exact hfill hstate
    · exact hinv.unconsumed other hin hstate

theorem noneClaimed_of_finished {entries : List ExecutionIntent}
    (h : ∀ intent ∈ entries, intent.state = .terminal) : NoneClaimed entries := by
  intro intent hmem
  simp [h intent hmem]

/-- Claiming an intent keeps the invariant. -/
theorem Inv.claim (hinv : Inv limits store) (hget : store.intents.get id = some old)
    (hintents : next.intents = store.intents.set id new) (hid : new.intentId = old.intentId)
    (hrole : new.accountRole = old.accountRole) (henvelope : new.envelope = old.envelope)
    (hfill : new.firstFillConsumed = old.firstFillConsumed) (hold : old.state = .approved)
    (hnew : new.state = .claimed)
    (hfree : ∀ other ∈ store.intents.values, other.accountRole = old.accountRole →
      other.state ≠ .claimed)
    (hbudgets : if old.envelope.action = .entry then
        ∃ budget, store.budgets.get old.accountRole = some budget ∧
          next.budgets = store.budgets.set old.accountRole { budget with
            reservedIntentId := some old.intentId
            reservedRisk := old.envelope.approvedMaxLoss }
      else next.budgets = store.budgets)
    (hroles : KeepsRoles store next) : Inv limits next := by
  have hopen : old.state ≠ .terminal := by simp [hold]
  have hunfilled : old.firstFillConsumed = false :=
    hinv.unconsumed old (Dict.mem_values.mpr ⟨id, hget⟩) hopen
  have hchange := hinv.entriesOf_change hget hintents hrole henvelope hopen
  by_cases hentry : old.envelope.action = .entry
  · rw [if_pos hentry] at hbudgets
    obtain ⟨reserve, hreserve, hset⟩ := hbudgets
    have hnext : ∀ role budget, next.budgets.get role = some budget →
        role = old.accountRole ∧ budget = { reserve with
          reservedIntentId := some old.intentId
          reservedRisk := old.envelope.approvedMaxLoss } ∨
        role ≠ old.accountRole ∧ store.budgets.get role = some budget := by
      intro role budget h
      rw [hset, Dict.get_set] at h
      split at h
      · rename_i heq
        exact Or.inl ⟨heq.symm, (Option.some.inj h).symm⟩
      · rename_i hne
        exact Or.inr ⟨Ne.symm hne, h⟩
    refine hinv.change hget hintents hid hrole henvelope hopen (fun _ => hfree)
      (fun _ => hfill.trans hunfilled) (fun role h => ?_) hroles (fun role budget h => ?_)
      (fun role budget h required hrequired => ?_)
    · rw [hset, Dict.get_set]
      split
      · rfl
      · exact h
    · rcases hnext role budget h with ⟨rfl, rfl⟩ | ⟨hother, hkept⟩
      · rcases hchange old.accountRole with ⟨-, before, hfinished, hstore, hafter⟩ | ⟨hno, -⟩
        · rw [hafter, budgetOf_claim (noneClaimed_of_finished hfinished) hnew hunfilled
            (hfill.trans hunfilled), ← hstore, ← hinv.budget _ _ hreserve, hid, henvelope]
        · simp [isEntryOf, hentry] at hno
      · rcases hchange role with ⟨hyes, -⟩ | ⟨-, hafter⟩
        · simp only [isEntryOf, Bool.and_eq_true, beq_iff_eq] at hyes
          exact absurd hyes.1.symm hother
        · rw [hafter]
          exact hinv.budget role budget hkept
    · rcases hnext role budget h with ⟨rfl, rfl⟩ | ⟨-, hkept⟩
      · exact hinv.capped old.accountRole reserve hreserve required hrequired
      · exact hinv.capped role budget hkept required hrequired
  · rw [if_neg hentry] at hbudgets
    refine hinv.change hget hintents hid hrole henvelope hopen (fun _ => hfree)
      (fun _ => hfill.trans hunfilled) (fun role h => by rwa [hbudgets]) hroles
      (fun role budget h => ?_) (by simpa only [hbudgets] using hinv.capped)
    rw [hbudgets] at h
    rcases hchange role with ⟨hyes, -⟩ | ⟨-, hafter⟩
    · simp only [isEntryOf, Bool.and_eq_true, beq_iff_eq] at hyes
      exact absurd hyes.2 hentry
    · rw [hafter]
      exact hinv.budget role budget h

theorem releaseReservation_of_ne {intentId : Uuid} (h : budget.reservedIntentId ≠ some intentId) :
    releaseReservation intentId budget = budget := by
  simp [releaseReservation, h]

/-- A claim that is no entry is not the one its role has reserved. -/
theorem Inv.reserved_ne (hinv : Inv limits store) (hget : store.intents.get id = some old)
    (hentry : old.envelope.action ≠ .entry) {role : AccountRole}
    (hbudget : store.budgets.get role = some budget) :
    budget.reservedIntentId ≠ some old.intentId := by
  rw [hinv.budget role budget hbudget]
  intro hreserved
  simp only [budgetOf, Option.map_eq_some_iff] at hreserved
  obtain ⟨found, hfound, hsame⟩ := hreserved
  obtain ⟨hvalue, -, haction⟩ := mem_entriesOf.mp (List.mem_of_find?_eq_some hfound)
  obtain ⟨key, hkey⟩ := Dict.mem_values.mp hvalue
  have hids : key = id := by
    rw [← hinv.keyed key found hkey, hsame, hinv.keyed id old hget]
  rw [hids, hget, Option.some.injEq] at hkey
  exact hentry (hkey ▸ haction)

/-- Ending a claim keeps the invariant. -/
theorem Inv.close (hinv : Inv limits store) (hget : store.intents.get id = some old)
    (hintents : next.intents = store.intents.set id new) (hid : new.intentId = old.intentId)
    (hrole : new.accountRole = old.accountRole) (henvelope : new.envelope = old.envelope)
    (hold : old.state = .claimed) (hnew : new.state = .terminal) {charged : EntryBudget}
    (hbudget : store.budgets.get old.accountRole = some budget)
    (hbudgets : next.budgets = store.budgets.set old.accountRole charged)
    (hcharged : Closed limits old new budget charged) (hroles : KeepsRoles store next) :
    Inv limits next := by
  have hopen : old.state ≠ .terminal := by simp [hold]
  have hvalue := Dict.mem_values.mpr ⟨id, hget⟩
  have hunfilled : old.firstFillConsumed = false := hinv.unconsumed old hvalue hopen
  have hchange := hinv.entriesOf_change hget hintents hrole henvelope hopen
  have hspent := hinv.budget _ _ hbudget
  have hnext : ∀ role found, next.budgets.get role = some found →
      role = old.accountRole ∧ found = charged ∨
      role ≠ old.accountRole ∧ store.budgets.get role = some found := by
    intro role found h
    rw [hbudgets, Dict.get_set] at h
    split at h
    · rename_i heq
      exact Or.inl ⟨heq.symm, (Option.some.inj h).symm⟩
    · rename_i hne
      exact Or.inr ⟨Ne.symm hne, h⟩
  refine hinv.change hget hintents hid hrole henvelope hopen (by simp [hnew]) (by simp [hnew])
    (fun role h => ?_) hroles (fun role found h => ?_) (fun role found h required hrequired => ?_)
  · rw [hbudgets, Dict.get_set]
    split
    · rfl
    · exact h
  · rcases hnext role found h with ⟨rfl, rfl⟩ | ⟨hother, hkept⟩
    · rcases hchange old.accountRole with ⟨hyes, before, hfinished, hstore, hafter⟩ | ⟨hno, hafter⟩
      · have hentry : old.envelope.action = .entry := by simpa [isEntryOf] using hyes
        have hnone := noneClaimed_of_finished hfinished
        have hreserved := hinv.claimedEntry_eq hvalue hentry hold
        rw [hafter]
        cases hcharged with
        | charge _ hfill _ heq =>
            rw [budgetOf_fill hnone (by simp [hnew]) hunfilled hfill, ← hstore, ← hspent, heq]
            simp [hspent, budgetOf, hreserved, henvelope]
        | release hfill heq =>
            rw [budgetOf_release hnone (by simp [hnew]) hunfilled (hfill hentry), ← hstore,
              ← hspent, heq, releaseReservation, if_pos]
            simp [hspent, budgetOf, hreserved]
        | other hne => exact absurd hentry hne
      · have hentry : old.envelope.action ≠ .entry := by simpa [isEntryOf] using hno
        rw [hafter, ← hspent]
        cases hcharged with
        | charge hyes => exact absurd hyes hentry
        | release _ heq =>
            rw [heq, releaseReservation_of_ne (hinv.reserved_ne hget hentry hbudget)]
        | other _ heq => exact heq
    · rcases hchange role with ⟨hyes, -⟩ | ⟨-, hafter⟩
      · simp only [isEntryOf, Bool.and_eq_true, beq_iff_eq] at hyes
        exact absurd hyes.1.symm hother
      · rw [hafter]
        exact hinv.budget role found hkept
  · rcases hnext role found h with ⟨rfl, rfl⟩ | ⟨-, hkept⟩
    · have hbefore := hinv.capped _ _ hbudget required hrequired
      cases hcharged with
      | charge _ _ hcaps heq =>
          obtain ⟨hcount, hrisk⟩ := hcaps required hrequired
          rw [heq]
          rw [Decimal.le_iff_value]
          rw [gt_iff_lt, Decimal.lt_iff_value, not_lt] at hrisk
          exact ⟨hcount, hrisk⟩
      | release _ heq =>
          rw [heq]
          unfold releaseReservation
          split <;> exact hbefore
      | other _ heq => exact heq ▸ hbefore
    · exact hinv.capped role found hkept required hrequired

end Change

/-- Reserving a claimed entry again leaves every budget as it is. -/
theorem Inv.recoverReservation_same (hinv : Inv limits store) {middle : Store}
    (hmem : intent ∈ store.intents.values)
    (hbudgets : ∀ role, middle.budgets.get role = store.budgets.get role)
    (h : recoverReservation middle intent = .ok next) :
    next.intents = middle.intents ∧ next.accounts = middle.accounts ∧
      ∀ role, next.budgets.get role = store.budgets.get role := by
  unfold recoverReservation at h
  split at h
  · rename_i hclaimed
    obtain ⟨hentry, hstate, -⟩ := hclaimed
    simp only [require_bind_ok, pure, Except.pure, Except.ok.injEq] at h
    obtain ⟨budget, hbudget, rfl⟩ := h
    refine ⟨rfl, rfl, fun role => ?_⟩
    rw [hbudgets] at hbudget
    have hreserved : claimedEntry (entriesOf store intent.accountRole) = some intent :=
      hinv.claimedEntry_eq hmem hentry hstate
    by_cases hrole : intent.accountRole = role
    · subst hrole
      rw [Dict.get_set, if_pos rfl, hbudget, hinv.budget _ _ hbudget]
      simp [budgetOf, hreserved]
    · rw [Dict.get_set, if_neg hrole, hbudgets]
  · cases h
    exact ⟨rfl, rfl, hbudgets⟩

/-- Recovering the reservations of some intents leaves every budget as it is. -/
theorem Inv.recover_same (hinv : Inv limits store) (intents : List ExecutionIntent)
    (hmem : ∀ intent ∈ intents, intent ∈ store.intents.values) {middle : Store}
    (hbudgets : ∀ role, middle.budgets.get role = store.budgets.get role)
    (h : intents.foldlM recoverReservation middle = .ok next) :
    next.intents = middle.intents ∧ next.accounts = middle.accounts ∧
      ∀ role, next.budgets.get role = store.budgets.get role := by
  induction intents generalizing middle with
  | nil =>
      cases h
      exact ⟨rfl, rfl, hbudgets⟩
  | cons intent rest ih =>
      rw [List.foldlM_cons] at h
      obtain ⟨one, hone, hrest⟩ := bind_ok.mp h
      obtain ⟨hintents, haccounts, hsame⟩ :=
        hinv.recoverReservation_same (hmem intent List.mem_cons_self) hbudgets hone
      rw [← hintents, ← haccounts]
      exact ih (fun other hother => hmem other (List.mem_cons_of_mem _ hother)) hsame hrest

theorem Inv.recover_effect (hinv : Inv limits store)
    (h : recoverEntryReservations store = .ok next) : Effect limits store next := by
  obtain ⟨hintents, haccounts, hbudgets⟩ :=
    hinv.recover_same store.intents.values (fun _ hmem => hmem) (fun _ => rfl) h
  exact .frame hintents hbudgets (.of_accounts haccounts)

/-- Every effect keeps the invariant. -/
theorem Inv.of_effect (hinv : Inv limits store) (h : Effect limits store next) :
    Inv limits next := by
  cases h with
  | frame hintents hbudgets hroles => exact hinv.frame hintents hbudgets hroles
  | register role hintents hbudgets hnew hroles =>
      exact hinv.register hintents hbudgets hnew hroles
  | approve intent hintents hnew hstate hfresh hslot haccount hbudgets hroles =>
      exact hinv.approve hintents hnew hstate hfresh hslot haccount hbudgets hroles
  | claim id old new hget hintents hid hrole henvelope hfill hold hnew hfree hbudgets hlimits
      hroles =>
      exact hinv.claim hget hintents hid hrole henvelope hfill hold hnew hfree hbudgets hroles
  | close id old new hget hintents hid hrole henvelope hold hnew budget charged hbudget hbudgets
      hcharged hroles =>
      exact hinv.close hget hintents hid hrole henvelope hold hnew hbudget hbudgets hcharged hroles

variable [Digest]

/-- A successful call has one of the effects. -/
theorem Inv.apply_effect (hinv : Inv limits store) {call : Call}
    (h : apply limits call store = .ok next) : Effect limits store next := by
  cases call with
  | registerAccount role fingerprint equity => exact registerAccount_effect h
  | setAutonomousEnabled role enabled actor => exact setAutonomousEnabled_effect h
  | captureBaseline role baseline => exact captureBaseline_effect h
  | observeAccountAdjustment role activity => exact observeAccountAdjustment_effect h
  | addAssessmentCertificate certificate => exact addAssessmentCertificate_effect h
  | addEntryApproval approval => exact addEntryApproval_effect h
  | approveIntent intentId role envelope => exact approveIntent_effect h
  | claimIntent now token intentId actor role fingerprint => exact claimIntent_effect h
  | releaseUnsubmittedClaim intentId =>
      exact releaseUnsubmittedClaim_effect hinv.keyed hinv.unconsumed h
  | addAttempt attempt => exact addAttempt_effect h
  | replaceAttempt attempt => exact replaceAttempt_effect h
  | finalizeExecution now certificate reconciliation requestedStatus =>
      exact finalizeExecution_effect h
  | recoverEntryReservations => exact hinv.recover_effect h

theorem Inv.step (hinv : Inv limits store) {call : Call}
    (hstep : (repository limits).step store call next) : Inv limits next := by
  rcases hstep with h | ⟨-, rfl⟩
  · exact hinv.of_effect (hinv.apply_effect h)
  · exact hinv

theorem Inv.of_reachable (h : (repository limits).Reachable store) : Inv limits store := by
  refine h.invariant ?_ ?_
  · rintro _ rfl
    exact Inv.empty
  · intro state call next hinv hstep
    exact hinv.step hstep

end

/-! ## Conservation -/

section

variable {limits : Option EntryBudgetLimits} {store : Store}

/-- The claimed intents of a role are one intent. -/
theorem Inv.claimed_unique (hinv : Inv limits store) {left right : Uuid}
    {first second : ExecutionIntent} (hfirst : store.intents.get left = some first)
    (hsecond : store.intents.get right = some second)
    (hrole : first.accountRole = second.accountRole) (hf : first.state = .claimed)
    (hs : second.state = .claimed) : left = right := by
  have hsame : first = second :=
    hinv.lease first (Dict.mem_values.mpr ⟨left, hfirst⟩) second
      (Dict.mem_values.mpr ⟨right, hsecond⟩) hrole hf hs
  rw [← hinv.keyed left first hfirst, ← hinv.keyed right second hsecond, hsame]

theorem Inv.reserved_of_claimed (hinv : Inv limits store) {budget : EntryBudget} {id : Uuid}
    {intent : ExecutionIntent} (hget : store.intents.get id = some intent)
    (hbudget : store.budgets.get intent.accountRole = some budget)
    (hclaimed : intent.state = .claimed) (hentry : intent.envelope.action = .entry) :
    budget.reservedIntentId = some id ∧
      budget.reservedRisk = intent.envelope.approvedMaxLoss := by
  have hreserved := hinv.claimedEntry_eq (Dict.mem_values.mpr ⟨id, hget⟩) hentry hclaimed
  rw [hinv.budget _ _ hbudget]
  simp [budgetOf, hreserved, hinv.keyed id intent hget]

/-- Where no entry of a role is claimed, nothing is reserved. -/
theorem Inv.unreserved (hinv : Inv limits store) {role : AccountRole} {budget : EntryBudget}
    (hbudget : store.budgets.get role = some budget)
    (hnone : ∀ id intent, store.intents.get id = some intent → intent.accountRole = role →
      intent.state = .claimed → intent.envelope.action ≠ .entry) :
    budget.reservedIntentId = none ∧ budget.reservedRisk = Decimal.ofInt 0 := by
  have hfree : claimedEntry (entriesOf store role) = none := by
    refine claimedEntry_of_noneClaimed fun intent hmem hstate => ?_
    obtain ⟨hvalue, hrole, hentry⟩ := mem_entriesOf.mp hmem
    obtain ⟨id, hget⟩ := Dict.mem_values.mp hvalue
    exact hnone id intent hget hrole hstate hentry
  rw [hinv.budget _ _ hbudget]
  simp [budgetOf, hfree]

variable [Digest]

/-- In every reachable store each role has at most one claimed intent, and a role with an intent
has a budget. The budget reserves the claimed intent when that is an entry and nothing otherwise,
counts the filled entries and adds up their approved losses, and stays within the limits. -/
theorem entryBudget_conserved (h : (repository limits).Reachable store) (role : AccountRole) :
    (∀ left right first second, store.intents.get left = some first →
      store.intents.get right = some second → first.accountRole = role →
      second.accountRole = role → first.state = .claimed → second.state = .claimed →
      left = right) ∧
    (∀ intent ∈ store.intents.values, intent.accountRole = role →
      (store.budgets.get role).isSome) ∧
    ∀ budget, store.budgets.get role = some budget →
      (∀ id intent, store.intents.get id = some intent → intent.accountRole = role →
        intent.state = .claimed → intent.envelope.action = .entry →
        budget.reservedIntentId = some id ∧
          budget.reservedRisk = intent.envelope.approvedMaxLoss) ∧
      ((∀ id intent, store.intents.get id = some intent → intent.accountRole = role →
        intent.state = .claimed → intent.envelope.action ≠ .entry) →
        budget.reservedIntentId = none ∧ budget.reservedRisk = Decimal.ofInt 0) ∧
      budget.entriesUsed = (consumedEntries (entriesOf store role)).length ∧
      budget.grossApprovedRisk = approvedRisk (consumedEntries (entriesOf store role)) ∧
      ∀ required, limits = some required →
        budget.entriesUsed ≤ required.maximumLifetimeEntries ∧
        budget.grossApprovedRisk ≤ required.maximumLifetimeRisk := by
  have hinv := Inv.of_reachable h
  refine ⟨?_, ?_, fun budget hbudget => ⟨?_, ?_, ?_, ?_, ?_⟩⟩
  · intro left right first second hfirst hsecond hrole hrole' hf hs
    exact hinv.claimed_unique hfirst hsecond (hrole.trans hrole'.symm) hf hs
  · intro intent hmem hrole
    exact hrole ▸ hinv.budgeted _ (hinv.registered intent hmem)
  · intro id intent hget hrole hclaimed hentry
    exact hinv.reserved_of_claimed hget (hrole ▸ hbudget) hclaimed hentry
  · exact hinv.unreserved hbudget
  · rw [hinv.budget role budget hbudget]
    rfl
  · rw [hinv.budget role budget hbudget]
    rfl
  · exact hinv.capped role budget hbudget

end

/-! ## A rehearsal in memory -/

/-- Make calls one after the other, or say what one of them raises. -/
def callAll [Digest] (limits : Option EntryBudgetLimits) (calls : List Call) (store : Store) :
    Except Failure Store :=
  calls.foldlM (fun store call => apply limits call store) store

/-- Calls that all succeed are a run. -/
theorem run_of_callAll [Digest] {limits : Option EntryBudgetLimits} {calls : List Call}
    {last : Store} (h : callAll limits calls store = .ok last) :
    (repository limits).Run store calls last := by
  induction calls generalizing store with
  | nil =>
      cases h
      exact System.Run.refl _
  | cons call rest ih =>
      simp only [callAll, List.foldlM_cons] at h
      obtain ⟨middle, hcall, h⟩ := bind_ok.mp h
      exact System.Run.cons (Or.inl hcall) (ih h)

section Rehearsed

open AlphaDecay.Rehearsal

def approval : EntryApprovalAuthorization where
  approvalId := Uuid.ofNat 1
  thesisVersionId := Uuid.ofNat 2
  accountRole := .submission
  policyHash := policyHash
  bookFingerprint := fingerprint
  envelopeHash := orderEnvelopeHash envelope
  approvedMaxLoss := dollars 1000
  quantity := 2
  validFrom := fundedAt
  expiresAt := timeAt 10000

/-- Calls that register the account, approve the entry and claim it. -/
def claiming : List Call := [
  .registerAccount .submission fingerprint (dollars 100000),
  .setAutonomousEnabled .submission true .owner,
  .captureBaseline .submission {
    equity := dollars 100000, capturedAt := fundedAt, accountFingerprint := fingerprint
    positionsHash := "", ordersHash := "", activitiesHash := "", clean := true },
  .addEntryApproval approval,
  .approveIntent intentId .submission envelope,
  .claimIntent (timeAt 0) (Uuid.ofNat 20) intentId .scheduler .submission fingerprint]

theorem claiming_ok : (match callAll settings.entryLimits claiming {} with
    | .ok store => (store.budgets.get .submission).any fun budget =>
        budget.reservedIntentId == some intentId
    | .error _ => false) = true := by
  decide +kernel

/-- In the rehearsal the budget of the submission account reserves the claimed entry, has charged
nothing yet and stays within the limits. -/
theorem entryBudget_conserved_rehearsed :
    ∃ (store : Store) (budget : EntryBudget),
      (repository settings.entryLimits).Reachable store ∧
      store.budgets.get .submission = some budget ∧ budget.reservedIntentId = some intentId ∧
      budget.entriesUsed = (consumedEntries (entriesOf store .submission)).length ∧
      budget.entriesUsed ≤ limitsFields.maximumLifetimeEntries := by
  have hclaimed := claiming_ok
  split at hclaimed
  · rename_i store hstore
    obtain ⟨budget, hbudget, hreserved⟩ := (Option.any_eq_true _ _).mp hclaimed
    have hreach : (repository settings.entryLimits).Reachable store :=
      ⟨{}, claiming, rfl, run_of_callAll hstore⟩
    obtain ⟨-, -, hconserved⟩ := entryBudget_conserved hreach .submission
    obtain ⟨-, -, hused, -, hcapped⟩ := hconserved budget hbudget
    exact ⟨store, budget, hreach, hbudget, beq_iff_eq.mp hreserved, hused,
      (hcapped _ rfl).1⟩
  · cases hclaimed

end Rehearsed

end AlphaDecay.Memory
