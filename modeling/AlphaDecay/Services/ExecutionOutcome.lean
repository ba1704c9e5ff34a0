import AlphaDecay.Persistence.ObservationChains

/-!
# The outcome of an execution

The service names the outcome of a finished order by its last attempt, and the repository accepts a
requested outcome by a classification of its own. `terminalStatus_accepted` says that the two agree:
an outcome is named exactly when there is one that the repository accepts, and it is accepted. An
order that is calculated with nothing filled has none.
-/

namespace AlphaDecay

open Foundation

/-- The states in which an order without fills has an outcome. -/
def BrokerOrderState.isFinalizableUnfilled (state : BrokerOrderState) : Bool :=
  state.isFinalizable && state != .filled && state != .calculated

def OrderAttempt.isPartial (attempt : OrderAttempt) : Bool :=
  decide (0 < attempt.filledQuantity ∧ attempt.filledQuantity < attempt.quantity)

/-- The outcome of an execution whose last attempt is finished. -/
def terminalStatus (attempt : OrderAttempt) : Except Failure String :=
  if (attempt.state == .broker .filled || attempt.state == .broker .calculated) &&
      attempt.filledQuantity == attempt.quantity then
    .ok "FILLED"
  else if attempt.state.satisfies BrokerOrderState.isFinalizableUnfilled &&
      attempt.filledQuantity == 0 then
    .ok attempt.state.text
  else if attempt.state == .broker .canceled && attempt.isPartial then
    .ok "PARTIAL_CANCELED_RECONCILED"
  else if attempt.state == .broker .expired && attempt.isPartial then
    .ok "PARTIAL_EXPIRED_RECONCILED"
  else if attempt.state == .broker .replaced && attempt.isPartial then
    .ok "PARTIAL_REPLACED_RECONCILED"
  else .error (.blocked "EXECUTION_OUTCOME_NOT_SUPPORTED")

/-- The outcome of an attempt can be named. -/
def executionOutcomeReady (attempt : OrderAttempt) : Bool :=
  match terminalStatus attempt with
  | .ok _ => true
  | .error _ => false

def requiresFinalization (attempt : OrderAttempt) : Bool :=
  attempt.state.satisfies BrokerOrderState.isTerminal || executionOutcomeReady attempt

/-! ## Agreement -/

/-- A state has an outcome with a fill: the order is finished, or it is calculated and filled. -/
def HasOutcome (state : BrokerOrderState) (filledQuantity quantity : Int) : Prop :=
  state.isTerminal = true ∨ (state = .calculated ∧ filledQuantity = quantity)

section Agreement

variable {attempt : OrderAttempt} {state : BrokerOrderState}

/-- An order that was closed before it was filled has an outcome for each fill, which the repository
accepts. -/
theorem terminalStatus_closed (hstate : attempt.state = .broker state)
    (hclosed : state = .canceled ∨ state = .expired ∨ state = .replaced)
    (hfilled : 0 ≤ attempt.filledQuantity ∧ attempt.filledQuantity < attempt.quantity) :
    ∃ status, terminalStatus attempt = .ok status ∧ requestedStatusMatches status attempt
      attempt.filledQuantity attempt.quantity = true := by
  have hunfilled : attempt.filledQuantity ≠ attempt.quantity := by omega
  by_cases hzero : attempt.filledQuantity = 0
  · refine ⟨state.text, ?_⟩
    rcases hclosed with rfl | rfl | rfl <;>
      simp [terminalStatus, requestedStatusMatches, hstate, hzero, AttemptState.satisfies,
        AttemptState.text, BrokerOrderState.text, BrokerOrderState.isFinalizableUnfilled,
        BrokerOrderState.isFinalizable, BrokerOrderState.isTerminal, BrokerOrderState.phase]
  · have hpositive : 0 < attempt.filledQuantity := by omega
    rcases hclosed with rfl | rfl | rfl <;>
      simp [terminalStatus, requestedStatusMatches, hstate, hzero, hunfilled, hpositive, hfilled.2,
        OrderAttempt.isPartial]

/-- An attempt with an outcome has one that is named and accepted. -/
theorem terminalStatus_ok_of_outcome (hstate : attempt.state = .broker state)
    (hquantity : 0 < attempt.quantity)
    (hfits : brokerStateMatchesFill state attempt.filledQuantity attempt.quantity = true)
    (houtcome : HasOutcome state attempt.filledQuantity attempt.quantity) :
    ∃ status, terminalStatus attempt = .ok status ∧ requestedStatusMatches status attempt
      attempt.filledQuantity attempt.quantity = true := by
  have hbounds := brokerStateMatchesFill_bounds hfits
  cases state with
  | filled =>
      simp [brokerStateMatchesFill, hbounds, BrokerOrderState.isZeroFillPending] at hfits
      exact ⟨"FILLED", by simp [terminalStatus, requestedStatusMatches, hstate, hfits]⟩
  | calculated =>
      have hfilled : attempt.filledQuantity = attempt.quantity := by
        rcases houtcome with hterminal | ⟨-, hfilled⟩
        · cases hterminal
        · exact hfilled
      exact ⟨"FILLED", by simp [terminalStatus, requestedStatusMatches, hstate, hfilled]⟩
  | rejected =>
      simp [brokerStateMatchesFill, hbounds] at hfits
      have hunfilled : (0 : Int) ≠ attempt.quantity := by omega
      refine ⟨"REJECTED", ?_⟩
      simp [terminalStatus, requestedStatusMatches, hstate, hfits, AttemptState.satisfies,
        AttemptState.text, BrokerOrderState.text, BrokerOrderState.isFinalizableUnfilled,
        BrokerOrderState.isFinalizable, BrokerOrderState.isTerminal, BrokerOrderState.phase]
  | canceled | expired | replaced =>
      simp [brokerStateMatchesFill, hbounds, BrokerOrderState.isZeroFillPending] at hfits
      exact terminalStatus_closed hstate (by decide) ⟨hbounds.1, hfits⟩
  | new | partiallyFilled | accepted | pendingNew | doneForDay | pendingCancel | pendingReplace
  | pendingReview | acceptedForBidding | stopped | suspended | held =>
      rcases houtcome with hterminal | ⟨hcalculated, -⟩
      · cases hterminal
      · cases hcalculated

/-- An attempt without an outcome has none that is named or accepted. -/
theorem terminalStatus_error_of_none (hstate : attempt.state = .broker state)
    (hnone : ¬HasOutcome state attempt.filledQuantity attempt.quantity) :
    terminalStatus attempt = .error (.blocked "EXECUTION_OUTCOME_NOT_SUPPORTED") ∧
      ∀ status, requestedStatusMatches status attempt attempt.filledQuantity attempt.quantity =
        false := by
  rw [HasOutcome, not_or, not_and] at hnone
  obtain ⟨hpending, hcalculated⟩ := hnone
  cases state with
  | filled | canceled | expired | replaced | rejected => exact absurd rfl hpending
  | calculated =>
      have hunfilled : attempt.filledQuantity ≠ attempt.quantity := hcalculated rfl
      simp [terminalStatus, requestedStatusMatches, hstate, hunfilled, AttemptState.satisfies,
        BrokerOrderState.isFinalizableUnfilled]
  | new | partiallyFilled | accepted | pendingNew | doneForDay | pendingCancel | pendingReplace
  | pendingReview | acceptedForBidding | stopped | suspended | held =>
      simp [terminalStatus, requestedStatusMatches, hstate, AttemptState.satisfies,
        BrokerOrderState.isFinalizableUnfilled, BrokerOrderState.isFinalizable,
        BrokerOrderState.isTerminal, BrokerOrderState.phase]

/-- The service names an outcome exactly for the finished orders and for the calculated ones that
are filled, which are those for which the repository accepts some outcome, and the repository
accepts the one that is named. -/
theorem terminalStatus_accepted (hstate : attempt.state = .broker state)
    (hquantity : 0 < attempt.quantity)
    (hfits : brokerStateMatchesFill state attempt.filledQuantity attempt.quantity = true) :
    ((∃ status, terminalStatus attempt = .ok status) ↔
      state.isTerminal = true ∨
        (state = .calculated ∧ attempt.filledQuantity = attempt.quantity)) ∧
    ((∃ status, terminalStatus attempt = .ok status) ↔ ∃ status, requestedStatusMatches status
      attempt attempt.filledQuantity attempt.quantity = true) ∧
    (∀ status, requiresFinalization attempt = true → terminalStatus attempt = .ok status →
      requestedStatusMatches status attempt attempt.filledQuantity attempt.quantity = true) := by
  by_cases houtcome : HasOutcome state attempt.filledQuantity attempt.quantity
  · obtain ⟨status, hnamed, haccepted⟩ :=
      terminalStatus_ok_of_outcome hstate hquantity hfits houtcome
    refine ⟨⟨fun _ => houtcome, fun _ => ⟨status, hnamed⟩⟩,
      ⟨fun _ => ⟨status, haccepted⟩, fun _ => ⟨status, hnamed⟩⟩, ?_⟩
    intro other _ hother
    rw [hnamed] at hother
    cases hother
    exact haccepted
  · obtain ⟨hraised, hrefused⟩ := terminalStatus_error_of_none hstate houtcome
    have hnone : ¬∃ status, terminalStatus attempt = .ok status := by
      rintro ⟨status, hnamed⟩
      rw [hraised] at hnamed
      cases hnamed
    refine ⟨iff_of_false hnone houtcome, iff_of_false hnone ?_, ?_⟩
    · rintro ⟨status, haccepted⟩
      rw [hrefused status] at haccepted
      cases haccepted
    · intro status _ hnamed
      exact absurd ⟨status, hnamed⟩ hnone

end Agreement

section Rehearsed

/-- In the rehearsal an order that was canceled after one of two fills has an outcome. -/
theorem terminalStatus_rehearsed : ∃ status,
    terminalStatus (attemptIn (.broker .canceled) 2 1 (some ⟨true, 125, 0⟩)) = .ok status ∧
    requestedStatusMatches status (attemptIn (.broker .canceled) 2 1 (some ⟨true, 125, 0⟩)) 1 2 =
      true := by
  obtain ⟨hnamed, -, haccepted⟩ := terminalStatus_accepted
    (show (attemptIn (.broker .canceled) 2 1 (some ⟨true, 125, 0⟩)).state = _ from rfl)
    (by decide) (by decide)
  obtain ⟨status, hstatus⟩ := hnamed.mpr (.inl rfl)
  exact ⟨status, hstatus, haccepted status rfl hstatus⟩

/-- A calculated order with nothing filled fits its state, and it has no outcome. -/
theorem terminalStatus_calculated :
    brokerStateMatchesFill .calculated 0 2 = true ∧
    terminalStatus (attemptIn (.broker .calculated) 2 0 none) =
      .error (.blocked "EXECUTION_OUTCOME_NOT_SUPPORTED") :=
  ⟨rfl, rfl⟩

end Rehearsed

end AlphaDecay
