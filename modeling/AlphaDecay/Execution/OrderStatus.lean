import AlphaDecay.Contracts

/-!
# Broker order states

The states a broker reports for an order, their phases, and which filled quantities fit each of
them. An attempt's own state is one of these, or one of the two states that the repository sets
itself.
-/

namespace AlphaDecay

open Foundation

/-- The known broker order states. -/
inductive BrokerOrderState where
  | new
  | partiallyFilled
  | accepted
  | pendingNew
  | doneForDay
  | pendingCancel
  | pendingReplace
  | pendingReview
  | acceptedForBidding
  | stopped
  | suspended
  | calculated
  | held
  | filled
  | canceled
  | expired
  | replaced
  | rejected
deriving DecidableEq, Repr

/-- What may be done with an order in a state. -/
inductive BrokerOrderPhase where
  | mutationEligible
  | lookupOnly
  | terminal
deriving DecidableEq, Repr

namespace BrokerOrderState

def phase : BrokerOrderState → BrokerOrderPhase
  | new | partiallyFilled | accepted | pendingNew => .mutationEligible
  | doneForDay | pendingCancel | pendingReplace | pendingReview | acceptedForBidding | stopped
  | suspended | calculated | held => .lookupOnly
  | filled | canceled | expired | replaced | rejected => .terminal

/-- The order is still open at the broker. -/
def isPending (state : BrokerOrderState) : Bool :=
  state.phase != .terminal

/-- The order may be replaced or canceled. -/
def isMutationEligible (state : BrokerOrderState) : Bool :=
  state.phase == .mutationEligible

/-- The order may only be looked up. -/
def isLookupOnly (state : BrokerOrderState) : Bool :=
  state.phase == .lookupOnly

def isTerminal (state : BrokerOrderState) : Bool :=
  state.phase == .terminal

def isFinalizable (state : BrokerOrderState) : Bool :=
  state.isTerminal || state == calculated

/-- The pending states in which nothing can have been filled. -/
def isZeroFillPending : BrokerOrderState → Bool
  | new | pendingReview | accepted | pendingNew | acceptedForBidding | held | stopped => true
  | _ => false

/-- The written form of a state. -/
def text : BrokerOrderState → String
  | new => "NEW"
  | partiallyFilled => "PARTIALLY_FILLED"
  | accepted => "ACCEPTED"
  | pendingNew => "PENDING_NEW"
  | doneForDay => "DONE_FOR_DAY"
  | pendingCancel => "PENDING_CANCEL"
  | pendingReplace => "PENDING_REPLACE"
  | pendingReview => "PENDING_REVIEW"
  | acceptedForBidding => "ACCEPTED_FOR_BIDDING"
  | stopped => "STOPPED"
  | suspended => "SUSPENDED"
  | calculated => "CALCULATED"
  | held => "HELD"
  | filled => "FILLED"
  | canceled => "CANCELED"
  | expired => "EXPIRED"
  | replaced => "REPLACED"
  | rejected => "REJECTED"

/-- The state of a written form. -/
def ofText : String → Option BrokerOrderState
  | "NEW" => some new
  | "PARTIALLY_FILLED" => some partiallyFilled
  | "ACCEPTED" => some accepted
  | "PENDING_NEW" => some pendingNew
  | "DONE_FOR_DAY" => some doneForDay
  | "PENDING_CANCEL" => some pendingCancel
  | "PENDING_REPLACE" => some pendingReplace
  | "PENDING_REVIEW" => some pendingReview
  | "ACCEPTED_FOR_BIDDING" => some acceptedForBidding
  | "STOPPED" => some stopped
  | "SUSPENDED" => some suspended
  | "CALCULATED" => some calculated
  | "HELD" => some held
  | "FILLED" => some filled
  | "CANCELED" => some canceled
  | "EXPIRED" => some expired
  | "REPLACED" => some replaced
  | "REJECTED" => some rejected
  | _ => none

@[simp] theorem ofText_text (state : BrokerOrderState) : ofText state.text = some state := by
  cases state <;> rfl

end BrokerOrderState

def brokerStateMatchesFill (state : BrokerOrderState) (filledQuantity quantity : Int) : Bool :=
  if ¬(0 ≤ filledQuantity ∧ filledQuantity ≤ quantity) then false
  else if state.isZeroFillPending || state == .rejected then decide (filledQuantity = 0)
  else if state == .partiallyFilled then
    decide (0 < filledQuantity ∧ filledQuantity < quantity)
  else if state == .filled then decide (filledQuantity = quantity)
  else if state == .calculated then true
  else decide (filledQuantity < quantity)

theorem brokerStateMatchesFill_bounds {state : BrokerOrderState} {filledQuantity quantity : Int}
    (h : brokerStateMatchesFill state filledQuantity quantity = true) :
    0 ≤ filledQuantity ∧ filledQuantity ≤ quantity := by
  by_contra hout
  simp [brokerStateMatchesFill, hout] at h

theorem brokerStateMatchesFill_zero {state : BrokerOrderState} {filledQuantity quantity : Int}
    (h : brokerStateMatchesFill state filledQuantity quantity = true)
    (hzero : state.isZeroFillPending = true) : filledQuantity = 0 := by
  have hbounds := brokerStateMatchesFill_bounds h
  simpa [brokerStateMatchesFill, hbounds, hzero] using h

/-- How often and for how long an order in a pending state is looked up. -/
structure BrokerLookupPolicy where
  cadence : Int
  deadline : Int
deriving DecidableEq, Repr

def brokerLookupPolicy : BrokerOrderState → BrokerLookupPolicy
  | .doneForDay => ⟨Calendar.seconds 1800, Calendar.seconds 129600⟩
  | .calculated => ⟨Calendar.seconds 60, Calendar.seconds 1800⟩
  | _ => ⟨Calendar.seconds 30, Calendar.seconds 600⟩

/-- The state of an order attempt: prepared by the repository, locked by an assignment, reported
by the broker, or a text that is none of these. -/
inductive AttemptState where
  | prepared
  | assignmentLocked
  | broker (state : BrokerOrderState)
  | unknown (text : String)
deriving DecidableEq, Repr

namespace AttemptState

/-- The written form of an attempt state. -/
def text : AttemptState → String
  | prepared => "PREPARED"
  | assignmentLocked => "ASSIGNMENT_LOCKED"
  | broker state => state.text
  | unknown text => text

/-- The attempt state of a written form. -/
def ofText (text : String) : AttemptState :=
  match BrokerOrderState.ofText text with
  | some state => broker state
  | none =>
      if text = "PREPARED" then prepared
      else if text = "ASSIGNMENT_LOCKED" then assignmentLocked
      else unknown text

@[simp] theorem ofText_broker (state : BrokerOrderState) :
    ofText (broker state).text = broker state := by
  simp [ofText, text]

def brokerState : AttemptState → Option BrokerOrderState
  | broker state => some state
  | _ => none

/-- A condition on the broker state; no other state meets it. -/
def satisfies (condition : BrokerOrderState → Bool) : AttemptState → Bool
  | broker state => condition state
  | _ => false

/-- The attempt is in a state in which the broker accepts a replacement or a cancel. -/
def isMutationEligible (state : AttemptState) : Bool :=
  state.satisfies BrokerOrderState.isMutationEligible

@[simp] theorem brokerState_eq_some {attempt : AttemptState} {state : BrokerOrderState} :
    attempt.brokerState = some state ↔ attempt = broker state := by
  cases attempt <;> simp [brokerState]

end AttemptState

end AlphaDecay
