import AlphaDecay.Agent.Effects

/-!
# A rehearsal of the agent

One scheduler run of the submission account, transaction by transaction: the account is registered
and made autonomous, a thesis is frozen, a tick is reserved, and the entry of the rehearsal is
recorded for it with its order. Other transactions follow as a statement needs them.
-/

namespace AlphaDecay.Agent

open Foundation Table

/-! ## Transactions one after the other -/

section

variable [Digest] {settings : RepositorySettings} {serverAutonomyEnabled : Bool}

variable {transactions : List Transaction}

def World.after (settings : RepositorySettings) (serverAutonomyEnabled : Bool) (world : World)
    (transaction : Transaction) : World where
  store := execute settings serverAutonomyEnabled transaction world.store
  clock := transaction.now

/-- A transaction reads a clock that does not go back, and meets a condition. -/
def fits (condition : World → Transaction → Bool) (world : World) (transaction : Transaction) :
    Bool :=
  decide (world.clock ≤ transaction.start ∧ transaction.start ≤ transaction.now) &&
    condition world transaction

/-- Transactions that all fit are a run that meets their condition. -/
theorem run_of_fits {condition : World → Transaction → Bool} {world : World}
    (h : System.allAlong (World.after settings serverAutonomyEnabled) (fits condition) world
      transactions = true) :
    ((repository settings serverAutonomyEnabled).restrict fun world transaction =>
      condition world transaction = true).Run world transactions
      (transactions.foldl (World.after settings serverAutonomyEnabled) world) := by
  have hstep : ∀ world transaction, fits condition world transaction = true →
      (repository settings serverAutonomyEnabled).step world transaction
        (world.after settings serverAutonomyEnabled transaction) := by
    intro world transaction hfits
    have htimed := of_decide_eq_true (Bool.and_eq_true_iff.mp hfits).1
    exact ⟨⟨htimed.1, htimed.2⟩, rfl⟩
  exact (System.Run.of_allAlong hstep h).restrict_mono
    fun _ _ hfits => (Bool.and_eq_true_iff.mp hfits).2

/-- The world that transactions on empty tables end in is reachable. -/
theorem reachable_of_fits
    (h : System.allAlong (World.after settings serverAutonomyEnabled) (fits fun _ _ => true)
      { store := {}, clock := 0 } transactions = true) :
    (repository settings serverAutonomyEnabled).Reachable
      (transactions.foldl (World.after settings serverAutonomyEnabled)
        { store := {}, clock := 0 }) :=
  ⟨{ store := {}, clock := 0 }, transactions, rfl, (run_of_fits h).of_restrict⟩

end

end AlphaDecay.Agent

/-! ## The documents of a rehearsal -/

namespace AlphaDecay.AgentRehearsal

open Foundation Agent Rehearsal

/-- The number by which the documents of the agent are told apart: an input by its boundary, and a
result by its input. -/
def documentCode (document : Json) : Nat :=
  match (document.field "decision_boundary").bind Json.asText,
    (document.field "input_hash").bind Json.asText with
  | some boundary, _ => ((Calendar.fromIsoformat boundary).getD 0).toNat
  | none, some inputHash => codeOfText inputHash + 1
  | none, none => 0

/-- The digests of a rehearsal in which the documents of the agent have hashes of their own. -/
@[reducible] def agentDigest : Digest where
  authorityHash := digest.authorityHash
  agentHash document := String.ofList (Text.fixedDigits 16 64 (documentCode document))
  uuid5 := digest.uuid5
  authorityHash_isHash := digest.authorityHash_isHash

attribute [local instance] agentDigest

/-! ## The run of a rehearsal -/

/-- A call that starts and ends at a time. -/
def callAtTime (call : Agent.Call) (time : Int) (fresh : Nat) : Agent.Transaction :=
  ⟨call, time, time, Uuid.ofNat fresh⟩

/-- The thesis that the entry rests on, frozen when the rehearsal begins. -/
def thesis : ThesisRow where
  thesisVersionId := Uuid.ofNat 2
  accountRole := .submission
  policyHash := policyHash
  frozenAt := timeAt 0

/-- The reservation of a tick under a key. -/
def reservation (tickKey : String) : Reservation where
  accountRole := .submission
  accountFingerprint := fingerprint
  actor := .scheduler
  trustedAt := timeAt 0
  tickKey

def token : Nat := 30

def tickIdOf (tickKey : String) : Uuid :=
  ((reservation tickKey).row (timeAt 0) (Uuid.ofNat token)).tickId

/-- A document with a typed value. -/
def typed : Json := .object [("typed", .object [])]

/-- A decision that opens nothing, on an input of a boundary. -/
def noTrade (tickKey : String) (boundary : Int) : DecisionRequest where
  accountRole := .submission
  accountFingerprint := fingerprint
  decisionKind := "OPPORTUNITY"
  decisionBoundary := boundary
  observedAt := boundary
  normalizedInput := typed
  outcome := "NO_TRADE"
  reasonCode := "SCORE_BELOW_THRESHOLD"
  policyHash := policyHash
  resultPayload := typed
  tickId := tickIdOf tickKey
  reservationToken := Uuid.ofNat token

def approval : EntryApprovalAuthorization where
  approvalId := Uuid.ofNat 1
  thesisVersionId := Uuid.ofNat 2
  accountRole := .submission
  policyHash := policyHash
  bookFingerprint := fingerprint
  envelopeHash := orderEnvelopeHash envelope
  approvedMaxLoss := dollars 1000
  quantity := 2
  validFrom := timeAt 0
  expiresAt := timeAt 60

/-- The decision that opens the entry, with its order. -/
def entryApproved (tickKey : String) : DecisionRequest :=
  { noTrade tickKey (timeAt 0) with
    outcome := "ENTRY_APPROVED"
    reasonCode := "ENTRY_APPROVED"
    thesisVersionId := some (Uuid.ofNat 2)
    authorization := some { grant := .entry approval }
    envelope := some envelope
    intentId := some intentId }

def completionOf (request : DecisionRequest) (terminalCode : String) : Completion where
  tickId := request.tickId
  reservationToken := request.reservationToken
  terminalCode
  decisionId := some (request.decision 0).decisionId
  executionCertificateId := none

/-- The account is registered and made autonomous, and a thesis is frozen. -/
def registered : List Agent.Transaction := [
  callAtTime (.execution (.registerAccount .submission fingerprint (dollars 100000))) (timeAt 0) 0,
  callAtTime (.execution (.setAutonomousEnabled .submission true .owner)) (timeAt 0) 0,
  callAtTime (.surroundings { theses := [thesis] }) (timeAt 0) 0]

/-- The call that reserves the tick. -/
def reserving : Agent.Transaction :=
  callAtTime (.reserveTick (reservation "tick")) (timeAt 0) token

/-- The call that records the entry with its order. -/
def deciding : Agent.Transaction :=
  callAtTime (.recordDecision (entryApproved "tick")) (timeAt 1) 0

/-- The call that completes the tick without an execution. -/
def completing : Agent.Transaction :=
  callAtTime (.completeTick (completionOf (entryApproved "tick") "EXECUTION_BLOCKED")) (timeAt 2) 0

def reserved : List Agent.Transaction := registered ++ [reserving]

/-- The entry is recorded for the tick. -/
def decided : List Agent.Transaction := reserved ++ [deciding]

/-- The world after transactions on empty tables. -/
def worldAfter (transactions : List Agent.Transaction) : Agent.World :=
  transactions.foldl (Agent.World.after settings true) { store := {}, clock := 0 }

/-- The transactions fit the clock, one after the other. -/
def fitsAll (transactions : List Agent.Transaction) : Bool :=
  System.allAlong (Agent.World.after settings true) (fits fun _ _ => true)
    { store := {}, clock := 0 } transactions

variable {transactions : List Agent.Transaction}

theorem reachable_worldAfter (h : fitsAll transactions = true) :
    (Agent.repository settings true).Reachable (worldAfter transactions) :=
  reachable_of_fits h

/-- Transactions that fit the clock and meet a condition are a run to the world after them. -/
theorem run_worldAfter {condition : Agent.World → Agent.Transaction → Bool}
    {others : List Agent.Transaction}
    (h : System.allAlong (Agent.World.after settings true) (fits condition)
      (worldAfter transactions) others = true) :
    ((Agent.repository settings true).restrict fun world transaction =>
      condition world transaction = true).Run (worldAfter transactions) others
      (worldAfter (transactions ++ others)) := by
  have hrun := run_of_fits h
  unfold worldAfter at hrun ⊢
  rw [List.foldl_append]
  exact hrun

variable {transaction : Agent.Transaction}

/-- A transaction that fits the clock is a step to the world after it. -/
theorem step_worldAfter (h : fits (fun _ _ => true) (worldAfter transactions) transaction = true) :
    (Agent.repository settings true).step (worldAfter transactions) transaction
      (worldAfter (transactions ++ [transaction])) := by
  obtain ⟨hstart, hnow⟩ := of_decide_eq_true (Bool.and_eq_true_iff.mp h).1
  refine ⟨⟨hstart, hnow⟩, ?_⟩
  unfold worldAfter
  rw [List.foldl_append]
  rfl

def commits (world : Agent.World) (transaction : Agent.Transaction) : Bool :=
  match Agent.run settings true transaction world.store with
  | .ok _ => true
  | .error _ => false

/-- A transaction that commits leads to the world after it. -/
theorem exists_commit (h : commits (worldAfter transactions) transaction = true) :
    ∃ response,
    Agent.run settings true transaction (worldAfter transactions).store =
      .ok ((worldAfter (transactions ++ [transaction])).store, response) := by
  unfold commits at h
  split at h
  · rename_i result hresult
    refine ⟨result.2, ?_⟩
    have hafter : (worldAfter (transactions ++ [transaction])).store = result.1 := by
      unfold worldAfter
      rw [List.foldl_append]
      show Agent.execute settings true transaction (worldAfter transactions).store = result.1
      unfold Agent.execute
      rw [hresult]
    rw [hresult, hafter]
  · cases h

end AlphaDecay.AgentRehearsal
