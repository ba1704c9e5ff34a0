import AlphaDecay.Foundation.Grouping
import AlphaDecay.StrategyBriefs.Protocol

/-!
# Decisions of protocols

An evaluation is classified by the phase of the position: without one it is an entry, a reason to
stand aside or a blocked gate, and with one it is a reason to close or to hold.
-/

namespace AlphaDecay.StrategyBriefs

open Foundation

/-- Whether there is a position. -/
inductive PositionPhase where
  | flat
  | open_
deriving DecidableEq, Repr

/-- What an evaluation is classified as. -/
inductive ProtocolDecisionClassification where
  | blocked
  | entryCandidate
  | standAside
  | closeCandidate
  | hold
deriving DecidableEq, Repr

/-- Why it is. -/
inductive ProtocolDecisionReason where
  | mandatorySafetyGateFailed
  | invalidationRuleMatched
  | noTradeRuleMatched
  | entryRuleMatched
  | entryRuleNotMatched
  | lossExitRuleMatched
  | timeExitRuleMatched
  | profitExitRuleMatched
  | noExitRuleMatched
deriving DecidableEq, Repr

structure ProtocolDecision where
  protocolHash : String
  positionPhase : PositionPhase
  classification : ProtocolDecisionClassification
  reasonCodes : List ProtocolDecisionReason
  matchedInvalidationRuleNumbers : List Nat
deriving DecidableEq

def PositionPhase.allowed : PositionPhase → List ProtocolDecisionClassification
  | flat => [.blocked, .entryCandidate, .standAside]
  | open_ => [.closeCandidate, .hold]

/-- The checks of a decision: its classification is one of its phase, and it names the rules of
invalidation that matched in increasing order when it says that one did. -/
def ProtocolDecision.Valid (decision : ProtocolDecision) : Prop :=
  isHash decision.protocolHash = true ∧
  (1 ≤ decision.reasonCodes.length ∧ decision.reasonCodes.length ≤ 4) ∧
  decision.matchedInvalidationRuleNumbers.length ≤ 12 ∧
  decision.classification ∈ decision.positionPhase.allowed ∧
  (ProtocolDecisionReason.invalidationRuleMatched ∈ decision.reasonCodes ↔
    decision.matchedInvalidationRuleNumbers ≠ []) ∧
  Grouping.sortedBy id decision.matchedInvalidationRuleNumbers.dedup =
    decision.matchedInvalidationRuleNumbers ∧
  ∀ number ∈ decision.matchedInvalidationRuleNumbers, 1 ≤ number

instance (decision : ProtocolDecision) : Decidable decision.Valid :=
  inferInstanceAs (Decidable (_ ∧ _))

def ProtocolEvaluation.Valid (evaluation : ProtocolEvaluation) : Prop :=
  isHash evaluation.protocolHash = true

instance (evaluation : ProtocolEvaluation) : Decidable evaluation.Valid :=
  inferInstanceAs (Decidable (_ = _))

/-- The numbers of the rules of invalidation that matched, from one on. -/
def invalidationNumbers (evaluation : ProtocolEvaluation) : List Nat :=
  (evaluation.invalidationRuleMatches.zipIdx 1).filterMap fun (matched, index) =>
    if matched then some index else none

def reasonIf (condition : Bool) (reason : ProtocolDecisionReason) : List ProtocolDecisionReason :=
  if condition then [reason] else []

/-- The reasons not to enter. -/
def standAsideReasons (evaluation : ProtocolEvaluation) : List ProtocolDecisionReason :=
  reasonIf (!(invalidationNumbers evaluation).isEmpty) .invalidationRuleMatched ++
    reasonIf evaluation.noTradeRuleMatched .noTradeRuleMatched

def closeReasons (evaluation : ProtocolEvaluation) : List ProtocolDecisionReason :=
  reasonIf (!(invalidationNumbers evaluation).isEmpty) .invalidationRuleMatched ++
    reasonIf evaluation.lossExitRuleMatched .lossExitRuleMatched ++
    reasonIf evaluation.timeExitRuleMatched .timeExitRuleMatched ++
    reasonIf evaluation.profitExitRuleMatched .profitExitRuleMatched

def decisionOf (protocol : CompiledStrategyProtocol) (evaluation : ProtocolEvaluation)
    (phase : PositionPhase) : ProtocolDecision :=
  let decided (classification : ProtocolDecisionClassification)
      (reasonCodes : List ProtocolDecisionReason) (numbers : List Nat) : ProtocolDecision :=
    { protocolHash := protocol.protocolHash, positionPhase := phase, classification, reasonCodes,
      matchedInvalidationRuleNumbers := numbers }
  match phase with
  | .flat =>
      if !evaluation.safetyGatesPassed then decided .blocked [.mandatorySafetyGateFailed] []
      else if !(standAsideReasons evaluation).isEmpty then
        decided .standAside (standAsideReasons evaluation) (invalidationNumbers evaluation)
      else if evaluation.entryRuleMatched then decided .entryCandidate [.entryRuleMatched] []
      else decided .standAside [.entryRuleNotMatched] []
  | .open_ =>
      if !(closeReasons evaluation).isEmpty then
        decided .closeCandidate (closeReasons evaluation) (invalidationNumbers evaluation)
      else decided .hold [.noExitRuleMatched] []

section Classifying

variable [Digest]

def classifyProtocolDecision (protocol : CompiledStrategyProtocol)
    (evaluation : ProtocolEvaluation) (phase : PositionPhase) :
    Except ProtocolFailure ProtocolDecision := do
  raiseIf (!decide (protocol.Valid ∧ evaluation.Valid))
    (.decisionBlocked "PROTOCOL_DECISION_INPUT_INVALID")
  raiseIf (protocol.protocolHash != compiledProtocolHash protocol)
    (.decisionBlocked "PROTOCOL_HASH_MISMATCH")
  raiseIf (evaluation.protocolHash != protocol.protocolHash ||
    evaluation.invalidationRuleMatches.length != protocol.rules.invalidationRules.length)
    (.decisionBlocked "PROTOCOL_EVALUATION_MISMATCH")
  raiseIf (!decide (decisionOf protocol evaluation phase).Valid) .validation
  return decisionOf protocol evaluation phase

end Classifying

/-! ## Valid decisions -/

/-- Positions from a number on that are marked are increasing, and as many as the marks at most. -/
theorem marked_increasing (marks : List Bool) (start : Nat) :
    let marked := (marks.zipIdx start).filterMap fun pair => if pair.1 then some pair.2 else none
    marked.Pairwise (· < ·) ∧ (∀ number ∈ marked, start ≤ number) ∧
      marked.length ≤ marks.length := by
  induction marks generalizing start with
  | nil => simp
  | cons mark marks ih =>
      obtain ⟨hpairwise, hfrom, hlength⟩ := ih (start + 1)
      rw [List.zipIdx_cons, List.filterMap_cons]
      cases mark with
      | false =>
          exact ⟨hpairwise, fun number hnumber => (Nat.le_succ start).trans (hfrom number hnumber),
            hlength.trans (Nat.le_succ _)⟩
      | true =>
          refine ⟨List.pairwise_cons.mpr ⟨fun number hnumber => hfrom number hnumber, hpairwise⟩,
            ?_, Nat.succ_le_succ hlength⟩
          rw [if_pos rfl, List.forall_mem_cons]
          exact ⟨le_rfl, fun number hnumber => (Nat.le_succ start).trans (hfrom number hnumber)⟩

/-- Some position is marked exactly when there is a mark. -/
theorem marked_ne_nil (marks : List Bool) (start : Nat) :
    (marks.zipIdx start).filterMap (fun pair => if pair.1 then some pair.2 else none) ≠ [] ↔
      true ∈ marks := by
  induction marks generalizing start with
  | nil => simp
  | cons mark marks ih =>
      rw [List.zipIdx_cons, List.filterMap_cons]
      cases mark with
      | false => simpa using ih (start + 1)
      | true => simp

theorem invalidationNumbers_increasing (evaluation : ProtocolEvaluation) :
    (invalidationNumbers evaluation).Pairwise (· < ·) ∧
      (∀ number ∈ invalidationNumbers evaluation, 1 ≤ number) ∧
      (invalidationNumbers evaluation).length ≤ evaluation.invalidationRuleMatches.length :=
  marked_increasing evaluation.invalidationRuleMatches 1

theorem sortedBy_dedup_of_increasing {numbers : List Nat} (h : numbers.Pairwise (· < ·)) :
    Grouping.sortedBy id numbers.dedup = numbers := by
  have hnodup : numbers.Nodup := h.imp fun hlt => Nat.ne_of_lt hlt
  rw [List.dedup_eq_self.mpr hnodup, Grouping.sortedBy]
  exact (h.imp fun hlt => Nat.le_of_lt hlt).insertionSort_eq

variable {evaluation : ProtocolEvaluation}

theorem invalidationNumbers_ne_nil :
    invalidationNumbers evaluation ≠ [] ↔ true ∈ evaluation.invalidationRuleMatches :=
  marked_ne_nil evaluation.invalidationRuleMatches 1

variable {reason : ProtocolDecisionReason}

@[simp] theorem mem_reasonIf {condition : Bool} {given : ProtocolDecisionReason} :
    given ∈ reasonIf condition reason ↔ condition = true ∧ given = reason := by
  cases condition <;> simp [reasonIf]

theorem length_reasonIf (condition : Bool) (reason : ProtocolDecisionReason) :
    (reasonIf condition reason).length ≤ 1 := by
  cases condition <;> simp [reasonIf]

/-- A decision that names the rules of invalidation that matched is valid when its reasons say
whether one did. -/
theorem valid_decided {decision : ProtocolDecision} (hhash : isHash decision.protocolHash = true)
    (hlength : evaluation.invalidationRuleMatches.length ≤ 12)
    (hreasons : 1 ≤ decision.reasonCodes.length ∧ decision.reasonCodes.length ≤ 4)
    (hallowed : decision.classification ∈ decision.positionPhase.allowed)
    (hnumbers : decision.matchedInvalidationRuleNumbers = invalidationNumbers evaluation)
    (hreported : ProtocolDecisionReason.invalidationRuleMatched ∈ decision.reasonCodes ↔
      invalidationNumbers evaluation ≠ []) : decision.Valid := by
  obtain ⟨hincreasing, hfrom, hcount⟩ := invalidationNumbers_increasing evaluation
  rw [ProtocolDecision.Valid, hnumbers]
  exact ⟨hhash, hreasons, hcount.trans hlength, hallowed, hreported,
    sortedBy_dedup_of_increasing hincreasing, hfrom⟩

/-- A decision that names no rule of invalidation is valid when its reasons say so. -/
theorem valid_plain {decision : ProtocolDecision} (hhash : isHash decision.protocolHash = true)
    (hreasons : decision.reasonCodes = [reason]) (hreason : reason ≠ .invalidationRuleMatched)
    (hallowed : decision.classification ∈ decision.positionPhase.allowed)
    (hnumbers : decision.matchedInvalidationRuleNumbers = []) : decision.Valid := by
  rw [ProtocolDecision.Valid, hnumbers, hreasons]
  refine ⟨hhash, ⟨le_rfl, by simp⟩, by simp, hallowed, ?_, rfl, by simp⟩
  simpa using hreason.symm

theorem decisionOf_valid {protocol : CompiledStrategyProtocol}
    (hhash : isHash protocol.protocolHash = true)
    (hlength : evaluation.invalidationRuleMatches.length ≤ 12) (phase : PositionPhase) :
    (decisionOf protocol evaluation phase).Valid := by
  have hone := length_reasonIf
  cases phase with
  | flat =>
      simp only [decisionOf]
      split
      · exact valid_plain hhash rfl (by decide) (by simp [PositionPhase.allowed]) rfl
      split
      · rename_i hreasons
        refine valid_decided hhash hlength ⟨?_, ?_⟩ (by simp [PositionPhase.allowed])
          rfl ?_
        · cases hgiven : standAsideReasons evaluation with
          | nil => simp [hgiven] at hreasons
          | cons reason rest => simp
        · have hfirst := hone (!(invalidationNumbers evaluation).isEmpty) .invalidationRuleMatched
          have hsecond := hone evaluation.noTradeRuleMatched .noTradeRuleMatched
          simp only [standAsideReasons, List.length_append]
          omega
        · simp [standAsideReasons]
      split
      · exact valid_plain hhash rfl (by decide) (by simp [PositionPhase.allowed]) rfl
      · exact valid_plain hhash rfl (by decide) (by simp [PositionPhase.allowed]) rfl
  | open_ =>
      simp only [decisionOf]
      split
      · rename_i hreasons
        refine valid_decided hhash hlength ⟨?_, ?_⟩ (by simp [PositionPhase.allowed])
          rfl ?_
        · cases hgiven : closeReasons evaluation with
          | nil => simp [hgiven] at hreasons
          | cons reason rest => simp
        · have hfirst := hone (!(invalidationNumbers evaluation).isEmpty) .invalidationRuleMatched
          have hloss := hone evaluation.lossExitRuleMatched .lossExitRuleMatched
          have htime := hone evaluation.timeExitRuleMatched .timeExitRuleMatched
          have hprofit := hone evaluation.profitExitRuleMatched .profitExitRuleMatched
          simp only [closeReasons, List.length_append]
          omega
        · simp [closeReasons]
      · exact valid_plain hhash rfl (by decide) (by simp [PositionPhase.allowed]) rfl

end AlphaDecay.StrategyBriefs
