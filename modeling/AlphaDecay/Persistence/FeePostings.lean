import AlphaDecay.Persistence.Fees

/-!
# Fee postings

A sweep that shows new fees and nothing else new is bound to an attempt by putting the fees after
the known activities. An expectation wants its activities in order of their hashes, and nothing
sorts them again here. `feePosting_canonical_iff` says when an expectation is made of them: when
every new fee has a hash above all the known ones.
-/

namespace AlphaDecay

open Foundation Table

/-! ## Fees after the known activities -/

/-- Candidates for an account state: both are in order of their hashes, the candidates show again
what is known from the window of the sweep, and what they show besides are fees. -/
structure FeePosting (state : AccountReconciliationStateRow) (candidates : List ActivityItem) :
    Prop where
  known : (activityHashes state.knownActivities).Pairwise (· < ·)
  canonical : (activityHashes candidates).Pairwise (· < ·)
  visible : knownMissing state.knownActivities candidates state.baselineCapturedAt = false
  fees : ∀ item ∈ newCandidates state.knownActivities candidates, item.activityType = .fee

/-- Every new candidate has a hash above all the known ones. -/
def PostedAbove (state : AccountReconciliationStateRow) (candidates : List ActivityItem) : Prop :=
  ∀ item ∈ state.knownActivities, ∀ fee ∈ newCandidates state.knownActivities candidates,
    item.activityIdHash < fee.activityIdHash

def ReconciliationExpectationFields.withActivities (fields : ReconciliationExpectationFields)
    (activities : BoundActivities) : ReconciliationExpectationFields :=
  { fields with
    knownActivities := activities.known
    resolvedActivityHashes := activities.resolved }

/-- The activities that a state knows and those that are resolved. -/
def AccountReconciliationStateRow.activities (state : AccountReconciliationStateRow) :
    BoundActivities :=
  ⟨state.knownActivities, state.resolvedActivityHashes⟩

theorem requireCanonicalActivities_ok {activities : List ActivityItem} :
    requireCanonicalActivities activities = .ok () ↔
      (activityHashes activities).Pairwise (· < ·) := by
  rw [requireCanonicalActivities, requireCanonical, raiseIf_ok, Bool.not_eq_false',
    decide_eq_true_eq, activityHashes]

theorem sortedSet_pairwise (texts : List String) : (sortedSet texts).Pairwise (· < ·) := by
  have hsorted : (sortedSet texts).Pairwise (· ≤ ·) := orderBy_pairwise
  have hdistinct : (sortedSet texts).Nodup := orderBy_perm.nodup_iff.mpr texts.nodup_dedup
  exact (hsorted.and hdistinct).imp fun h => lt_of_le_of_ne h.1 h.2

section Posted

variable {intent : ExecutionIntentRow} {state : AccountReconciliationStateRow}
  {attempt : OrderAttempt} {candidates : List ActivityItem}

/-- Activities of a state with new fees put after the known ones. -/
structure WithFees (state : AccountReconciliationStateRow) (candidates : List ActivityItem)
    (bound : BoundActivities) : Prop where
  known : bound.known = state.knownActivities ++ newCandidates state.knownActivities candidates
  resolved : ∀ hash, hash ∈ bound.resolved ↔ hash ∈ state.resolvedActivityHashes ∨
    hash ∈ activityHashes (newCandidates state.knownActivities candidates)
  sorted : state.resolvedActivityHashes.Pairwise (· < ·) → bound.resolved.Pairwise (· < ·)

/-- New fees come after the known activities as they are, and they are resolved. -/
theorem FeePosting.bound_ok (h : FeePosting state candidates) (intent : ExecutionIntentRow)
    (attempt : OrderAttempt) :
    ∃ bound, boundAttemptActivities intent state attempt (some candidates) false = .ok bound ∧
      WithFees state candidates bound := by
  have hfees : (newCandidates state.knownActivities candidates).filter
      (fun item => item.activityType == .fee) =
        newCandidates state.knownActivities candidates := by
    rw [List.filter_eq_self]
    intro item hitem
    rw [h.fees item hitem]
    rfl
  have hnone : (newCandidates state.knownActivities candidates).filter
      (fun item => item.activityType != .fee) = [] := by
    rw [List.filter_eq_nil_iff]
    intro item hitem
    rw [h.fees item hitem]
    decide
  show ∃ bound, boundCandidates intent state attempt candidates false = .ok bound ∧ _
  simp only [boundCandidates, h.visible, hfees, hnone, List.isEmpty_nil, if_true]
  refine ⟨_, rfl, ?_⟩
  split
  · rename_i hempty
    have hempty := List.isEmpty_iff.mp hempty
    refine ⟨?_, fun hash => ?_, id⟩
    · rw [hempty, List.append_nil]
    · rw [hempty]
      exact (or_iff_left List.not_mem_nil).symm
  · refine ⟨rfl, fun hash => ?_, fun _ => sortedSet_pairwise _⟩
    rw [mem_sortedSet, List.mem_append]

/-- The known activities with new fees are canonical when the fees are above them. -/
theorem FeePosting.canonical_iff (h : FeePosting state candidates) {bound : BoundActivities}
    (hbound : WithFees state candidates bound) :
    requireCanonicalActivities bound.known = .ok () ↔ PostedAbove state candidates := by
  have hfresh : (activityHashes (newCandidates state.knownActivities candidates)).Pairwise
      (· < ·) := h.canonical.sublist (List.filter_sublist.map _)
  rw [requireCanonicalActivities_ok, hbound.known, activityHashes, List.map_append,
    List.pairwise_append]
  constructor
  · rintro ⟨-, -, habove⟩ item hitem fee hfee
    exact habove _ (List.mem_map_of_mem hitem) _ (List.mem_map_of_mem hfee)
  · intro habove
    refine ⟨h.known, hfresh, ?_⟩
    intro hash hhash other hother
    obtain ⟨item, hitem, rfl⟩ := List.mem_map.mp hhash
    obtain ⟨fee, hfee, rfl⟩ := List.mem_map.mp hother
    exact habove item hitem fee hfee

/-- An expectation that was made before the fees is made with them when they are above the known
activities. -/
theorem FeePosting.check_iff (h : FeePosting state candidates) {bound : BoundActivities}
    (hbound : WithFees state candidates bound) {fields : ReconciliationExpectationFields}
    (hfields : (fields.withActivities state.activities).check = .ok ()) :
    (fields.withActivities bound).check = .ok () ↔ PostedAbove state candidates := by
  rw [← h.canonical_iff hbound]
  simp only [ReconciliationExpectationFields.check, check_bind_ok, raiseIf_ok, checkEach_ok,
    Bool.not_eq_false', ReconciliationExpectationFields.withActivities,
    AccountReconciliationStateRow.activities] at hfields ⊢
  obtain ⟨hrole, haccount, hdigest, hrequest, hbaseline, hstart, hthrough, hwindow, hpositions,
    horders, hunique, -, hsorted, hresolved⟩ := hfields
  constructor
  · rintro ⟨-, -, -, -, -, -, -, -, -, -, -, hcanonical, -⟩
    exact hcanonical
  · intro hcanonical
    refine ⟨hrole, haccount, hdigest, hrequest, hbaseline, hstart, hthrough, hwindow, hpositions,
      horders, hunique, hcanonical,
      decide_eq_true (hbound.sorted (of_decide_eq_true hsorted)), ?_⟩
    intro hash hhash
    -- What is resolved now was resolved before, or it is the hash of a new fee.
    rw [requireResolvedKnown, check_bind_ok, raiseIf_ok, Bool.not_eq_false',
      List.contains_iff_mem, hbound.known, activityHashes, List.map_append, List.mem_append]
    rcases (hbound.resolved hash).mp hhash with hold | hnew
    · have hknown := hresolved hash hold
      rw [requireResolvedKnown, check_bind_ok, raiseIf_ok, Bool.not_eq_false',
        List.contains_iff_mem] at hknown
      exact ⟨hknown.1, .inl hknown.2⟩
    · refine ⟨?_, .inr hnew⟩
      obtain ⟨fee, -, rfl⟩ := List.mem_map.mp hnew
      have hvalid := fee.valid
      rw [ActivityItemFields.postInit, check_bind_ok] at hvalid
      exact hvalid.1

/-- An expectation whose activities are bound to an attempt is made with new fees, if it is made
without them, when they are above the known activities. -/
theorem FeePosting.built_iff (h : FeePosting state candidates)
    {fields : BoundActivities → ReconciliationExpectationFields}
    (hactivities : ∀ bound, fields bound = (fields state.activities).withActivities bound)
    (hfields : (fields state.activities).check = .ok ()) :
    (∃ expectation, (boundAttemptActivities intent state attempt (some candidates) false >>=
        fun bound => ReconciliationExpectation.fromRepositoryState (fields bound)) =
          .ok expectation) ↔ PostedAbove state candidates := by
  obtain ⟨bound, hbound, hwith⟩ := h.bound_ok intent attempt
  rw [hactivities state.activities] at hfields
  rw [hbound, ← h.check_iff hwith hfields, ← hactivities]
  constructor
  · rintro ⟨expectation, hbuilt⟩
    exact (build_ok.mp hbuilt).1
  · intro hcheck
    exact ⟨_, build_ok.mpr ⟨hcheck, rfl⟩⟩

end Posted

/-! ## The law -/

section

variable [Digest] {intent : ExecutionIntentRow} {state : AccountReconciliationStateRow}
  {candidates : List ActivityItem}

variable {attempts : List OrderAttemptRow} {before : ReconciliationExpectation}

/-- The preparation of a mutation that is expected without fees is expected with them when they are
above the known activities. -/
theorem FeePosting.prepared_iff (h : FeePosting state candidates) {purpose : ReconciliationPurpose}
    {attempt : OrderAttempt}
    (hbefore : reconciliationExpectationFromRows intent state purpose attempt attempts none =
      .ok before) :
    (∃ expectation, reconciliationExpectationFromRows intent state purpose attempt attempts
      (some candidates) = .ok expectation) ↔ PostedAbove state candidates := by
  simp only [reconciliationExpectationFromRows, check_bind_ok] at hbefore ⊢
  obtain ⟨hattempt, hpurpose, hcanonical, hbefore⟩ := hbefore
  obtain ⟨target, htarget, hbefore⟩ := bind_ok.mp hbefore
  obtain ⟨positions, hpositions, hbefore⟩ := bind_ok.mp hbefore
  obtain ⟨bound, hbound, hbefore⟩ := bind_ok.mp hbefore
  cases hbound
  simp only [hattempt, hpurpose, hcanonical, htarget, hpositions, true_and, ok_bind]
  refine h.built_iff (fun _ => rfl) ?_
  exact (build_ok.mp hbefore).1

/-- The finalization of an order without fills that is expected without fees is expected with them
when they are above the known activities. -/
theorem FeePosting.finalized_iff (h : FeePosting state candidates)
    {observations : List AttemptObservationRow} {latestPermit : Option BrokerMutationPermit}
    (hunfilled : ∀ row ∈ attempts.getLast?, (attemptFromRow row attempts).filledQuantity = 0)
    (hbefore : finalReconciliationExpectationFromRows intent state attempts observations
      latestPermit none = .ok before) :
    (∃ expectation, finalReconciliationExpectationFromRows intent state attempts observations
      latestPermit (some candidates) = .ok expectation) ↔ PostedAbove state candidates := by
  simp only [finalReconciliationExpectationFromRows, require_bind_ok, check_bind_ok]
    at hbefore ⊢
  obtain ⟨row, hrow, latest, hlatest, permit, hpermit, hlineage, hcurrent, hfinal, hbefore⟩ :=
    hbefore
  obtain ⟨positions, hpositions, hbefore⟩ := bind_ok.mp hbefore
  obtain ⟨bound, hbound, hbefore⟩ := bind_ok.mp hbefore
  cases hbound
  have hnone : decide (0 < (attemptFromRow row attempts).filledQuantity) = false := by
    rw [hunfilled row hrow]
    rfl
  simp only [hrow, hlatest, hpermit, hlineage, hcurrent, hfinal, hpositions, hnone, true_and,
    Option.some.injEq, exists_eq_left', ok_bind]
  refine h.built_iff (fun _ => rfl) ?_
  exact (build_ok.mp hbefore).1

/-- Activities that show new fees and nothing else new are bound to an attempt in canonical order,
and an expectation that is made without the fees is made with them, exactly when every fee has a
hash above all the known ones. -/
theorem feePosting_canonical_iff (h : FeePosting state candidates) (intent : ExecutionIntentRow)
    (attempt : OrderAttempt) :
    ∃ bound, boundAttemptActivities intent state attempt (some candidates) false = .ok bound ∧
      (requireCanonicalActivities bound.known = .ok () ↔ PostedAbove state candidates) ∧
      (∀ fields : ReconciliationExpectationFields,
        (fields.withActivities state.activities).check = .ok () →
        ((fields.withActivities bound).check = .ok () ↔ PostedAbove state candidates)) ∧
      (∀ purpose mutated attempts before,
        reconciliationExpectationFromRows intent state purpose mutated attempts none =
          .ok before →
        ((∃ expectation, reconciliationExpectationFromRows intent state purpose mutated attempts
          (some candidates) = .ok expectation) ↔ PostedAbove state candidates)) ∧
      (∀ attempts observations latestPermit before,
        (∀ row ∈ attempts.getLast?, (attemptFromRow row attempts).filledQuantity = 0) →
        finalReconciliationExpectationFromRows intent state attempts observations latestPermit
          none = .ok before →
        ((∃ expectation, finalReconciliationExpectationFromRows intent state attempts observations
          latestPermit (some candidates) = .ok expectation) ↔ PostedAbove state candidates)) := by
  obtain ⟨bound, hbound, hwith⟩ := h.bound_ok intent attempt
  refine ⟨bound, hbound, h.canonical_iff hwith, ?_, ?_, ?_⟩
  · intro fields hfields
    exact h.check_iff hwith hfields
  · intro purpose mutated attempts before hbefore
    exact h.prepared_iff hbefore
  · intro attempts observations latestPermit before hunfilled hbefore
    exact h.finalized_iff hunfilled hbefore

end

section Rehearsed

open Rehearsal

/-- Whether candidates only show new fees can be decided. -/
instance (state : AccountReconciliationStateRow) (candidates : List ActivityItem) :
    Decidable (FeePosting state candidates) :=
  decidable_of_iff
    ((activityHashes state.knownActivities).Pairwise (· < ·) ∧
      (activityHashes candidates).Pairwise (· < ·) ∧
      knownMissing state.knownActivities candidates state.baselineCapturedAt = false ∧
      ∀ item ∈ newCandidates state.knownActivities candidates, item.activityType = .fee)
    ⟨fun ⟨known, canonical, visible, fees⟩ => ⟨known, canonical, visible, fees⟩,
      fun h => ⟨h.known, h.canonical, h.visible, h.fees⟩⟩

/-- The submission of the entry, expected before and after a fee was posted. -/
structure FeeCase where
  row : ExecutionIntentRow
  state : AccountReconciliationStateRow
  attempt : OrderAttempt
  candidates : List ActivityItem
  before : ReconciliationExpectation

/-- What is expected of the submission of the entry when the account shows a fee. -/
def FeeCase.after (posted : FeeCase) (db : Database) : Except Failure ReconciliationExpectation :=
  reconciliationExpectationFromRows posted.row posted.state .submit posted.attempt
    (db.attemptsOf posted.row.intentId) (some posted.candidates)

/-- The submission of the entry while a fee is posted. -/
def postFee (db : Database) (digit : Char) : Except Failure FeeCase := do
  let row ← require (db.intent intentId) .key
  let state ← require (db.latestState row.accountRole) .key
  let fee ← feeOf digit
  let attempt ← canonicalAttemptForMutation row .submit (db.attemptsOf row.intentId)
  let before ← reconciliationExpectationFromRows row state .submit attempt
    (db.attemptsOf row.intentId) none
  return {
    row, state, attempt
    candidates := orderBy (fun item : ActivityItem => item.activityIdHash) [funding, fee]
    before }

/-- The parts of a submission while a fee is posted. -/
theorem postFee_facts {db : Database} {digit : Char} {posted : FeeCase}
    (h : postFee db digit = .ok posted) :
    db.latestState posted.row.accountRole = some posted.state ∧
      reconciliationExpectationFromRows posted.row posted.state .submit posted.attempt
        (db.attemptsOf posted.row.intentId) none = .ok posted.before := by
  simp only [postFee, require_bind_ok] at h
  obtain ⟨row, hrow, state, hstate, h⟩ := h
  obtain ⟨fee, -, h⟩ := bind_ok.mp h
  obtain ⟨attempt, -, h⟩ := bind_ok.mp h
  obtain ⟨before, hbefore, h⟩ := bind_ok.mp h
  cases h
  exact ⟨hstate, hbefore⟩

/-- A fee whose hash starts with a digit is posted, and the expectation of the submission ends with
a failure or without one. -/
def feeEnds (db : Database) (digit : Char) (failure : Option Failure) : Bool :=
  match postFee db digit with
  | .ok posted => decide (FeePosting posted.state posted.candidates) &&
      match posted.after db with
      | .ok _ => failure.isNone
      | .error raised => decide (failure = some raised)
  | .error _ => false

/-- The submission of the entry after a fee was posted. -/
theorem exists_feeCase {db : Database} {digit : Char} {failure : Option Failure}
    (h : feeEnds db digit failure = true) :
    ∃ posted : FeeCase, db.latestState posted.row.accountRole = some posted.state ∧
      reconciliationExpectationFromRows posted.row posted.state .submit posted.attempt
        (db.attemptsOf posted.row.intentId) none = .ok posted.before ∧
      FeePosting posted.state posted.candidates ∧
      (∀ raised, failure = some raised → posted.after db = .error raised) ∧
      (failure = none → ∃ expectation, posted.after db = .ok expectation) := by
  unfold feeEnds at h
  split at h
  · rename_i posted hposted
    obtain ⟨hstate, hbefore⟩ := postFee_facts hposted
    rw [Bool.and_eq_true, decide_eq_true_eq] at h
    obtain ⟨hposting, h⟩ := h
    refine ⟨posted, hstate, hbefore, hposting, ?_⟩
    split at h
    · rename_i expectation hafter
      rw [Option.isNone_iff_eq_none] at h
      subst h
      exact ⟨nofun, fun _ => ⟨expectation, hafter⟩⟩
    · rename_i raised hafter
      rw [decide_eq_true_eq] at h
      subst h
      refine ⟨fun other hother => ?_, nofun⟩
      cases hother
      exact hafter
  · cases h

theorem opening_postings : endsAs opening (fun last => feeEnds last.db 'c' none &&
    feeEnds last.db '0' (some (.value "ACTIVITIES_NOT_CANONICAL"))) = true := by
  decide +kernel

/-- In the rehearsal a fee whose hash is above that of the funding is bound in canonical order. -/
theorem feePosting_canonical_rehearsed : ∃ posted : FeeCase,
    FeePosting posted.state posted.candidates ∧
    ∃ bound, boundAttemptActivities posted.row posted.state posted.attempt
      (some posted.candidates) false = .ok bound ∧
      requireCanonicalActivities bound.known = .ok () := by
  obtain ⟨world, hplayed, hends⟩ := exists_play opening_postings
  rw [Bool.and_eq_true] at hends
  obtain ⟨posted, -, hbefore, hposting, -, hmade⟩ := exists_feeCase hends.1
  obtain ⟨bound, hbound, hcanonical, -, hprepared, -⟩ :=
    feePosting_canonical_iff hposting posted.row posted.attempt
  have habove := (hprepared _ _ _ _ hbefore).mp (hmade rfl)
  exact ⟨posted, hposting, bound, hbound, hcanonical.mpr habove⟩

/-- The opening reaches a state after which the submission of the entry is expected, and it is not
expected any more once a fee is posted whose hash is below that of the funding. -/
theorem feePosting_refused : ∃ (world : World) (transactions : List Transaction)
    (posted : FeeCase),
    (repository Rehearsal.settings).Run { db := {}, clock := 0 } transactions world ∧
    world.db.latestState posted.row.accountRole = some posted.state ∧
    FeePosting posted.state posted.candidates ∧
    reconciliationExpectationFromRows posted.row posted.state .submit posted.attempt
      (world.db.attemptsOf posted.row.intentId) none = .ok posted.before ∧
    posted.after world.db = .error (.value "ACTIVITIES_NOT_CANONICAL") ∧
    ∃ bound, boundAttemptActivities posted.row posted.state posted.attempt
      (some posted.candidates) false = .ok bound ∧
      requireCanonicalActivities bound.known ≠ .ok () := by
  obtain ⟨world, hplayed, hends⟩ := exists_play opening_postings
  obtain ⟨transactions, hrun⟩ := run_of_play hplayed
  rw [Bool.and_eq_true] at hends
  obtain ⟨posted, hstate, hbefore, hposting, hraised, -⟩ := exists_feeCase hends.2
  have hafter : posted.after world.db = .error (.value "ACTIVITIES_NOT_CANONICAL") :=
    hraised _ rfl
  obtain ⟨bound, hbound, hwith⟩ := hposting.bound_ok posted.row posted.attempt
  refine ⟨world, transactions, posted, hrun, hstate, hposting, hbefore, hafter, bound, hbound, ?_⟩
  intro hcanonical
  have habove := (hposting.canonical_iff hwith).mp hcanonical
  obtain ⟨expectation, hmade⟩ := (hposting.prepared_iff hbefore).mpr habove
  rw [FeeCase.after] at hafter
  rw [hafter] at hmade
  cases hmade

end Rehearsed

end AlphaDecay
