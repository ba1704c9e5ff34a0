import AlphaDecay.Experiments.Performance

/-!
# What the checks of a performance establish

A position that passes its checks has its transitions in order: one entry, then rolls, and a close
at the end when the position is closed. The cash of its transitions adds up to the last cumulative
figure. The checks do not see the order in which the decisions, the transitions of a position and
the attempts of a transition are given: `passes_reordered`.
-/

namespace AlphaDecay.Experiments

open Foundation Foundation.Grouping Agent

/-! ## Decisions -/

variable {position : PositionLifecycleEvidence} {transition : LifecycleTransitionEvidence}
  {decisionById : Dict Uuid ExperimentDecisionEvidence}

variable {lineage : ExperimentExecutionLineage} {transition' : LifecycleTransitionEvidence}

/-- A decision is taken when it belongs to the lineage and is new. -/
theorem takeDecision_ok {next : Dict Uuid ExperimentDecisionEvidence}
    {decision : ExperimentDecisionEvidence} :
    takeDecision lineage decisionById decision = .ok next ↔ decision.lineage = lineage ∧
      decisionById.get decision.decisionId = none ∧
      next = decisionById.set decision.decisionId decision := by
  simp only [takeDecision, check_bind_ok, raiseIf_ok, decide_eq_false_iff_not, not_not,
    Option.isSome_eq_false_iff, Option.isNone_iff_eq_none, pure, Except.pure, Except.ok.injEq,
    eq_comm (a := next)]

/-- The decisions are accepted when they all belong to the lineage and are distinct. -/
theorem validateDecisions_ok {decisions : List ExperimentDecisionEvidence} :
    validateDecisions lineage decisions = .ok decisionById ↔
      (∀ decision ∈ decisions, decision.lineage = lineage) ∧
      (decisions.map (·.decisionId)).Nodup ∧
      decisionById = Dict.ofList (·.decisionId) decisions := by
  unfold validateDecisions
  induction decisions using List.reverseRecOn generalizing decisionById with
  | nil =>
      show Except.ok Dict.empty = _ ↔ _
      simp [Dict.ofList, eq_comm]
  | append_singleton decisions decision ih =>
      rw [List.foldlM_append, bind_ok]
      simp only [ih, List.foldlM_cons, List.foldlM_nil, bind_pure, takeDecision_ok]
      have hnew : (Dict.ofList (·.decisionId) decisions).get decision.decisionId = none ↔
          decision.decisionId ∉ decisions.map (·.decisionId) := by
        rw [Dict.get_ofList, lastByKey, List.getLast?_eq_none_iff, List.filter_eq_nil_iff]
        simp
      constructor
      · rintro ⟨_, ⟨hlineage, hnodup, rfl⟩, hown, hget, rfl⟩
        refine ⟨?_, ?_, by rw [Dict.ofList_append]⟩
        · intro other hother
          rcases List.mem_append.mp hother with hbefore | hlast
          · exact hlineage other hbefore
          · rw [List.mem_singleton.mp hlast, hown]
        · rw [List.map_append, List.nodup_append]
          refine ⟨hnodup, List.nodup_singleton _, ?_⟩
          intro id hid id' hid' heq
          have hsame : id' = decision.decisionId := by simpa using hid'
          exact hnew.mp hget (hsame ▸ heq ▸ hid)
      · rintro ⟨hlineage, hnodup, rfl⟩
        rw [List.map_append, List.nodup_append] at hnodup
        refine ⟨_, ⟨fun other hother => hlineage other (List.mem_append_left _ hother), hnodup.1,
          rfl⟩, hlineage decision (by simp), hnew.mpr fun hmem => ?_, by rw [Dict.ofList_append]⟩
        exact hnodup.2.2 _ hmem decision.decisionId (by simp) rfl

/-! ## Executions -/

/-- The attempts of a transition in another order. -/
def TransitionReordered (transition transition' : LifecycleTransitionEvidence) : Prop :=
  ∃ attempts, attempts.Perm transition.attempts ∧ transition' = { transition with attempts }

/-- The execution check does not see the order of the attempts. -/
theorem validateExecution_reordered (h : TransitionReordered transition transition') :
    validateExecution transition' = validateExecution transition := by
  obtain ⟨attempts, hperm, rfl⟩ := h
  by_cases hdistinct : (attempts.map FillAttemptEvidence.attemptOrdinal).Nodup
  · have hsorted := sortedBy_eq_of_perm hdistinct hperm
    simp only [validateExecution, hsorted]
  · -- the ordinals of neither list count up from zero
    have hfails : ∀ items : List FillAttemptEvidence, items.Perm attempts →
        ((sortedBy FillAttemptEvidence.attemptOrdinal items).map (·.attemptOrdinal) !=
          (List.range (sortedBy FillAttemptEvidence.attemptOrdinal items).length).map
            Int.ofNat) = true := by
      intro items hitems
      rw [bne_iff_ne]
      intro heq
      have hnodup : ((sortedBy FillAttemptEvidence.attemptOrdinal items).map
          (·.attemptOrdinal)).Nodup := by
        rw [heq]
        exact List.nodup_range.map Int.ofNat_injective
      exact hdistinct ((((sortedBy_perm _ items).trans hitems).map _).nodup_iff.mp hnodup)
    have herror : ∀ items : List FillAttemptEvidence, items.Perm attempts →
        validateExecution { transition with attempts := items } =
          .error (evidenceError "FILL_LINEAGE_INCOMPLETE") := by
      intro items hitems
      simp only [validateExecution, hfails items hitems, Bool.or_true, Bool.true_or, raiseIf,
        if_true]
      rfl
    rw [herror attempts (List.Perm.refl _)]
    exact (herror transition.attempts hperm.symm).symm

/-! ## Transitions -/

section

variable {transitions : List LifecycleTransitionEvidence}

/-- What an accepted transition shows about itself and about the one before. -/
structure TransitionAccepted (index : Nat) (passed : Passed)
    (transition : LifecycleTransitionEvidence) (next : Passed) : Prop where
  sequence : transition.sequence = index
  entry : index = 0 → transition.action = "ENTRY"
  later : 0 < index → transition.action = "ROLL" ∨ transition.action = "CLOSE"
  ordered : ∀ last, passed.previous = some last → last.occurredAt ≤ transition.occurredAt
  running : ∀ last, passed.previous = some last → last.action ≠ "CLOSE"
  cumulative : transition.snapshotCumulativeCashFlow.value =
    (passed.cumulativeCashFlow + transition.cashFlow).value
  nextCumulative : next.cumulativeCashFlow = passed.cumulativeCashFlow + transition.cashFlow
  nextPrevious : next.previous = some transition

theorem validateTransition_ok {index : Nat} {passed next : Passed}
    (h : validateTransition position decisionById index passed transition = .ok next) :
    TransitionAccepted index passed transition next := by
  unfold validateTransition at h
  simp only [check_bind_ok, raiseIf_ok] at h
  obtain ⟨-, -, hchronology, -, hrest⟩ := h
  obtain ⟨inventory, -, hrest⟩ := bind_ok.mp hrest
  obtain ⟨stated, -, hrest⟩ := bind_ok.mp hrest
  simp only [check_bind_ok, raiseIf_ok] at hrest
  obtain ⟨-, -, -, hcash, hnext⟩ := hrest
  cases hnext
  simp only [chronologyInvalid, Bool.or_eq_false_iff] at hchronology
  obtain ⟨⟨⟨⟨⟨⟨⟨⟨⟨⟨⟨hsequence, haction⟩, -⟩, -⟩, -⟩, -⟩, -⟩, hlater⟩, -⟩, -⟩, hordered⟩,
    hrunning⟩ := hchronology
  refine ⟨by simpa using hsequence, fun hzero => ?_, fun hpos => ?_, fun last hlast => ?_,
    fun last hlast => ?_, ?_, rfl, rfl⟩
  · simpa [hzero] using haction
  · have hnot := hlater
    simp only [hpos, decide_true, Bool.true_and, Bool.and_eq_false_iff, bne_eq_false_iff_eq]
      at hnot
    exact hnot
  · simpa [hlast] using hordered
  · simpa [hlast] using hrunning
  · rw [bne, Bool.not_eq_false'] at hcash
    exact Decimal.beq_iff_value.mp hcash

variable {index : Nat} {passed : Passed} {rest : List LifecycleTransitionEvidence}

theorem validateTransitions_cons :
    validateTransitions position decisionById index passed (transition :: rest) = .ok () ↔
      ∃ next, validateTransition position decisionById index passed transition = .ok next ∧
        validateTransitions position decisionById (index + 1) next rest = .ok () := by
  rw [validateTransitions, bind_ok]

/-- The sequence numbers count up. -/
theorem sequences_of_accepted
    (h : validateTransitions position decisionById index passed transitions = .ok ()) :
    transitions.map (·.sequence) = (List.range' index transitions.length).map Int.ofNat := by
  induction transitions generalizing index passed with
  | nil => rfl
  | cons transition rest ih =>
      obtain ⟨next, hstep, hrest⟩ := validateTransitions_cons.mp h
      rw [List.map_cons, (validateTransition_ok hstep).sequence, ih hrest, List.length_cons,
        List.range'_succ, List.map_cons]
      rfl

/-- No transition is before the last one passed. -/
theorem ordered_of_accepted
    (h : validateTransitions position decisionById index passed transitions = .ok ())
    {last : LifecycleTransitionEvidence} (hlast : passed.previous = some last) :
    ∀ transition ∈ transitions, last.occurredAt ≤ transition.occurredAt := by
  induction transitions generalizing index passed last with
  | nil => simp
  | cons transition rest ih =>
      obtain ⟨next, hstep, hrest⟩ := validateTransitions_cons.mp h
      have haccepted := validateTransition_ok hstep
      intro other hother
      rcases List.mem_cons.mp hother with rfl | hmem
      · exact haccepted.ordered last hlast
      · exact (haccepted.ordered last hlast).trans (ih hrest haccepted.nextPrevious other hmem)

/-- Every transition after the first is a roll or a close. -/
theorem later_of_accepted
    (h : validateTransitions position decisionById index passed transitions = .ok ())
    (hpos : 0 < index) :
    ∀ transition ∈ transitions, transition.action = "ROLL" ∨ transition.action = "CLOSE" := by
  induction transitions generalizing index passed with
  | nil => simp
  | cons transition rest ih =>
      obtain ⟨next, hstep, hrest⟩ := validateTransitions_cons.mp h
      intro other hother
      rcases List.mem_cons.mp hother with rfl | hmem
      · exact (validateTransition_ok hstep).later hpos
      · exact ih hrest (Nat.succ_pos index) other hmem

/-- Only the last transition can be a close. -/
theorem running_of_accepted
    (h : validateTransitions position decisionById index passed transitions = .ok ()) :
    ∀ transition ∈ transitions.dropLast, transition.action ≠ "CLOSE" := by
  induction transitions generalizing index passed with
  | nil => simp
  | cons transition rest ih =>
      obtain ⟨next, hstep, hrest⟩ := validateTransitions_cons.mp h
      cases rest with
      | nil => simp
      | cons following rest =>
          rw [List.dropLast_cons_cons]
          intro other hother
          rcases List.mem_cons.mp hother with rfl | hmem
          · obtain ⟨after, hfollowing, -⟩ := validateTransitions_cons.mp hrest
            exact (validateTransition_ok hfollowing).running _
              (validateTransition_ok hstep).nextPrevious
          · exact ih hrest other hmem

/-- The last cumulative figure is the cash of all transitions, added in order. -/
theorem cumulative_of_accepted
    (h : validateTransitions position decisionById index passed transitions = .ok ())
    (hne : transitions ≠ []) :
    (transitions.getLast hne).snapshotCumulativeCashFlow.value =
      ((transitions.map (·.cashFlow)).foldl (· + ·) passed.cumulativeCashFlow).value := by
  induction transitions generalizing index passed with
  | nil => exact absurd rfl hne
  | cons transition rest ih =>
      obtain ⟨next, hstep, hrest⟩ := validateTransitions_cons.mp h
      have haccepted := validateTransition_ok hstep
      rw [List.map_cons, List.foldl_cons]
      cases rest with
      | nil => exact haccepted.cumulative
      | cons following rest =>
          rw [List.getLast_cons (List.cons_ne_nil following rest), ih hrest,
            haccepted.nextCumulative]

end

/-! ## Positions -/

/-- The position was closed no earlier than it was activated. -/
def WellTimed (position : PositionLifecycleEvidence) : Prop :=
  ∀ closedAt, position.closedAt = some closedAt → position.activatedAt ≤ closedAt

structure PositionAccepted (position : PositionLifecycleEvidence)
    (transitions : OrderedTransitions) : Prop where
  perm : transitions.1.Perm position.transitions
  distinct : (position.transitions.map (·.sequence)).Nodup
  entries : transitions.1.filter (·.action = "ENTRY") = [transitions.first]
  closes : transitions.1.filter (·.action = "CLOSE") =
    if transitions.last.action = "CLOSE" then [transitions.last] else []
  actions : ∀ transition ∈ transitions.1, transition.action = "ENTRY" ∨
    transition.action = "ROLL" ∨ transition.action = "CLOSE"
  closed : position.closedAt.isSome = true ↔ transitions.last.action = "CLOSE"
  timed : WellTimed position
  cumulative : transitions.last.snapshotCumulativeCashFlow.value =
    (Decimal.total (transitions.1.map (·.cashFlow))).value

/-- The closes of transitions of which only the last can be one. -/
theorem filter_close {transitions : List LifecycleTransitionEvidence} (hne : transitions ≠ [])
    (h : ∀ transition ∈ transitions.dropLast, transition.action ≠ "CLOSE") :
    transitions.filter (·.action = "CLOSE") =
      if (transitions.getLast hne).action = "CLOSE" then [transitions.getLast hne] else [] := by
  conv_lhs => rw [← List.dropLast_append_getLast hne]
  rw [List.filter_append, List.filter_eq_nil_iff.mpr (by simpa using h), List.nil_append,
    List.filter_cons, List.filter_nil]
  simp

/-- The entries of transitions of which the first is one and the others are not. -/
theorem filter_entry {rest : List LifecycleTransitionEvidence}
    (hfirst : transition.action = "ENTRY")
    (hrest : ∀ other ∈ rest, other.action = "ROLL" ∨ other.action = "CLOSE") :
    (transition :: rest).filter (·.action = "ENTRY") = [transition] := by
  rw [List.filter_cons, if_pos (by simp [hfirst]), List.filter_eq_nil_iff.mpr]
  intro other hother
  rcases hrest other hother with h | h <;> simp [h]

variable {transitions : OrderedTransitions} {position' : PositionLifecycleEvidence}

/-- What `validatePosition` returns are the sorted transitions, and each of them is accepted. -/
theorem validatePosition_ok :
    validatePosition position decisionById = .ok transitions ↔
      Decimal.ofInt 0 < position.definedMaximumRisk ∧
      position.entryApprovalLineage = position.lineage ∧
      transitions.1 = sortedBy LifecycleTransitionEvidence.sequence position.transitions ∧
      validateTransitions position decisionById 0 Passed.start transitions.1 = .ok () ∧
      position.activatedAt = transitions.first.occurredAt ∧
      terminalStateInvalid position transitions.last = false := by
  unfold validatePosition
  split
  · rename_i hincomplete
    constructor
    · rintro ⟨⟩
    · rintro ⟨hrisk, -, hsorted, -⟩
      rcases hincomplete with hle | hnil
      · rw [Decimal.lt_iff_value] at hrisk
        rw [Decimal.le_iff_value] at hle
        exact absurd hle (not_le.mpr hrisk)
      · rw [hnil] at hsorted
        exact absurd hsorted transitions.2
  · rename_i hcomplete
    rw [not_or, Decimal.le_iff_value, not_le, ← Decimal.lt_iff_value] at hcomplete
    obtain ⟨items, hne⟩ := transitions
    simp only [check_bind_ok, raiseIf_ok, decide_eq_false_iff_not, not_not, validateEnds,
      bne_eq_false_iff_eq, pure, Except.pure, Except.ok.injEq, Subtype.mk.injEq]
    constructor
    · rintro ⟨hlineage, hvalid, hactivated, hterminal, rfl⟩
      exact ⟨hcomplete.1, hlineage, rfl, hvalid, hactivated, hterminal⟩
    · rintro ⟨-, hlineage, rfl, hvalid, hactivated, hterminal⟩
      exact ⟨hlineage, hvalid, hactivated, hterminal, rfl⟩

theorem accepted_of_validatePosition
    (h : validatePosition position decisionById = .ok transitions) :
    PositionAccepted position transitions := by
  obtain ⟨-, -, hsorted, hvalid, hactivated, hterminal⟩ := validatePosition_ok.mp h
  obtain ⟨items, hne⟩ := transitions
  have hperm : items.Perm position.transitions := by
    rw [show items = _ from hsorted]
    exact sortedBy_perm _ _
  have hdistinct : (position.transitions.map (·.sequence)).Nodup := by
    rw [← (hperm.map _).nodup_iff, sequences_of_accepted hvalid]
    exact List.Nodup.map Int.ofNat_injective List.nodup_range'
  cases items with
  | nil => exact absurd rfl hne
  | cons first rest =>
      obtain ⟨next, hstep, hrest⟩ := validateTransitions_cons.mp hvalid
      have hfirst := validateTransition_ok hstep
      have hlater := later_of_accepted hrest Nat.one_pos
      simp only [terminalStateInvalid, Bool.or_eq_false_iff] at hterminal
      obtain ⟨⟨hopen, hclosed⟩, htime⟩ := hterminal
      refine ⟨hperm, hdistinct, filter_entry (hfirst.entry rfl) hlater,
        filter_close hne (running_of_accepted hvalid), ?_, ?_, ?_,
        cumulative_of_accepted hvalid hne⟩
      · intro transition hmem
        rcases List.mem_cons.mp hmem with rfl | hmem
        · exact .inl (hfirst.entry rfl)
        · exact .inr (hlater transition hmem)
      · cases hat : position.closedAt with
        | none => simpa [hat] using hopen
        | some closedAt => simpa [hat] using hclosed
      · intro closedAt hat
        have hlast : closedAt = ((first :: rest).getLast hne).occurredAt := by
          simpa [hat, OrderedTransitions.last] using htime
        rw [hactivated, hlast]
        rcases List.mem_cons.mp (List.getLast_mem hne) with heq | hmem
        · rw [heq]
          exact le_refl _
        · exact ordered_of_accepted hrest hfirst.nextPrevious _ hmem

/-! ## Reordered evidence -/

theorem TransitionReordered.symm (h : TransitionReordered transition transition') :
    TransitionReordered transition' transition := by
  obtain ⟨attempts, hperm, rfl⟩ := h
  exact ⟨transition.attempts, hperm.symm, rfl⟩

/-- The transitions of a position in another order, and the attempts of each. -/
def PositionReordered (position position' : PositionLifecycleEvidence) : Prop :=
  ∃ between transitions, between.Perm position.transitions ∧
    List.Forall₂ TransitionReordered between transitions ∧
    position' = { position with transitions }

theorem PositionReordered.symm (h : PositionReordered position position') :
    PositionReordered position' position := by
  obtain ⟨between, transitions, hperm, hrelated, rfl⟩ := h
  obtain ⟨back, hback, hbackPerm⟩ := List.perm_comp_forall₂ hperm.symm hrelated
  exact ⟨back, position.transitions, hbackPerm,
    hback.flip.imp fun _ _ hreordered => TransitionReordered.symm hreordered, rfl⟩

structure PassedReordered (passed passed' : Passed) : Prop where
  cumulative : passed'.cumulativeCashFlow = passed.cumulativeCashFlow
  inventory : passed'.inventory = passed.inventory
  previous : Option.Rel TransitionReordered passed.previous passed'.previous

/-- The chronology check does not see the order of attempts. -/
theorem chronologyInvalid_reordered {index : Nat}
    {previous previous' : Option LifecycleTransitionEvidence}
    {transition' : LifecycleTransitionEvidence} (others : List LifecycleTransitionEvidence)
    (hprevious : Option.Rel TransitionReordered previous previous')
    (h : TransitionReordered transition transition') :
    chronologyInvalid { position with transitions := others } index previous' transition' =
      chronologyInvalid position index previous transition := by
  obtain ⟨attempts, -, rfl⟩ := h
  cases hprevious with
  | none => rfl
  | some hlast =>
      obtain ⟨before, -, rfl⟩ := hlast
      rfl

section Agreement

variable {decisionById' : Dict Uuid ExperimentDecisionEvidence}

/-- Checks of a reordered transition agree. -/
theorem agree_validateTransition (others : List LifecycleTransitionEvidence)
    (hget : decisionById'.get = decisionById.get) {index : Nat} {passed passed' : Passed}
    {transition' : LifecycleTransitionEvidence} (hpassed : PassedReordered passed passed')
    (h : TransitionReordered transition transition') :
    Agree PassedReordered
      (validateTransition position decisionById index passed transition)
      (validateTransition { position with transitions := others } decisionById' index passed'
        transition') := by
  have hchronology := @chronologyInvalid_reordered position transition index _ _ _ others
    hpassed.previous h
  have hexecution := validateExecution_reordered h
  obtain ⟨cumulative, inventory, previous⟩ := passed'
  obtain ⟨hcumulative, hinventory, hprevious⟩ := hpassed
  dsimp only at hcumulative hinventory hprevious hchronology
  subst hcumulative hinventory
  have hrelated := h
  obtain ⟨attempts, hperm, rfl⟩ := h
  unfold validateTransition
  simp only [hchronology, hexecution, hget]
  have hsame : ∀ check : Except Failure Unit, Agree (fun _ _ => True) check check :=
    fun check => .refl fun _ _ => trivial
  have hequal : ∀ computed : Except Failure Inventory, Agree Eq computed computed :=
    fun computed => .refl fun _ _ => rfl
  refine (hsame _).bind fun _ _ _ => (hsame _).bind fun _ _ _ => (hsame _).bind fun _ _ _ =>
    (hsame _).bind fun _ _ _ => (hequal _).bind fun inventory _ heq => ?_
  subst heq
  refine (hequal _).bind fun stated _ heq => ?_
  subst heq
  refine (hsame _).bind fun _ _ _ => (hsame _).bind fun _ _ _ => (hsame _).bind fun _ _ _ =>
    (hsame _).bind fun _ _ _ => .returned ⟨rfl, rfl, .some hrelated⟩

/-- Checks of reordered transitions agree. -/
theorem agree_validateTransitions (others : List LifecycleTransitionEvidence)
    (hget : decisionById'.get = decisionById.get)
    {transitions transitions' : List LifecycleTransitionEvidence}
    (h : List.Forall₂ TransitionReordered transitions transitions') {index : Nat}
    {passed passed' : Passed} (hpassed : PassedReordered passed passed') :
    Agree (fun _ _ => True) (validateTransitions position decisionById index passed transitions)
      (validateTransitions { position with transitions := others } decisionById' index passed'
        transitions') := by
  induction h generalizing index passed passed' with
  | nil => exact .returned trivial
  | cons hfirst hrest ih =>
      rw [validateTransitions, validateTransitions]
      exact (agree_validateTransition others hget hpassed hfirst).bind fun _ _ hnext => ih hnext

end Agreement

/-- The first and the last of related lists are related. -/
theorem forall₂_ends {α β : Type} {R : α → β → Prop} {items : List α} {items' : List β}
    (h : List.Forall₂ R items items') (hne : items ≠ []) (hne' : items' ≠ []) :
    R (items.head hne) (items'.head hne') ∧ R (items.getLast hne) (items'.getLast hne') := by
  induction h with
  | nil => exact absurd rfl hne
  | cons hfirst hrest ih =>
      refine ⟨hfirst, ?_⟩
      cases hrest with
      | nil => exact hfirst
      | cons hsecond hothers =>
          rw [List.getLast_cons (List.cons_ne_nil _ _), List.getLast_cons (List.cons_ne_nil _ _)]
          exact (ih (List.cons_ne_nil _ _) (List.cons_ne_nil _ _)).2

/-- Transitions that their sequence numbers tell apart are sorted into related lists. -/
theorem sortedBy_reordered (h : PositionReordered position position')
    (hdistinct : (position.transitions.map (·.sequence)).Nodup) :
    List.Forall₂ TransitionReordered
      (sortedBy LifecycleTransitionEvidence.sequence position.transitions)
      (sortedBy LifecycleTransitionEvidence.sequence position'.transitions) := by
  obtain ⟨between, transitions, hperm, hrelated, rfl⟩ := h
  obtain ⟨back, hback, hbackPerm⟩ := List.perm_comp_forall₂
    ((sortedBy_perm LifecycleTransitionEvidence.sequence position.transitions).trans hperm.symm)
    hrelated
  have hkeys : back.map (·.sequence) =
      (sortedBy LifecycleTransitionEvidence.sequence position.transitions).map (·.sequence) := by
    clear hbackPerm hrelated
    generalize sortedBy LifecycleTransitionEvidence.sequence position.transitions = sorted at hback
    induction hback with
    | nil => rfl
    | cons hfirst _ ih =>
        obtain ⟨attempts, -, rfl⟩ := hfirst
        rw [List.map_cons, List.map_cons, ih]
  have hnodup : (back.map (·.sequence)).Nodup := by
    rw [hkeys, ((sortedBy_perm _ _).map _).nodup_iff]
    exact hdistinct
  have hpairwise : back.Pairwise fun left right => left.sequence ≤ right.sequence := by
    have hmapped := List.pairwise_map.mpr (sortedBy_pairwise
      LifecycleTransitionEvidence.sequence position.transitions)
    rw [← hkeys] at hmapped
    exact List.pairwise_map.mp hmapped
  have hsame : back = sortedBy LifecycleTransitionEvidence.sequence transitions :=
    eq_of_perm_of_sorted hnodup (hbackPerm.trans (sortedBy_perm _ _).symm) hpairwise
      (sortedBy_pairwise _ _)
  rw [← hsame]
  exact hback

/-- The checks of a position do not see the order in which its parts are given. -/
theorem passes_reordered {decisionById' : Dict Uuid ExperimentDecisionEvidence}
    (hget : decisionById'.get = decisionById.get)
    (hreordered : PositionReordered position position')
    (h : validatePosition position decisionById = .ok transitions) :
    ∃ transitions', validatePosition position' decisionById' = .ok transitions' := by
  obtain ⟨hrisk, hlineage, hsorted, hvalid, hactivated, hterminal⟩ := validatePosition_ok.mp h
  have hrelated := sortedBy_reordered hreordered (accepted_of_validatePosition h).distinct
  rw [← hsorted] at hrelated
  have hne : sortedBy LifecycleTransitionEvidence.sequence position'.transitions ≠ [] := by
    intro hnil
    rw [hnil, List.forall₂_nil_right_iff] at hrelated
    exact transitions.2 hrelated
  have hends := forall₂_ends hrelated transitions.2 hne
  have hstart : PassedReordered Passed.start Passed.start := ⟨rfl, rfl, .none⟩
  obtain ⟨between, others, hperm, hothers, rfl⟩ := hreordered
  obtain ⟨⟨⟩, hvalid', -⟩ := (agree_validateTransitions others hget hrelated hstart).ok hvalid
  refine ⟨⟨_, hne⟩, validatePosition_ok.mpr ⟨hrisk, hlineage, rfl, hvalid', ?_, ?_⟩⟩
  · obtain ⟨attempts, -, hfirst⟩ := hends.1
    rw [hactivated]
    exact (congrArg (·.occurredAt) hfirst).symm
  · obtain ⟨attempts, -, hlast⟩ := hends.2
    rw [← hterminal]
    show terminalStateInvalid _ _ = terminalStateInvalid position (transitions.1.getLast _)
    rw [show OrderedTransitions.last ⟨_, hne⟩ = _ from hlast]
    rfl

end AlphaDecay.Experiments
