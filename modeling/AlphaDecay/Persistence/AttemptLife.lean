import AlphaDecay.Persistence.DispatchSafety

/-!
# The life of an attempt

What a transaction may make of an attempt, and what holds of the attempts in every state that the
repository reaches: each attempt but the first replaces the one before it with a higher limit, and
was authorized between the time at which it was due and the time of the cancel.
-/

namespace AlphaDecay

open Foundation Table

variable {settings : RepositorySettings} {db after : Database} {start now clock : Int}
  {reported : Option OrderAttempt} {old new row other : OrderAttemptRow}

/-! ## Keys -/

theorem eq_of_attemptId (hrow : row ∈ db.attempts.rows) (hother : other ∈ db.attempts.rows)
    (hid : row.attemptId = other.attemptId) : row = other := by
  have hunique : Unique (fun row : OrderAttemptRow => some row.attemptId) db.attempts.rows := by
    refine db.attempts.unique fun left right hclash => ?_
    simp only [attemptSchema, Bool.or_eq_false_iff] at hclash
    simpa [clashOn] using hclash.1.1.1.1
  exact hunique.eq hrow hother rfl (congrArg some hid.symm)

theorem eq_of_ordinal (hrow : row ∈ db.attempts.rows) (hother : other ∈ db.attempts.rows)
    (hintent : row.intentId = other.intentId) (hordinal : row.ordinal = other.ordinal) :
    row = other := by
  have hunique : Unique (fun row : OrderAttemptRow => some (row.intentId, row.ordinal))
      db.attempts.rows := by
    refine db.attempts.unique fun left right hclash => ?_
    simp only [attemptSchema, Bool.or_eq_false_iff] at hclash
    simpa [clashOn] using hclash.1.1.2
  refine hunique.eq hrow hother rfl ?_
  rw [hintent, hordinal]

theorem attempt_bounds (h : row ∈ db.attempts.rows) : 0 ≤ row.ordinal ∧ row.ordinal ≤ 3 := by
  have hcheck := db.attempts.holds.1 row h
  simp only [attemptSchema, Bool.and_eq_true, decide_eq_true_eq] at hcheck
  exact hcheck.1.1.1.1

variable {intent : ExecutionIntentRow} {attempt : OrderAttempt}

theorem eq_of_intentId {another : ExecutionIntentRow} (hintent : intent ∈ db.intents.rows)
    (hanother : another ∈ db.intents.rows) (hid : intent.intentId = another.intentId) :
    intent = another := by
  have hunique : Unique (fun row : ExecutionIntentRow => some row.intentId) db.intents.rows := by
    refine db.intents.unique fun left right hclash => ?_
    simp only [intentSchema, Bool.or_eq_false_iff] at hclash
    simpa [clashOn] using hclash.1.1.1.1.1
  exact hunique.eq hintent hanother rfl (congrArg some hid.symm)

/-! ## What a transaction makes of an attempt -/

/-- Everything of an attempt that is fixed when it is created. -/
structure SameAttempt (old new : OrderAttemptRow) : Prop where
  attemptId : new.attemptId = old.attemptId
  brokerPermitId : new.brokerPermitId = old.brokerPermitId
  intentId : new.intentId = old.intentId
  ordinal : new.ordinal = old.ordinal
  clientOrderId : new.clientOrderId = old.clientOrderId
  replacesAttemptId : new.replacesAttemptId = old.replacesAttemptId

section Effects

variable [Digest]

/-- What a transaction may make of an attempt. -/
inductive Revision (settings : RepositorySettings) (db after : Database) (now : Int)
    (old : OrderAttemptRow) : OrderAttemptRow → Prop where
  | stay : Revision settings db after now old old
  | observed {permit : BrokerMutationPermit} {attempt : OrderAttempt}
      {observation : AttemptObservationRow}
      (h : Sighting db after permit old attempt observation now) :
      Revision settings db after now old (observedRow attempt old)
  | refreshed {rows : PreparationRows} {evaluated : WholeAccountReconciliation}
      {attempt : OrderAttempt} {issuance : Issuance}
      (h : Issue settings db after rows evaluated attempt issuance now)
      (hrefreshed : issuance.refreshed = some old.attemptId) :
      Revision settings db after now old (refreshPreparedReplacement attempt old)

theorem Revision.same (h : Revision settings db after now old new) : SameAttempt old new := by
  cases h <;> exact ⟨rfl, rfl, rfl, rfl, rfl, rfl⟩

/-- Every attempt is revised, and at most one attempt is new: an issue creates it. -/
theorem Effect.attempts (h : Effect settings db start now reported after) :
    (∀ old ∈ db.attempts.rows, ∃ new ∈ after.attempts.rows,
      Revision settings db after now old new) ∧
    (∀ new ∈ after.attempts.rows,
      (∃ old ∈ db.attempts.rows, Revision settings db after now old new) ∨
      ∃ rows evaluated attempt issuance replacesId,
        Issue settings db after rows evaluated attempt issuance now ∧
        issuance.created = some replacesId ∧
        new = createdRow attempt
          (issuedPermit settings rows evaluated attempt issuance now).permitId replacesId) := by
  have hsame : ∀ {table : List OrderAttemptRow}, table = db.attempts.rows →
      (∀ old ∈ db.attempts.rows, ∃ new ∈ table, Revision settings db after now old new) ∧
      ∀ new ∈ table, ∃ old ∈ db.attempts.rows, Revision settings db after now old new := by
    rintro table rfl
    exact ⟨fun old hold => ⟨old, hold, .stay⟩, fun new hnew => ⟨new, hnew, .stay⟩⟩
  cases h with
  | frame h =>
      rw [h.attempts]
      exact ⟨(hsame rfl).1, fun new hnew => Or.inl ((hsame rfl).2 new hnew)⟩
  | dispatch h =>
      rw [h.attempts]
      exact ⟨(hsame rfl).1, fun new hnew => Or.inl ((hsame rfl).2 new hnew)⟩
  | ambiguity h =>
      rw [h.attempts]
      exact ⟨(hsame rfl).1, fun new hnew => Or.inl ((hsame rfl).2 new hnew)⟩
  | note h =>
      rw [h.attempts]
      exact ⟨(hsame rfl).1, fun new hnew => Or.inl ((hsame rfl).2 new hnew)⟩
  | @sighting permit row observed observation h _ =>
      rw [h.attemptRows]
      constructor
      · intro old hold
        cases hcondition : old.attemptId == row.attemptId with
        | true =>
            cases eq_of_attemptId hold h.row_mem (beq_iff_eq.mp hcondition)
            exact ⟨_, change_mem_modify hold hcondition, .observed h⟩
        | false => exact ⟨old, mem_modify_of_not hold hcondition, .stay⟩
      · intro new hnew
        obtain ⟨old, hold, rfl⟩ := mem_modify.mp hnew
        refine Or.inl ⟨old, hold, ?_⟩
        split
        · rename_i hcondition
          cases eq_of_attemptId hold h.row_mem (beq_iff_eq.mp hcondition)
          exact .observed h
        · exact .stay
  | @issue rows evaluated attempt issuance h =>
      rw [h.attemptRows]
      constructor
      · intro old hold
        cases hcondition : issuance.refreshed == some old.attemptId with
        | true =>
            exact ⟨_, List.mem_append_left _ (change_mem_modify hold hcondition),
              .refreshed h (beq_iff_eq.mp hcondition)⟩
        | false => exact ⟨old, List.mem_append_left _ (mem_modify_of_not hold hcondition), .stay⟩
      · intro new hnew
        rcases List.mem_append.mp hnew with hnew | hnew
        · obtain ⟨old, hold, rfl⟩ := mem_modify.mp hnew
          refine Or.inl ⟨old, hold, ?_⟩
          split
          · exact .refreshed h (beq_iff_eq.mp ‹_›)
          · exact .stay
        · obtain ⟨replacesId, hcreated, rfl⟩ := List.mem_map.mp hnew
          exact Or.inr ⟨rows, evaluated, attempt, issuance, replacesId, h,
            Option.mem_toList.mp hcreated, rfl⟩

end Effects

/-! ## Replacements -/

structure ValidReplacement (intent : ExecutionIntentRow) (attempts : List OrderAttemptRow)
    (attempt : OrderAttempt) (target : OrderAttemptRow) : Prop where
  found : replacementTarget attempts attempt.ordinal = .ok target
  ordinal : attempt.ordinal = target.ordinal + 1
  mayBeReplaced : mayBeReplaced target.state = true
  state : attempt.state = .prepared
  unfilled : attempt.filledQuantity = 0
  priorRequestHash : attempt.priorRequestHash = some target.requestHash
  timed : attempt.timingAuthorityAt.isSome = true
  limit : ∃ limit, attempt.limitPrice = some limit ∧ limitOf intent target.limitPrice < limit ∧
    limit ≤ intent.envelope.maximumLimit

/-- What the validation of a replacement checks. -/
theorem validateReplacementAttempt_facts [Digest] {attempts : List OrderAttemptRow}
    {trustedNow : Option Int}
    (h : validateReplacementAttempt intent attempts attempt trustedNow = .ok ()) :
    ∃ target, ValidReplacement intent attempts attempt target := by
  unfold validateReplacementAttempt at h
  obtain ⟨target, htarget, h⟩ := bind_ok.mp h
  obtain ⟨clientId, -, h⟩ := bind_ok.mp h
  simp only [require_bind_ok, check_bind_ok, raiseIf_ok, Bool.not_eq_false'] at h
  obtain ⟨material, hmaterial, hcontinues, -⟩ := h
  have hfields : attempt.limitPrice = some material.limit ∧
      attempt.priorRequestHash = some material.priorRequestHash ∧
      attempt.timingAuthorityAt = some material.timingAuthorityAt := by
    unfold OrderAttempt.replacementMaterial at hmaterial
    split at hmaterial
    · cases hmaterial
      exact ⟨‹_›, ‹_›, ‹_›⟩
    · cases hmaterial
  simp only [continuesTarget, Bool.and_eq_true, beq_iff_eq, decide_eq_true_eq] at hcontinues
  obtain ⟨⟨⟨⟨⟨⟨⟨⟨⟨⟨⟨⟨⟨⟨-, hmay⟩, -⟩, hstate⟩, -⟩, hunfilled⟩, -⟩, hordinal⟩, -⟩, hprior⟩, -⟩, -⟩,
    hlimit⟩, -⟩, hmaximum⟩ := hcontinues
  exact ⟨target, {
    found := htarget
    ordinal := hordinal
    mayBeReplaced := hmay
    state := hstate
    unfilled := hunfilled
    priorRequestHash := hfields.2.1.trans (congrArg some hprior)
    timed := by rw [hfields.2.2]; rfl
    limit := ⟨material.limit, hfields.1, hlimit, hmaximum⟩ }⟩

theorem ne_prepared_of_mayBeReplaced {state : AttemptState} (h : mayBeReplaced state = true) :
    state ≠ .prepared := by
  rintro rfl
  cases h

/-- A replacement is timed after it was due and before the cancel was, as the dispatch of the first
attempt says. -/
theorem validateReplacementDue_facts {attempts : List OrderAttemptRow}
    {permits : List BrokerMutationPermit}
    (h : validateReplacementDue attempts permits attempt = .ok ()) :
    1 ≤ attempt.ordinal ∧ attempt.ordinal ≤ 3 ∧
    ∃ initial permit dispatchedAt timedAt, attempts.head? = some initial ∧
      creationPermit initial permits = .ok permit ∧
      permit.dispatchAcquiredAt = some dispatchedAt ∧ attempt.timingAuthorityAt = some timedAt ∧
      replacementDue attempt.ordinal ≤ timedAt - dispatchedAt ∧
      timedAt - dispatchedAt < cancelDue := by
  simp only [validateReplacementDue, require_bind_ok, check_bind_ok, raiseIf_ok,
    Bool.not_eq_false', List.contains_iff_mem, List.mem_cons, List.not_mem_nil, or_false] at h
  obtain ⟨hordinal, initial, hinitial, h⟩ := h
  obtain ⟨permit, hpermit, h⟩ := bind_ok.mp h
  simp only [require_bind_ok, check_bind_ok, raiseIf_ok, decide_eq_false_iff_not, not_lt,
    not_le] at h
  obtain ⟨dispatchedAt, hdispatched, timedAt, htimed, hdue, hcancel⟩ := h
  exact ⟨by omega, by omega, initial, permit, dispatchedAt, timedAt, hinitial, hpermit,
    hdispatched, htimed, hdue, hcancel⟩

/-! ## The invariant -/

structure Replaces (db : Database) (row target : OrderAttemptRow) : Prop where
  target_mem : target ∈ db.attempts.rows
  intentId : target.intentId = row.intentId
  ordinal : row.ordinal = target.ordinal + 1
  submitted : target.state ≠ .prepared
  replacesAttemptId : row.replacesAttemptId = some target.attemptId
  priorRequestHash : row.priorRequestHash = some target.requestHash
  limit : ∃ intent ∈ db.intents.rows, intent.intentId = row.intentId ∧
    ∃ limit, row.limitPrice = some limit ∧ limitOf intent target.limitPrice < limit ∧
      limit ≤ intent.envelope.maximumLimit

/-- An attempt was authorized after it was due and before the cancel was, as a dispatch of the
first attempt says. -/
def AuthorizedWhenDue (db : Database) (row : OrderAttemptRow) : Prop :=
  ∃ permit ∈ db.permits.rows, permit.slot = ⟨row.intentId, .submit, 0⟩ ∧
    ∃ dispatchedAt timedAt, permit.dispatchAcquiredAt = some dispatchedAt ∧
      row.timingAuthorityAt = some timedAt ∧
      replacementDue row.ordinal ≤ timedAt - dispatchedAt ∧ timedAt - dispatchedAt < cancelDue

/-- What holds of the attempts in every state that the repository reaches. -/
structure AttemptsSound (db : Database) : Prop where
  /-- The first attempt has no limit of its own. -/
  first : ∀ row ∈ db.attempts.rows, row.ordinal = 0 → row.limitPrice = none
  /-- Every other attempt replaces the one before it. -/
  follows : ∀ row ∈ db.attempts.rows, row.ordinal ≠ 0 → ∃ target, Replaces db row target
  /-- Every other attempt was authorized when it was due. -/
  timed : ∀ row ∈ db.attempts.rows, row.ordinal ≠ 0 → AuthorizedWhenDue db row

/-! ## Reading attempts in order -/

/-- Attempts are read by ordinal. -/
theorem ordinal_le_of_attemptOrder (h : Database.attemptOrder row ≤ Database.attemptOrder other) :
    row.ordinal ≤ other.ordinal := by
  by_contra hlt
  refine absurd h (not_le.mpr ?_)
  simp only [Database.attemptOrder, List.cons_lt_cons_iff]
  exact Or.inl (not_le.mp hlt)

/-- The first attempt that is read has the least ordinal. -/
theorem head_attemptsOf {intentId : Uuid} (h : (db.attemptsOf intentId).head? = some row) :
    row ∈ db.attempts.rows ∧ row.intentId = intentId ∧
      ∀ other ∈ db.attempts.rows, other.intentId = intentId → row.ordinal ≤ other.ordinal := by
  obtain ⟨hmem, hintent⟩ := Database.mem_attemptsOf.mp (List.mem_of_head? h)
  refine ⟨hmem, hintent, fun other hother hsame => ?_⟩
  have hread : other ∈ db.attemptsOf intentId := Database.mem_attemptsOf.mpr ⟨hother, hsame⟩
  obtain ⟨rest, hrest⟩ := List.head?_eq_some_iff.mp h
  have hsorted : (db.attemptsOf intentId).Pairwise fun left right =>
      Database.attemptOrder left ≤ Database.attemptOrder right := orderBy_pairwise
  rw [hrest] at hread hsorted
  rcases List.mem_cons.mp hread with rfl | hin
  · exact le_refl _
  · exact ordinal_le_of_attemptOrder ((List.pairwise_cons.mp hsorted).1 other hin)

/-- The first attempt that is read has the ordinal zero. -/
theorem AttemptsSound.head_ordinal (hsound : AttemptsSound db) {intentId : Uuid}
    (h : (db.attemptsOf intentId).head? = some row) : row.ordinal = 0 := by
  obtain ⟨hmem, hintent, hleast⟩ := head_attemptsOf h
  by_contra hne
  obtain ⟨target, htarget⟩ := hsound.follows row hmem hne
  have hle := hleast target htarget.target_mem (htarget.intentId.trans hintent)
  have hordinal := htarget.ordinal
  omega

/-! ## What an issue does to attempts -/

section

variable [Digest] {rows : PreparationRows} {evaluated : WholeAccountReconciliation}
  {attempt : OrderAttempt} {issuance : Issuance}

theorem Issue.mem_attempts (h : Issue settings db after rows evaluated attempt issuance now)
    (hrow : row ∈ rows.attempts) : row ∈ db.attempts.rows ∧ row.intentId =
    rows.intent.intentId := by
  rw [h.attempts_read] at hrow
  exact Database.mem_attemptsOf.mp hrow

/-- The purpose of a replacement. -/
theorem Issue.replacement_facts (h : Issue settings db after rows evaluated attempt issuance now)
    (hreplace : evaluated.expectation.purpose = .replace) :
    ∃ last target, rows.attempts.getLast? = some last ∧
      ValidReplacement rows.intent rows.attempts attempt target ∧ target ∈ rows.attempts ∧
      ((issuance.refreshed = some last.attemptId ∧ issuance.created = none ∧
        last.ordinal = attempt.ordinal ∧ last.state = .prepared) ∨
      (issuance.refreshed = none ∧ issuance.created = some (some last.attemptId) ∧
        target = last)) := by
  obtain ⟨target, hvalid⟩ := validateReplacementAttempt_facts (h.replacement hreplace).1
  have hfollows := h.follows
  rw [hreplace] at hfollows
  obtain ⟨last, hlast, hcase⟩ := replacementIssuance_facts hfollows
  have hfound := hvalid.found
  simp only [replacementTarget, hlast, require_bind_ok, Option.some.injEq, exists_eq_left']
    at hfound
  refine ⟨last, target, hlast, hvalid, ?_, ?_⟩
  · split at hfound
    · simp only [check_bind_ok, require_ok] at hfound
      exact List.mem_of_mem_dropLast (List.mem_of_getLast? hfound.2)
    · cases hfound
      exact List.mem_of_getLast? hlast
  · rcases hcase with ⟨generation, found, hordinal, hstate, -, -, -, -, rfl⟩ |
      ⟨targetPermit, hnew, -, -, -, -, rfl⟩
    · exact Or.inl ⟨rfl, rfl, hordinal, hstate⟩
    · refine Or.inr ⟨rfl, rfl, ?_⟩
      split at hfound
      · simp only [check_bind_ok, raiseIf_ok, bne_eq_false_iff_eq] at hfound
        exact absurd ⟨‹_›, hfound.1⟩ hnew
      · cases hfound
        rfl

/-- The attempt of a submission is prepared, without a limit and a fill. -/
theorem canonicalSubmission_facts {intent : ExecutionIntentRow} {attempts : List OrderAttemptRow}
    {canonical : OrderAttempt} (h : canonicalSubmission intent attempts = .ok canonical) :
    canonical.state = .prepared ∧ canonical.limitPrice = none ∧ canonical.filledQuantity = 0 := by
  unfold canonicalSubmission at h
  obtain ⟨expected, hexpected, h⟩ := bind_ok.mp h
  simp only [check_bind_ok] at h
  cases h.2
  unfold preparedAttempt at hexpected
  obtain ⟨identifier, -, hexpected⟩ := bind_ok.mp hexpected
  obtain ⟨requestHash, -, hexpected⟩ := bind_ok.mp hexpected
  cases hexpected
  exact ⟨rfl, rfl, rfl⟩

/-- A submission creates the first attempt, or nothing. -/
theorem Issue.submission_facts (h : Issue settings db after rows evaluated attempt issuance now)
    (hsubmit : evaluated.expectation.purpose = .submit) :
    issuance.refreshed = none ∧ attempt.ordinal = 0 ∧ attempt.state = .prepared ∧
      attempt.limitPrice = none ∧ attempt.filledQuantity = 0 ∧
      (issuance.created = none ∨ (issuance.created = some none ∧ rows.attempts = [])) := by
  have hfollows := h.follows
  have hcanonical := h.canonical
  obtain ⟨target, htarget⟩ := h.target
  rw [hsubmit] at hfollows hcanonical htarget
  simp only [mutationTarget, submitTarget, check_bind_ok, raiseIf_ok, bne_eq_false_iff_eq]
    at htarget
  simp only [requireCanonicalAttempt, reduceCtorEq, if_false] at hcanonical
  obtain ⟨canonical, hmade, hsame⟩ := bind_ok.mp hcanonical
  obtain ⟨hstate, hlimit, hfilled⟩ := canonicalSubmission_facts hmade
  simp only [raiseIf_ok, bne, Bool.not_eq_false'] at hsame
  have hsameLimit := OrderAttempt.limitPrice_of_beq hsame
  rw [hlimit, sameDecimal_none] at hsameLimit
  rw [← OrderAttempt.state_of_beq hsame] at hstate
  rw [← OrderAttempt.filledQuantity_of_beq hsame] at hfilled
  rcases submitIssuance_facts hfollows with ⟨hempty, -, rfl⟩ | ⟨_, _, -, -, -, -, -, rfl⟩
  · exact ⟨rfl, htarget.1, hstate, hsameLimit, hfilled, Or.inr ⟨rfl, hempty⟩⟩
  · exact ⟨rfl, htarget.1, hstate, hsameLimit, hfilled, Or.inl rfl⟩

/-- A cancel creates nothing. -/
theorem Issue.cancel_facts (h : Issue settings db after rows evaluated attempt issuance now)
    (hcancel : evaluated.expectation.purpose = .cancel) :
    issuance.refreshed = none ∧ issuance.created = none := by
  have hfollows := h.follows
  rw [hcancel] at hfollows
  obtain ⟨_, _, _, -, -, -, hcreated, hrefreshed, -⟩ := cancelIssuance_facts hfollows
  exact ⟨hrefreshed, hcreated⟩

/-- An issue that refreshes an attempt authorizes a prepared replacement again. -/
theorem Issue.refreshed_facts (h : Issue settings db after rows evaluated attempt issuance now)
    {attemptId : Uuid} (hrefreshed : issuance.refreshed = some attemptId) :
    evaluated.expectation.purpose = .replace ∧ ∃ last target, last ∈ rows.attempts ∧
      last.attemptId = attemptId ∧ last.ordinal = attempt.ordinal ∧ last.state = .prepared ∧
      ValidReplacement rows.intent rows.attempts attempt target ∧ target ∈ rows.attempts := by
  cases hpurpose : evaluated.expectation.purpose with
  | submit =>
      rw [(h.submission_facts hpurpose).1] at hrefreshed
      cases hrefreshed
  | cancel =>
      rw [(h.cancel_facts hpurpose).1] at hrefreshed
      cases hrefreshed
  | baselineInitialization =>
      have hfollows := h.follows
      rw [hpurpose] at hfollows
      cases hfollows
  | replace =>
      obtain ⟨last, target, hlast, hvalid, htarget, hcase⟩ := h.replacement_facts hpurpose
      rcases hcase with ⟨hid, -, hordinal, hstate⟩ | ⟨hnone, -⟩
      · rw [hid] at hrefreshed
        cases hrefreshed
        exact ⟨rfl, last, target, List.mem_of_getLast? hlast, rfl, hordinal, hstate, hvalid,
          htarget⟩
      · rw [hnone] at hrefreshed
        cases hrefreshed

/-- An issue that creates an attempt submits the first one, or replaces the last one. -/
theorem Issue.created_facts (h : Issue settings db after rows evaluated attempt issuance now)
    {replacesId : Option Uuid} (hcreated : issuance.created = some replacesId) :
    (evaluated.expectation.purpose = .submit ∧ attempt.ordinal = 0 ∧ attempt.limitPrice = none ∧
      rows.attempts = [] ∧ replacesId = none) ∨
    (evaluated.expectation.purpose = .replace ∧ ∃ target ∈ rows.attempts,
      replacesId = some target.attemptId ∧
      ValidReplacement rows.intent rows.attempts attempt target) := by
  cases hpurpose : evaluated.expectation.purpose with
  | submit =>
      obtain ⟨-, hordinal, -, hlimit, -, hcase⟩ := h.submission_facts hpurpose
      rcases hcase with hnone | ⟨hsome, hempty⟩
      · rw [hnone] at hcreated
        cases hcreated
      · rw [hsome] at hcreated
        cases hcreated
        exact Or.inl ⟨rfl, hordinal, hlimit, hempty, rfl⟩
  | cancel =>
      rw [(h.cancel_facts hpurpose).2] at hcreated
      cases hcreated
  | baselineInitialization =>
      have hfollows := h.follows
      rw [hpurpose] at hfollows
      cases hfollows
  | replace =>
      obtain ⟨last, target, hlast, hvalid, htarget, hcase⟩ := h.replacement_facts hpurpose
      rcases hcase with ⟨-, hnone, -⟩ | ⟨-, hsome, rfl⟩
      · rw [hnone] at hcreated
        cases hcreated
      · rw [hsome] at hcreated
        cases hcreated
        exact Or.inr ⟨rfl, target, htarget, rfl, hvalid⟩

/-- A replacement that is issued was authorized when it was due. -/
theorem Issue.due (h : Issue settings db after rows evaluated attempt issuance now)
    (hsound : AttemptsSound db) (hreplace : evaluated.expectation.purpose = .replace)
    (hintent : row.intentId = rows.intent.intentId) (hordinal : row.ordinal = attempt.ordinal)
    (htimed : row.timingAuthorityAt = attempt.timingAuthorityAt) : AuthorizedWhenDue db row := by
  obtain ⟨-, -, initial, permit, dispatchedAt, timedAt, hinitial, hpermit, hdispatched, hat, hdue,
    hcancel⟩ := validateReplacementDue_facts (h.replacement hreplace).2
  obtain ⟨hmem, hslot⟩ := creationPermit_mem hpermit
  rw [h.permits_read] at hmem
  have hfirst := (h.mem_attempts (List.mem_of_head? hinitial)).2
  rw [h.attempts_read] at hinitial
  refine ⟨permit, (Database.mem_permitsOf.mp hmem).1, ?_, dispatchedAt, timedAt, hdispatched, ?_,
    ?_, hcancel⟩
  · rw [hslot, OrderAttemptRow.creationSlot, hsound.head_ordinal hinitial, hfirst, hintent]
    rfl
  · rw [htimed, hat]
  · rw [hordinal]
    exact hdue

end

/-- An attempt stays authorized. -/
theorem AuthorizedWhenDue.step [Digest] (h : AuthorizedWhenDue db old)
    (heffect : Effect settings db start now reported after) (hintent : new.intentId = old.intentId)
    (hordinal : new.ordinal = old.ordinal)
    (htimed : new.timingAuthorityAt = old.timingAuthorityAt) :
    AuthorizedWhenDue after new := by
  obtain ⟨permit, hpermit, hslot, dispatchedAt, timedAt, hdispatched, hat, hdue, hcancel⟩ := h
  obtain ⟨kept, hkept, hadvance⟩ := heffect.kept hpermit
  refine ⟨kept, hkept, ?_, dispatchedAt, timedAt, hadvance.dispatchKept.kept _ hdispatched, ?_, ?_,
    hcancel⟩
  · rw [hadvance.same.slot, hslot, hintent]
  · rw [htimed, hat]
  · rw [hordinal]
    exact hdue

/-! ## Preservation -/

theorem replacement_ordinal_ne {attempts : List OrderAttemptRow} {target : OrderAttemptRow}
    (h : ValidReplacement intent attempts attempt target) (htarget : target ∈ db.attempts.rows) :
    attempt.ordinal ≠ 0 := by
  have hbounds := attempt_bounds htarget
  have hordinal := h.ordinal
  omega

variable [Digest]

/-- A transaction keeps the intents. -/
theorem Effect.intents (h : Effect settings db start now reported after) :
    KeepsIntents db after := by
  cases h with
  | frame h => exact h.intents
  | issue h => exact h.intents
  | dispatch h => exact h.intents
  | ambiguity h => exact h.intents
  | sighting h _ => exact h.intents
  | note h => exact h.intents

/-- An attempt that was submitted keeps its request, and is not prepared again. -/
theorem Revision.submitted (h : Revision settings db after now old new)
    (hold : old ∈ db.attempts.rows) (hstate : old.state ≠ .prepared) :
    new.state ≠ .prepared ∧ new.requestHash = old.requestHash ∧ new.limitPrice =
      old.limitPrice := by
  cases h with
  | stay => exact ⟨hstate, rfl, rfl⟩
  | @observed permit attempt observation h =>
      obtain ⟨state, hobserved, -⟩ := validateAttemptObservation_state h.valid
      refine ⟨?_, rfl, rfl⟩
      show attempt.state ≠ .prepared
      rw [hobserved]
      intro hprepared
      cases hprepared
  | refreshed h hrefreshed =>
      obtain ⟨-, last, target, hlast, hid, -, hprepared, -⟩ := h.refreshed_facts hrefreshed
      cases eq_of_attemptId (h.mem_attempts hlast).1 hold hid
      exact absurd hprepared hstate

/-- What holds of an attempt and the one that it replaces keeps holding. -/
theorem Replaces.step (h : Replaces db old row)
    (heffect : Effect settings db start now reported after)
    (hintent : new.intentId = old.intentId) (hordinal : new.ordinal = old.ordinal)
    (hreplaces : new.replacesAttemptId = old.replacesAttemptId)
    (hprior : new.priorRequestHash = old.priorRequestHash)
    (hlimit : new.limitPrice = old.limitPrice) : ∃ target, Replaces after new target := by
  obtain ⟨target, htarget, hrevision⟩ := heffect.attempts.1 row h.target_mem
  have hsame := hrevision.same
  obtain ⟨hsubmitted, hhash, hprice⟩ := hrevision.submitted h.target_mem h.submitted
  obtain ⟨intent, hmem, hid, limit, hnew, hlower, hupper⟩ := h.limit
  obtain ⟨kept, hkept, hkeptId, henvelope⟩ := heffect.intents intent hmem
  refine ⟨target, {
    target_mem := htarget
    intentId := by rw [hsame.intentId, h.intentId, hintent]
    ordinal := by rw [hordinal, h.ordinal, hsame.ordinal]
    submitted := hsubmitted
    replacesAttemptId := by rw [hreplaces, h.replacesAttemptId, hsame.attemptId]
    priorRequestHash := by rw [hprior, h.priorRequestHash, hhash]
    limit := ⟨kept, hkept, ?_, limit, hlimit.trans hnew, ?_, ?_⟩ }⟩
  · rw [hkeptId, hid, hintent]
  · rw [hprice, limitOf, henvelope]
    exact hlower
  · rw [henvelope]
    exact hupper

/-- A valid replacement continues its target. -/
theorem Issue.replaces {rows : PreparationRows} {evaluated : WholeAccountReconciliation}
    {attempt : OrderAttempt} {issuance : Issuance} {target : OrderAttemptRow}
    (h : Issue settings db after rows evaluated attempt issuance now)
    (hvalid : ValidReplacement rows.intent rows.attempts attempt target)
    (htarget : target ∈ rows.attempts) (hintent : row.intentId = rows.intent.intentId)
    (hordinal : row.ordinal = attempt.ordinal) (hlimit : row.limitPrice = attempt.limitPrice)
    (hprior : row.priorRequestHash = attempt.priorRequestHash)
    (hreplaces : row.replacesAttemptId = some target.attemptId) : Replaces db row target := by
  obtain ⟨hmem, htargetIntent⟩ := h.mem_attempts htarget
  obtain ⟨limit, hprice, hlower, hupper⟩ := hvalid.limit
  exact {
    target_mem := hmem
    intentId := htargetIntent.trans hintent.symm
    ordinal := hordinal.trans hvalid.ordinal
    submitted := ne_prepared_of_mayBeReplaced hvalid.mayBeReplaced
    replacesAttemptId := hreplaces
    priorRequestHash := hprior.trans hvalid.priorRequestHash
    limit := ⟨rows.intent, h.intent_mem, hintent.symm, limit, hlimit.trans hprice, hlower,
      hupper⟩ }

/-- A transaction keeps the attempts sound. -/
theorem Effect.attemptsSound (h : Effect settings db start now reported after)
    (hsound : AttemptsSound db) :
    AttemptsSound after := by
  have hrevised : ∀ {old new}, old ∈ db.attempts.rows → Revision settings db after now old new →
      (new.ordinal = 0 → new.limitPrice = none) ∧
      (new.ordinal ≠ 0 → (∃ target, Replaces after new target) ∧ AuthorizedWhenDue after new) := by
    intro old new hold hrevision
    cases hrevision with
    | stay =>
        refine ⟨hsound.first old hold, fun hne => ?_⟩
        obtain ⟨target, htarget⟩ := hsound.follows old hold hne
        exact ⟨htarget.step h rfl rfl rfl rfl rfl, (hsound.timed old hold hne).step h rfl rfl rfl⟩
    | observed hsighting =>
        refine ⟨hsound.first old hold, fun hne => ?_⟩
        obtain ⟨target, htarget⟩ := hsound.follows old hold hne
        exact ⟨htarget.step h rfl rfl rfl rfl rfl, (hsound.timed old hold hne).step h rfl rfl rfl⟩
    | @refreshed rows evaluated attempt issuance hissue hrefreshed =>
        obtain ⟨hpurpose, last, target, hlast, hid, hordinal, hstate, hvalid, htarget⟩ :=
          hissue.refreshed_facts hrefreshed
        obtain ⟨hmem, hintent⟩ := hissue.mem_attempts hlast
        cases eq_of_attemptId hmem hold hid
        have htargetMem := (hissue.mem_attempts htarget).1
        have hne : old.ordinal ≠ 0 := by
          rw [hordinal]
          exact replacement_ordinal_ne hvalid htargetMem
        refine ⟨fun hzero => absurd hzero hne, fun _ => ⟨?_, ?_⟩⟩
        · -- The refreshed attempt replaces the same attempt as before.
          obtain ⟨found, hfound⟩ := hsound.follows old hmem hne
          have hsame : found = target := by
            refine eq_of_ordinal hfound.target_mem htargetMem ?_ ?_
            · rw [hfound.intentId, hintent, (hissue.mem_attempts htarget).2]
            · have hfirst := hfound.ordinal
              have hsecond := hvalid.ordinal
              omega
          have hreplaces : Replaces db (refreshPreparedReplacement attempt old) target :=
            hissue.replaces hvalid htarget hintent hordinal rfl rfl
              (hsame ▸ hfound.replacesAttemptId)
          exact hreplaces.step h rfl rfl rfl rfl rfl
        · have hdue : AuthorizedWhenDue db (refreshPreparedReplacement attempt old) :=
            hissue.due hsound hpurpose hintent hordinal rfl
          exact hdue.step h rfl rfl rfl
  have hcreated : ∀ {rows evaluated attempt issuance replacesId permitId},
      Issue settings db after rows evaluated attempt issuance now →
      issuance.created = some replacesId →
      ((createdRow attempt permitId replacesId).ordinal = 0 →
        (createdRow attempt permitId replacesId).limitPrice = none) ∧
      ((createdRow attempt permitId replacesId).ordinal ≠ 0 →
        (∃ target, Replaces after (createdRow attempt permitId replacesId) target) ∧
        AuthorizedWhenDue after (createdRow attempt permitId replacesId)) := by
    intro rows evaluated attempt issuance replacesId permitId hissue hmade
    rcases hissue.created_facts hmade with ⟨-, hordinal, hlimit, -, -⟩ |
      ⟨hpurpose, target, htarget, rfl, hvalid⟩
    · exact ⟨fun _ => hlimit, fun hne => absurd hordinal hne⟩
    · have hne := replacement_ordinal_ne hvalid (hissue.mem_attempts htarget).1
      refine ⟨fun hzero => absurd hzero hne, fun _ => ⟨?_, ?_⟩⟩
      · have hreplaces : Replaces db (createdRow attempt permitId (some target.attemptId)) target :=
          hissue.replaces hvalid htarget hissue.attemptIntent rfl rfl rfl rfl
        exact hreplaces.step h rfl rfl rfl rfl rfl
      · have hdue : AuthorizedWhenDue db (createdRow attempt permitId (some target.attemptId)) :=
          hissue.due hsound hpurpose hissue.attemptIntent rfl rfl
        exact hdue.step h rfl rfl rfl
  have hall : ∀ new ∈ after.attempts.rows, (new.ordinal = 0 → new.limitPrice = none) ∧
      (new.ordinal ≠ 0 → (∃ target, Replaces after new target) ∧ AuthorizedWhenDue after new) := by
    intro new hnew
    rcases h.attempts.2 new hnew with ⟨old, hold, hrevision⟩ |
      ⟨rows, evaluated, attempt, issuance, replacesId, hissue, hmade, rfl⟩
    · exact hrevised hold hrevision
    · exact hcreated hissue hmade
  exact ⟨fun row hrow => (hall row hrow).1, fun row hrow hne => ((hall row hrow).2 hne).1,
    fun row hrow hne => ((hall row hrow).2 hne).2⟩

/-- The attempts are sound in every state that the repository reaches. -/
theorem attemptsSound_of_reachable {world : World} (h : (repository settings).Reachable world) :
    AttemptsSound world.db := by
  refine h.invariant (P := fun world => AttemptsSound world.db) ?_ ?_
  · intro world hempty
    have hrows : world.db.attempts.rows = [] := by
      rw [show world.db = {} from hempty]
      rfl
    constructor <;> simp [hrows]
  · intro world transaction next hsound hstep
    exact (step_effect hstep).1.attemptsSound hsound

end AlphaDecay
