import AlphaDecay.Experiments.Arming
import AlphaDecay.Persistence.Rehearsal

/-!
# Revisions and retries

A request that writes adds the event of the revision after the one it expects, so of the requests
that expect one revision at most one writes. A request that was answered is answered in the same
way when it is repeated, as long as the state row of its experiment stands.
-/

namespace AlphaDecay.Experiments

open Foundation Foundation.Table

/-- The states that follow one another are armed and disarmed in turn. -/
theorem expectedState_next {revision : Int} {action : AuthorizationAction}
    (h : expectedState revision ≠ action.target) :
    expectedState (revision + 1) = action.target := by
  unfold expectedState at h ⊢
  cases action with
  | arm =>
      simp only [AuthorizationAction.target] at h ⊢
      by_cases hodd : revision % 2 = 1
      · exact absurd (if_pos hodd) h
      · exact if_pos (by omega)
  | disarm =>
      simp only [AuthorizationAction.target] at h ⊢
      by_cases hodd : revision % 2 = 1
      · exact if_neg (by omega)
      · exact absurd (if_neg hodd) h

section Laws

variable [Digest] {registry : ExperimentRegistry} {world next : ArmWorld} {change : OpenChange}
  {after : ExperimentDatabase}
variable {call : AuthorizationCall} {status : ExperimentAuthorizationStatus}
  {db : ExperimentDatabase}

variable {event : ArmEvent}

/-! ## A write is read back -/

/-- The event of a change is valid at its revision, after the event that it follows. -/
theorem nextEvent_valid {row : Option ExperimentArmStateRow} {stored : ExperimentArmStateRow}
    {previous : Option Int}
    (hsource : call.request.sourceDefinitionHash = stored.sourceDefinitionHash)
    (hprotocol : call.request.protocolHash = stored.protocolHash)
    (hstate : expectedState (currentRevision row + 1) = call.action.target)
    (htime : ∀ time ∈ previous, time ≤ call.changedAt) :
    eventInvalid stored (currentRevision row + 1) previous (nextEvent call row) = false := by
  have haction : expectedAction call.action.target = call.action := by
    cases call.action <;> rfl
  simp only [eventInvalid, nextEvent, hstate, haction, hsource, hprotocol]
  cases previous with
  | none => simp
  | some time =>
      have hle := htime time rfl
      simpa using hle

omit [Digest] in
/-- A state row with valid hashes after the first revision has a valid status. -/
theorem statusFields_valid {row : ExperimentArmStateRow}
    (hsource : isHash row.sourceDefinitionHash = true) (hprotocol : isHash row.protocolHash = true)
    (hlast : isHash row.lastEventHash = true) (hrevision : 0 < row.authorizationRevision)
    (hentry : row.entryAuthorized = decide (row.authorizationState = .armed)) :
    (statusFields row).check = .ok () := by
  have hne : row.authorizationRevision ≠ 0 := by omega
  have hnonneg : ¬ row.authorizationRevision < 0 := by omega
  simp [StatusFields.check, statusFields, hsource, hprotocol, hlast, hentry, hne, hnonneg]

/-- The first event of an experiment is read back with the state row that it makes. -/
theorem decode_first (h : ArmInvariant registry world) (hopen : change ∈ world.started)
    (hflushed : Flushed change.call change.row world.database after)
    (hrow : change.row = none) :
    ∃ status, decodeAuthorization after (nextState change.call change.row) = .ok status := by
  obtain ⟨call, row, cleared⟩ := change
  have hnone : row = none := hrow
  subst hnone
  change ∃ status, decodeAuthorization after (nextState call none) = .ok status
  have hadmitted := h.admitted _ hopen
  have harm : call.action = .arm := by
    cases haction : call.action with
    | arm => rfl
    | disarm => exact absurd (hadmitted.armed haction) (by simp)
  have hbefore : world.database.eventsOf call.experimentId = [] := by
    refine List.eq_nil_iff_forall_not_mem.mpr fun event hevent => ?_
    rw [ExperimentDatabase.eventsOf, mem_orderBy] at hevent
    obtain ⟨hmem, hid⟩ := List.mem_filter.mp hevent
    obtain ⟨stored, hstored⟩ := Option.isSome_iff_exists.mp (h.covered event hmem)
    obtain ⟨hin, hsame⟩ := lookup_some hstored
    exact (hflushed.first rfl).1 stored hin (hsame.trans (of_decide_eq_true hid))
  have hevents : after.eventsOf call.experimentId = [nextEvent call none] := by
    rw [h.eventsOf_flush hopen hflushed, hbefore, List.nil_append]
  have hvalid : (statusFields (nextState call none)).check = .ok () :=
    statusFields_valid call.request.sourceDefinitionHash_isHash call.request.protocolHash_isHash
      (Digest.authorityHash_isHash _) Int.one_pos rfl
  refine ⟨⟨_, hvalid⟩, decodeAuthorization_ok.mpr ⟨?_, ?_, ⟨nextEvent call none, ?_, ?_⟩, rfl⟩⟩
  · change ((after.eventsOf call.experimentId).length : Int) = _
    rw [hevents]
    rfl
  · change checkEvents _ 1 none (after.eventsOf call.experimentId) = .ok ()
    have hfirst : eventInvalid (nextState call none) 1 none (nextEvent call none) = false :=
      nextEvent_valid rfl rfl (by rw [harm]; rfl) (fun time htime => by cases htime)
    rw [hevents, checkEvents]
    exact check_bind_ok.mpr ⟨raiseIf_ok.mpr hfirst, rfl⟩
  · change (after.eventsOf call.experimentId).getLast? = _
    rw [hevents]
    rfl
  · simp [rowInvalid, nextState, firstState, nextEvent]

/-- A later event of an experiment is read back with the state row that it moves. -/
theorem decode_later (h : ArmInvariant registry world) (hopen : change ∈ world.started)
    (hflushed : Flushed change.call change.row world.database after)
    {current : ExperimentArmStateRow} (hrow : change.row = some current) :
    ∃ status, decodeAuthorization after (nextState change.call change.row) = .ok status := by
  obtain ⟨call, row, cleared⟩ := change
  have hsome : row = some current := hrow
  subst hsome
  change ∃ status, decodeAuthorization after (nextState call (some current)) = .ok status
  have hadmitted := h.admitted _ hopen
  have hheld : world.database.stateOf call.experimentId = some current := hadmitted.held current rfl
  obtain ⟨htarget, htime, hsource, hprotocol⟩ := hadmitted.row current rfl
  have hid : current.experimentId = call.experimentId := (lookup_some hheld).2
  obtain ⟨old, hold⟩ := h.readable _ current hheld
  obtain ⟨hcount, hcheck, ⟨last, hlast, hcurrent⟩, -⟩ := decodeAuthorization_ok.mp hold
  rw [hid] at hcount hcheck hlast
  simp only [rowInvalid, Bool.or_eq_false_iff, decide_eq_false_iff_not, not_not,
    bne_eq_false_iff_eq, Bool.not_eq_false'] at hcurrent
  obtain ⟨⟨⟨⟨⟨⟨⟨⟨⟨⟨⟨-, -⟩, -⟩, hrevision⟩, hstate⟩, -⟩, hrisk⟩, hruntime⟩, hexecution⟩, hpaper⟩, -⟩,
    hupdated⟩ := hcurrent
  have hcurrentState : current.authorizationState =
    expectedState current.authorizationRevision := by
    obtain ⟨hevents, -, -⟩ := checkEvents_ordered hcheck
    obtain ⟨i, hi, hat⟩ := List.getElem_of_mem (List.mem_of_getLast? hlast)
    have hlastAt := hevents i hi
    rw [hat] at hlastAt
    rw [hstate, hrevision, hlastAt.numbered]
    exact hlastAt.state
  have hnextState : expectedState (current.authorizationRevision + 1) = call.action.target :=
    expectedState_next (hcurrentState ▸ htarget)
  have hevents : after.eventsOf call.experimentId =
      world.database.eventsOf call.experimentId ++ [nextEvent call (some current)] :=
    h.eventsOf_flush hopen hflushed
  have hnextId : (nextState call (some current)).experimentId = call.experimentId := hid
  have hrowCheck := world.database.states.holds.1 current (lookup_some hheld).1
  simp only [armStateSchema, Bool.and_eq_true, decide_eq_true_eq] at hrowCheck
  have hpositive : 0 < current.authorizationRevision := hrowCheck.1.1.1.1.1.1.1.1.1
  have hvalid : (statusFields (nextState call (some current))).check = .ok () :=
    statusFields_valid hrowCheck.1.1.2 hrowCheck.1.2 (Digest.authorityHash_isHash _)
      (Int.lt_trans hpositive (Int.lt_succ _)) rfl
  refine ⟨⟨_, hvalid⟩, decodeAuthorization_ok.mpr
    ⟨?_, ?_, ⟨nextEvent call (some current), ?_, ?_⟩, rfl⟩⟩
  · rw [hnextId, hevents, List.length_append, List.length_singleton]
    change _ = current.authorizationRevision + 1
    omega
  · rw [hnextId, hevents, checkEvents_append]
    refine ⟨?_, ?_⟩
    · have hkept : (nextState call (some current)).sourceDefinitionHash =
          current.sourceDefinitionHash := rfl
      rw [checkEvents_congr hkept rfl, hcheck]
    · have hnumber : 1 + ((world.database.eventsOf call.experimentId).length : Int) =
          currentRevision (some current) + 1 := by
        change _ = current.authorizationRevision + 1
        omega
      rw [hnumber, hlast]
      refine nextEvent_valid hsource.symm hprotocol.symm hnextState fun time htimeMem => ?_
      cases htimeMem
      exact le_of_eq_of_le hupdated.symm htime
  · rw [hnextId, hevents, List.getLast?_append]
    rfl
  · simp [rowInvalid, nextState, changedState, nextEvent, hid, hsource, hprotocol, hrisk,
      hruntime, hexecution, hpaper]

/-- A write that violates no constraint is read back, so it is committed. -/
theorem flush_readable (h : ArmInvariant registry world) (hopen : change ∈ world.started)
    (hflush : flushChange change.call change.row world.database = some after) :
    ∃ status, decodeAuthorization after (nextState change.call change.row) = .ok status := by
  have hflushed := flushed_of_flushChange hflush
  cases hrow : change.row with
  | none => exact hrow ▸ decode_first h hopen hflushed hrow
  | some current => exact hrow ▸ decode_later h hopen hflushed hrow

/-! ## One event for a revision -/

/-- The event that a request adds is the one of the revision after the one it expects. -/
theorem added_event (h : ArmInvariant registry world)
    (hstep : ArmStep registry world (.added call status) next) :
    ∃ event, next.database.events.rows = world.database.events.rows ++ [event] ∧
      (∀ old ∈ world.database.events.rows, armEventSchema.clash old event = false) ∧
      event.experimentId = call.experimentId ∧ event.action = call.action ∧
      event.authorizationRevision = call.request.expectedRevision + 1 := by
  cases hstep with
  | @added change after status hopen _ hflush _ =>
      have hflushed := flushed_of_flushChange hflush
      have hexpected := (h.admitted change hopen).expected
      exact ⟨nextEvent change.call change.row, hflushed.events, hflushed.fresh, rfl, rfl, by
        rw [hexpected]
        rfl⟩

theorem unwritten_unchanged (hstep : ArmStep registry world event next)
    (hevent : ∀ call status, event ≠ .added call status) : next.database = world.database := by
  cases hstep with
  | added => exact absurd rfl (hevent _ _)
  | _ => rfl

/-- No step takes an event away. -/
theorem events_kept (h : ArmInvariant registry world) (hstep : ArmStep registry world event next)
    {row : ExperimentArmEventRow} (hrow : row ∈ world.database.events.rows) :
    row ∈ next.database.events.rows := by
  by_cases hadded : ∃ call status, event = .added call status
  · obtain ⟨call, status, rfl⟩ := hadded
    obtain ⟨added, hrows, -⟩ := added_event h hstep
    rw [hrows]
    exact List.mem_append_left _ hrow
  · rw [unwritten_unchanged hstep fun call status heq => hadded ⟨call, status, heq⟩]
    exact hrow

/-- Of the requests that expect one revision of an experiment, at most one adds an event. -/
theorem added_once (hreach : (armSystem registry).Reachable world) {later final : ArmWorld}
    {again : AuthorizationCall} {status' : ExperimentAuthorizationStatus} {labels : List ArmEvent}
    (hstep : ArmStep registry world (.added call status) next)
    (hrun : (armSystem registry).Run next labels later)
    (hagain : ArmStep registry later (.added again status') final)
    (hexperiment : again.experimentId = call.experimentId) :
    again.request.expectedRevision ≠ call.request.expectedRevision := by
  intro hexpected
  have hinvariant := armInvariant_of_reachable hreach
  obtain ⟨event, hrows, -, hid, -, hrevision⟩ := added_event hinvariant hstep
  have hkept : ArmInvariant registry later ∧ event ∈ later.database.events.rows := by
    refine hrun.preserves (P := fun state => ArmInvariant registry state ∧
      event ∈ state.database.events.rows) (fun hstate hlabel => ?_) ⟨hinvariant.step hstep, ?_⟩
    · exact ⟨hstate.1.step hlabel, events_kept hstate.1 hlabel hstate.2⟩
    · rw [hrows]
      exact List.mem_append_right _ (List.mem_singleton_self _)
  obtain ⟨event', -, hfresh, hid', -, hrevision'⟩ := added_event hkept.1 hagain
  have hclash := hfresh event hkept.2
  simp only [armEventSchema, clashOn, Bool.or_eq_false_iff] at hclash
  have hsame : (event.experimentId, event.authorizationRevision) =
      (event'.experimentId, event'.authorizationRevision) := by
    rw [hid, hid', hrevision, hrevision', hexperiment, hexpected]
  simp [hsame] at hclash

/-! ## Retries -/

/-- A request is the repetition of another one, at any time. -/
structure Repeats (again call : AuthorizationCall) : Prop where
  experimentId : again.experimentId = call.experimentId
  request : again.request = call.request
  action : again.action = call.action

/-- A status answers a request: it is that of the state row of its experiment, which has the state
that is asked for. -/
structure Answered (registry : ExperimentRegistry) (db : ExperimentDatabase)
    (call : AuthorizationCall) (status : ExperimentAuthorizationStatus) : Prop where
  loaded : ∃ source compiled,
    registry.loadVerifiedCompiled call.experimentId = .ok (source, compiled) ∧
    call.request.sourceDefinitionHash = source.definitionHash ∧
    call.request.protocolHash = compiled.protocolHash
  row : ∃ row, db.stateOf call.experimentId = some row ∧
    row.authorizationState = call.action.target ∧
    row.sourceDefinitionHash = call.request.sourceDefinitionHash ∧
    row.protocolHash = call.request.protocolHash ∧
    expects call.request row.authorizationRevision = true ∧ status.fields = statusFields row

/-- A request that is answered from what is there has the answer of its state row. -/
theorem answered_of_select (h : selectState registry call db = .ok (.repeated status)) :
    Answered registry db call status := by
  unfold selectState at h
  obtain ⟨⟨source, compiled⟩, hload, h⟩ := bind_ok.mp h
  simp only [check_bind_ok, raiseIf_ok, Bool.or_eq_false_iff, bne_eq_false_iff_eq] at h
  obtain ⟨⟨hsource, hprotocol⟩, hbound, h⟩ := h
  split at h
  · rename_i current hfilter
    simp only [repeatChange, check_bind_ok, raiseIf_ok, map_ok, Bool.not_eq_false'] at h
    obtain ⟨hexpects, found, hdecode, heq⟩ := h
    cases heq
    obtain ⟨hrow, hstate⟩ := Option.filter_eq_some_iff.mp hfilter
    rw [hrow, Option.any_some, Bool.or_eq_false_iff] at hbound
    simp only [bne_eq_false_iff_eq] at hbound
    exact ⟨⟨source, compiled, hload, hsource, hprotocol⟩, current, hrow,
      of_decide_eq_true hstate, hbound.1.trans hsource.symm, hbound.2.trans hprotocol.symm,
      hexpects, (decodeAuthorization_ok.mp hdecode).2.2.2⟩
  · simp only [admitChange, check_bind_ok] at h
    obtain ⟨-, -, -, hrow⟩ := h
    cases hrow

/-- A request that is answered after its write violated a key has the answer of the state row that
is committed. -/
theorem answered_of_recover (h : recoverChange registry call db = .ok status) :
    Answered registry db call status := by
  unfold recoverChange at h
  cases hread : readAuthorization registry db call.experimentId with
  | error failure =>
      rw [hread] at h
      simp only at h
      split at h <;> cases h
  | ok committed =>
      rw [hread] at h
      simp only at h
      split at h
      · rename_i hanswers
        cases h
        simp only [answers, Bool.and_eq_true, decide_eq_true_eq, beq_iff_eq] at hanswers
        obtain ⟨⟨⟨hstate, hsource⟩, hprotocol⟩, hexpects⟩ := hanswers
        unfold readAuthorization at hread
        obtain ⟨⟨source, compiled⟩, hload, hread⟩ := bind_ok.mp hread
        cases hrow : db.stateOf call.experimentId with
        | none =>
            rw [hrow] at hread
            simp only [check_bind_ok, ExperimentAuthorizationStatus.ofFields, build_ok] at hread
            obtain ⟨-, hvalid, rfl⟩ := hread
            cases haction : call.action <;> simp [unarmedStatus, haction,
              AuthorizationAction.target] at hstate
        | some row =>
            rw [hrow] at hread
            simp only [check_bind_ok, raiseIf_ok, Bool.or_eq_false_iff,
              bne_eq_false_iff_eq] at hread
            obtain ⟨⟨hrowSource, hrowProtocol⟩, hdecode⟩ := hread
            have hfields := (decodeAuthorization_ok.mp hdecode).2.2.2
            rw [hfields] at hstate hsource hprotocol hexpects
            exact ⟨⟨source, compiled, hload, hsource.symm.trans hrowSource,
              hprotocol.symm.trans hrowProtocol⟩, row, hrow, hstate, hsource, hprotocol, hexpects,
              hfields⟩
      · cases h

/-- A request that adds an event has the answer of the state row that it leaves. -/
theorem answered_of_added (h : ArmInvariant registry world)
    (hstep : ArmStep registry world (.added call status) next) :
    Answered registry next.database call status := by
  cases hstep with
  | @added change after status hopen _ hflush hdecode =>
      have hadmitted := h.admitted change hopen
      have hstate := (flushed_of_flushChange hflush).stateOf hadmitted.held change.call.experimentId
      rw [if_pos rfl] at hstate
      have hfields := (decodeAuthorization_ok.mp hdecode).2.2.2
      have hexpects : expects change.call.request
          (nextState change.call change.row).authorizationRevision = true := by
        have hrevision : (nextState change.call change.row).authorizationRevision =
            currentRevision change.row + 1 := by
          cases change.row <;> rfl
        rw [expects, hrevision, hadmitted.expected]
        simp
      refine ⟨hadmitted.loaded, nextState change.call change.row, hstate, ?_, ?_, ?_, hexpects,
        hfields⟩
      · cases change.row <;> rfl
      · cases hrow : change.row with
        | none => rfl
        | some current => exact (hadmitted.row current hrow).2.2.1
      · cases hrow : change.row with
        | none => rfl
        | some current => exact (hadmitted.row current hrow).2.2.2

/-- A repeated request is answered with the same status while the state row stands. -/
theorem Answered.again {later : ExperimentDatabase} {again : AuthorizationCall}
    (h : Answered registry db call status)
    (hreadable : ∀ row ∈ later.stateOf call.experimentId,
      ∃ found, decodeAuthorization later row = .ok found)
    (hsame : later.stateOf call.experimentId = db.stateOf call.experimentId)
    (hrepeats : Repeats again call) :
    selectState registry again later = .ok (.repeated status) := by
  obtain ⟨source, compiled, hload, hsource, hprotocol⟩ := h.loaded
  obtain ⟨row, hrow, hstate, hrowSource, hrowProtocol, hexpects, hfields⟩ := h.row
  rw [← hsame] at hrow
  obtain ⟨found, hfound⟩ := hreadable row hrow
  have hstatus : found = status := by
    have heq := (decodeAuthorization_ok.mp hfound).2.2.2.trans hfields.symm
    cases found
    cases status
    cases heq
    rfl
  subst hstatus
  obtain ⟨hid, hrequest, haction⟩ := hrepeats
  have hfilter : (later.stateOf call.experimentId).filter
      (fun row => row.authorizationState = call.action.target) = some row := by
    rw [hrow]
    simp [Option.filter, hstate]
  rw [selectState, hid, hrequest, haction, hload, ok_bind]
  simp only [check_bind_ok, raiseIf_ok, Bool.or_eq_false_iff, bne_eq_false_iff_eq]
  refine ⟨⟨hsource, hprotocol⟩, ?_, ?_⟩
  · rw [hrow, Option.any_some, hrowSource, hrowProtocol, hsource, hprotocol]
    simp
  · rw [hfilter]
    simp only [repeatChange, check_bind_ok, raiseIf_ok, hrequest, hexpects, hfound, map_ok]
    exact ⟨rfl, found, rfl, rfl⟩

/-! ## The laws of arming -/

/-- A request was answered with a status by a step. -/
def AnsweredBy (event : ArmEvent) (call : AuthorizationCall)
    (status : ExperimentAuthorizationStatus) : Prop :=
  event = .added call status ∨ event = .answered call status

/-- A request that was answered has the answer of a state row. -/
theorem answered_of_step (h : ArmInvariant registry world)
    (hstep : ArmStep registry world event next) (hevent : AnsweredBy event call status) :
    Answered registry next.database call status := by
  rcases hevent with rfl | rfl
  · exact answered_of_added h hstep
  · cases hstep with
    | repeated hselect => exact answered_of_select hselect
    | recovered _ hrecover => exact answered_of_recover hrecover

omit [Digest] in
/-- No two state rows are armed. -/
theorem armed_unique (db : ExperimentDatabase) {left right : ExperimentArmStateRow}
    (hleft : left ∈ db.states.rows) (hright : right ∈ db.states.rows)
    (hl : left.authorizationState = .armed) (hr : right.authorizationState = .armed) :
    left = right := by
  have hunique : Unique (fun row : ExperimentArmStateRow =>
      if row.authorizationState = .armed then some () else none) db.states.rows :=
    db.states.unique fun _ _ hclash => (Bool.or_eq_false_iff.mp hclash).2
  exact hunique.eq hleft hright (if_pos hl) (if_pos hr)

/-- Whatever clients request in whatever order, one experiment is armed at a time; each state row
is the fold of the events of its experiment and is read back; a step that does not add an event
leaves the tables as they are, and one that does adds the event of the next revision; of the
requests that expect one revision at most one adds an event; and a request that was answered is
answered with the same status when it is repeated before its state row changes. -/
theorem arming_lawful (hreach : (armSystem registry).Reachable world) :
    (∀ left ∈ world.database.states.rows, ∀ right ∈ world.database.states.rows,
      left.authorizationState = .armed → right.authorizationState = .armed → left = right) ∧
    (∀ experimentId,
      match world.database.stateOf experimentId with
      | none => world.database.eventsOf experimentId = []
      | some row => FoldOf (world.database.eventsOf experimentId) row ∧
          ∃ status, decodeAuthorization world.database row = .ok status ∧
            status.fields = statusFields row) ∧
    (∀ event next, ArmStep registry world event next →
      (∀ call status, event ≠ .added call status) → next.database = world.database) ∧
    (∀ call status next, ArmStep registry world (.added call status) next →
      ∃ event, next.database.events.rows = world.database.events.rows ++ [event] ∧
        event.experimentId = call.experimentId ∧ event.action = call.action ∧
        event.authorizationRevision = call.request.expectedRevision + 1) ∧
    (∀ call status next labels later again status' final,
      ArmStep registry world (.added call status) next →
      (armSystem registry).Run next labels later →
      ArmStep registry later (.added again status') final →
      again.experimentId = call.experimentId →
      again.request.expectedRevision ≠ call.request.expectedRevision) ∧
    (∀ event call status next labels later again,
      ArmStep registry world event next → AnsweredBy event call status →
      (armSystem registry).Run next labels later →
      later.database.stateOf call.experimentId = next.database.stateOf call.experimentId →
      Repeats again call →
      selectState registry again later.database = .ok (.repeated status) ∧
        ArmStep registry later (.answered again status) later) := by
  have h := armInvariant_of_reachable hreach
  refine ⟨fun left hleft right hright => armed_unique _ hleft hright, fun experimentId => ?_,
    fun event next hstep => unwritten_unchanged hstep, fun call status next hstep => ?_,
    fun call status next labels later again status' final hstep hrun hagain =>
      added_once hreach hstep hrun hagain,
    fun event call status next labels later again hstep hevent hrun hsame hrepeats => ?_⟩
  · cases hrow : world.database.stateOf experimentId with
    | none =>
        refine List.eq_nil_iff_forall_not_mem.mpr fun event hevent => ?_
        rw [ExperimentDatabase.eventsOf, mem_orderBy] at hevent
        obtain ⟨hmem, hid⟩ := List.mem_filter.mp hevent
        have hcovered := h.covered event hmem
        rw [of_decide_eq_true hid, hrow] at hcovered
        cases hcovered
    | some row =>
        obtain ⟨status, hdecode⟩ := h.readable experimentId row hrow
        have hid : row.experimentId = experimentId := (lookup_some hrow).2
        exact ⟨hid ▸ foldOf_of_decode hdecode, status, hdecode,
          (decodeAuthorization_ok.mp hdecode).2.2.2⟩
  · obtain ⟨event, hrows, -, hid, haction, hrevision⟩ := added_event h hstep
    exact ⟨event, hrows, hid, haction, hrevision⟩
  · have hlater : ArmInvariant registry later :=
      armInvariant_of_reachable ((hreach.run (.single hstep)).run hrun)
    have hselect := (answered_of_step h hstep hevent).again
      (hlater.readable call.experimentId) hsame hrepeats
    exact ⟨hselect, .repeated hselect⟩

end Laws

section Rehearsed

open Rehearsal

/-- The digests of a rehearsal in which each revision has a hash of its own. -/
@[reducible] def revisionDigest : Digest where
  authorityHash document := String.ofList (Text.fixedDigits 16 64
    (((document.field "authorization_revision").bind Json.asNumber).getD 0).toNat)
  agentHash := digest.agentHash
  uuid5 := digest.uuid5
  authorityHash_isHash _ := isHash_fixedDigits _

attribute [local instance] revisionDigest

/-- One compiled experiment. -/
def rehearsedRegistry : ExperimentRegistry where
  definitions := [(Uuid.ofNat 1, some ⟨Uuid.ofNat 1, zeros, isHash_zeros⟩)]
  compiled := [(Uuid.ofNat 1, some ⟨Uuid.ofNat 1, zeros, zeros, true,
    ⟨true, true, true, "TWO_LEG_DEBIT_VERTICAL", 2, "DEBIT"⟩, isHash_zeros⟩)]

/-- A request to arm it. -/
def armCall : AuthorizationCall where
  experimentId := Uuid.ofNat 1
  request := ⟨zeros, zeros, 0, isHash_zeros, isHash_zeros, le_rfl⟩
  action := .arm
  changedAt := timeAt 0
  eventId := Uuid.ofNat 2

/-- The world in which the request has read everything and has not written. -/
def clearedWorld : ArmWorld where
  database := ⟨Checked.empty, Checked.empty⟩
  started := [⟨armCall, none, true⟩]
  recovering := []

/-- In the rehearsal, the request comes to the point where it writes. -/
theorem clearedWorld_reachable : (armSystem rehearsedRegistry).Reachable clearedWorld := by
  refine ⟨⟨⟨Checked.empty, Checked.empty⟩, [], []⟩, [.started armCall, .cleared armCall], rfl, ?_⟩
  have hselect : selectState rehearsedRegistry armCall ⟨Checked.empty, Checked.empty⟩ =
      .ok (.change none) := by
    decide +kernel
  have hcleared : ArmStep rehearsedRegistry
      ⟨⟨Checked.empty, Checked.empty⟩, [⟨armCall, none, false⟩], []⟩ (.cleared armCall)
      clearedWorld := by
    simpa only [List.erase_cons_head, clearedWorld] using
      @ArmStep.cleared _ rehearsedRegistry
        ⟨⟨Checked.empty, Checked.empty⟩, [⟨armCall, none, false⟩], []⟩ ⟨armCall, none, false⟩
        (List.mem_singleton_self _) rfl
  exact System.Run.cons (ArmStep.started hselect nofun) (System.Run.single hcleared)

/-- In the rehearsal, the write goes through, and the same request a minute later is answered with
the same status. -/
theorem armCall_repeated : ∃ status next,
    ArmStep rehearsedRegistry clearedWorld (.added armCall status) next ∧
    selectState rehearsedRegistry { armCall with changedAt := timeAt 60, eventId := Uuid.ofNat 3 }
      next.database = .ok (.repeated status) := by
  have hflush := (Option.some_get (show (flushChange armCall none
    ⟨Checked.empty, Checked.empty⟩).isSome = true by decide +kernel)).symm
  have hopen : (⟨armCall, none, true⟩ : OpenChange) ∈ clearedWorld.started :=
    List.mem_singleton_self _
  obtain ⟨status, hdecode⟩ := flush_readable
    (armInvariant_of_reachable clearedWorld_reachable) hopen hflush
  have hstep : ArmStep rehearsedRegistry clearedWorld (.added armCall status) _ :=
    ArmStep.added hopen rfl hflush hdecode
  obtain ⟨-, -, -, -, -, hrepeat⟩ := arming_lawful clearedWorld_reachable
  exact ⟨status, _, hstep, (hrepeat _ armCall status _ [] _ _ hstep (Or.inl rfl) (.refl _) rfl
    ⟨rfl, rfl, rfl⟩).1⟩

end Rehearsed

end AlphaDecay.Experiments
