import AlphaDecay.Experiments.Repository
import AlphaDecay.Foundation.Transition

/-!
# Arming under racing requests

Any number of clients arm and disarm any number of experiments. Between the accesses of one
request those of the others may commit, a write may violate a key, and a connection may fail. What
holds across every such run is that one experiment is armed at a time, and that each state row is
the fold of the events of its experiment: `armInvariant_of_reachable`.
-/

namespace AlphaDecay.Experiments

open Foundation Foundation.Table

variable [Digest]

/-! ## Requests in flight -/

/-- A request that holds what it read, and has looked for another armed experiment or not yet. -/
structure OpenChange where
  call : AuthorizationCall
  row : Option ExperimentArmStateRow
  cleared : Bool
deriving DecidableEq

/-- What is committed, the requests that are about to write, and those whose write violated a
key. -/
structure ArmWorld where
  database : ExperimentDatabase
  started : List OpenChange
  recovering : List AuthorizationCall

/-- What a step of a request does. -/
inductive ArmEvent where
  | started (call : AuthorizationCall)
  | cleared (call : AuthorizationCall)
  | clashed (call : AuthorizationCall)
  | added (call : AuthorizationCall) (status : ExperimentAuthorizationStatus)
  | answered (call : AuthorizationCall) (status : ExperimentAuthorizationStatus)
  | raised (call : AuthorizationCall) (failure : ExperimentFailure)

/-- No request in flight holds the state row of an experiment. -/
def ArmWorld.unlocked (world : ArmWorld) (experimentId : Uuid) : Prop :=
  ∀ other ∈ world.started, other.row.isSome = true → other.call.experimentId ≠ experimentId

/-- The world without a request that was about to write. -/
def ArmWorld.finish (world : ArmWorld) (change : OpenChange) : ArmWorld :=
  { world with started := world.started.erase change }

/-- One access of one request to the database. -/
inductive ArmStep (registry : ExperimentRegistry) : ArmWorld → ArmEvent → ArmWorld → Prop where
  | refused {world : ArmWorld} {call : AuthorizationCall} {failure : ExperimentFailure}
      (hselect : selectState registry call world.database = .error failure) :
      ArmStep registry world (.raised call failure) world
  | repeated {world : ArmWorld} {call : AuthorizationCall}
      {status : ExperimentAuthorizationStatus}
      (hselect : selectState registry call world.database = .ok (.repeated status)) :
      ArmStep registry world (.answered call status) world
  | started {world : ArmWorld} {call : AuthorizationCall} {row : Option ExperimentArmStateRow}
      (hselect : selectState registry call world.database = .ok (.change row))
      (hlock : row.isSome = true → world.unlocked call.experimentId) :
      ArmStep registry world (.started call)
        { world with started := ⟨call, row, false⟩ :: world.started }
  | cleared {world : ArmWorld} {change : OpenChange} (hopen : change ∈ world.started)
      (hother : selectOther change.call world.database = .ok ()) :
      ArmStep registry world (.cleared change.call)
        { world with started := { change with cleared := true } :: world.started.erase change }
  | outrun {world : ArmWorld} {change : OpenChange} {failure : ExperimentFailure}
      (hopen : change ∈ world.started)
      (hother : selectOther change.call world.database = .error failure) :
      ArmStep registry world (.raised change.call failure) (world.finish change)
  | added {world : ArmWorld} {change : OpenChange} {after : ExperimentDatabase}
      {status : ExperimentAuthorizationStatus}
      (hopen : change ∈ world.started) (hcleared : change.cleared = true)
      (hflush : flushChange change.call change.row world.database = some after)
      (hdecode : decodeAuthorization after (nextState change.call change.row) = .ok status) :
      ArmStep registry world (.added change.call status)
        { world.finish change with database := after }
  | unreadable {world : ArmWorld} {change : OpenChange} {after : ExperimentDatabase}
      {failure : ExperimentFailure}
      (hopen : change ∈ world.started) (hcleared : change.cleared = true)
      (hflush : flushChange change.call change.row world.database = some after)
      (hdecode : decodeAuthorization after (nextState change.call change.row) = .error failure) :
      ArmStep registry world (.raised change.call failure) (world.finish change)
  | clashed {world : ArmWorld} {change : OpenChange} (hopen : change ∈ world.started)
      (hcleared : change.cleared = true)
      (hflush : flushChange change.call change.row world.database = none) :
      ArmStep registry world (.clashed change.call)
        { world.finish change with recovering := change.call :: world.recovering }
  | recovered {world : ArmWorld} {call : AuthorizationCall}
      {status : ExperimentAuthorizationStatus} (hopen : call ∈ world.recovering)
      (hrecover : recoverChange registry call world.database = .ok status) :
      ArmStep registry world (.answered call status)
        { world with recovering := world.recovering.erase call }
  | conflicted {world : ArmWorld} {call : AuthorizationCall} {failure : ExperimentFailure}
      (hopen : call ∈ world.recovering)
      (hrecover : recoverChange registry call world.database = .error failure) :
      ArmStep registry world (.raised call failure)
        { world with recovering := world.recovering.erase call }
  -- a database error rolls back, and a failed read leaves nothing to answer from
  | failed {world : ArmWorld} {change : OpenChange} (hopen : change ∈ world.started) :
      ArmStep registry world (.raised change.call .writeFailed) (world.finish change)
  | unread {world : ArmWorld} {call : AuthorizationCall} (hopen : call ∈ world.recovering) :
      ArmStep registry world (.raised call (conflict call))
        { world with recovering := world.recovering.erase call }

/-- The registry under requests of any number of clients, from empty tables. -/
def armSystem (registry : ExperimentRegistry) : System ArmWorld ArmEvent where
  initial := fun world => world = ⟨⟨Checked.empty, Checked.empty⟩, [], []⟩
  step := ArmStep registry

/-! ## What a decoded row says -/

structure EventAt (row : ExperimentArmStateRow) (revision : Int)
    (event : ExperimentArmEventRow) : Prop where
  numbered : event.authorizationRevision = revision
  state : event.authorizationState = expectedState revision
  action : event.action = expectedAction (expectedState revision)

variable {row : ExperimentArmStateRow} {db : ExperimentDatabase}
variable {call : AuthorizationCall} {previous : Option Int} {after : ExperimentDatabase}

variable {revision : Int} {event : ExperimentArmEventRow} {events : List ExperimentArmEventRow}
  {status : ExperimentAuthorizationStatus}

/-- A valid event is the one of its revision, and not before the one that it follows. -/
theorem eventAt_of_valid (h : eventInvalid row revision previous event = false) :
    EventAt row revision event ∧ ∀ time ∈ previous, time ≤ event.createdAt := by
  simp only [eventInvalid, Bool.or_eq_false_iff, decide_eq_false_iff_not, not_not] at h
  obtain ⟨⟨⟨⟨⟨⟨⟨⟨⟨⟨⟨hrevision, -⟩, -⟩, haction⟩, hstate⟩, -⟩, -⟩, -⟩, -⟩, -⟩, -⟩, htime⟩ := h
  refine ⟨⟨hrevision, hstate, haction⟩, fun time hprevious => ?_⟩
  rw [Option.mem_def.mp hprevious] at htime
  simpa using htime

/-- Checked events are those of consecutive revisions, in the order of their times. -/
theorem checkEvents_ordered (h : checkEvents row revision previous events = .ok ()) :
    (∀ (i : Nat) (hi : i < events.length), EventAt row (revision + i) events[i]) ∧
      (∀ time ∈ previous, ∀ event ∈ events, time ≤ event.createdAt) ∧
      events.Pairwise fun left right => left.createdAt ≤ right.createdAt := by
  induction events generalizing revision previous with
  | nil => simp
  | cons event rest ih =>
      simp only [checkEvents, check_bind_ok, raiseIf_ok] at h
      obtain ⟨hevent, hprevious⟩ := eventAt_of_valid h.1
      obtain ⟨hrest, hafter, hpairs⟩ := ih h.2
      have hnext : ∀ later ∈ rest, event.createdAt ≤ later.createdAt :=
        hafter event.createdAt rfl
      refine ⟨fun i hi => ?_, fun time htime later hlater => ?_, List.pairwise_cons.mpr ⟨hnext,
        hpairs⟩⟩
      · cases i with
        | zero => simpa using hevent
        | succ i =>
            have hat := hrest i (by simpa using hi)
            have heq : revision + 1 + (i : Int) = revision + ((i + 1 : Nat) : Int) := by omega
            rw [heq] at hat
            exact hat
      · rcases List.mem_cons.mp hlater with rfl | hlater
        · exact hprevious time htime
        · exact le_trans (hprevious time htime) (hnext later hlater)

/-- Checking one more event checks the events before it, and it at the next revision. -/
theorem checkEvents_append :
    checkEvents row revision previous (events ++ [event]) = .ok () ↔
      checkEvents row revision previous events = .ok () ∧
      eventInvalid row (revision + events.length)
        ((events.getLast?.map (·.createdAt)).or previous) event = false := by
  induction events generalizing revision previous with
  | nil => simp [checkEvents]
  | cons first rest ih =>
      simp only [List.cons_append, checkEvents, check_bind_ok, raiseIf_ok, ih, and_assoc]
      have hlength : revision + 1 + (rest.length : Int) =
          revision + ((first :: rest).length : Int) := by
        rw [List.length_cons]
        omega
      have hlast : ((rest.getLast?.map (·.createdAt)).or (some first.createdAt)) =
          (((first :: rest).getLast?.map (·.createdAt)).or previous) := by
        cases hrest : rest.getLast? with
        | none =>
            rw [List.getLast?_eq_none_iff.mp hrest]
            rfl
        | some last => simp [List.getLast?_cons, hrest]
      rw [hlength, hlast]

/-- Checking events reads the two hashes of the row alone. -/
theorem checkEvents_congr {other : ExperimentArmStateRow}
    (hsource : row.sourceDefinitionHash = other.sourceDefinitionHash)
    (hprotocol : row.protocolHash = other.protocolHash) (revision : Int) (previous : Option Int)
    (events : List ExperimentArmEventRow) :
    checkEvents row revision previous events = checkEvents other revision previous events := by
  induction events generalizing revision previous with
  | nil => rfl
  | cons event rest ih =>
      have hevent : eventInvalid row revision previous event =
          eventInvalid other revision previous event := by
        rw [eventInvalid, eventInvalid, hsource, hprotocol]
      rw [checkEvents, checkEvents, hevent, ih]

/-- A state row is the fold of the events of its experiment: their number is its revision, they
arm and disarm in turn at the revisions from one on, no event is before the one it follows, and the
row says what the last one says. -/
structure FoldOf (events : List ExperimentArmEventRow) (row : ExperimentArmStateRow) : Prop where
  count : (events.length : Int) = row.authorizationRevision
  numbered : ∀ (i : Nat) (hi : i < events.length), events[i].authorizationRevision = i + 1
  alternating : ∀ (i : Nat) (hi : i < events.length),
    events[i].action = if i % 2 = 0 then AuthorizationAction.arm else AuthorizationAction.disarm
  ordered : events.Pairwise fun left right => left.createdAt ≤ right.createdAt
  last : ∃ event, events.getLast? = some event ∧ rowInvalid row event = false

omit [Digest] in
/-- The state after a number of changes is armed exactly after the odd ones. -/
theorem expectedState_succ (i : Nat) :
    expectedState (1 + i) =
      if i % 2 = 0 then AuthorizationState.armed else AuthorizationState.disarmed := by
  unfold expectedState
  by_cases h : i % 2 = 0
  · rw [if_pos h, if_pos (by omega)]
  · rw [if_neg h, if_neg (by omega)]

/-- A row is decoded exactly when its events are checked, it says what the last one says, and its
status is valid. -/
theorem decodeAuthorization_ok :
    decodeAuthorization db row = .ok status ↔
      ((db.eventsOf row.experimentId).length : Int) = row.authorizationRevision ∧
      checkEvents row 1 none (db.eventsOf row.experimentId) = .ok () ∧
      (∃ event, (db.eventsOf row.experimentId).getLast? = some event ∧
        rowInvalid row event = false) ∧
      status.fields = statusFields row := by
  simp only [decodeAuthorization, check_bind_ok, require_bind_ok, raiseIf_ok,
    decide_eq_false_iff_not, not_not, ExperimentAuthorizationStatus.ofFields, build_ok]
  constructor
  · rintro ⟨hcount, hcheck, event, hlast, hrow, hvalid, rfl⟩
    exact ⟨hcount, hcheck, ⟨event, hlast, hrow⟩, rfl⟩
  · rintro ⟨hcount, hcheck, ⟨event, hlast, hrow⟩, hfields⟩
    refine ⟨hcount, hcheck, event, hlast, hrow, ?_⟩
    obtain ⟨fields, hvalid⟩ := status
    cases hfields
    exact ⟨hvalid, rfl⟩

theorem foldOf_of_decode (h : decodeAuthorization db row = .ok status) :
    FoldOf (db.eventsOf row.experimentId) row := by
  obtain ⟨hcount, hcheck, hlast, -⟩ := decodeAuthorization_ok.mp h
  obtain ⟨hevents, -, hordered⟩ := checkEvents_ordered hcheck
  refine ⟨hcount, fun i hi => ?_, fun i hi => ?_, hordered, hlast⟩
  · rw [(hevents i hi).numbered]
    omega
  · rw [(hevents i hi).action, expectedState_succ]
    by_cases heven : i % 2 = 0
    · rw [if_pos heven, if_pos heven, expectedAction, if_pos rfl]
    · rw [if_neg heven, if_neg heven, expectedAction, if_neg (by simp)]

/-! ## What a write leaves -/

@[simp] theorem nextEvent_experimentId (call : AuthorizationCall)
    (row : Option ExperimentArmStateRow) :
    (nextEvent call row).experimentId = call.experimentId := rfl

/-- What a write that violates no constraint does to the tables. -/
structure Flushed (call : AuthorizationCall) (row : Option ExperimentArmStateRow)
    (db after : ExperimentDatabase) : Prop where
  events : after.events.rows = db.events.rows ++ [nextEvent call row]
  fresh : ∀ old ∈ db.events.rows, armEventSchema.clash old (nextEvent call row) = false
  first : row = none → (∀ old ∈ db.states.rows, old.experimentId ≠ call.experimentId) ∧
    after.states.rows = db.states.rows ++ [nextState call none]
  later : ∀ current, row = some current →
    after.states.rows = modify (fun stored => stored.experimentId = call.experimentId)
      (changedState (nextEvent call (some current))) db.states.rows

/-- A write that goes through appends the event, and inserts or moves the state row. -/
theorem flushed_of_flushChange {row : Option ExperimentArmStateRow}
    (h : flushChange call row db = some after) : Flushed call row db after := by
  simp only [flushChange, Option.bind_eq_bind, Option.bind_eq_some_iff, Option.pure_def,
    Option.some.injEq] at h
  obtain ⟨events, hevents, states, hstates, rfl⟩ := h
  refine ⟨Checked.rows_insert hevents, Checked.clash_insert hevents, fun hnone => ?_,
    fun current hcurrent => ?_⟩
  · subst hnone
    refine ⟨fun old hold heq => ?_, Checked.rows_insert hstates⟩
    have hclash := Checked.clash_insert hstates old hold
    simp only [armStateSchema, clashOn, Bool.or_eq_false_iff] at hclash
    have hid : (nextState call none).experimentId = call.experimentId := rfl
    simp [hid, heq] at hclash
  · subst hcurrent
    exact Checked.rows_update hstates

/-- After a write, the experiment has the state row of the change, and the other experiments keep
theirs. -/
theorem Flushed.stateOf {row : Option ExperimentArmStateRow} (h : Flushed call row db after)
    (hheld : ∀ current ∈ row, db.stateOf call.experimentId = some current) (experimentId : Uuid) :
    after.stateOf experimentId =
      if experimentId = call.experimentId then some (nextState call row)
      else db.stateOf experimentId := by
  cases row with
  | none =>
      obtain ⟨hfresh, hrows⟩ := h.first rfl
      rw [ExperimentDatabase.stateOf, hrows, lookup_append]
      have hid : (nextState call none).experimentId = call.experimentId := rfl
      by_cases hsame : experimentId = call.experimentId
      · subst hsame
        rw [lookup_none.mpr hfresh, hid, if_pos rfl, if_pos rfl, Option.none_or]
      · rw [hid, if_neg (Ne.symm hsame), if_neg hsame, Option.or_none]
        rfl
  | some current =>
      have hstored := hheld current rfl
      have hkeep : ∀ stored : ExperimentArmStateRow,
          decide (stored.experimentId = call.experimentId) = true →
          (changedState (nextEvent call (some current)) stored).experimentId =
            stored.experimentId := fun _ _ => rfl
      rw [ExperimentDatabase.stateOf, h.later current rfl, lookup_modify hkeep]
      change (db.stateOf experimentId).map _ = _
      by_cases hsame : experimentId = call.experimentId
      · have hid : current.experimentId = call.experimentId := (lookup_some hstored).2
        rw [hsame, if_pos rfl, hstored, Option.map_some, if_pos (by simpa using hid)]
        rfl
      · rw [if_neg hsame]
        cases hother : db.stateOf experimentId with
        | none => rfl
        | some other =>
            have hid : other.experimentId = experimentId := (lookup_some hother).2
            rw [Option.map_some, if_neg (by simpa [hid] using hsame)]

/-- After a write, the events of the other experiments are what they were. -/
theorem Flushed.eventsOf_other {row : Option ExperimentArmStateRow} (h : Flushed call row db after)
    {experimentId : Uuid} (hother : experimentId ≠ call.experimentId) :
    after.eventsOf experimentId = db.eventsOf experimentId := by
  have hid : (nextEvent call row).experimentId = call.experimentId := rfl
  rw [ExperimentDatabase.eventsOf, h.events, List.filter_append, List.filter_singleton, hid,
    decide_eq_false (Ne.symm hother)]
  simp [ExperimentDatabase.eventsOf]

/-! ## The invariant -/

/-- What a request in flight found out when it started, and still holds. -/
structure Admitted (registry : ExperimentRegistry) (db : ExperimentDatabase)
    (change : OpenChange) : Prop where
  loaded : ∃ source compiled,
    registry.loadVerifiedCompiled change.call.experimentId = .ok (source, compiled) ∧
    change.call.request.sourceDefinitionHash = source.definitionHash ∧
    change.call.request.protocolHash = compiled.protocolHash
  expected : change.call.request.expectedRevision = currentRevision change.row
  armed : change.call.action = .disarm → change.row.isSome = true
  held : ∀ row ∈ change.row, db.stateOf change.call.experimentId = some row
  row : ∀ row ∈ change.row, row.authorizationState ≠ change.call.action.target ∧
    row.updatedAt ≤ change.call.changedAt ∧
    row.sourceDefinitionHash = change.call.request.sourceDefinitionHash ∧
    row.protocolHash = change.call.request.protocolHash

/-- A request that starts is admitted to a change of the row that it read. -/
theorem admitted_of_select {registry : ExperimentRegistry} {row : Option ExperimentArmStateRow}
    (cleared : Bool) (h : selectState registry call db = .ok (.change row)) :
    row = db.stateOf call.experimentId ∧ Admitted registry db ⟨call, row, cleared⟩ := by
  unfold selectState at h
  obtain ⟨⟨source, compiled⟩, hload, h⟩ := bind_ok.mp h
  simp only [check_bind_ok, raiseIf_ok, Bool.or_eq_false_iff, bne_eq_false_iff_eq] at h
  obtain ⟨⟨hsource, hprotocol⟩, hbound, h⟩ := h
  split at h
  · simp only [repeatChange, check_bind_ok, map_ok] at h
    obtain ⟨-, status, -, hstatus⟩ := h
    cases hstatus
  · rename_i hfilter
    simp only [admitChange, check_bind_ok, raiseIf_ok, decide_eq_false_iff_not, not_not] at h
    obtain ⟨hexpected, hnone, htime, hrow⟩ := h
    cases hrow
    refine ⟨rfl, ⟨source, compiled, hload, hsource, hprotocol⟩, hexpected, ?_, ?_, ?_⟩
    · intro haction
      have haction' : call.action = .disarm := haction
      rw [haction', decide_eq_true rfl, Bool.true_and] at hnone
      simpa [Option.isNone_eq_false_iff] using hnone
    · intro row hrow
      exact hrow
    · intro row hrow
      have hfound := Option.mem_def.mp hrow
      change db.stateOf call.experimentId = some row at hfound
      rw [hfound] at hbound htime hfilter
      simp only [Option.any_some, Bool.or_eq_false_iff, bne_eq_false_iff_eq,
        decide_eq_false_iff_not, Int.not_lt] at hbound htime
      refine ⟨?_, htime, hbound.1.trans hsource.symm, hbound.2.trans hprotocol.symm⟩
      intro hstate
      simp [Option.filter, hstate] at hfilter

/-- What holds of every world that requests reach. -/
structure ArmInvariant (registry : ExperimentRegistry) (world : ArmWorld) : Prop where
  readable : ∀ experimentId, ∀ row ∈ world.database.stateOf experimentId,
    ∃ status, decodeAuthorization world.database row = .ok status
  covered : ∀ event ∈ world.database.events.rows,
    (world.database.stateOf event.experimentId).isSome = true
  sorted : ∀ experimentId, (world.database.events.rows.filter fun event =>
    event.experimentId = experimentId).Pairwise fun left right =>
      left.authorizationRevision ≤ right.authorizationRevision
  admitted : ∀ change ∈ world.started, Admitted registry world.database change
  exclusive : world.started.Pairwise fun left right =>
    left.row.isSome = true → right.row.isSome = true →
      left.call.experimentId ≠ right.call.experimentId

variable {registry : ExperimentRegistry} {world : ArmWorld} {change : OpenChange}
  {after : ExperimentDatabase}

variable {event : ExperimentArmEventRow}

/-- The events of an experiment have the revisions up to that of its state row. -/
theorem ArmInvariant.revision_le (h : ArmInvariant registry world)
    (hrow : world.database.stateOf event.experimentId = some row)
    (hevent : event ∈ world.database.events.rows) :
    event.authorizationRevision ≤ row.authorizationRevision := by
  obtain ⟨status, hdecode⟩ := h.readable _ row hrow
  have hfold := foldOf_of_decode hdecode
  have hid : row.experimentId = event.experimentId := (lookup_some hrow).2
  have hmem : event ∈ world.database.eventsOf row.experimentId := by
    rw [ExperimentDatabase.eventsOf, mem_orderBy, hid]
    exact List.mem_filter.mpr ⟨hevent, by simp⟩
  obtain ⟨i, hi, hat⟩ := List.getElem_of_mem hmem
  have hnumber := hfold.numbered i hi
  have hcount := hfold.count
  rw [hat] at hnumber
  omega

/-- An event that is there comes before the one of a write that goes through. -/
theorem ArmInvariant.revision_lt (h : ArmInvariant registry world) (hopen : change ∈ world.started)
    (hflushed : Flushed change.call change.row world.database after)
    (hevent : event ∈ world.database.events.rows)
    (hid : event.experimentId = change.call.experimentId) :
    event.authorizationRevision < (nextEvent change.call change.row).authorizationRevision := by
  obtain ⟨row, hrow⟩ := Option.isSome_iff_exists.mp (h.covered event hevent)
  have hle := h.revision_le hrow hevent
  have hnext : (nextEvent change.call change.row).authorizationRevision =
      currentRevision change.row + 1 := rfl
  cases hcurrent : change.row with
  | none =>
      have hfound := lookup_some hrow
      exact absurd (hfound.2.trans hid) ((hflushed.first hcurrent).1 row hfound.1)
  | some current =>
      have hheld := (h.admitted change hopen).held current hcurrent
      rw [← hid, hrow] at hheld
      cases hheld
      rw [hcurrent] at hnext
      have hrevision : currentRevision (some row) = row.authorizationRevision := rfl
      omega

/-- A write that goes through appends the event to those of its experiment. -/
theorem ArmInvariant.eventsOf_flush (h : ArmInvariant registry world)
    (hopen : change ∈ world.started)
    (hflushed : Flushed change.call change.row world.database after) :
    after.eventsOf change.call.experimentId =
      world.database.eventsOf change.call.experimentId ++ [nextEvent change.call change.row] := by
  have hid : (nextEvent change.call change.row).experimentId = change.call.experimentId := rfl
  have hsorted := h.sorted change.call.experimentId
  have hafter : (after.events.rows.filter fun event =>
      event.experimentId = change.call.experimentId) =
      (world.database.events.rows.filter fun event =>
        event.experimentId = change.call.experimentId) ++ [nextEvent change.call change.row] := by
    rw [hflushed.events, List.filter_append, List.filter_singleton, hid, decide_eq_true rfl]
    rfl
  rw [ExperimentDatabase.eventsOf, ExperimentDatabase.eventsOf, hafter, orderBy_eq_self hsorted]
  refine orderBy_eq_self (List.pairwise_append.mpr ⟨hsorted, List.pairwise_singleton _ _, ?_⟩)
  intro event hevent new hnew
  obtain ⟨hmem, hsame⟩ := List.mem_filter.mp hevent
  rw [List.mem_singleton.mp hnew]
  exact le_of_lt (h.revision_lt hopen hflushed hmem (by simpa using hsame))

theorem decodeAuthorization_congr
    (h : after.eventsOf row.experimentId = db.eventsOf row.experimentId) :
    decodeAuthorization after row = decodeAuthorization db row := by
  rw [decodeAuthorization, decodeAuthorization, h]

/-- A request in flight other than the one that writes still holds what it read. -/
theorem ArmInvariant.admitted_flush (h : ArmInvariant registry world)
    (hopen : change ∈ world.started)
    (hflushed : Flushed change.call change.row world.database after) {other : OpenChange}
    (hother : other ∈ world.started.erase change) : Admitted registry after other := by
  have hadmitted := h.admitted other (List.mem_of_mem_erase hother)
  have hexclusive : (change :: world.started.erase change).Pairwise fun left right =>
      left.row.isSome = true → right.row.isSome = true →
        left.call.experimentId ≠ right.call.experimentId :=
    h.exclusive.perm (List.perm_cons_erase hopen)
      fun hne hleft hright => Ne.symm (hne hright hleft)
  refine { hadmitted with held := fun row hrow => ?_ }
  have hheld := hadmitted.held row hrow
  rw [hflushed.stateOf (h.admitted change hopen).held, if_neg, hheld]
  intro hsame
  cases hcurrent : change.row with
  | none =>
      have hfound := lookup_some hheld
      exact (hflushed.first hcurrent).1 row hfound.1 (hfound.2.trans hsame)
  | some current =>
      refine (List.pairwise_cons.mp hexclusive).1 other hother ?_ ?_ hsame.symm
      · rw [hcurrent]
        rfl
      · rw [Option.mem_def.mp hrow]
        rfl

/-- A write that goes through and is read back keeps the invariant. -/
theorem ArmInvariant.flush (h : ArmInvariant registry world) (hopen : change ∈ world.started)
    (hflushed : Flushed change.call change.row world.database after)
    {status : ExperimentAuthorizationStatus}
    (hdecode : decodeAuthorization after (nextState change.call change.row) = .ok status) :
    ArmInvariant registry { world.finish change with database := after } := by
  have hadmitted := h.admitted change hopen
  have hstate := hflushed.stateOf hadmitted.held
  refine ⟨fun experimentId row hrow => ?_, fun event hevent => ?_, fun experimentId => ?_,
    fun other hother => h.admitted_flush hopen hflushed hother,
    h.exclusive.sublist List.erase_sublist⟩
  · have hfound : after.stateOf experimentId = some row := hrow
    rw [hstate] at hfound
    by_cases hsame : experimentId = change.call.experimentId
    · rw [if_pos hsame] at hfound
      cases hfound
      exact ⟨status, hdecode⟩
    · rw [if_neg hsame] at hfound
      have hid : row.experimentId = experimentId := (lookup_some hfound).2
      obtain ⟨old, hold⟩ := h.readable experimentId row hfound
      refine ⟨old, ?_⟩
      rw [← hold]
      exact decodeAuthorization_congr (hflushed.eventsOf_other (hid ▸ hsame))
  · change (after.stateOf event.experimentId).isSome = true
    rw [hstate]
    have hmem : event ∈ world.database.events.rows ++ [nextEvent change.call change.row] :=
      hflushed.events ▸ hevent
    rcases List.mem_append.mp hmem with hold | hnew
    · by_cases hsame : event.experimentId = change.call.experimentId
      · rw [if_pos hsame]
        rfl
      · rw [if_neg hsame]
        exact h.covered event hold
    · rw [List.mem_singleton.mp hnew, nextEvent_experimentId, if_pos rfl]
      rfl
  · change (after.events.rows.filter _).Pairwise _
    rw [hflushed.events, List.filter_append]
    refine List.pairwise_append.mpr ⟨h.sorted experimentId, ?_, fun event hevent new hnew => ?_⟩
    · exact (List.pairwise_singleton _ _).sublist List.filter_sublist
    · obtain ⟨hold, hid⟩ := List.mem_filter.mp hevent
      obtain ⟨hnew, hnewid⟩ := List.mem_filter.mp hnew
      have hevents : event.experimentId = experimentId := by simpa using hid
      rw [List.mem_singleton.mp hnew] at hnewid ⊢
      have hcall : change.call.experimentId = experimentId := of_decide_eq_true hnewid
      exact le_of_lt (h.revision_lt hopen hflushed hold (hevents.trans hcall.symm))

/-- The invariant is kept where only requests in flight change, to ones that are admitted. -/
theorem ArmInvariant.withStarted (h : ArmInvariant registry world) {started : List OpenChange}
    {recovering : List AuthorizationCall}
    (hadmitted : ∀ other ∈ started, Admitted registry world.database other)
    (hexclusive : started.Pairwise fun left right =>
      left.row.isSome = true → right.row.isSome = true →
        left.call.experimentId ≠ right.call.experimentId) :
    ArmInvariant registry { world with started, recovering } :=
  ⟨h.readable, h.covered, h.sorted, hadmitted, hexclusive⟩

theorem ArmInvariant.finish (h : ArmInvariant registry world) (change : OpenChange)
    (recovering : List AuthorizationCall) :
    ArmInvariant registry { world.finish change with recovering } :=
  h.withStarted (fun other hother => h.admitted other (List.mem_of_mem_erase hother))
    (h.exclusive.sublist List.erase_sublist)

/-- Every step of a request keeps the invariant. -/
theorem ArmInvariant.step (h : ArmInvariant registry world) {event : ArmEvent} {next : ArmWorld}
    (hstep : ArmStep registry world event next) : ArmInvariant registry next := by
  cases hstep with
  | refused => exact h
  | repeated => exact h
  | @started call row hselect hlock =>
      obtain ⟨-, hadmitted⟩ := admitted_of_select false hselect
      refine h.withStarted ?_ (List.pairwise_cons.mpr ⟨?_, h.exclusive⟩)
      · intro other hother
        rcases List.mem_cons.mp hother with rfl | hother
        · exact hadmitted
        · exact h.admitted other hother
      · intro other hother hrow hheld
        exact Ne.symm (hlock hrow other hother hheld)
  | @cleared change hopen hother =>
      have hexclusive := h.exclusive.perm (List.perm_cons_erase hopen)
        fun hne hleft hright => Ne.symm (hne hright hleft)
      refine h.withStarted ?_ (List.pairwise_cons.mpr (List.pairwise_cons.mp hexclusive))
      intro other hmem
      rcases List.mem_cons.mp hmem with rfl | hmem
      · have hadmitted := h.admitted change hopen
        exact ⟨hadmitted.loaded, hadmitted.expected, hadmitted.armed, hadmitted.held,
          hadmitted.row⟩
      · exact h.admitted other (List.mem_of_mem_erase hmem)
  | outrun => exact h.finish _ _
  | added hopen _ hflush hdecode => exact h.flush hopen (flushed_of_flushChange hflush) hdecode
  | unreadable => exact h.finish _ _
  | clashed => exact h.finish _ _
  | recovered => exact h.withStarted h.admitted h.exclusive
  | conflicted => exact h.withStarted h.admitted h.exclusive
  | failed => exact h.finish _ _
  | unread => exact h.withStarted h.admitted h.exclusive

/-- The invariant holds of every world that requests reach from empty tables. -/
theorem armInvariant_of_reachable (hreach : (armSystem registry).Reachable world) :
    ArmInvariant registry world := by
  refine hreach.invariant (fun {state} hinitial => ?_) fun h hstep => h.step hstep
  have hempty : state = ⟨⟨Checked.empty, Checked.empty⟩, [], []⟩ := hinitial
  subst hempty
  refine ⟨fun _ row hrow => absurd hrow (by simp [ExperimentDatabase.stateOf, lookup,
    Checked.empty]),
    fun event hevent => absurd hevent List.not_mem_nil, fun _ => List.Pairwise.nil,
    fun other hother => absurd hother List.not_mem_nil, List.Pairwise.nil⟩

end AlphaDecay.Experiments
