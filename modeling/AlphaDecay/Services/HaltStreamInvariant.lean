import AlphaDecay.Services.HaltStream
import AlphaDecay.Services.HaltValidity

/-!
# The invariant of the halt stream adapter

`Tracks` says what holds of the state of an adapter between any two of its calls, as long as its
clock does not run back. The epoch of an acknowledged snapshot is the one of the connection, so that
nothing but a broken epoch leads to the next one. A snapshot that the authority no longer accepts
stays acknowledged, since every later message is refused.
-/

namespace AlphaDecay

open Foundation

/-! ## What the authority leaves -/

section

variable [Digest] {previous next : HaltAuthoritySnapshot} {event : HaltAuthorityEvent}
  {config : HaltAuthorityConfig} {codebook : Option HaltStatusCodebook} {observedAt : Int}

/-- A message changes the epoch on record to its own or not at all. -/
theorem Reduction.epoch (h : Reduction previous event config codebook observedAt next) :
    next.epoch = previous.epoch ∨ next.epoch = some event.epoch := by
  cases h with
  | acknowledged hvalid hack => exact .inr rfl
  | closed houtside => exact .inl rfl
  | failed rejected hrejected => exact .inl rfl
  | failure hfollows hkind => exact .inl rfl
  | announced meaning hfollows hkind hmeaning => exact .inl rfl
  | traded hfollows hkind htrade => exact .inl rfl
  | passed hfollows hkind => exact .inl rfl

theorem Follows.epoch (h : Follows previous event config observedAt) :
    previous.epoch = some event.epoch :=
  (continuesEpoch_acknowledged h.continues).1

/-- An epoch that is acknowledged after a message is the one of the message. -/
theorem Reduction.acknowledged_epoch
    (h : Reduction previous event config codebook observedAt next)
    (hack : next.acknowledgedAt.isSome = true) : next.epoch = some event.epoch := by
  cases h with
  | closed houtside => cases hack
  | failed rejected hrejected => cases hack
  | failure hfollows hkind => cases hack
  | acknowledged hvalid hacknowledges => rfl
  | announced meaning hfollows hkind hmeaning => exact hfollows.epoch
  | traded hfollows hkind htrade => exact hfollows.epoch
  | passed hfollows hkind => exact hfollows.epoch

/-- The last message on record is an earlier one, or the one that was reduced. -/
theorem Reduction.passed_event (h : Reduction previous event config codebook observedAt next) :
    ∀ last ∈ next.lastEventAt, last ∈ previous.lastEventAt ∨ last ≤ observedAt := by
  intro last hlast
  cases h with
  | closed houtside => exact .inl hlast
  | failed rejected hrejected => exact .inl hlast
  | failure hfollows hkind =>
      cases hlast
      exact .inr (eventValid_eventAt hfollows.valid)
  | acknowledged hvalid hacknowledges =>
      cases hlast
      exact .inr (eventValid_eventAt hvalid)
  | announced meaning hfollows hkind hmeaning =>
      cases hlast
      exact .inr (eventValid_eventAt hfollows.valid)
  | traded hfollows hkind htrade =>
      cases hlast
      exact .inr (eventValid_eventAt hfollows.valid)
  | passed hfollows hkind =>
      cases hlast
      exact .inr (eventValid_eventAt hfollows.valid)

/-- A read keeps the epoch and the last message, and acknowledges nothing. -/
theorem Rereading.fields (h : Rereading previous config observedAt next) :
    next.epoch = previous.epoch ∧ next.lastEventAt = previous.lastEventAt ∧
    (next.acknowledgedAt.isSome = true → previous.acknowledgedAt.isSome = true) := by
  cases h with
  | closed houtside => exact ⟨rfl, rfl, nofun⟩
  | kept => exact ⟨rfl, rfl, id⟩
  | stale hlatched => exact ⟨rfl, rfl, id⟩

/-- A message that is reduced at or after the last one leaves a standing snapshot. Else a trade
older than a latched halt was recorded, and the snapshot stays acknowledged. -/
theorem Standing.reduced_or_stuck (h : Standing previous config)
    (hlate : ∀ last ∈ previous.lastEventAt, last ≤ observedAt) :
    Standing (AlphaDecay.reduced previous event config codebook observedAt) config ∨
    (¬ Sound (AlphaDecay.reduced previous event config codebook observedAt) config ∧
      (AlphaDecay.reduced previous event config codebook observedAt).acknowledgedAt.isSome =
        true) := by
  by_cases htimely : timelyMessage config previous event observedAt = true
  · exact .inl (h.reduced htimely)
  · refine .inr ⟨fun hsound => htimely (timelyMessage_of_sound hsound), ?_⟩
    by_cases haccepts : acceptsTrade previous event config observedAt = true
    · obtain ⟨hfollows, htrade, heq⟩ := reduced_of_acceptsTrade haccepts codebook
      rw [heq]
      obtain ⟨-, -, acknowledgedAt, hack⟩ := continuesEpoch_acknowledged hfollows.continues
      show previous.acknowledgedAt.isSome = true
      rw [hack]
      rfl
    · refine absurd ?_ htimely
      rw [timelyMessage, if_neg haccepts, notAfter_iff]
      rintro last hlast time ⟨⟩
      exact hlate last hlast

end

namespace OpportunityHaltStream

/-! ## The clock -/

/-- A clock in UTC that does not run back. -/
structure Regular (readings : Nat → Datetime) : Prop where
  utc : ∀ count, (readings count).isUtc = true
  ordered : ∀ count, (readings count).instant ≤ (readings (count + 1)).instant

theorem Regular.later {readings : Nat → Datetime} (h : Regular readings) :
    Regular fun count => readings (count + 1) :=
  ⟨fun count => h.utc (count + 1), fun count => h.ordered (count + 1)⟩

theorem strictUtc_ok {value : Datetime} {instant : Int} :
    strictUtc value = .ok instant ↔ value.isUtc = true ∧ value.instant = instant := by
  unfold strictUtc
  split <;> simp_all

/-- An adapter after one more reading of its clock. -/
def afterReading (adapter : AlpacaOpportunityHaltStreamAdapter) :
    AlpacaOpportunityHaltStreamAdapter :=
  { adapter with readings := fun count => adapter.readings (count + 1) }

theorem now_of_regular {adapter : AlpacaOpportunityHaltStreamAdapter}
    (h : Regular adapter.readings) :
    now adapter = (.ok (adapter.readings 0).instant, afterReading adapter) := by
  show (strictUtc (adapter.readings 0), afterReading adapter) = _
  rw [strictUtc_ok.mpr ⟨h.utc 0, rfl⟩]

variable {received : Int} {P : AlpacaOpportunityHaltStreamAdapter → Prop}
  {updated : HaltAuthoritySnapshot}

/-- Reading the clock changes nothing but the readings to come. -/
theorem now_frame (h : ∀ adapter, P adapter → P (afterReading adapter)) : now.Keeps P := by
  intro adapter hadapter
  have hread : now adapter = (strictUtc (adapter.readings 0), afterReading adapter) := rfl
  rw [hread]
  cases strictUtc (adapter.readings 0) with
  | ok time => exact h adapter hadapter
  | error failure => exact h adapter hadapter

theorem given_keeps (time : Option Int) (h : ∀ adapter, P adapter → P (afterReading adapter)) :
    (given time).Keeps P := by
  cases time with
  | none => exact now_frame h
  | some time => exact .pure time

variable [Digest]

/-! ## The invariant -/

/-- What holds of an adapter between two calls. -/
structure Tracks (settings : Settings) (adapter : AlpacaOpportunityHaltStreamAdapter) : Prop where
  config : validateConfig settings.config = .ok ()
  clock : Regular adapter.readings
  snapshot : Standing adapter.snapshot settings.config ∨
    (¬ Sound adapter.snapshot settings.config ∧ adapter.snapshot.acknowledgedAt.isSome = true)
  passed : ∀ last ∈ adapter.snapshot.lastEventAt, last ≤ (adapter.readings 0).instant
  acknowledged : adapter.snapshot.acknowledgedAt.isSome = true →
    adapter.snapshot.epoch = adapter.epoch ∧ adapter.epoch.isSome = true ∧ 0 < adapter.sequence
  known : ∀ epoch ∈ adapter.snapshot.epoch, epoch ∈ adapter.seenEpochs
  current : ∀ epoch ∈ adapter.epoch, epoch ∈ adapter.seenEpochs

variable {settings : Settings} {adapter : AlpacaOpportunityHaltStreamAdapter}

/-- The invariant does not depend on the recovery, the thread and the start of an adapter. -/
theorem Tracks.frame {other : AlpacaOpportunityHaltStreamAdapter} (h : Tracks settings adapter)
    (hsnapshot : other.snapshot = adapter.snapshot) (hepoch : other.epoch = adapter.epoch)
    (hsequence : other.sequence = adapter.sequence)
    (hseen : other.seenEpochs = adapter.seenEpochs)
    (hreadings : other.readings = adapter.readings) : Tracks settings other := by
  refine ⟨h.config, ?_, ?_, ?_, ?_, ?_, ?_⟩
  · exact hreadings ▸ h.clock
  · exact hsnapshot ▸ h.snapshot
  · rw [hsnapshot, hreadings]
    exact h.passed
  · rw [hsnapshot, hepoch, hsequence]
    exact h.acknowledged
  · rw [hsnapshot, hseen]
    exact h.known
  · rw [hepoch, hseen]
    exact h.current

omit [Digest] in
/-- Arming a recovery changes nothing but the recovery. -/
theorem armRecovery_fields (settings : Settings) (adapter : AlpacaOpportunityHaltStreamAdapter)
    (observedAt : Int) :
    ∃ due timer, armRecovery settings adapter observedAt =
      { adapter with
        recoveryDueAt := due
        recoveryTimer := timer } := by
  unfold armRecovery
  split
  · exact ⟨none, false, rfl⟩
  · exact ⟨_, _, rfl⟩

omit [Digest] in
/-- A snapshot that is put on record changes nothing else but the recovery. -/
theorem setSnapshot_fields (settings : Settings) (adapter : AlpacaOpportunityHaltStreamAdapter)
    (updated : HaltAuthoritySnapshot) :
    ∃ due timer, setSnapshot settings adapter updated =
      { adapter with
        snapshot := updated
        recoveryDueAt := due
        recoveryTimer := timer } := by
  unfold setSnapshot
  dsimp only
  split
  · exact ⟨none, false, rfl⟩
  split
  · obtain ⟨due, timer, heq⟩ := armRecovery_fields settings
      { adapter with snapshot := updated } updated.observedAt
    exact ⟨due, timer, heq⟩
  · exact ⟨_, _, rfl⟩

theorem Tracks.armRecovery (h : Tracks settings adapter) (observedAt : Int) :
    Tracks settings (armRecovery settings adapter observedAt) := by
  obtain ⟨due, timer, heq⟩ := armRecovery_fields settings adapter observedAt
  rw [heq]
  exact h.frame rfl rfl rfl rfl rfl

/-- A start that fails keeps the invariant. -/
theorem Tracks.resolveStartupFailure (h : Tracks settings adapter) (code : String) :
    Tracks settings (resolveStartupFailure adapter code) := by
  unfold OpportunityHaltStream.resolveStartupFailure
  split
  · exact h.frame rfl rfl rfl rfl rfl
  · exact h

/-- Reading the clock keeps the invariant. -/
theorem Tracks.afterReading (h : Tracks settings adapter) :
    Tracks settings (afterReading adapter) where
  config := h.config
  clock := h.clock.later
  snapshot := h.snapshot
  passed last hlast := (h.passed last hlast).trans (h.clock.ordered 0)
  acknowledged := h.acknowledged
  known := h.known
  current := h.current

/-- A time was read from the clock after every message on record. -/
structure Current (settings : Settings) (time : Int)
    (adapter : AlpacaOpportunityHaltStreamAdapter) : Prop where
  tracks : Tracks settings adapter
  passed : ∀ last ∈ adapter.snapshot.lastEventAt, last ≤ time
  read : time ≤ (adapter.readings 0).instant

theorem now_current : now.Ensures (Tracks settings) (Current settings) (Tracks settings) := by
  intro adapter h
  rw [now_of_regular h.clock]
  exact ⟨h.afterReading, h.passed, h.clock.ordered 0⟩

theorem now_keeps : now.Keeps (Tracks settings) :=
  now_current.weaken (fun _ h => h) (fun _ _ h => h.tracks) fun _ h => h

/-! ## Messages -/

/-- A message that is recorded leaves what the authority made of it, or the number that it took. -/
theorem record_result (epoch : String) (kind : HaltAuthorityEventKind) (eventAt received : Int)
    (statusCode tradeId : Option String) :
    record settings epoch kind eventAt received statusCode tradeId adapter =
      match reduceHaltAuthority adapter.snapshot
        (envelope settings epoch (adapter.sequence + 1) kind eventAt received statusCode tradeId)
        settings.config settings.codebook ⟨received, true⟩ with
      | .ok updated =>
          (.ok (), setSnapshot settings { adapter with sequence := adapter.sequence + 1 } updated)
      | .error failure => (.error failure, { adapter with sequence := adapter.sequence + 1 }) := by
  show (Action.check (reduceHaltAuthority adapter.snapshot
      (envelope settings epoch (adapter.sequence + 1) kind eventAt received statusCode tradeId)
      settings.config settings.codebook ⟨received, true⟩) >>= fun updated =>
    Action.write fun adapter => setSnapshot settings adapter updated)
      { adapter with sequence := adapter.sequence + 1 } = _
  cases reduceHaltAuthority adapter.snapshot
    (envelope settings epoch (adapter.sequence + 1) kind eventAt received statusCode tradeId)
    settings.config settings.codebook ⟨received, true⟩ with
  | ok updated => rfl
  | error failure => rfl

/-- The number of a message keeps the invariant. -/
theorem Tracks.numbered (h : Tracks settings adapter) :
    Tracks settings { adapter with sequence := adapter.sequence + 1 } where
  config := h.config
  clock := h.clock
  snapshot := h.snapshot
  passed := h.passed
  acknowledged hack := by
    obtain ⟨hepoch, hsome, -⟩ := h.acknowledged hack
    exact ⟨hepoch, hsome, Nat.succ_pos _⟩
  known := h.known
  current := h.current

/-- What the authority made of a message of the epoch of the connection keeps the invariant. -/
theorem Current.reduced {event : HaltAuthorityEvent} (h : Current settings received adapter)
    (hepoch : adapter.epoch = some event.epoch) (hsequence : 0 < adapter.sequence)
    (hupdated : reduceHaltAuthority adapter.snapshot event settings.config settings.codebook
      ⟨received, true⟩ = .ok updated) : Tracks settings { adapter with snapshot := updated } := by
  obtain ⟨-, hprevious, -, -, rfl⟩ := reduceHaltAuthority_ok.mp hupdated
  have hreduction := reduced_reduction adapter.snapshot event settings.config settings.codebook
    received
  -- a snapshot that was accepted stands
  have hstanding : Standing adapter.snapshot settings.config := by
    cases h.tracks.snapshot with
    | inl hstanding => exact hstanding
    | inr hstuck => exact absurd (validatePrevious_ok.mp hprevious) hstuck.1
  refine ⟨h.tracks.config, h.tracks.clock, hstanding.reduced_or_stuck h.passed, ?_, ?_, ?_,
    h.tracks.current⟩
  · intro last hlast
    cases hreduction.passed_event last hlast with
    | inl hbefore => exact h.tracks.passed last hbefore
    | inr hreceived => exact hreceived.trans h.read
  · intro hack
    refine ⟨(hreduction.acknowledged_epoch hack).trans hepoch.symm, ?_, hsequence⟩
    show adapter.epoch.isSome = true
    rw [hepoch]
    rfl
  · intro epoch hmem
    cases hreduction.epoch with
    | inl hkept => exact h.tracks.known epoch (hkept ▸ hmem)
    | inr hnew => exact h.tracks.current epoch (hepoch ▸ hnew ▸ hmem)

/-- Recording a message at a current time keeps the invariant. -/
theorem record_ensures {epoch : String} (kind : HaltAuthorityEventKind) (eventAt : Int)
    (statusCode tradeId : Option String) :
    (record settings epoch kind eventAt received statusCode tradeId).Ensures
      (fun adapter => Current settings received adapter ∧ adapter.epoch = some epoch)
      (fun _ => Tracks settings) (Tracks settings) := by
  rintro adapter ⟨h, hepoch⟩
  rw [record_result]
  have hnumbered : Current settings received { adapter with sequence := adapter.sequence + 1 } :=
    ⟨h.tracks.numbered, h.passed, h.read⟩
  cases hresult : reduceHaltAuthority adapter.snapshot
    (envelope settings epoch (adapter.sequence + 1) kind eventAt received statusCode tradeId)
    settings.config settings.codebook ⟨received, true⟩ with
  | error failure => exact hnumbered.tracks
  | ok updated =>
      obtain ⟨due, timer, heq⟩ := setSnapshot_fields settings
        { adapter with sequence := adapter.sequence + 1 } updated
      simp only [heq]
      exact (hnumbered.reduced hepoch (Nat.succ_pos _) hresult).frame rfl rfl rfl rfl rfl

/-- Sending a message that was received at a current time keeps the invariant. -/
theorem emit_ensures (kind : HaltAuthorityEventKind) (eventAt : Int)
    (statusCode tradeId : Option String) :
    (emit settings kind eventAt (some received) statusCode tradeId).Ensures
      (Current settings received) (fun _ => Tracks settings) (Tracks settings) := by
  refine .read_bind fun adapter h => ?_
  cases hepoch : adapter.epoch with
  | none =>
      refine .pure ?_
      rintro _ rfl
      exact h.tracks
  | some epoch =>
      refine .pure_bind ((record_ensures kind eventAt statusCode tradeId).weaken ?_
        (fun _ _ h => h) fun _ h => h)
      rintro _ rfl
      exact ⟨h, hepoch⟩

/-- Sending a message that is received now keeps the invariant. -/
theorem emit_keeps (kind : HaltAuthorityEventKind) (eventAt : Int)
    (statusCode tradeId : Option String) :
    (emit settings kind eventAt none statusCode tradeId).Keeps (Tracks settings) := by
  refine Action.Ensures.read_bind fun adapter h => ?_
  cases hepoch : adapter.epoch with
  | none =>
      refine .pure ?_
      rintro _ rfl
      exact h
  | some epoch =>
      -- the clock is read after the epoch, and reading it changes nothing else
      refine .bind ?_ fun time => record_ensures kind eventAt statusCode tradeId
      rintro state rfl
      have hread : given none state = (.ok (state.readings 0).instant, afterReading state) :=
        now_of_regular h.clock
      rw [hread]
      exact ⟨⟨h.afterReading, h.passed, h.clock.ordered 0⟩, hepoch⟩

/-- Breaking the epoch keeps the invariant. -/
theorem failure_keeps (kind : HaltAuthorityEventKind) (time : Option Int) :
    (failure settings kind time).Keeps (Tracks settings) := by
  refine .read_bind fun adapter _ => .ite (fun _ => ?_) fun _ => .pure ()
  refine .bind ?_ fun eventAt => emit_keeps kind eventAt none none
  cases time with
  | none => exact now_keeps
  | some time => exact .pure time

theorem safeFailure_keeps (kind : HaltAuthorityEventKind) (time : Option Int) :
    (safeFailure settings kind time).Keeps (Tracks settings) :=
  (failure_keeps kind time).suppress

/-! ## Broken epochs -/

/-- A message that breaks the stream leaves no acknowledged epoch. -/
theorem reduced_failure {previous : HaltAuthoritySnapshot} {event : HaltAuthorityEvent}
    (hkind : event.kind.isFailure = true) (observedAt : Int) :
    (reduced previous event settings.config settings.codebook observedAt).acknowledgedAt =
      none := by
  unfold reduced
  split
  · rfl
  split
  · rfl
  split
  · rename_i hack
    rw [hack] at hkind
    cases hkind
  split
  · rfl
  · rfl

/-- The epoch on record is not acknowledged. -/
def Broken (adapter : AlpacaOpportunityHaltStreamAdapter) : Prop :=
  adapter.snapshot.acknowledgedAt = none

omit [Digest] in
theorem Broken.hasContinuity (h : Broken adapter) : hasContinuity adapter = false := by
  have hnone : adapter.snapshot.acknowledgedAt = none := h
  simp [OpportunityHaltStream.hasContinuity, hnone]

variable {kind : HaltAuthorityEventKind}

/-- Recording a message that breaks the stream breaks the epoch, unless it is refused. -/
theorem record_breaks (hkind : kind.isFailure = true) (epoch : String) (eventAt received : Int) :
    (record settings epoch kind eventAt received none none).Ensures (fun _ => True)
      (fun _ => Broken) fun _ => True := by
  intro adapter _
  rw [record_result]
  split
  · rename_i value left heq
    split at heq
    · rename_i updated hupdated
      obtain ⟨due, timer, hset⟩ := setSnapshot_fields settings
        { adapter with sequence := adapter.sequence + 1 } updated
      rw [hset] at heq
      cases heq
      obtain ⟨-, -, -, -, rfl⟩ := reduceHaltAuthority_ok.mp hupdated
      exact reduced_failure hkind received
    · cases heq
  · trivial

/-- Sending a message that breaks the stream breaks the epoch, unless it is refused. -/
theorem emit_breaks (hkind : kind.isFailure = true) (eventAt : Int) (receivedAt : Option Int) :
    (emit settings kind eventAt receivedAt none none).Ensures
      (fun adapter => adapter.epoch.isSome = true) (fun _ => Broken) fun _ => True := by
  refine .read_bind fun adapter h => ?_
  cases hepoch : adapter.epoch with
  | none =>
      rw [hepoch] at h
      cases h
  | some epoch =>
      refine .bind ?_ fun received => record_breaks hkind epoch eventAt received
      exact (given_keeps (P := fun _ => True) receivedAt fun _ _ => trivial).weaken
        (fun _ _ => trivial) (fun _ _ _ => trivial) fun _ _ => trivial

/-- Breaking the epoch of an adapter either breaks it or raises. -/
theorem failure_breaks (hkind : kind.isFailure = true) (time : Option Int) :
    (failure settings kind time).Ensures (Tracks settings) (fun _ => Broken) fun _ => True := by
  refine .read_bind fun adapter h => .ite (fun hcontinuity => ?_) fun hcontinuity => ?_
  · simp only [OpportunityHaltStream.hasContinuity, Bool.and_eq_true] at hcontinuity
    have hepoch : adapter.epoch.isSome = true := hcontinuity.1.1.1
    refine .bind ?_ fun eventAt => emit_breaks hkind eventAt none
    refine (given_keeps time fun _ h => h).weaken ?_ (fun _ _ h => h) fun _ _ => trivial
    rintro _ rfl
    exact hepoch
  · -- an acknowledged epoch is the one of the connection, and has continuity
    refine .pure ?_
    rintro _ rfl
    by_contra hbroken
    have hack := Option.isSome_iff_ne_none.mpr hbroken
    obtain ⟨hsame, hsome, hsequence⟩ := h.acknowledged hack
    exact hcontinuity (by
      simp [OpportunityHaltStream.hasContinuity, hack, hsome, hsequence, hsame])

/-! ## Connections -/

/-- An epoch is taken by a connection whose epoch before it is broken. -/
theorem Tracks.takeEpoch (h : Tracks settings adapter) (hbroken : Broken adapter)
    (epoch : String) : Tracks settings (takeEpoch adapter epoch) where
  config := h.config
  clock := h.clock
  snapshot := h.snapshot
  passed := h.passed
  acknowledged hack := by
    have hnone : adapter.snapshot.acknowledgedAt = none := hbroken
    have hsome : adapter.snapshot.acknowledgedAt.isSome = true := hack
    rw [hnone] at hsome
    cases hsome
  known known hknown := List.mem_cons_of_mem _ (h.known known hknown)
  current current hcurrent := by
    cases hcurrent
    exact List.mem_cons_self

/-- A new epoch is a token that was not seen before, and taking it writes nothing. A refused one
keeps the invariant. -/
theorem newEpoch_ensures (epoch : Option String) :
    (newEpoch settings epoch).Ensures (fun adapter => Tracks settings adapter ∧ Broken adapter)
      (fun epoch adapter => (Tracks settings adapter ∧ Broken adapter) ∧
        isNonblankToken epoch = true ∧ epoch ∉ adapter.seenEpochs) (Tracks settings) := by
  cases epoch with
  | none =>
      refine .bind (Q := fun _ => Tracks settings) ?_ fun _ => .check nofun fun _ _ _ h => h
      exact .write fun adapter h => h.1.resolveStartupFailure _
  | some epoch =>
      refine .read_bind fun adapter h => .ite (fun _ => ?_) fun hnew => .pure ?_
      · refine .bind (Q := fun _ => Tracks settings) ?_ fun _ => .check nofun fun _ _ _ h => h
        refine (failure_keeps .gap none).weaken ?_ (fun _ _ h => h) fun _ h => h
        rintro _ rfl
        exact h.1
      · rintro _ rfl
        simp only [Bool.or_eq_true, Bool.not_eq_true', not_or, Bool.not_eq_false,
          List.contains_iff_mem] at hnew
        exact ⟨h, hnew⟩

/-- A connection with a new epoch, whose acknowledgement is still to come. -/
structure Opened (settings : Settings) (adapter : AlpacaOpportunityHaltStreamAdapter) : Prop where
  tracks : Tracks settings adapter
  broken : Broken adapter
  epoch : ∃ epoch, adapter.epoch = some epoch ∧ isNonblankToken epoch = true ∧
    adapter.snapshot.epoch ≠ some epoch
  sequence : adapter.sequence = 0

/-- The snapshot of an opened connection stands. -/
theorem Opened.standing (h : Opened settings adapter) :
    Standing adapter.snapshot settings.config := by
  cases h.tracks.snapshot with
  | inl hstanding => exact hstanding
  | inr hstuck =>
      have hnone : adapter.snapshot.acknowledgedAt = none := h.broken
      rw [hnone] at hstuck
      cases hstuck.2

/-- A connection that is opened has a new epoch, and one that is refused keeps the invariant. -/
theorem openConnection_ensures (epoch : Option String) :
    (openConnection settings epoch).Ensures (Tracks settings) (fun _ => Opened settings)
      (Tracks settings) := by
  refine .bind (Q := fun _ => Tracks settings) (.write fun adapter h => ?_) fun _ => ?_
  · exact h.frame rfl rfl rfl rfl rfl
  refine .bind (((failure_keeps .reconnect none).and (failure_breaks rfl none)).weaken
    (fun _ h => h) (fun _ _ h => h) fun _ h => h.1) fun _ => ?_
  refine .bind (newEpoch_ensures epoch) fun epoch => ?_
  refine .bind (Q := fun _ => Opened settings) (.write fun adapter h => ?_) fun _ => ?_
  · obtain ⟨⟨htracks, hbroken⟩, htoken, hnew⟩ := h
    refine ⟨htracks.takeEpoch hbroken epoch, hbroken, ⟨epoch, rfl, htoken, fun hsame => ?_⟩, rfl⟩
    exact hnew (htracks.known epoch hsame)
  refine .bind (Q := fun _ => Opened settings) ?_ fun observedAt => .write fun adapter h => ?_
  · refine (now_frame fun adapter h => ?_).weaken (fun _ h => h) (fun _ _ h => h) fun _ h => ?_
    · exact ⟨h.tracks.afterReading, h.broken, h.epoch, h.sequence⟩
    · exact Opened.tracks h
  · obtain ⟨due, timer, heq⟩ := armRecovery_fields settings adapter observedAt
    rw [heq]
    exact ⟨h.tracks.frame rfl rfl rfl rfl rfl, h.broken, h.epoch, h.sequence⟩

theorem connectionStarting_keeps (epoch : Option String) :
    (connectionStarting settings epoch).Keeps (Tracks settings) := by
  refine Action.Keeps.read_bind fun adapter _ => .ite (fun _ => .pure ()) fun _ => ?_
  exact (openConnection_ensures epoch).weaken (fun _ h => h) (fun _ _ h => h.tracks) fun _ h => h

/-- An adapter that is running after a connection was started has opened it. -/
theorem connectionStarting_opened {epoch : Option String}
    {opened : AlpacaOpportunityHaltStreamAdapter} (h : Tracks settings adapter)
    (hopened : connectionStarting settings epoch adapter = (.ok (), opened))
    (hrunning : isStopped opened = false) : Opened settings opened := by
  have hstep : connectionStarting settings epoch adapter =
      if isStopped adapter then (.ok (), adapter) else openConnection settings epoch adapter := by
    show (if isStopped adapter then (pure () : Step Unit) else openConnection settings epoch)
      adapter = _
    split <;> rfl
  rw [hstep] at hopened
  split at hopened
  · rename_i hstopped
    cases hopened
    rw [hstopped] at hrunning
    cases hrunning
  · exact (openConnection_ensures epoch).returned h hopened

theorem rejectSubscription_keeps (kind : HaltAuthorityEventKind) :
    (rejectSubscription settings kind).Keeps (Tracks settings) := by
  refine .bind (failure_keeps kind none) fun _ => .bind now_keeps fun observedAt => ?_
  refine .bind (.write fun adapter h => h.armRecovery observedAt) fun _ => ?_
  exact .write fun adapter h => h.resolveStartupFailure _

/-- An answer to a subscription keeps the invariant. -/
theorem subscriptionMessage_keeps (message : Json) :
    (subscriptionMessage settings message).Keeps (Tracks settings) := by
  refine Action.Keeps.read_bind fun adapter _ => .ite (fun _ => .pure ()) fun _ => ?_
  refine .ite (fun _ => rejectSubscription_keeps _) fun _ => ?_
  refine .ite (fun _ => rejectSubscription_keeps _) fun _ => ?_
  refine .bind now_keeps fun eventAt => .bind (emit_keeps .epochAck eventAt none none) fun _ => ?_
  exact .write fun adapter h => h.frame rfl rfl rfl rfl rfl

theorem streamFailure_keeps (kind : HaltAuthorityEventKind) (code : String) :
    (streamFailure settings kind code).Keeps (Tracks settings) :=
  .bind (safeFailure_keeps kind none) fun _ => .write fun _ h => h.resolveStartupFailure code

/-! ## Callbacks -/

/-- A callback that keeps the invariant at a current time keeps it where it is contained. -/
theorem contained_keeps {callback : Int → Step Unit}
    (h : ∀ received, (callback received).Ensures (Current settings received)
      (fun _ => Tracks settings) (Tracks settings)) :
    (contained settings callback).Keeps (Tracks settings) := by
  refine Action.Ensures.bind now_current.attempt fun received => ?_
  cases received with
  | none => exact safeFailure_keeps .malformed none
  | some received => exact (h received).handle (safeFailure_keeps .malformed (some received))

/-- Sending a trade at a current time keeps the invariant. -/
theorem sendTrade_ensures (received : Int) (tradeId : String) (timestamp : Datetime) :
    (sendTrade settings received tradeId timestamp).Ensures (Current settings received)
      (fun _ => Tracks settings) (Tracks settings) := by
  refine .bind (Q := fun _ => Current settings received)
    (.check (fun _ _ _ h => h) fun _ _ _ h => h.tracks) fun eventAt => ?_
  refine .bind (emit_ensures .trade eventAt none (some tradeId)) fun _ => ?_
  exact .write fun adapter h => h.frame rfl rfl rfl rfl rfl

/-- Taking a trade at a current time keeps the invariant. -/
theorem takeTrade_ensures (value : Option Trade) (received : Int) :
    (takeTrade settings value received).Ensures (Current settings received)
      (fun _ => Tracks settings) (Tracks settings) := by
  have hfailure : (failure settings .malformed (some received)).Ensures (Current settings received)
      (fun _ => Tracks settings) (Tracks settings) :=
    (failure_keeps .malformed (some received)).weaken (fun _ h => h.tracks) (fun _ _ h => h)
      fun _ h => h
  intro adapter h
  refine Action.Ensures.read_bind (P := Current settings received) (fun adapter h => ?_)
    adapter h
  have hhere : ∀ state, state = adapter → Current settings received state := by
    rintro _ rfl
    exact h
  cases tradeOf settings value with
  | none => exact hfailure.weaken hhere (fun _ _ h => h) fun _ h => h
  | some trade =>
      refine .ite (fun _ => hfailure.weaken hhere (fun _ _ h => h) fun _ h => h) fun _ => ?_
      refine .read_bind fun read hread => ?_
      subst hread
      refine .bind (Q := fun _ => Current settings received)
        (.check (fun _ _ => hhere) fun _ _ state hstate => (hhere state hstate).tracks)
        fun skipped => .ite (fun _ => ?_) fun _ => sendTrade_ensures received _ _
      exact .write fun adapter h => h.tracks.frame rfl rfl rfl rfl rfl

/-- Taking a trading status at a current time keeps the invariant. -/
theorem takeStatus_ensures (value : Option TradingStatus) (received : Int) :
    (takeStatus settings value received).Ensures (Current settings received)
      (fun _ => Tracks settings) (Tracks settings) := by
  unfold takeStatus
  cases statusOf settings value with
  | none =>
      exact (failure_keeps .malformed (some received)).weaken (fun _ h => h.tracks)
        (fun _ _ h => h) fun _ h => h
  | some status =>
      refine .bind (Q := fun _ => Current settings received)
        (.check (fun _ _ _ h => h) fun _ _ _ h => h.tracks) fun eventAt => ?_
      exact emit_ensures .tradingStatus eventAt (some status.1) none

theorem onTrade_keeps (value : Option Trade) : (onTrade settings value).Keeps (Tracks settings) :=
  Action.Keeps.read_bind fun _ _ => .ite (fun _ => .pure ()) fun _ =>
    contained_keeps (takeTrade_ensures value)

theorem onStatus_keeps (value : Option TradingStatus) :
    (onStatus settings value).Keeps (Tracks settings) :=
  Action.Keeps.read_bind fun _ _ => .ite (fun _ => .pure ()) fun _ =>
    contained_keeps (takeStatus_ensures value)

/-! ## Reads -/

theorem beginResubscribe_keeps (due : Bool) (epoch : Option String) :
    (beginResubscribe settings due epoch).Keeps (Tracks settings) := by
  refine Action.Keeps.read_bind fun adapter _ => .ite (fun _ => ?_) fun _ => .pure false
  exact .bind (connectionStarting_keeps epoch) fun _ => .pure true

/-- A read of the snapshot keeps the invariant. -/
theorem Tracks.reread {readAt : Datetime} (h : Tracks settings adapter)
    (hupdated : readHaltAuthority adapter.snapshot settings.config readAt = .ok updated) :
    Tracks settings { adapter with snapshot := updated } := by
  obtain ⟨-, hprevious, -, -, rfl⟩ := readHaltAuthority_ok.mp hupdated
  obtain ⟨hepoch, hlast, hack⟩ := (reread_rereading adapter.snapshot settings.config
    (max readAt.instant adapter.snapshot.observedAt)).fields
  have hstanding : Standing adapter.snapshot settings.config := by
    cases h.snapshot with
    | inl hstanding => exact hstanding
    | inr hstuck => exact absurd (validatePrevious_ok.mp hprevious) hstuck.1
  refine ⟨h.config, h.clock, .inl (hstanding.reread (le_max_right _ _)), ?_, ?_, ?_, h.current⟩
  · intro last hmem
    exact h.passed last (hlast ▸ hmem)
  · intro hsome
    obtain ⟨hsame, hrest⟩ := h.acknowledged (hack hsome)
    exact ⟨hepoch.trans hsame, hrest⟩
  · intro epoch hmem
    exact h.known epoch (hepoch ▸ hmem)

/-- Reading the snapshot keeps the invariant, also where it begins a recovery. -/
theorem snapshot_keeps (readAt : Option Datetime) (epoch : Option String) :
    (snapshot settings readAt epoch).Keeps (Tracks settings) := by
  refine .bind now_keeps fun time => .bind (.check _) fun requestedAt => ?_
  refine Action.Ensures.read_bind fun adapter h => ?_
  refine .bind (Q := fun updated state => state = adapter ∧
    readHaltAuthority adapter.snapshot settings.config ⟨max requestedAt time, true⟩ = .ok updated)
    (.check (fun updated hupdated state hstate => ⟨hstate, hupdated⟩) ?_) fun updated => ?_
  · rintro _ _ state rfl
    exact h
  refine .bind (Q := fun _ => Tracks settings) (.write ?_) fun _ => ?_
  · rintro state ⟨hstate, hupdated⟩
    subst hstate
    obtain ⟨due, timer, heq⟩ := setSnapshot_fields settings state updated
    rw [heq]
    exact (h.reread hupdated).frame rfl rfl rfl rfl rfl
  · exact Action.Keeps.read_bind fun _ _ => beginResubscribe_keeps _ epoch

/-! ## Runs -/

/-- Every call keeps the invariant. -/
theorem perform_keeps (call : Call) : (perform settings call).Keeps (Tracks settings) := by
  have hforget : ∀ {Value : Type} {action : Step Value}, action.Keeps (Tracks settings) →
      (forget action).Keeps (Tracks settings) := fun h => .bind h fun _ => .pure ()
  cases call with
  | connectionStarting epoch => exact connectionStarting_keeps epoch
  | subscriptionMessage message => exact subscriptionMessage_keeps message
  | streamError => exact streamFailure_keeps _ _
  | unexpectedMessage => exact streamFailure_keeps _ _
  | streamClosed => exact streamFailure_keeps _ _
  | onTrade value => exact onTrade_keeps value
  | onStatus value => exact onStatus_keeps value
  | snapshot readAt epoch => exact hforget (snapshot_keeps readAt epoch)
  | recoverLiveStream epoch =>
      refine hforget (.bind (.write fun adapter h => ?_) fun _ => beginResubscribe_keeps true epoch)
      exact h.frame rfl rfl rfl rfl rfl
  | resubscribeFailed =>
      exact .bind now_keeps fun observedAt => .write fun adapter h => h.armRecovery observedAt
  | startCreated =>
      refine Action.Keeps.read_bind fun _ _ => .bind (.check _) fun _ =>
        .bind (.check _) fun _ => ?_
      exact .write fun adapter h => h.frame rfl rfl rfl rfl rfl
  | startSucceeded => exact .write fun adapter h => h.frame rfl rfl rfl rfl rfl
  | startFailed => exact .write fun adapter h => h.frame rfl rfl rfl rfl rfl
  | stopRequested =>
      refine Action.Keeps.read_bind fun _ _ => .ite (fun _ => .pure ()) fun _ => ?_
      exact .write fun adapter h => h.frame rfl rfl rfl rfl rfl
  | stopJoined => exact safeFailure_keeps _ none
  | stopFinished => exact .write fun adapter h => h.frame rfl rfl rfl rfl rfl
  | runRaised => exact safeFailure_keeps _ none
  | runEnded =>
      refine .bind (streamFailure_keeps _ _) fun _ => .write fun adapter h => ?_
      exact h.frame rfl rfl rfl rfl rfl
  | threadRuns alive => exact .write fun adapter h => h.frame rfl rfl rfl rfl rfl

/-- A new adapter with a regular clock meets the invariant. -/
theorem create_tracks {clock : Nat → Datetime} (hclock : Regular clock)
    (h : create settings clock = .ok adapter) : Tracks settings adapter := by
  rw [create, check_bind_ok] at h
  obtain ⟨-, h⟩ := h
  obtain ⟨readAt, -, h⟩ := bind_ok.mp h
  obtain ⟨snapshot, hsnapshot, h⟩ := bind_ok.mp h
  cases h
  obtain ⟨hconfig, hstanding⟩ := initialHaltAuthority_standing hsnapshot
  rw [initialHaltAuthority, check_bind_ok] at hsnapshot
  obtain ⟨observedAt, -, hfirst⟩ := bind_ok.mp hsnapshot.2
  cases hfirst
  refine ⟨hconfig, hclock.later, .inl hstanding, ?_, ?_, ?_, ?_⟩
  · rintro _ ⟨⟩
  · rintro ⟨⟩
  · rintro _ ⟨⟩
  · rintro _ ⟨⟩

theorem tracks_of_reachable {clock : Nat → Datetime} (hclock : Regular clock)
    (h : (haltStream settings clock).Reachable adapter) : Tracks settings adapter := by
  refine h.invariant (P := Tracks settings) (fun hinitial => create_tracks hclock hinitial) ?_
  rintro state call _ hstate rfl
  exact (perform_keeps call).left hstate

end OpportunityHaltStream

end AlphaDecay
