import AlphaDecay.Services.HaltRehearsal

/-!
# Validity of halt snapshots

When the authority accepts its own snapshots. `Standing` is the invariant: the checks of a snapshot
on record, and that a halt and a trade on record come with a last message. A step keeps it exactly
when it is `Timely`: it takes the clock back before the last message only by recording a later one,
and records no trade that is older than the halt it leaves latched.
-/

namespace AlphaDecay

open Foundation

/-! ## The checks as relations -/

theorem notAfter_iff {first second : Option Int} :
    notAfter first second = true ↔ ∀ a ∈ first, ∀ b ∈ second, a ≤ b := by
  simp [notAfter, Option.all_eq_true]

/-- An acknowledged epoch has a message, and one that is not acknowledged has none. -/
def EpochValid (snapshot : HaltAuthoritySnapshot) : Prop :=
  (snapshot.acknowledgedAt = none ∧ snapshot.lastSequence = 0) ∨
  ∃ acknowledgedAt lastEventAt epoch, snapshot.acknowledgedAt = some acknowledgedAt ∧
    snapshot.lastEventAt = some lastEventAt ∧ snapshot.epoch = some epoch ∧
    epoch.isEmpty = false ∧ 1 ≤ snapshot.lastSequence ∧ acknowledgedAt ≤ lastEventAt

variable {snapshot : HaltAuthoritySnapshot}

theorem activeEpochValid_iff : activeEpochValid snapshot = true ↔ EpochValid snapshot := by
  unfold activeEpochValid EpochValid
  cases snapshot.acknowledgedAt <;> cases snapshot.lastEventAt <;> cases snapshot.epoch <;>
    simp [and_assoc]

/-- Times and hashes stand together. -/
structure PairsValid (snapshot : HaltAuthoritySnapshot) : Prop where
  trade : snapshot.lastTradeAt.isNone = snapshot.lastTradeHash.isNone
  tradeId : snapshot.lastTradeHash.isNone = snapshot.lastTradeId.isNone
  halt : snapshot.haltLatchedAt.isNone = snapshot.haltEventHash.isNone
  event : snapshot.lastEventAt.isNone = snapshot.lastEventHash.isNone

/-- Every hash and the identity of the trade on record have their form. -/
structure HashesValid (snapshot : HaltAuthoritySnapshot) : Prop where
  event : ∀ hash ∈ snapshot.lastEventHash, isHash hash = true
  decisive : ∀ hash ∈ snapshot.decisiveEventHash, isHash hash = true
  rejected : ∀ hash ∈ snapshot.lastRejectedEventHash, isHash hash = true
  trade : ∀ hash ∈ snapshot.lastTradeHash, isHash hash = true
  halt : ∀ hash ∈ snapshot.haltEventHash, isHash hash = true
  tradeId : ∀ trade ∈ snapshot.lastTradeId, isNonblankToken trade = true

/-- The check of hashes, as relations. -/
theorem hashPairsValid_iff :
    hashPairsValid snapshot = true ↔ PairsValid snapshot ∧ HashesValid snapshot := by
  simp only [hashPairsValid, Bool.and_eq_true, beq_iff_eq, Option.all_eq_true, and_assoc]
  constructor
  · rintro ⟨htrade, htradeId, hhalt, hevent, h₁, h₂, h₃, h₄, h₅, h₆⟩
    exact ⟨⟨htrade, htradeId, hhalt, hevent⟩, ⟨h₁, h₂, h₃, h₄, h₅, h₆⟩⟩
  · rintro ⟨⟨htrade, htradeId, hhalt, hevent⟩, ⟨h₁, h₂, h₃, h₄, h₅, h₆⟩⟩
    exact ⟨htrade, htradeId, hhalt, hevent, h₁, h₂, h₃, h₄, h₅, h₆⟩

/-- The check of times, as relations. -/
theorem chronologyValid_iff :
    chronologyValid snapshot = true ↔
      (∀ event ∈ snapshot.lastEventAt, event ≤ snapshot.observedAt) ∧
      (∀ trade ∈ snapshot.lastTradeAt, trade ≤ snapshot.observedAt) ∧
      (∀ halt ∈ snapshot.haltLatchedAt, halt ≤ snapshot.observedAt) ∧
      (∀ trade ∈ snapshot.lastTradeAt, ∀ event ∈ snapshot.lastEventAt, trade ≤ event) ∧
      (∀ halt ∈ snapshot.haltLatchedAt, ∀ event ∈ snapshot.lastEventAt, halt ≤ event) ∧
      (∀ acknowledged ∈ snapshot.acknowledgedAt, ∀ trade ∈ snapshot.lastTradeAt,
        acknowledged < trade) := by
  simp [chronologyValid, notAfter_iff, Option.all_eq_true, and_assoc]

/-- The fields of a snapshot fit its state. -/
def StateValid (snapshot : HaltAuthoritySnapshot) : Prop :=
  (snapshot.state = .openConfirmed → snapshot.acknowledgedAt.isSome = true ∧
    snapshot.lastTradeAt.isSome = true ∧ snapshot.haltLatchedAt = none) ∧
  (snapshot.state = .haltedLatched → snapshot.haltLatchedAt.isSome = true) ∧
  (snapshot.state = .resumePending → ∃ halt ∈ snapshot.haltLatchedAt,
    ∃ event ∈ snapshot.lastEventAt, halt < event)

theorem stateValid_iff : stateValid snapshot = true ↔ StateValid snapshot := by
  unfold stateValid StateValid
  split <;> rename_i hstate <;> simp [hstate, Option.any_eq_true, and_assoc]

/-! ## Soundness -/

section

variable [Digest]
variable {config : HaltAuthorityConfig} {previous snapshot : HaltAuthoritySnapshot}
  {event : HaltAuthorityEvent} {observedAt : Int}

variable {next : HaltAuthoritySnapshot} {codebook : Option HaltStatusCodebook}

/-- The checks of a snapshot on record. -/
structure Sound (snapshot : HaltAuthoritySnapshot) (config : HaltAuthorityConfig) : Prop where
  scope : crossScopeValid snapshot config = true
  epoch : activeEpochValid snapshot = true
  hashes : hashPairsValid snapshot = true
  chronology : chronologyValid snapshot = true
  state : stateValid snapshot = true
  scalar : scalarValid snapshot = true

/-- A snapshot passes exactly when it is sound. -/
theorem validatePrevious_ok :
    validatePrevious snapshot config = .ok () ↔ Sound snapshot config := by
  simp only [validatePrevious, raiseIf_ok, Bool.not_eq_false', Bool.and_eq_true]
  constructor
  · rintro ⟨⟨⟨⟨⟨hscope, hepoch⟩, hhashes⟩, hchronology⟩, hstate⟩, hscalar⟩
    exact ⟨hscope, hepoch, hhashes, hchronology, hstate, hscalar⟩
  · rintro ⟨hscope, hepoch, hhashes, hchronology, hstate, hscalar⟩
    exact ⟨⟨⟨⟨⟨hscope, hepoch⟩, hhashes⟩, hchronology⟩, hstate⟩, hscalar⟩

/-- The invariant: the checks as relations, where a halt and a trade on record are not later than
the last message. -/
structure Standing (snapshot : HaltAuthoritySnapshot) (config : HaltAuthorityConfig) : Prop where
  scope : crossScopeValid snapshot config = true
  epoch : EpochValid snapshot
  pairs : PairsValid snapshot
  hashes : HashesValid snapshot
  observed : ∀ event ∈ snapshot.lastEventAt, event ≤ snapshot.observedAt
  traded : ∀ trade ∈ snapshot.lastTradeAt, ∃ event ∈ snapshot.lastEventAt, trade ≤ event
  halted : ∀ halt ∈ snapshot.haltLatchedAt, ∃ event ∈ snapshot.lastEventAt, halt ≤ event
  acknowledged : ∀ acknowledged ∈ snapshot.acknowledgedAt, ∀ trade ∈ snapshot.lastTradeAt,
    acknowledged < trade
  state : StateValid snapshot
  scalar : 0 ≤ snapshot.lastSequence ∧ 0 ≤ snapshot.transitionCount

theorem Standing.sound (h : Standing snapshot config) : Sound snapshot config := by
  refine ⟨h.scope, activeEpochValid_iff.mpr h.epoch, hashPairsValid_iff.mpr ⟨h.pairs, h.hashes⟩,
    chronologyValid_iff.mpr ⟨h.observed, ?_, ?_, ?_, ?_, h.acknowledged⟩,
      stateValid_iff.mpr h.state,
    by simpa [scalarValid] using h.scalar⟩
  · intro trade htrade
    obtain ⟨event, hevent, hle⟩ := h.traded trade htrade
    exact hle.trans (h.observed event hevent)
  · intro halt hhalt
    obtain ⟨event, hevent, hle⟩ := h.halted halt hhalt
    exact hle.trans (h.observed event hevent)
  · intro trade htrade event hevent
    obtain ⟨found, hfound, hle⟩ := h.traded trade htrade
    cases Option.mem_unique hfound hevent
    exact hle
  · intro halt hhalt event hevent
    obtain ⟨found, hfound, hle⟩ := h.halted halt hhalt
    cases Option.mem_unique hfound hevent
    exact hle

omit [Digest] in
theorem transitionCount_nonneg {count : Int} {C : Prop} [Decidable C] (h : 0 ≤ count) :
    0 ≤ (if C then count else count + 1) := by
  split <;> omega

/-- A changed snapshot has the scope of the one before it. -/
structure SameScope (previous changed : HaltAuthoritySnapshot) : Prop where
  configHash : changed.configHash = previous.configHash
  symbol : changed.symbol = previous.symbol
  feed : changed.feed = previous.feed
  sdkVersion : changed.sdkVersion = previous.sdkVersion
  codebookHash : changed.codebookHash = previous.codebookHash
  sessionDate : changed.sessionDate = previous.sessionDate
  sessionOpenAt : changed.sessionOpenAt = previous.sessionOpenAt
  sessionCloseAt : changed.sessionCloseAt = previous.sessionCloseAt

/-- A snapshot of the same scope with its own digest is in scope. -/
theorem crossScopeValid_of {changed : HaltAuthoritySnapshot}
    (hvalid : crossScopeValid previous config = true) (hsame : SameScope previous changed)
    (hdigest : changed.sourceHash = haltAuthoritySnapshotDigest changed) :
    crossScopeValid changed config = true := by
  simp only [crossScopeValid, Bool.and_eq_true, beq_iff_eq] at hvalid ⊢
  obtain ⟨⟨⟨⟨⟨⟨⟨⟨⟨-, hhash⟩, hsymbol⟩, hfeed⟩, hsdk⟩, -⟩, hcodebook⟩, hdate⟩, hopen⟩,
    hclose⟩ := hvalid
  exact ⟨⟨⟨⟨⟨⟨⟨⟨⟨hdigest, hsame.configHash.trans hhash⟩, hsame.symbol.trans hsymbol⟩,
    hsame.feed.trans hfeed⟩, hsame.sdkVersion.trans hsdk⟩, trivial⟩,
    hsame.codebookHash.trans hcodebook⟩, hsame.sessionDate.trans hdate⟩,
    (congrArg Datetime.instant hsame.sessionOpenAt).trans hopen⟩,
    (congrArg Datetime.instant hsame.sessionCloseAt).trans hclose⟩

omit [Digest] in
theorem isHash_of_mem_some {value : String} (h : isHash value = true) :
    ∀ hash ∈ some value, isHash hash = true := by
  intro hash hhash
  cases hhash
  exact h

/-- Closing the session keeps a standing snapshot, unless it takes the clock back before the last
message. -/
theorem Standing.sessionClosed (h : Standing previous config)
    (hlate : ∀ event ∈ previous.lastEventAt, event ≤ observedAt) :
    Standing (sessionClosed previous observedAt) config where
  scope := crossScopeValid_of h.scope ⟨rfl, rfl, rfl, rfl, rfl, rfl, rfl, rfl⟩ rfl
  epoch := .inl ⟨rfl, rfl⟩
  pairs := { h.pairs with halt := rfl }
  hashes := { h.hashes with halt := nofun }
  observed := hlate
  traded := h.traded
  halted := nofun
  acknowledged := nofun
  state := ⟨nofun, nofun, nofun⟩
  scalar := ⟨le_refl _, transitionCount_nonneg h.scalar.2⟩

omit [Digest] in
/-- A snapshot that fails closed is not open, and keeps the state of a latched halt. -/
theorem closedState_cases (previous : HaltAuthoritySnapshot) :
    closedState previous = .unknown ∨
    (closedState previous = .haltedLatched ∧ previous.state = .haltedLatched) ∨
    (closedState previous = .resumePending ∧ previous.state = .resumePending) := by
  unfold closedState
  cases previous.state <;> simp [HaltAuthorityState.isLatched]

omit [Digest] in
/-- The closed state of a snapshot fits, when the latched halt is kept and the last message is not
taken back. -/
theorem stateValid_closed (h : StateValid previous) (hstate : next.state = closedState previous)
    (hhalt : next.haltLatchedAt = previous.haltLatchedAt)
    (hlater : ∀ last ∈ previous.lastEventAt, ∃ event ∈ next.lastEventAt, last ≤ event) :
    StateValid next := by
  obtain hclosed | ⟨hclosed, hprevious⟩ | ⟨hclosed, hprevious⟩ := closedState_cases previous
  · rw [hclosed] at hstate
    exact ⟨by simp [hstate], by simp [hstate], by simp [hstate]⟩
  · rw [hclosed] at hstate
    refine ⟨by simp [hstate], fun _ => ?_, by simp [hstate]⟩
    rw [hhalt]
    exact h.2.1 hprevious
  · rw [hclosed] at hstate
    refine ⟨by simp [hstate], by simp [hstate], fun _ => ?_⟩
    obtain ⟨halt, hmem, last, hlast, hlt⟩ := h.2.2 hprevious
    obtain ⟨event, hevent, hle⟩ := hlater last hlast
    exact ⟨halt, hhalt ▸ hmem, event, hevent, lt_of_lt_of_le hlt hle⟩

/-- Failing closed keeps a standing snapshot, unless it takes the clock back before the last
message. -/
theorem Standing.failClosed (h : Standing previous config) {rejected : Option String}
    (hlate : ∀ event ∈ previous.lastEventAt, event ≤ observedAt)
    (hrejected : ∀ hash ∈ rejected, isHash hash = true) :
    Standing (failClosed previous observedAt rejected) config where
  scope := crossScopeValid_of h.scope ⟨rfl, rfl, rfl, rfl, rfl, rfl, rfl, rfl⟩ rfl
  epoch := .inl ⟨rfl, rfl⟩
  pairs := { h.pairs with }
  hashes := { h.hashes with
    rejected := by
      show ∀ hash ∈ (if rejected.isSome then rejected else previous.lastRejectedEventHash), _
      split
      · exact hrejected
      · exact h.hashes.rejected }
  observed := hlate
  traded := h.traded
  halted := h.halted
  acknowledged := nofun
  state := stateValid_closed h.state rfl rfl fun last hlast => ⟨last, hlast, le_refl last⟩
  scalar := ⟨le_refl _, transitionCount_nonneg h.scalar.2⟩

/-! ## Recorded messages -/

theorem eventValid_isHash (hvalid : eventValid event config observedAt = true) :
    isHash event.sourceHash = true := by
  rw [eventValid_sourceHash hvalid]
  exact Digest.authorityHash_isHash _

theorem eventValid_observed (hvalid : eventValid event config observedAt = true) :
    ∀ recorded ∈ some event.eventAt.instant, recorded ≤ observedAt := by
  rintro recorded ⟨⟩
  exact eventValid_eventAt hvalid

omit [Digest] in
/-- A message that is not a trade and continues its epoch is later than the last one. -/
theorem continuesEpoch_later (hcontinues : continuesEpoch previous event = true)
    (hkind : event.kind ≠ .trade) :
    ∀ last ∈ previous.lastEventAt, last < event.eventAt.instant := by
  intro last hlast
  simp only [continuesEpoch, Bool.and_eq_true, Option.all_eq_true] at hcontinues
  simpa [chronologyAcceptable, hkind] using hcontinues.2 last hlast

omit [Digest] in
/-- A message that continues its epoch finds it acknowledged. -/
theorem continuesEpoch_acknowledged (hcontinues : continuesEpoch previous event = true) :
    previous.epoch = some event.epoch ∧ event.sequence = previous.lastSequence + 1 ∧
      ∃ acknowledgedAt, previous.acknowledgedAt = some acknowledgedAt := by
  simp only [continuesEpoch, Bool.and_eq_true, beq_iff_eq] at hcontinues
  exact ⟨hcontinues.1.1.2, hcontinues.1.2, Option.isSome_iff_exists.mp hcontinues.1.1.1.2⟩

/-- The halt on record is before a later message. -/
theorem Standing.halted_before (h : Standing previous config) {time : Int}
    (hlater : ∀ last ∈ previous.lastEventAt, last < time) :
    ∀ halt ∈ previous.haltLatchedAt, ∃ event ∈ some time, halt ≤ event := by
  intro halt hhalt
  obtain ⟨last, hlast, hle⟩ := h.halted halt hhalt
  exact ⟨time, rfl, hle.trans (hlater last hlast).le⟩

/-- The trade on record is before a later message. -/
theorem Standing.traded_before (h : Standing previous config) {time : Int}
    (hlater : ∀ last ∈ previous.lastEventAt, last < time) :
    ∀ trade ∈ previous.lastTradeAt, ∃ event ∈ some time, trade ≤ event := by
  intro trade htrade
  obtain ⟨last, hlast, hle⟩ := h.traded trade htrade
  exact ⟨time, rfl, hle.trans (hlater last hlast).le⟩

/-- A message that continues its epoch and is later than the last one keeps the epoch valid. -/
theorem Standing.epoch_continued (h : Standing previous config)
    (hcontinues : continuesEpoch previous event = true)
    (hlater : ∀ acknowledgedAt ∈ previous.acknowledgedAt, acknowledgedAt ≤ event.eventAt.instant)
    (hacknowledged : next.acknowledgedAt = previous.acknowledgedAt)
    (hepoch : next.epoch = previous.epoch) (hevent : next.lastEventAt = some event.eventAt.instant)
    (hsequence : next.lastSequence = event.sequence) : EpochValid next := by
  obtain ⟨_, hnext, acknowledgedAt, hack⟩ := continuesEpoch_acknowledged hcontinues
  obtain ⟨hnone, _⟩ | ⟨_, _, epoch, _, _, hfound, hempty, hpositive, _⟩ := h.epoch
  · rw [hack] at hnone
    cases hnone
  · refine .inr ⟨acknowledgedAt, _, epoch, hacknowledged.trans hack, hevent, hepoch.trans hfound,
      hempty, ?_, hlater _ hack⟩
    omega

/-- An acknowledged epoch is not later than the last message, and so before a later one. -/
theorem Standing.acknowledged_before (h : Standing previous config) {time : Int}
    (hlater : ∀ last ∈ previous.lastEventAt, last < time) :
    ∀ acknowledgedAt ∈ previous.acknowledgedAt, acknowledgedAt ≤ time := by
  intro acknowledgedAt hack
  obtain ⟨hnone, _⟩ | ⟨found, last, _, hfound, hlast, _, _, _, hle⟩ := h.epoch
  · rw [hnone] at hack
    cases hack
  · cases Option.mem_unique hack hfound
    exact hle.trans (hlater last hlast).le

omit [Digest] in
theorem acknowledgesEpoch_later (hack : acknowledgesEpoch previous event = true) :
    ∀ last ∈ previous.lastEventAt, last < event.eventAt.instant := by
  simp only [acknowledgesEpoch, Bool.and_eq_true, Option.all_eq_true, decide_eq_true_eq] at hack
  exact hack.1.1.2

/-- An acknowledgement keeps a standing snapshot. -/
theorem Standing.acknowledge (h : Standing previous config)
    (hvalid : eventValid event config observedAt = true)
    (hack : acknowledgesEpoch previous event = true) :
    Standing (AlphaDecay.acknowledged previous event observedAt) config := by
  have hlater := acknowledgesEpoch_later hack
  have hsequence : event.sequence = 1 := by
    simp only [acknowledgesEpoch, Bool.and_eq_true, beq_iff_eq] at hack
    exact hack.1.1.1.1.2
  exact {
    scope := crossScopeValid_of h.scope ⟨rfl, rfl, rfl, rfl, rfl, rfl, rfl, rfl⟩ rfl
    epoch := .inr ⟨_, _, _, rfl, rfl, rfl, (eventValid_epoch hvalid).1, hsequence.ge, le_refl _⟩
    pairs := { h.pairs with trade := rfl, tradeId := rfl, event := rfl }
    hashes := { h.hashes with
      event := isHash_of_mem_some (eventValid_isHash hvalid)
      decisive := isHash_of_mem_some (eventValid_isHash hvalid)
      trade := nofun
      tradeId := nofun }
    observed := eventValid_observed hvalid
    traded := nofun
    halted := h.halted_before hlater
    acknowledged := nofun
    state := stateValid_closed h.state rfl rfl fun last hlast => ⟨_, rfl, (hlater last hlast).le⟩
    scalar := ⟨(eventValid_epoch hvalid).2.le, transitionCount_nonneg h.scalar.2⟩ }

/-- A message that breaks the stream keeps a standing snapshot. -/
theorem Standing.failure (h : Standing previous config)
    (hfollows : Follows previous event config observedAt) (hkind : event.kind ≠ .trade) :
    Standing (failureEvent previous event observedAt) config := by
  have hlater := continuesEpoch_later hfollows.continues hkind
  exact {
    scope := crossScopeValid_of h.scope ⟨rfl, rfl, rfl, rfl, rfl, rfl, rfl, rfl⟩ rfl
    epoch := .inl ⟨rfl, rfl⟩
    pairs := { h.pairs with event := rfl }
    hashes := { h.hashes with
      event := isHash_of_mem_some (eventValid_isHash hfollows.valid)
      decisive := isHash_of_mem_some (eventValid_isHash hfollows.valid) }
    observed := eventValid_observed hfollows.valid
    traded := h.traded_before hlater
    halted := h.halted_before hlater
    acknowledged := nofun
    state := stateValid_closed h.state rfl rfl fun last hlast => ⟨_, rfl, (hlater last hlast).le⟩
    scalar := ⟨le_refl _, transitionCount_nonneg h.scalar.2⟩ }

omit [Digest] in
/-- A snapshot with a latched halt has the halt on record. -/
theorem stateValid_latched (h : StateValid snapshot) (hlatched : snapshot.state.isLatched = true) :
    ∃ halt, snapshot.haltLatchedAt = some halt := by
  cases hstate : snapshot.state with
  | unknown => simp [hstate, HaltAuthorityState.isLatched] at hlatched
  | openConfirmed => simp [hstate, HaltAuthorityState.isLatched] at hlatched
  | haltedLatched => exact Option.isSome_iff_exists.mp (h.2.1 hstate)
  | resumePending =>
      obtain ⟨halt, hhalt, _⟩ := h.2.2 hstate
      exact ⟨halt, hhalt⟩

/-- A halt that is latched keeps a standing snapshot, and so does a resumption that is announced. -/
theorem Standing.announce (h : Standing previous config)
    (hfollows : Follows previous event config observedAt) (hkind : event.kind ≠ .trade)
    (meaning : HaltCodeMeaning) :
    Standing (announced previous event meaning observedAt) config := by
  have hlater := continuesEpoch_later hfollows.continues hkind
  have hepoch : EpochValid (announced previous event meaning observedAt) :=
    h.epoch_continued hfollows.continues (h.acknowledged_before hlater) rfl rfl rfl rfl
  cases meaning with
  | halt =>
      exact {
        scope := crossScopeValid_of h.scope ⟨rfl, rfl, rfl, rfl, rfl, rfl, rfl, rfl⟩ rfl
        epoch := hepoch
        pairs := { h.pairs with event := rfl, halt := rfl }
        hashes := { h.hashes with
          event := isHash_of_mem_some (eventValid_isHash hfollows.valid)
          decisive := isHash_of_mem_some (eventValid_isHash hfollows.valid)
          halt := isHash_of_mem_some (eventValid_isHash hfollows.valid) }
        observed := eventValid_observed hfollows.valid
        traded := h.traded_before hlater
        halted := by
          rintro halt ⟨⟩
          exact ⟨_, rfl, le_refl _⟩
        acknowledged := h.acknowledged
        state := ⟨nofun, fun _ => rfl, nofun⟩
        scalar := ⟨(eventValid_epoch hfollows.valid).2.le, transitionCount_nonneg h.scalar.2⟩ }
  | resume =>
      refine {
        scope := crossScopeValid_of h.scope ⟨rfl, rfl, rfl, rfl, rfl, rfl, rfl, rfl⟩ rfl
        epoch := hepoch
        pairs := { h.pairs with event := rfl }
        hashes := { h.hashes with
          event := isHash_of_mem_some (eventValid_isHash hfollows.valid)
          decisive := isHash_of_mem_some (eventValid_isHash hfollows.valid) }
        observed := eventValid_observed hfollows.valid
        traded := h.traded_before hlater
        halted := h.halted_before hlater
        acknowledged := h.acknowledged
        state := ?_
        scalar := ⟨(eventValid_epoch hfollows.valid).2.le, transitionCount_nonneg h.scalar.2⟩ }
      have hstate : (announced previous event .resume observedAt).state =
        if previous.state.isLatched then .resumePending else .unknown := rfl
      by_cases hlatched : previous.state.isLatched = true
      · rw [if_pos hlatched] at hstate
        obtain ⟨halt, hhalt⟩ := stateValid_latched h.state hlatched
        obtain ⟨last, hlast, hle⟩ := h.halted halt hhalt
        refine ⟨by simp [hstate], by simp [hstate], fun _ => ⟨halt, hhalt, _, rfl, ?_⟩⟩
        exact lt_of_le_of_lt hle (hlater last hlast)
      · rw [if_neg hlatched] at hstate
        exact ⟨by simp [hstate], by simp [hstate], by simp [hstate]⟩

omit [Digest] in
/-- A message that confirms nothing keeps the state, or the market is no longer known to be open. -/
theorem passiveState_cases (previous : HaltAuthoritySnapshot) (config : HaltAuthorityConfig)
    (observedAt : Int) :
    passiveState previous config observedAt = previous.state ∨
    passiveState previous config observedAt = .unknown := by
  unfold passiveState
  split
  · exact .inr rfl
  · exact .inl rfl

/-- A message that confirms nothing keeps a standing snapshot. -/
theorem Standing.pass (h : Standing previous config)
    (hfollows : Follows previous event config observedAt) (hkind : event.kind ≠ .trade) :
    Standing (transition previous (passiveState previous config observedAt)
      (recordEvent previous event observedAt)) config := by
  have hlater := continuesEpoch_later hfollows.continues hkind
  refine {
    scope := crossScopeValid_of h.scope ⟨rfl, rfl, rfl, rfl, rfl, rfl, rfl, rfl⟩ rfl
    epoch := h.epoch_continued hfollows.continues (h.acknowledged_before hlater) rfl rfl rfl rfl
    pairs := { h.pairs with event := rfl }
    hashes := { h.hashes with event := isHash_of_mem_some (eventValid_isHash hfollows.valid) }
    observed := eventValid_observed hfollows.valid
    traded := h.traded_before hlater
    halted := h.halted_before hlater
    acknowledged := h.acknowledged
    state := ?_
    scalar := ⟨(eventValid_epoch hfollows.valid).2.le, transitionCount_nonneg h.scalar.2⟩ }
  obtain hsame | hunknown := passiveState_cases previous config observedAt
  · rw [hsame]
    refine ⟨h.state.1, h.state.2.1, fun hpending => ?_⟩
    obtain ⟨halt, hhalt, last, hlast, hlt⟩ := h.state.2.2 hpending
    exact ⟨halt, hhalt, _, rfl, hlt.trans (hlater last hlast)⟩
  · rw [hunknown]
    exact ⟨nofun, nofun, nofun⟩

omit [Digest] in
/-- A valid trade has an identity and is later than the acknowledgement of its epoch. -/
theorem validTrade_facts (htrade : validTrade previous event config observedAt = true) :
    (∃ trade, event.tradeId = some trade ∧ isNonblankToken trade = true) ∧
    ∀ acknowledgedAt ∈ previous.acknowledgedAt, acknowledgedAt < event.eventAt.instant := by
  simp only [validTrade, Bool.and_eq_true, Option.any_eq_true] at htrade
  obtain ⟨⟨⟨⟨⟨htradeId, _⟩, _⟩, acknowledgedAt, hack, hlater⟩, _⟩, _⟩ := htrade
  refine ⟨htradeId, fun found hfound => ?_⟩
  cases Option.mem_unique hfound hack
  simpa using hlater

/-- A valid trade keeps a standing snapshot, unless it is older than a halt that stays latched. -/
theorem Standing.trade (h : Standing previous config)
    (hfollows : Follows previous event config observedAt)
    (htrade : validTrade previous event config observedAt = true)
    (hhalt : previous.state = .haltedLatched →
      ∀ halt ∈ previous.haltLatchedAt, halt ≤ event.eventAt.instant) :
    Standing (AlphaDecay.traded previous event observedAt) config := by
  obtain ⟨⟨trade, htradeId, htoken⟩, hacknowledged⟩ := validTrade_facts htrade
  obtain ⟨_, _, acknowledgedAt, hack⟩ := continuesEpoch_acknowledged hfollows.continues
  have hepoch : EpochValid (AlphaDecay.traded previous event observedAt) :=
    h.epoch_continued hfollows.continues (fun found hfound => (hacknowledged found hfound).le)
      rfl rfl rfl rfl
  have hscope : crossScopeValid (AlphaDecay.traded previous event observedAt) config = true :=
    crossScopeValid_of h.scope ⟨rfl, rfl, rfl, rfl, rfl, rfl, rfl, rfl⟩ rfl
  have hopens : (AlphaDecay.traded previous event observedAt).haltLatchedAt =
      if tradeState previous.state = .openConfirmed then none else previous.haltLatchedAt := rfl
  have hhash : (AlphaDecay.traded previous event observedAt).haltEventHash =
      if tradeState previous.state = .openConfirmed then none else previous.haltEventHash := rfl
  have hstate : (AlphaDecay.traded previous event observedAt).state = tradeState previous.state :=
    rfl
  refine {
    scope := hscope
    epoch := hepoch
    pairs := { trade := rfl, event := rfl, tradeId := ?_, halt := ?_ }
    hashes := {
      event := isHash_of_mem_some (eventValid_isHash hfollows.valid)
      decisive := isHash_of_mem_some (eventValid_isHash hfollows.valid)
      rejected := h.hashes.rejected
      trade := isHash_of_mem_some (eventValid_isHash hfollows.valid)
      halt := ?_
      tradeId := ?_ }
    observed := eventValid_observed hfollows.valid
    traded := ?_
    halted := ?_
    acknowledged := ?_
    state := ?_
    scalar := ⟨(eventValid_epoch hfollows.valid).2.le, transitionCount_nonneg h.scalar.2⟩ }
  · show false = event.tradeId.isNone
    rw [htradeId]
    rfl
  · rw [hopens, hhash]
    split
    · rfl
    · exact h.pairs.halt
  · rw [hhash]
    split
    · exact nofun
    · exact h.hashes.halt
  · show ∀ found ∈ event.tradeId, _
    rw [htradeId]
    rintro found ⟨⟩
    exact htoken
  · rintro time ⟨⟩
    exact ⟨_, rfl, le_refl _⟩
  · rw [hopens]
    split
    · exact nofun
    · rename_i hkept
      intro halt hmem
      refine ⟨_, rfl, hhalt ?_ halt hmem⟩
      -- only a latched halt is not opened by a trade
      cases hprevious : previous.state <;> simp_all [tradeState]
  · intro found hfound time htime
    cases htime
    exact hacknowledged found hfound
  · cases hprevious : previous.state with
    | haltedLatched =>
        rw [hprevious] at hstate hopens
        refine ⟨by simp [hstate, tradeState], fun _ => ?_, by simp [hstate, tradeState]⟩
        rw [hopens, if_neg (by simp [tradeState])]
        exact h.state.2.1 hprevious
    | unknown | resumePending | openConfirmed =>
        rw [hprevious] at hstate hopens
        refine ⟨fun _ => ⟨?_, rfl, ?_⟩, by simp [hstate, tradeState], by simp [hstate, tradeState]⟩
        · show previous.acknowledgedAt.isSome = true
          rw [hack]
          rfl
        · rw [hopens, if_pos (by simp [tradeState])]

/-! ## Runs -/

/-- A message is timely: an accepted trade is not older than a halt that stays latched, and any
other message is reduced at or after the time of the last one. -/
def timelyMessage (config : HaltAuthorityConfig) (previous : HaltAuthoritySnapshot)
    (event : HaltAuthorityEvent) (observedAt : Int) : Bool :=
  if acceptsTrade previous event config observedAt then
    previous.state != .haltedLatched ||
      notAfter previous.haltLatchedAt (some event.eventAt.instant)
  else notAfter previous.lastEventAt (some observedAt)

/-- A call is timely: it is a read, its time is refused, or its message is timely. -/
def isTimely (config : HaltAuthorityConfig) (previous : HaltAuthoritySnapshot) : HaltCall → Bool
  | .read _ => true
  | .reduce event _ readAt =>
      !readAt.isUtc || previous.observedAt - readAt.instant > readSkewTolerance ||
      timelyMessage config previous event readAt.instant

/-- A reduction of a standing snapshot keeps it standing when the message is timely. -/
theorem Standing.reduced (h : Standing previous config)
    (htimely : timelyMessage config previous event observedAt = true) :
    Standing (reduced previous event config codebook observedAt) config := by
  unfold timelyMessage at htimely
  by_cases haccepts : acceptsTrade previous event config observedAt = true
  · obtain ⟨hfollows, htrade, heq⟩ := reduced_of_acceptsTrade haccepts codebook
    rw [heq]
    refine h.trade hfollows htrade fun hstate halt hhalt => ?_
    rw [if_pos haccepts, hstate] at htimely
    exact notAfter_iff.mp (by simpa using htimely) halt hhalt _ rfl
  · rw [if_neg haccepts] at htimely
    have hlate : ∀ last ∈ previous.lastEventAt, last ≤ observedAt :=
      fun last hlast => notAfter_iff.mp htimely last hlast _ rfl
    have hreduction := reduced_reduction previous event config codebook observedAt
    generalize AlphaDecay.reduced previous event config codebook observedAt = next at hreduction ⊢
    cases hreduction with
    | closed houtside => exact h.sessionClosed hlate
    | failed rejected hrejected =>
        refine h.failClosed hlate fun hash hhash => ?_
        rw [hrejected hash hhash]
        exact Digest.authorityHash_isHash _
    | acknowledged hvalid hack => exact h.acknowledge hvalid hack
    | failure hfollows hkind =>
        exact h.failure hfollows fun htrade => by
          simp [htrade, HaltAuthorityEventKind.isFailure] at hkind
    | announced meaning hfollows hkind hmeaning =>
        exact h.announce hfollows (by simp [hkind]) meaning
    | traded hfollows hkind htrade =>
        exact absurd (by simp [acceptsTrade, hfollows.inside, hfollows.valid, hkind,
          hfollows.continues, htrade]) haccepts
    | passed hfollows hkind => exact h.pass hfollows hkind.2

/-- A reduction that leaves a sound snapshot had a timely message. -/
theorem timelyMessage_of_sound
    (hsound : Sound (reduced previous event config codebook observedAt) config) :
    timelyMessage config previous event observedAt = true := by
  obtain ⟨hobserved, _, _, _, hhalted, _⟩ := chronologyValid_iff.mp hsound.chronology
  unfold timelyMessage
  by_cases haccepts : acceptsTrade previous event config observedAt = true
  · obtain ⟨_, _, heq⟩ := reduced_of_acceptsTrade haccepts codebook
    rw [if_pos haccepts]
    by_cases hstate : previous.state = .haltedLatched
    case neg => simp [bne, hstate]
    rw [heq] at hhalted
    have hkept : (AlphaDecay.traded previous event observedAt).haltLatchedAt =
        previous.haltLatchedAt := by
      simp [traded, transition, withDigest, tradeState, hstate]
    rw [hkept] at hhalted
    have hnotAfter : notAfter previous.haltLatchedAt (some event.eventAt.instant) = true :=
      notAfter_iff.mpr hhalted
    simp [hnotAfter]
  · rw [if_neg haccepts, notAfter_iff]
    have hreduction := reduced_reduction previous event config codebook observedAt
    generalize AlphaDecay.reduced previous event config codebook observedAt = next
      at hreduction hobserved
    -- a recorded message is later than the last one, and not later than its reduction
    have hrecorded : ∀ {last : Int}, last < event.eventAt.instant →
        eventValid event config observedAt = true → ∀ time ∈ some observedAt, last ≤ time := by
      rintro last hlater hvalid time ⟨⟩
      exact hlater.le.trans (eventValid_eventAt hvalid)
    intro last hlast
    cases hreduction with
    | closed _ =>
        rintro time ⟨⟩
        exact hobserved last hlast
    | failed _ _ =>
        rintro time ⟨⟩
        exact hobserved last hlast
    | acknowledged hvalid hack =>
        exact hrecorded (acknowledgesEpoch_later hack last hlast) hvalid
    | failure hfollows hkind =>
        refine hrecorded (continuesEpoch_later hfollows.continues ?_ last hlast) hfollows.valid
        rintro htrade
        simp [htrade, HaltAuthorityEventKind.isFailure] at hkind
    | announced meaning hfollows hkind hmeaning =>
        exact hrecorded (continuesEpoch_later hfollows.continues (by simp [hkind]) last hlast)
          hfollows.valid
    | traded hfollows hkind htrade =>
        exact absurd (by simp [acceptsTrade, hfollows.inside, hfollows.valid, hkind,
          hfollows.continues, htrade]) haccepts
    | passed hfollows hkind =>
        exact hrecorded (continuesEpoch_later hfollows.continues hkind.2 last hlast) hfollows.valid

/-- A read keeps a standing snapshot: it never takes the clock back. -/
theorem Standing.reread (h : Standing previous config) (hlater : previous.observedAt ≤ observedAt) :
    Standing (reread previous config observedAt) config := by
  have hlate : ∀ last ∈ previous.lastEventAt, last ≤ observedAt :=
    fun last hlast => (h.observed last hlast).trans hlater
  have hreading := reread_rereading previous config observedAt
  generalize AlphaDecay.reread previous config observedAt = next at hreading ⊢
  cases hreading with
  | closed houtside => exact h.sessionClosed hlate
  | kept =>
      exact {
        scope := crossScopeValid_of h.scope ⟨rfl, rfl, rfl, rfl, rfl, rfl, rfl, rfl⟩ rfl
        epoch := h.epoch
        pairs := { h.pairs with }
        hashes := { h.hashes with }
        observed := hlate
        traded := h.traded
        halted := h.halted
        acknowledged := h.acknowledged
        state := h.state
        scalar := h.scalar }
  | stale hlatched =>
      exact {
        scope := crossScopeValid_of h.scope ⟨rfl, rfl, rfl, rfl, rfl, rfl, rfl, rfl⟩ rfl
        epoch := h.epoch
        pairs := { h.pairs with }
        hashes := { h.hashes with }
        observed := hlate
        traded := h.traded
        halted := h.halted
        acknowledged := h.acknowledged
        state := ⟨nofun, nofun, nofun⟩
        scalar := ⟨h.scalar.1, transitionCount_nonneg h.scalar.2⟩ }

/-- The first snapshot of an authority stands, and its configuration is valid. -/
theorem initialHaltAuthority_standing {readAt : Datetime}
    (h : initialHaltAuthority config readAt = .ok snapshot) :
    validateConfig config = .ok () ∧ Standing snapshot config := by
  rw [initialHaltAuthority, check_bind_ok] at h
  obtain ⟨hconfig, h⟩ := h
  obtain ⟨observedAt, _, h⟩ := bind_ok.mp h
  cases h
  refine ⟨hconfig, ?_⟩
  exact {
    scope := by simp [crossScopeValid, firstSnapshot, withDigest, haltAuthoritySnapshotDigest]
    epoch := .inl ⟨rfl, rfl⟩
    pairs := ⟨rfl, rfl, rfl, rfl⟩
    hashes := by refine ⟨?_, ?_, ?_, ?_, ?_, ?_⟩ <;> rintro _ ⟨⟩
    observed := by rintro _ ⟨⟩
    traded := by rintro _ ⟨⟩
    halted := by rintro _ ⟨⟩
    acknowledged := by rintro _ ⟨⟩
    state := by refine ⟨?_, ?_, ?_⟩ <;> rintro ⟨⟩
    scalar := ⟨le_refl _, le_refl _⟩ }

/-- A call on a standing snapshot leaves a sound one exactly when it is timely, and then it leaves
a standing one. -/
theorem Standing.execute (hconfig : validateConfig config = .ok ()) (h : Standing previous config)
    (call : HaltCall) :
    (isTimely config previous call = true → Standing (call.execute config previous) config) ∧
    (Sound (call.execute config previous) config → isTimely config previous call = true) := by
  cases call with
  | read readAt =>
      refine ⟨fun _ => ?_, fun _ => rfl⟩
      simp only [HaltCall.execute, HaltCall.result]
      split
      · rename_i next hnext
        obtain ⟨_, _, _, _, rfl⟩ := readHaltAuthority_ok.mp hnext
        exact h.reread (le_max_right _ _)
      · exact h
  | reduce event codebook readAt =>
      by_cases haccepted : readAt.isUtc = true ∧
          previous.observedAt - readAt.instant ≤ readSkewTolerance
      · have hresult : reduceHaltAuthority previous event config codebook readAt =
            .ok (AlphaDecay.reduced previous event config codebook readAt.instant) :=
          reduceHaltAuthority_ok.mpr ⟨hconfig, validatePrevious_ok.mpr h.sound, haccepted.1,
            haccepted.2, rfl⟩
        have htimely : isTimely config previous (.reduce event codebook readAt) =
            timelyMessage config previous event readAt.instant := by
          simp [isTimely, haccepted.1, haccepted.2]
        simp only [HaltCall.execute, HaltCall.result, hresult, htimely]
        exact ⟨h.reduced, timelyMessage_of_sound⟩
      · have hrefused : HaltCall.execute (.reduce event codebook readAt) config previous =
            previous := by
          simp only [HaltCall.execute, HaltCall.result]
          split
          · rename_i next hnext
            obtain ⟨_, _, hutc, hskew, _⟩ := reduceHaltAuthority_ok.mp hnext
            exact absurd ⟨hutc, hskew⟩ haccepted
          · rfl
        refine ⟨fun _ => by rwa [hrefused], fun _ => ?_⟩
        by_cases hutc : readAt.isUtc = true
        · have hskew : previous.observedAt - readAt.instant > readSkewTolerance := by
            by_contra hle
            exact haccepted ⟨hutc, by omega⟩
          simp [isTimely, hskew]
        · simp [isTimely, hutc]

/-- A snapshot that does not pass its checks is refused by every call. -/
theorem result_of_refused (hconfig : validateConfig config = .ok ()) {failure : Failure}
    (h : validatePrevious snapshot config = .error failure) (call : HaltCall) :
    call.result config snapshot = .error failure := by
  cases call with
  | read readAt =>
      simp only [HaltCall.result, readHaltAuthority, hconfig, h, ok_bind]
      rfl
  | reduce event codebook readAt =>
      simp only [HaltCall.result, reduceHaltAuthority, hconfig, h, ok_bind]
      rfl

/-- A call on a sound snapshot does not refuse it. -/
theorem result_of_sound (hconfig : validateConfig config = .ok ()) (h : Sound snapshot config)
    (call : HaltCall) : call.result config snapshot ≠ .error (.value "HALT_PREVIOUS_INVALID") := by
  have hprevious := validatePrevious_ok.mpr h
  cases call with
  | read readAt =>
      simp only [HaltCall.result, readHaltAuthority, hconfig, hprevious, ok_bind, Datetime.toUtc,
        validateReadTime, raiseIf]
      split
      · simp only [ok_bind]
        split
        · simp [bind, Except.bind]
        · simp [bind, Except.bind, pure, Except.pure]
      · simp [bind, Except.bind]
  | reduce event codebook readAt =>
      simp only [HaltCall.result, reduceHaltAuthority, hconfig, hprevious, ok_bind, Datetime.toUtc,
        validateReadTime, raiseIf]
      split
      · simp only [ok_bind]
        split
        · simp [bind, Except.bind]
        · simp [bind, Except.bind, pure, Except.pure]
      · simp [bind, Except.bind]

/-- While every call is timely, the authority accepts every snapshot it produces, so that no later
call refuses the one on record, and a call that is not timely leaves one that is refused. -/
theorem haltSnapshots_valid (config : HaltAuthorityConfig) (snapshot : HaltAuthoritySnapshot)
    (hreach : ((haltAuthority config).restrict fun previous call =>
      isTimely config previous call = true).Reachable snapshot) :
    validatePrevious snapshot config = .ok () ∧
    (∀ call : HaltCall,
      call.result config snapshot ≠ .error (.value "HALT_PREVIOUS_INVALID")) ∧
    ∀ call : HaltCall, validatePrevious (call.execute config snapshot) config = .ok () ↔
      isTimely config snapshot call = true := by
  have hstanding : validateConfig config = .ok () ∧ Standing snapshot config := by
    refine System.Reachable.invariant (P := fun snapshot =>
      validateConfig config = .ok () ∧ Standing snapshot config) ?_ ?_ hreach
    · rintro state ⟨readAt, hinitial⟩
      exact initialHaltAuthority_standing hinitial
    · rintro state call next ⟨hconfig, hstate⟩ ⟨htimely, rfl⟩
      exact ⟨hconfig, (hstate.execute hconfig call).1 htimely⟩
  obtain ⟨hconfig, hstanding⟩ := hstanding
  refine ⟨validatePrevious_ok.mpr hstanding.sound, result_of_sound hconfig hstanding.sound,
    fun call => ?_⟩
  obtain ⟨hkeeps, htimely⟩ := hstanding.execute hconfig call
  exact ⟨fun hvalid => htimely (validatePrevious_ok.mp hvalid),
    fun h => validatePrevious_ok.mpr (hkeeps h).sound⟩

end

/-! ## The rehearsed session -/

section Rehearsed

open HaltRehearsal

/-- A quote that does not continue the epoch, reduced five seconds before the last message. -/
def lateQuote : HaltCall :=
  reduceAt (message .quote 3 4 none none) 5

/-- In the rehearsal a message is refused at a time before the last message. The clock goes back by
less than its tolerance, and every later call refuses the snapshot. -/
theorem haltSnapshot_refused :
    ∃ snapshot, ((haltAuthority config).restrict fun previous call =>
        decide (previous.observedAt - call.readAt.instant ≤ readSkewTolerance)).Reachable snapshot ∧
      ∀ call : HaltCall,
        call.result config snapshot = .error (.value "HALT_PREVIOUS_INVALID") := by
  refine ⟨afterCalls config opening [acknowledgement, lateQuote],
    ⟨_, _, opening_initial, run_of_calls (by decide +kernel)⟩, result_of_refused ?_ ?_⟩
  · exact (initialHaltAuthority_standing opening_ok).1
  · decide +kernel

/-- In the rehearsal a trade opens the market and a read follows: every call is timely. -/
theorem haltSnapshots_valid_rehearsed :
    validatePrevious (afterCalls config opening [acknowledgement, firstTrade, readLater]) config =
        .ok () ∧
      ¬ validatePrevious (lateQuote.execute config
        (afterCalls config opening [acknowledgement, firstTrade, readLater])) config = .ok () := by
  have hvalid := haltSnapshots_valid config
    (afterCalls config opening [acknowledgement, firstTrade, readLater])
    ⟨_, _, opening_initial, run_of_calls (by decide +kernel)⟩
  refine ⟨hvalid.1, fun h => ?_⟩
  have hlate : isTimely config (afterCalls config opening [acknowledgement, firstTrade, readLater])
      lateQuote = false := by decide +kernel
  rw [(hvalid.2.2 lateQuote).mp h] at hlate
  cases hlate

end Rehearsed

end AlphaDecay
