import AlphaDecay.Services.HaltStreamInvariant

/-!
# Recovery of the halt stream

A connection that was opened waits for the answer to its subscription, and trades may arrive before
it. A trade that the adapter has seen leaves it waiting. A new one takes the number of the answer,
which is then refused, and the epoch stays unacknowledged until the next connection. Without new
trades the answer acknowledges the epoch, and the next fresh trade confirms an open market.
-/

namespace AlphaDecay

open Foundation

namespace OpportunityHaltStream

section Recovery

variable [Digest] {settings : Settings} {adapter : AlpacaOpportunityHaltStreamAdapter}
variable {epoch : String} {value : Option Trade} {timestamp : Datetime}
  {start : HaltAuthoritySnapshot}

variable {since received : Int} {tradeId : String} {previous : HaltAuthoritySnapshot}
  {trades : List (Option Trade)}

/-! ## Trades before the answer -/

/-- A value is a trade of the symbol, in UTC, whose identity the adapter has not seen. -/
def isNewTrade (settings : Settings) (adapter : AlpacaOpportunityHaltStreamAdapter)
    (value : Option Trade) : Bool :=
  (tradeOf settings value).any fun (tradeId, timestamp) =>
    !adapter.seenTradeIds.contains tradeId && timestamp.isUtc

/-- The adapter after trades were delivered in order. -/
def deliver (settings : Settings) (trades : List (Option Trade))
    (adapter : AlpacaOpportunityHaltStreamAdapter) : AlpacaOpportunityHaltStreamAdapter :=
  trades.foldl (fun adapter value => (onTrade settings value adapter).2) adapter

theorem failure_broken (h : Broken adapter) (kind : HaltAuthorityEventKind) (time : Option Int) :
    failure settings kind time adapter = (.ok (), adapter) := by
  show (if hasContinuity adapter then _ else (pure () : Step Unit)) adapter = _
  rw [if_neg (by simp [h.hasContinuity])]
  rfl

omit [Digest] in
theorem printedBefore_broken (h : Broken adapter) (timestamp : Datetime) :
    printedBefore adapter.snapshot timestamp = .ok false := by
  have hnone : adapter.snapshot.acknowledgedAt = none := h
  rw [printedBefore, hnone]

theorem onTrade_running (hrunning : isStopped adapter = false) (value : Option Trade) :
    onTrade settings value adapter = contained settings (takeTrade settings value) adapter := by
  show (if isStopped adapter then (pure () : Step Unit) else _) adapter = _
  rw [if_neg (by simp [hrunning])]

/-- A callback runs with the next reading of a regular clock. -/
theorem contained_regular (hclock : Regular adapter.readings) (callback : Int → Step Unit) :
    contained settings callback adapter =
      (callback (adapter.readings 0).instant).handle
        (safeFailure settings .malformed (some (adapter.readings 0).instant))
        (afterReading adapter) := by
  have hattempt : now.attempt adapter =
      (.ok (some (adapter.readings 0).instant), afterReading adapter) := by
    unfold Action.attempt
    rw [now_of_regular hclock]
  exact Action.bind_of_ok hattempt

theorem failure_stays (h : Broken adapter) (kind : HaltAuthorityEventKind) (time : Option Int) :
    (failure settings kind time).Keeps fun state => state = adapter := by
  rintro state rfl
  rw [failure_broken h]

/-- A trade that is not new leaves an adapter without an acknowledged epoch as it is. -/
theorem takeTrade_stays (h : Broken adapter) (hold : isNewTrade settings adapter value = false)
    (received : Int) : (takeTrade settings value received).Keeps fun state => state = adapter := by
  refine .read_bind ?_
  rintro state rfl
  unfold isNewTrade at hold
  cases htrade : tradeOf settings value with
  | none => exact failure_stays h .malformed (some received)
  | some trade =>
      rw [htrade] at hold
      refine .ite (fun _ => failure_stays h .malformed (some received)) fun hseen => ?_
      -- a trade with a new identity is not in UTC here, and its timestamp is refused
      have hunseen : trade.1 ∉ state.seenTradeIds := by simpa using hseen
      have hlocal : trade.2.isUtc = false := by simpa [hunseen] using hold
      have hutc : strictUtc trade.2 = .error (.runtime "HALT_STREAM_TIME_INVALID") := by
        rw [strictUtc, if_neg (by simp [hlocal])]
      refine .read_bind ?_
      rintro state rfl
      rw [printedBefore_broken h]
      unfold sendTrade
      rw [hutc]
      exact fun _ hstate => hstate

/-- A trade that is not new leaves an adapter that waits for its answer as it is, but for the time
that was read. -/
theorem onTrade_old (hclock : Regular adapter.readings) (hbroken : Broken adapter)
    (hrunning : isStopped adapter = false) (hold : isNewTrade settings adapter value = false) :
    (onTrade settings value adapter).2 = afterReading adapter := by
  rw [onTrade_running hrunning, contained_regular hclock]
  have hhere : Broken (afterReading adapter) := hbroken
  exact ((takeTrade_stays hhere hold _).handle
    (failure_stays hhere .malformed (some _)).suppress).left rfl

/-! ## New trades before the answer -/

/-- A connection whose epoch can no longer be acknowledged: a message took its first number. -/
def Spoiled (adapter : AlpacaOpportunityHaltStreamAdapter) : Prop :=
  Broken adapter ∧ 0 < adapter.sequence

/-- Only an acknowledgement acknowledges an epoch. -/
theorem reduced_broken {event : HaltAuthorityEvent} (h : previous.acknowledgedAt = none)
    (hkind : event.kind ≠ .epochAck) (observedAt : Int) :
    (reduced previous event settings.config settings.codebook observedAt).acknowledgedAt =
      none := by
  have hcontinues : continuesEpoch previous event = false := by simp [continuesEpoch, h]
  unfold reduced
  split
  · rfl
  split
  · rfl
  rw [if_pos (by simp [hcontinues])]
  rfl

/-- Any other message takes the number of the acknowledgement of an epoch. -/
theorem record_spoils {kind : HaltAuthorityEventKind} (hkind : kind ≠ .epochAck) (epoch : String)
    (eventAt received : Int) (statusCode tradeId : Option String) :
    (record settings epoch kind eventAt received statusCode tradeId).Ensures Broken
      (fun _ => Spoiled) Spoiled := by
  intro adapter h
  rw [record_result]
  cases hresult : reduceHaltAuthority adapter.snapshot
    (envelope settings epoch (adapter.sequence + 1) kind eventAt received statusCode tradeId)
    settings.config settings.codebook ⟨received, true⟩ with
  | error failure => exact ⟨h, Nat.succ_pos _⟩
  | ok updated =>
      obtain ⟨due, timer, heq⟩ := setSnapshot_fields settings
        { adapter with sequence := adapter.sequence + 1 } updated
      simp only [heq]
      obtain ⟨-, -, -, -, rfl⟩ := reduceHaltAuthority_ok.mp hresult
      exact ⟨reduced_broken h hkind received, Nat.succ_pos _⟩

/-- A trade that is sent spoils the epoch of a connection that waits for its acknowledgement. -/
theorem emit_spoils {P : AlpacaOpportunityHaltStreamAdapter → Prop}
    (hbroken : ∀ state, P state → Broken state)
    (hnone : ∀ state, P state → state.epoch = none → Spoiled state) (eventAt received : Int)
    (tradeId : Option String) :
    (emit settings .trade eventAt (some received) none tradeId).Ensures P (fun _ => Spoiled)
      Spoiled := by
  refine .read_bind fun adapter h => ?_
  cases hepoch : adapter.epoch with
  | none =>
      refine .pure ?_
      rintro _ rfl
      exact hnone _ h hepoch
  | some epoch =>
      refine .pure_bind ((record_spoils (by decide) epoch eventAt received none tradeId).weaken ?_
        (fun _ _ h => h) fun _ h => h)
      rintro _ rfl
      exact hbroken _ h

/-- A new trade that is sent spoils the epoch. -/
theorem sendTrade_spoils (hutc : timestamp.isUtc = true) (received : Int) (tradeId : String) :
    (sendTrade settings received tradeId timestamp).Ensures
      (fun adapter => Broken adapter ∧ adapter.epoch.isSome = true) (fun _ => Spoiled) Spoiled := by
  have htime : strictUtc timestamp = .ok timestamp.instant := strictUtc_ok.mpr ⟨hutc, rfl⟩
  unfold sendTrade
  rw [htime]
  refine .bind (Q := fun _ adapter => Broken adapter ∧ adapter.epoch.isSome = true)
    (.check (fun _ _ _ h => h) nofun) fun eventAt => ?_
  refine .bind (emit_spoils (fun _ h => h.1) ?_ eventAt received (some tradeId)) fun _ =>
    .write fun _ h => h
  rintro state ⟨-, hsome⟩ hnone
  rw [hnone] at hsome
  cases hsome

theorem spoiled_failure (kind : HaltAuthorityEventKind) (time : Option Int) :
    (failure settings kind time).Keeps Spoiled := by
  intro adapter h
  rw [failure_broken h.1]
  exact h

/-- A new trade spoils an epoch that waits for its acknowledgement. -/
theorem onTrade_new (hclock : Regular adapter.readings) (hbroken : Broken adapter)
    (hepoch : adapter.epoch.isSome = true) (hrunning : isStopped adapter = false)
    (hnew : isNewTrade settings adapter value = true) :
    Spoiled (onTrade settings value adapter).2 := by
  rw [onTrade_running hrunning, contained_regular hclock]
  cases htrade : tradeOf settings value with
  | none => simp [isNewTrade, htrade] at hnew
  | some trade =>
      have hfacts : trade.1 ∉ adapter.seenTradeIds ∧ trade.2.isUtc = true := by
        simpa [isNewTrade, htrade] using hnew
      have htake : (takeTrade settings value (adapter.readings 0).instant).Ensures
          (fun state => state = afterReading adapter) (fun _ => Spoiled) Spoiled := by
        refine .read_bind ?_
        rintro state rfl
        rw [htrade]
        refine .ite (fun hseen => ?_) fun _ => ?_
        · exact absurd (List.contains_iff_mem.mp hseen) hfacts.1
        refine .read_bind ?_
        rintro state rfl
        have hhere : Broken (afterReading adapter) := hbroken
        rw [printedBefore_broken hhere]
        refine (sendTrade_spoils hfacts.2 _ trade.1).weaken ?_ (fun _ _ h => h) fun _ h => h
        rintro _ rfl
        exact ⟨hbroken, hepoch⟩
      exact (htake.handle (spoiled_failure .malformed (some _)).suppress).left rfl

/-- Every trade that is taken later leaves a spoiled epoch spoiled. -/
theorem takeTrade_spoiled (value : Option Trade) (received : Int) :
    (takeTrade settings value received).Keeps Spoiled := by
  have hfailure : (failure settings .malformed (some received)).Keeps Spoiled :=
    spoiled_failure .malformed (some received)
  refine Action.Keeps.read_bind fun adapter _ => ?_
  cases tradeOf settings value with
  | none => exact hfailure
  | some trade =>
      refine .ite (fun _ => hfailure) fun _ => Action.Keeps.read_bind fun _ _ => ?_
      refine .bind (.check _) fun skipped => .ite (fun _ => .write fun _ h => h) fun _ => ?_
      refine .bind (.check _) fun eventAt => ?_
      refine .bind (emit_spoils (fun _ h => h.1) (fun _ h _ => h) eventAt received _) fun _ => ?_
      exact .write fun _ h => h

/-- Every later trade leaves a spoiled epoch spoiled. -/
theorem onTrade_spoiled (value : Option Trade) : (onTrade settings value).Keeps Spoiled := by
  refine Action.Keeps.read_bind fun adapter _ => .ite (fun _ => .pure ()) fun _ => ?_
  have hnow : now.Keeps Spoiled := now_frame fun _ h => h
  refine Action.Ensures.bind hnow.attempt fun received => ?_
  cases received with
  | none => exact (spoiled_failure .malformed none).suppress
  | some received =>
      exact Action.Keeps.handle (takeTrade_spoiled value received)
        (spoiled_failure .malformed (some received)).suppress

/-- The answer to the subscription of a spoiled epoch does not acknowledge it. -/
theorem subscriptionMessage_spoiled (message : Json) :
    (subscriptionMessage settings message).Ensures Spoiled (fun _ => Broken) Broken := by
  have hreject : ∀ kind, (rejectSubscription settings kind).Keeps Broken := by
    intro kind
    refine .bind ?_ fun _ => .bind (now_frame fun _ h => h) fun observedAt => ?_
    · intro adapter h
      rw [failure_broken h]
      exact h
    refine .bind (.write fun adapter h => ?_) fun _ => .write fun adapter h => ?_
    · obtain ⟨due, timer, heq⟩ := armRecovery_fields settings adapter observedAt
      rw [heq]
      exact h
    · unfold resolveStartupFailure
      split
      · exact h
      · exact h
  refine .read_bind fun adapter h => ?_
  have hhere : ∀ state, state = adapter → Broken state := by
    rintro _ rfl
    exact h.1
  refine .ite (fun _ => .pure hhere) fun _ => .ite (fun _ => ?_) fun _ => .ite (fun _ => ?_) ?_
  · exact (hreject .malformed).weaken hhere (fun _ _ h => h) fun _ h => h
  · exact (hreject .gap).weaken hhere (fun _ _ h => h) fun _ h => h
  · intro hfirst
    have hnumbered := h.2
    simp only [Bool.or_eq_true, bne_iff_ne, not_or, not_not] at hfirst
    omega

/-! ## All trades before the answer -/

theorem Opened.afterReading (h : Opened settings adapter) :
    Opened settings (afterReading adapter) :=
  ⟨h.tracks.afterReading, h.broken, h.epoch, h.sequence⟩

/-- A connection waits for its answer as it was opened: the snapshot and the epoch are the same. -/
structure Waits (settings : Settings) (start delivered : AlpacaOpportunityHaltStreamAdapter) :
    Prop where
  opened : Opened settings delivered
  running : isStopped delivered = false
  snapshot : delivered.snapshot = start.snapshot
  epoch : delivered.epoch = start.epoch

/-- Trades that are not new leave a connection waiting for its answer. -/
theorem deliver_old (hopened : Opened settings adapter) (hrunning : isStopped adapter = false)
    (hold : ∀ value ∈ trades, isNewTrade settings adapter value = false) :
    Waits settings adapter (deliver settings trades adapter) := by
  induction trades generalizing adapter with
  | nil => exact ⟨hopened, hrunning, rfl, rfl⟩
  | cons value trades ih =>
      have hstep := onTrade_old hopened.tracks.clock hopened.broken hrunning
        (hold value List.mem_cons_self)
      have hrest := ih hopened.afterReading hrunning fun value hvalue =>
        hold value (List.mem_cons_of_mem _ hvalue)
      show Waits settings adapter (deliver settings trades (onTrade settings value adapter).2)
      rw [hstep]
      exact ⟨hrest.opened, hrest.running, hrest.snapshot, hrest.epoch⟩

theorem deliver_spoiled (h : Spoiled adapter) (trades : List (Option Trade)) :
    Spoiled (deliver settings trades adapter) := by
  induction trades generalizing adapter with
  | nil => exact h
  | cons value trades ih => exact ih ((onTrade_spoiled value).left h)

/-- One new trade spoils the epoch of a connection that waits for its answer. -/
theorem deliver_new (hopened : Opened settings adapter) (hrunning : isStopped adapter = false)
    (hnew : ∃ value ∈ trades, isNewTrade settings adapter value = true) :
    Spoiled (deliver settings trades adapter) := by
  induction trades generalizing adapter with
  | nil =>
      obtain ⟨value, hvalue, -⟩ := hnew
      cases hvalue
  | cons value trades ih =>
      show Spoiled (deliver settings trades (onTrade settings value adapter).2)
      by_cases hfirst : isNewTrade settings adapter value = true
      · obtain ⟨epoch, hepoch, -⟩ := hopened.epoch
        exact deliver_spoiled (onTrade_new hopened.tracks.clock hopened.broken (by simp [hepoch])
          hrunning hfirst) trades
      · rw [onTrade_old hopened.tracks.clock hopened.broken hrunning (by simpa using hfirst)]
        obtain ⟨later, hlater, hisNew⟩ := hnew
        refine ih hopened.afterReading hrunning ⟨later, ?_, hisNew⟩
        cases hlater with
        | head => exact absurd hisNew hfirst
        | tail _ hrest => exact hrest

/-! ## The answer -/

omit [Digest] in
/-- The text of an integer is a token. -/
theorem isNonblankToken_intText (n : Nat) : isNonblankToken (intText n) = true := by
  have hall : ∀ digit : Fin 10, isSpace (Text.digitChar digit) = false := by decide
  have hdigit : ∀ c ∈ Text.natDigits n, isSpace c = false := by
    intro c hc
    obtain ⟨digit, hlt, rfl⟩ := Text.mem_natDigits hc
    exact hall ⟨digit, hlt⟩
  have hlist : (intText n).toList = Text.natDigits n := String.toList_ofList
  have hhead : (Text.natDigits n).head?.any isSpace = false := by
    cases hfirst : (Text.natDigits n).head? with
    | none => rfl
    | some c => exact hdigit c (List.mem_of_head? hfirst)
  have hlast : (Text.natDigits n).getLast?.any isSpace = false := by
    cases hend : (Text.natDigits n).getLast? with
    | none => rfl
    | some c => exact hdigit c (List.mem_of_getLast? hend)
  have hnonempty : (intText n).isEmpty = false := by
    rw [← Bool.not_eq_true, String.isEmpty_iff]
    intro hempty
    rw [hempty] at hlist
    exact Text.natDigits_ne_nil n hlist.symm
  rw [isNonblankToken, hnonempty, isStripped, hlist, hhead, hlast]
  rfl

/-- A message in the envelope of the adapter holds when it happened inside the session and not
after it was received. -/
theorem envelope_valid (htoken : isNonblankToken epoch = true) {sequence : Nat}
    (hsequence : 0 < sequence) {eventAt : Int}
    (hinside : insideSession settings.config eventAt = true) (hreceived : eventAt ≤ received)
    (kind : HaltAuthorityEventKind) (statusCode tradeId : Option String) :
    eventValid (envelope settings epoch sequence kind eventAt received statusCode tradeId)
      settings.config received = true := by
  simp only [insideSession, Bool.and_eq_true, decide_eq_true_eq] at hinside
  have hdigest : (envelope settings epoch sequence kind eventAt received statusCode
      tradeId).sourceHash = haltAuthorityEventDigest
        (envelope settings epoch sequence kind eventAt received statusCode tradeId) := rfl
  simp only [eventValid, hdigest, Bool.and_eq_true, decide_eq_true_eq, beq_iff_eq]
  refine ⟨⟨⟨⟨⟨⟨⟨⟨⟨rfl, rfl⟩, rfl⟩, htoken⟩, ?_⟩, hinside.1⟩, hinside.2⟩, hreceived⟩, le_refl _⟩,
    trivial⟩
  exact Int.natCast_pos.mpr hsequence

/-- An acknowledgement that holds acknowledges its epoch. -/
theorem reduced_acknowledged {event : HaltAuthorityEvent} {observedAt : Int}
    (hinside : insideSession settings.config observedAt = true)
    (hvalid : eventValid event settings.config observedAt = true) (hkind : event.kind = .epochAck)
    (hack : acknowledgesEpoch previous event = true) :
    reduced previous event settings.config settings.codebook observedAt =
      acknowledged previous event observedAt := by
  simp [reduced, acknowledgeEpoch, hinside, hvalid, hkind, hack]

/-- A message without a time of its own is received now. -/
theorem emit_now (hclock : Regular adapter.readings) (hepoch : adapter.epoch = some epoch)
    (kind : HaltAuthorityEventKind) (eventAt : Int) (statusCode tradeId : Option String) :
    emit settings kind eventAt none statusCode tradeId adapter =
      record settings epoch kind eventAt (adapter.readings 0).instant statusCode tradeId
        (afterReading adapter) := by
  have hread : given none adapter = (.ok (adapter.readings 0).instant, afterReading adapter) :=
    now_of_regular hclock
  obtain ⟨⟩ := adapter
  cases hepoch
  exact Action.bind_of_ok hread

/-- The answer to a subscription acknowledges the epoch of a connection that waits for it. -/
structure Answered (settings : Settings) (start : HaltAuthoritySnapshot) (since : Int)
    (left : AlpacaOpportunityHaltStreamAdapter) : Prop where
  config : validateConfig settings.config = .ok ()
  standing : Standing left.snapshot settings.config
  clock : Regular left.readings
  running : isStopped left = false
  epoch : ∃ epoch, left.epoch = some epoch ∧ left.snapshot.epoch = some epoch ∧
    isNonblankToken epoch = true
  inside : insideSession settings.config since = true
  acknowledged : left.snapshot.acknowledgedAt = some since
  event : left.snapshot.lastEventAt = some since
  trade : left.snapshot.lastTradeAt = none ∧ left.snapshot.lastTradeId = none
  sequence : left.sequence = 1 ∧ left.snapshot.lastSequence = 1
  observed : left.snapshot.observedAt ≤ (left.readings 0).instant
  state : left.snapshot.state = closedState start

/-- The clock of an adapter is later than everything on record, inside the session. -/
def laterClock (settings : Settings) (adapter : AlpacaOpportunityHaltStreamAdapter) : Bool :=
  adapter.snapshot.observedAt < (adapter.readings 0).instant &&
  insideSession settings.config (adapter.readings 0).instant &&
  insideSession settings.config (adapter.readings 1).instant

/-- The acknowledgement of a connection that waits for it is accepted. -/
theorem Opened.acknowledges (h : Opened settings adapter)
    (hlater : laterClock settings adapter = true) (hepoch : adapter.epoch = some epoch) :
    let event := envelope settings epoch 1 .epochAck (adapter.readings 0).instant
      (adapter.readings 1).instant none none
    let received := (adapter.readings 1).instant
    eventValid event settings.config received = true ∧
    acknowledgesEpoch adapter.snapshot event = true ∧
    reduceHaltAuthority adapter.snapshot event settings.config settings.codebook ⟨received, true⟩ =
      .ok (acknowledged adapter.snapshot event received) := by
  intro event received
  simp only [laterClock, Bool.and_eq_true, decide_eq_true_eq] at hlater
  obtain ⟨⟨hafter, hinside⟩, hreceived⟩ := hlater
  obtain ⟨current, hcurrent, htoken, hnew⟩ := h.epoch
  rw [hepoch] at hcurrent
  cases hcurrent
  have hordered : (adapter.readings 0).instant ≤ received := h.tracks.clock.ordered 0
  have hvalid : eventValid event settings.config received = true :=
    envelope_valid htoken (by decide) hinside hordered .epochAck none none
  have hack : acknowledgesEpoch adapter.snapshot event = true := by
    have hnone : adapter.snapshot.acknowledgedAt = none := h.broken
    have hnonempty : event.epoch.isEmpty = false := (eventValid_epoch hvalid).1
    have hdifferent : (adapter.snapshot.epoch != some event.epoch) = true :=
      bne_iff_ne.mpr hnew
    have hlast : (adapter.snapshot.lastEventAt.all fun last => last < event.eventAt.instant) =
        true := by
      rw [Option.all_eq_true]
      intro last hlast
      exact decide_eq_true ((h.standing.observed last hlast).trans_lt hafter)
    simp only [acknowledgesEpoch, hnone, hnonempty, hdifferent, hlast]
    rfl
  refine ⟨hvalid, hack, reduceHaltAuthority_ok.mpr ⟨h.tracks.config,
    validatePrevious_ok.mpr h.standing.sound, rfl, ?_, ?_⟩⟩
  · show adapter.snapshot.observedAt - received ≤ readSkewTolerance
    have htolerance : (0 : Int) ≤ readSkewTolerance := by decide
    omega
  · exact reduced_acknowledged hreceived hvalid rfl hack

/-- An answer that is the first message of its epoch is sent as its acknowledgement. -/
theorem subscriptionMessage_first (hrunning : isStopped adapter = false)
    (hepoch : adapter.epoch = some epoch) (hsequence : adapter.sequence = 0) {message : Json}
    (hexact : exactSubscriptionAck settings message = true) :
    subscriptionMessage settings message adapter = acknowledgeSubscription settings adapter := by
  show (if isStopped adapter then (pure () : Step Unit)
    else if !exactSubscriptionAck settings message then rejectSubscription settings .malformed
    else if adapter.epoch.isNone || adapter.sequence != 0 then rejectSubscription settings .gap
    else acknowledgeSubscription settings) adapter = _
  rw [if_neg (by simp [hrunning]), if_neg (by simp [hexact]), if_neg (by simp [hepoch, hsequence])]

/-- What an acknowledgement that is accepted leaves. -/
theorem acknowledgeSubscription_accepted (hclock : Regular adapter.readings)
    (hepoch : adapter.epoch = some epoch) (hsequence : adapter.sequence = 0)
    {updated : HaltAuthoritySnapshot}
    (haccepted : reduceHaltAuthority adapter.snapshot
      (envelope settings epoch 1 .epochAck (adapter.readings 0).instant
        (adapter.readings 1).instant none none)
      settings.config settings.codebook ⟨(adapter.readings 1).instant, true⟩ = .ok updated) :
    ∃ due timer, acknowledgeSubscription settings adapter = (.ok (), { adapter with
      snapshot := updated
      sequence := 1
      streamReady := true
      startupResolved := true
      recoveryDueAt := due
      recoveryTimer := timer
      readings := fun count => adapter.readings (count + 2) }) := by
  have hread := now_of_regular hclock
  have hsame : (afterReading adapter).epoch = some epoch := hepoch
  have hemit : emit settings .epochAck (adapter.readings 0).instant none none none
      (afterReading adapter) = record settings epoch .epochAck (adapter.readings 0).instant
        ((afterReading adapter).readings 0).instant none none
        (afterReading (afterReading adapter)) :=
    emit_now hclock.later hsame .epochAck (adapter.readings 0).instant none none
  have hresult : reduceHaltAuthority (afterReading (afterReading adapter)).snapshot
      (envelope settings epoch ((afterReading (afterReading adapter)).sequence + 1) .epochAck
        (adapter.readings 0).instant ((afterReading adapter).readings 0).instant none none)
      settings.config settings.codebook ⟨((afterReading adapter).readings 0).instant, true⟩ =
      .ok updated := by
    show reduceHaltAuthority adapter.snapshot
      (envelope settings epoch (adapter.sequence + 1) .epochAck (adapter.readings 0).instant
        (adapter.readings 1).instant none none)
      settings.config settings.codebook ⟨(adapter.readings 1).instant, true⟩ = .ok updated
    rw [hsequence]
    exact haccepted
  rw [record_result, hresult] at hemit
  obtain ⟨due, timer, heq⟩ := setSnapshot_fields settings
    { afterReading (afterReading adapter) with sequence := adapter.sequence + 1 } updated
  refine ⟨due, timer, ?_⟩
  show (now >>= fun eventAt => emit settings .epochAck eventAt none none none >>= fun _ =>
    Action.write _) adapter = _
  rw [Action.bind_of_ok hread, Action.bind_of_ok hemit]
  show (Except.ok (), { setSnapshot settings
    { afterReading (afterReading adapter) with sequence := adapter.sequence + 1 } updated with
      streamReady := true
      startupResolved := true }) = _
  rw [heq, hsequence]
  rfl

/-- The exact answer to its subscription acknowledges the epoch of a connection that waits for
it. -/
theorem Opened.answered (h : Opened settings adapter) (hrunning : isStopped adapter = false)
    (hlater : laterClock settings adapter = true) {message : Json}
    (hexact : exactSubscriptionAck settings message = true) :
    Answered settings adapter.snapshot (adapter.readings 0).instant
      (subscriptionMessage settings message adapter).2 ∧
    (subscriptionMessage settings message adapter).2.epoch = adapter.epoch := by
  obtain ⟨epoch, hepoch, htoken, hnew⟩ := h.epoch
  obtain ⟨hvalid, hack, hreduced⟩ := h.acknowledges hlater hepoch
  have hstanding := h.standing.acknowledge hvalid hack
  obtain ⟨due, timer, heq⟩ := acknowledgeSubscription_accepted h.tracks.clock hepoch h.sequence
    hreduced
  rw [subscriptionMessage_first hrunning hepoch h.sequence hexact, heq]
  refine ⟨?_, rfl⟩
  exact {
    config := h.tracks.config
    standing := hstanding
    clock := h.tracks.clock.later.later
    running := hrunning
    epoch := ⟨epoch, hepoch, rfl, htoken⟩
    inside := by
      simp only [laterClock, Bool.and_eq_true] at hlater
      exact hlater.1.2
    acknowledged := rfl
    event := rfl
    trade := ⟨rfl, rfl⟩
    sequence := ⟨rfl, rfl⟩
    observed := h.tracks.clock.ordered 1
    state := rfl }

/-! ## The next trade -/

/-- A trade that arrives now is new and was printed after a time, not long ago and inside the
session. -/
def isFresh (settings : Settings) (since : Int) (adapter : AlpacaOpportunityHaltStreamAdapter)
    (value : Option Trade) : Bool :=
  let received := (adapter.readings 0).instant
  isNewTrade settings adapter value && insideSession settings.config received &&
  (tradeOf settings value).any fun (_, timestamp) =>
    since < timestamp.instant && timestamp.instant ≤ received &&
    received - timestamp.instant ≤ settings.config.maximumTradeAge

omit [Digest] in
/-- The identity of a trade is a token. -/
theorem tradeOf_token (h : tradeOf settings value = some (tradeId, timestamp)) :
    isNonblankToken tradeId = true := by
  simp only [tradeOf, Option.bind_eq_bind, Option.bind_eq_some_iff] at h
  obtain ⟨trade, -, id, -, printedAt, -, h⟩ := h
  split at h
  · cases h
    exact isNonblankToken_intText _
  · cases h

/-- The authority accepts a fresh trade of an epoch that was just acknowledged. -/
theorem Answered.accepts (h : Answered settings start since adapter)
    (hepoch : adapter.epoch = some epoch) (hid : isNonblankToken tradeId = true)
    (hinside : insideSession settings.config received = true) (hsince : since < timestamp.instant)
    (hreceived : timestamp.instant ≤ received)
    (hage : received - timestamp.instant ≤ settings.config.maximumTradeAge) :
    acceptsTrade adapter.snapshot
      (envelope settings epoch 2 .trade timestamp.instant received none (some tradeId))
      settings.config received = true := by
  obtain ⟨current, hcurrent, hrecorded, htoken⟩ := h.epoch
  rw [hepoch] at hcurrent
  cases hcurrent
  have hprinted : insideSession settings.config timestamp.instant = true := by
    have hopen := h.inside
    simp only [insideSession, Bool.and_eq_true, decide_eq_true_eq] at hinside hopen ⊢
    omega
  have hvalid := envelope_valid htoken (Nat.succ_pos 1) hprinted hreceived .trade none
    (some tradeId)
  have hcontinues : continuesEpoch adapter.snapshot
      (envelope settings epoch 2 .trade timestamp.instant received none (some tradeId)) = true := by
    have hchronology : chronologyAcceptable since
        (envelope settings epoch 2 .trade timestamp.instant received none (some tradeId)) =
        true := by
      have htolerance : (0 : Int) ≤ tradeOrderTolerance := by decide
      show decide (since - timestamp.instant ≤ tradeOrderTolerance) = true
      exact decide_eq_true (by omega)
    simp only [continuesEpoch, hrecorded, h.acknowledged, h.event, h.sequence.2, Option.all_some,
      hchronology]
    simp [envelope]
  have htrade : validTrade adapter.snapshot
      (envelope settings epoch 2 .trade timestamp.instant received none (some tradeId))
      settings.config received = true := by
    simp [validTrade, h.acknowledged, h.trade.2, envelope, hid, hsince, hreceived, hage]
  simp only [acceptsTrade, hinside, hvalid, hcontinues, htrade]
  rfl

/-- A message with a time of its own is recorded at it. -/
theorem emit_received (hepoch : adapter.epoch = some epoch) (kind : HaltAuthorityEventKind)
    (eventAt received : Int) (statusCode tradeId : Option String) :
    emit settings kind eventAt (some received) statusCode tradeId adapter =
      record settings epoch kind eventAt received statusCode tradeId adapter := by
  obtain ⟨⟩ := adapter
  cases hepoch
  rfl

/-- Sending a fresh trade of an epoch that was just acknowledged opens the market, unless a halt is
latched. -/
theorem Answered.sendTrade (h : Answered settings start since adapter)
    (hid : isNonblankToken tradeId = true) (hutc : timestamp.isUtc = true)
    (hinside : insideSession settings.config received = true)
    (hobserved : adapter.snapshot.observedAt ≤ received) (hsince : since < timestamp.instant)
    (hreceived : timestamp.instant ≤ received)
    (hage : received - timestamp.instant ≤ settings.config.maximumTradeAge) :
    (sendTrade settings received tradeId timestamp).Ensures (fun state => state = adapter)
      (fun _ state => state.snapshot.state = tradeState (closedState start)) fun _ => False := by
  obtain ⟨epoch, hepoch, -⟩ := h.epoch
  have haccepts := h.accepts hepoch hid hinside hsince hreceived hage
  obtain ⟨-, -, htraded⟩ := reduced_of_acceptsTrade haccepts settings.codebook
  have hreduced := reduceHaltAuthority_ok.mpr ⟨h.config, validatePrevious_ok.mpr h.standing.sound,
    (rfl : (⟨received, true⟩ : Datetime).isUtc = true), (by
      show adapter.snapshot.observedAt - received ≤ readSkewTolerance
      have htolerance : (0 : Int) ≤ readSkewTolerance := by decide
      omega), htraded⟩
  rintro state rfl
  have htime : strictUtc timestamp = .ok timestamp.instant := strictUtc_ok.mpr ⟨hutc, rfl⟩
  have hrecord : record settings epoch .trade timestamp.instant received none (some tradeId) state =
      (.ok (), setSnapshot settings { state with sequence := state.sequence + 1 }
        (traded state.snapshot (envelope settings epoch 2 .trade timestamp.instant received none
          (some tradeId)) received)) := by
    rw [record_result, h.sequence.1, hreduced]
  have hemit := (emit_received hepoch .trade timestamp.instant received none (some tradeId)).trans
    hrecord
  have hsend : OpportunityHaltStream.sendTrade settings received tradeId timestamp state =
      (.ok (), seeTrade (setSnapshot settings { state with sequence := state.sequence + 1 }
        (traded state.snapshot (envelope settings epoch 2 .trade timestamp.instant received none
          (some tradeId)) received)) tradeId) := by
    unfold OpportunityHaltStream.sendTrade
    rw [htime]
    exact Action.bind_of_ok hemit
  rw [hsend]
  obtain ⟨due, timer, heq⟩ := setSnapshot_fields settings
    { state with sequence := state.sequence + 1 }
    (traded state.snapshot (envelope settings epoch 2 .trade timestamp.instant received none
      (some tradeId)) received)
  rw [heq]
  show tradeState state.snapshot.state = tradeState (closedState start)
  rw [h.state]

omit [Digest] in
/-- The first trade of an epoch that was printed after its acknowledgement is not skipped. -/
theorem printedBefore_later {snapshot : HaltAuthoritySnapshot}
    (hacknowledged : snapshot.acknowledgedAt = some since) (htrade : snapshot.lastTradeAt = none)
    (hutc : timestamp.isUtc = true) (hsince : since < timestamp.instant) :
    printedBefore snapshot timestamp = .ok false := by
  rw [printedBefore, hacknowledged, htrade]
  show (strictUtc timestamp >>= fun printedAt => .ok (decide (printedAt ≤ since))) = .ok false
  rw [bind_ok]
  exact ⟨timestamp.instant, strictUtc_ok.mpr ⟨hutc, rfl⟩,
    congrArg Except.ok (decide_eq_false (by omega))⟩

/-- The next fresh trade after the answer opens the market, unless a halt is latched. -/
theorem Answered.confirms (h : Answered settings start since adapter)
    (hfresh : isFresh settings since adapter value = true) :
    (onTrade settings value adapter).2.snapshot.state = tradeState (closedState start) := by
  simp only [isFresh, isNewTrade, Bool.and_eq_true] at hfresh
  obtain ⟨⟨hnew, hinside⟩, hprinted⟩ := hfresh
  cases htrade : tradeOf settings value with
  | none =>
      rw [htrade] at hnew
      cases hnew
  | some trade =>
      rw [htrade] at hnew hprinted
      simp only [Option.any_some, Bool.and_eq_true, Bool.not_eq_true'] at hnew
      simp only [Option.any_some, Bool.and_eq_true, decide_eq_true_eq] at hprinted
      obtain ⟨hunseen, hutc⟩ := hnew
      obtain ⟨⟨hsince, hreceived⟩, hage⟩ := hprinted
      rw [onTrade_running h.running, contained_regular h.clock]
      have hlater : Answered settings start since (afterReading adapter) :=
        { h with
          clock := h.clock.later
          observed := h.observed.trans (h.clock.ordered 0) }
      have htake : (takeTrade settings value (adapter.readings 0).instant).Ensures
          (fun state => state = afterReading adapter)
          (fun _ state => state.snapshot.state = tradeState (closedState start))
          fun _ => False := by
        refine .read_bind ?_
        rintro state rfl
        rw [htrade]
        refine .ite (fun hseen => ?_) fun _ => .read_bind ?_
        · rw [show (afterReading adapter).seenTradeIds = adapter.seenTradeIds from rfl,
            hunseen] at hseen
          cases hseen
        rintro state rfl
        rw [printedBefore_later hlater.acknowledged hlater.trade.1 hutc hsince]
        exact hlater.sendTrade (tradeOf_token htrade) hutc hinside h.observed hsince hreceived hage
      have hhandled : ((takeTrade settings value (adapter.readings 0).instant).handle
          (safeFailure settings .malformed (some (adapter.readings 0).instant))).Ensures
          (fun state => state = afterReading adapter)
          (fun _ state => state.snapshot.state = tradeState (closedState start))
          fun state => state.snapshot.state = tradeState (closedState start) :=
        htake.handle fun _ hfalse => hfalse.elim
      exact hhandled.left rfl

omit [Digest] in
theorem tradeState_closedState (start : HaltAuthoritySnapshot)
    (hclosed : start.state ≠ .openConfirmed) :
    tradeState (closedState start) = .openConfirmed ↔ start.state ≠ .haltedLatched := by
  unfold closedState
  cases hstate : start.state <;> simp_all [HaltAuthorityState.isLatched, tradeState]

/-- An epoch that is not acknowledged has no open market. -/
theorem Opened.state (h : Opened settings adapter) : adapter.snapshot.state ≠ .openConfirmed := by
  intro hopen
  have hnone : adapter.snapshot.acknowledgedAt = none := h.broken
  have hack := (h.standing.state.1 hopen).1
  rw [hnone] at hack
  cases hack

/-- The answer to the subscription of a connection that was just opened acknowledges its epoch, and
the next fresh trade confirms an open market, exactly when no trade that the adapter has not seen
arrives before the answer and no halt is latched. -/
theorem resubscription_recovers_iff (settings : Settings) (clock : Nat → Datetime)
    (hclock : Regular clock) (before opened : AlpacaOpportunityHaltStreamAdapter)
    (hreachable : (haltStream settings clock).Reachable before) (epoch : Option String)
    (hopened : connectionStarting settings epoch before = (.ok (), opened))
    (hrunning : isStopped opened = false) (trades : List (Option Trade)) (message : Json)
    (hexact : exactSubscriptionAck settings message = true) (fresh : Option Trade)
    (hlater : laterClock settings (deliver settings trades opened) = true)
    (hfresh : isFresh settings ((deliver settings trades opened).readings 0).instant
      (subscriptionMessage settings message (deliver settings trades opened)).2 fresh = true) :
    let answered := (subscriptionMessage settings message (deliver settings trades opened)).2
    (answered.snapshot.acknowledgedAt.isSome = true ∧ answered.snapshot.epoch = opened.epoch ∧
      (onTrade settings fresh answered).2.snapshot.state = .openConfirmed) ↔
    (∀ value ∈ trades, isNewTrade settings opened value = false) ∧
      opened.snapshot.state ≠ .haltedLatched := by
  intro answered
  have hconnection := connectionStarting_opened (tracks_of_reachable hclock hreachable) hopened
    hrunning
  by_cases hold : ∀ value ∈ trades, isNewTrade settings opened value = false
  · have hwaits := deliver_old hconnection hrunning hold
    obtain ⟨hanswered, hepoch⟩ := hwaits.opened.answered hwaits.running hlater hexact
    have hstate := hanswered.confirms hfresh
    have hopens := tradeState_closedState opened.snapshot hconnection.state
    rw [hwaits.snapshot] at hstate
    obtain ⟨current, hcurrent, hrecorded, -⟩ := hanswered.epoch
    have hsame : answered.snapshot.epoch = opened.epoch :=
      (hrecorded.trans hcurrent.symm).trans (hepoch.trans hwaits.epoch)
    have hsome : answered.snapshot.acknowledgedAt.isSome = true := by
      rw [hanswered.acknowledged]
      rfl
    rw [hstate, hopens]
    exact ⟨fun h => ⟨hold, h.2.2⟩, fun h => ⟨hsome, hsame, h.2⟩⟩
  · -- the first new trade takes the number of the answer
    have hnew : ∃ value ∈ trades, isNewTrade settings opened value = true := by
      by_contra hnone
      exact hold fun value hvalue => Bool.not_eq_true _ ▸ fun hisNew =>
        hnone ⟨value, hvalue, hisNew⟩
    have hspoiled := deliver_new hconnection hrunning hnew
    have hbroken : answered.snapshot.acknowledgedAt = none :=
      (subscriptionMessage_spoiled message).left hspoiled
    refine ⟨fun h => ?_, fun h => absurd h.1 hold⟩
    rw [hbroken] at h
    cases h.1

/-- The adapter after calls in order. -/
def afterCalls (settings : Settings) (calls : List Call)
    (adapter : AlpacaOpportunityHaltStreamAdapter) : AlpacaOpportunityHaltStreamAdapter :=
  calls.foldl (fun adapter call => (perform settings call adapter).2) adapter

/-- Calls in order lead to a reachable adapter. -/
theorem afterCalls_reachable {clock : Nat → Datetime}
    (h : (haltStream settings clock).Reachable adapter) (calls : List Call) :
    (haltStream settings clock).Reachable (afterCalls settings calls adapter) := by
  induction calls generalizing adapter with
  | nil => exact h
  | cons call calls ih => exact ih (h.run (.single rfl))

end Recovery

section Rehearsed

/-! ## A rehearsal -/

/-- The adapter of one symbol, which waits a second before it subscribes again. -/
def rehearsed : Settings where
  config := { HaltRehearsal.config with feed := pinnedStockFeed }
  codebook := none
  resubscribeBackoff := Calendar.seconds 1

/-- A clock that is read once a second, from the opening on. -/
def everySecond (count : Nat) : Datetime :=
  HaltRehearsal.secondsIn count

theorem everySecond_regular : Regular everySecond := by
  refine ⟨fun _ => rfl, fun count => ?_⟩
  show HaltRehearsal.openAt + (count : Int) * 1000000 ≤
    HaltRehearsal.openAt + ((count + 1 : Nat) : Int) * 1000000
  omega

/-- The exact answer to a subscription. -/
def exactAnswer : Json :=
  .object [("T", .text "subscription"), ("trades", .array [.text "NVDA"]),
    ("statuses", .array [.text "NVDA"])]

/-- A trade that was printed a number of seconds after the opening. -/
def tradeAt (id seconds : Int) : Option Trade :=
  some ⟨"NVDA", some id, some (HaltRehearsal.secondsIn seconds)⟩

def newAdapter : AlpacaOpportunityHaltStreamAdapter where
  snapshot := firstSnapshot rehearsed.config HaltRehearsal.openAt
  epoch := none
  sequence := 0
  seenEpochs := []
  seenTradeIds := []
  hasThread := false
  threadStarted := false
  threadAlive := false
  streamReady := false
  startupResolved := false
  startupError := none
  stopping := false
  closed := false
  recoveryDueAt := none
  recoveryTimer := false
  readings := fun count => everySecond (count + 1)

/-- The adapter was started, the first trade opened the market, and then the stream failed. -/
def failedStream : AlpacaOpportunityHaltStreamAdapter :=
  afterCalls rehearsed [.startCreated, .threadRuns true, .startSucceeded,
    .connectionStarting (some "epoch-1"), .subscriptionMessage exactAnswer,
    .onTrade (tradeAt 1 4), .streamError] newAdapter

def connectedAgain : AlpacaOpportunityHaltStreamAdapter :=
  (connectionStarting rehearsed (some "epoch-2") failedStream).2

theorem failedStream_reachable : (haltStream rehearsed everySecond).Reachable failedStream := by
  refine afterCalls_reachable (.of_initial ?_) _
  show create rehearsed everySecond = .ok newAdapter
  rw [create, check_bind_ok]
  refine ⟨by decide +kernel, bind_ok.mpr ⟨HaltRehearsal.openAt, rfl, bind_ok.mpr
    ⟨firstSnapshot rehearsed.config HaltRehearsal.openAt, ?_, rfl⟩⟩⟩
  rw [initialHaltAuthority, check_bind_ok]
  exact ⟨by decide +kernel, rfl⟩

theorem connectedAgain_ok :
    connectionStarting rehearsed (some "epoch-2") failedStream = (.ok (), connectedAgain) :=
  Prod.ext (by decide +kernel) rfl

/-- In the rehearsal the first trade is delivered again before the answer, and the next trade
confirms an open market. -/
theorem resubscription_recovers_rehearsed :
    let answered := (subscriptionMessage rehearsed exactAnswer
      (deliver rehearsed [tradeAt 1 4] connectedAgain)).2
    answered.snapshot.acknowledgedAt.isSome = true ∧
    answered.snapshot.epoch = connectedAgain.epoch ∧
    (onTrade rehearsed (tradeAt 2 11) answered).2.snapshot.state = .openConfirmed :=
  (resubscription_recovers_iff rehearsed everySecond everySecond_regular failedStream
    connectedAgain failedStream_reachable (some "epoch-2") connectedAgain_ok (by decide +kernel)
    [tradeAt 1 4] exactAnswer (by decide +kernel) (tradeAt 2 11) (by decide +kernel)
    (by decide +kernel)).mpr ⟨by decide +kernel, by decide +kernel⟩

/-- In the rehearsal a new trade is delivered before the answer. The epoch is not acknowledged, and
the next trade confirms nothing. -/
theorem resubscription_spoiled :
    let delivered := deliver rehearsed [tradeAt 2 8] connectedAgain
    let answered := (subscriptionMessage rehearsed exactAnswer delivered).2
    (haltStream rehearsed everySecond).Reachable failedStream ∧
    connectionStarting rehearsed (some "epoch-2") failedStream = (.ok (), connectedAgain) ∧
    isLive connectedAgain = true ∧ isStopped connectedAgain = false ∧
    connectedAgain.snapshot.state = .unknown ∧
    exactSubscriptionAck rehearsed exactAnswer = true ∧ laterClock rehearsed delivered = true ∧
    isFresh rehearsed (delivered.readings 0).instant answered (tradeAt 3 10) = true ∧
    answered.snapshot.acknowledgedAt = none ∧
    (onTrade rehearsed (tradeAt 3 10) answered).2.snapshot.state = .unknown :=
  ⟨failedStream_reachable, connectedAgain_ok, by decide +kernel, by decide +kernel,
    by decide +kernel, by decide +kernel, by decide +kernel, by decide +kernel, by decide +kernel,
    by decide +kernel⟩

end Rehearsed

end OpportunityHaltStream

end AlphaDecay
