import AlphaDecay.Foundation.ActionRules
import AlphaDecay.Services.HaltAuthority

/-!
# The halt stream adapter

The adapter that feeds one supervised stream into the halt authority. The methods of the adapter
run under one lock, so each one is an action on its state, which may raise and keeps what it wrote
before. A method that gives the lock back in its middle is one action for each of its parts. The
clock is outside: its readings to come are part of the state, and every reading takes the next one.
-/

namespace AlphaDecay

open Foundation

namespace OpportunityHaltStream

/-! ## State -/

def pinnedStockFeed : String := "IEX"

/-- The version of the client library that the adapter is pinned to. -/
def pinnedAlpacaPyVersion : String := "0.44.0"

/-- What an adapter is made of: its configuration, the codebook of its feed, and how long it waits
before it subscribes again, in microseconds. -/
structure Settings where
  config : HaltAuthorityConfig
  codebook : Option HaltStatusCodebook
  resubscribeBackoff : Int

/-- The state of an adapter, with the readings of its clock that are still to come. -/
structure AlpacaOpportunityHaltStreamAdapter where
  snapshot : HaltAuthoritySnapshot
  epoch : Option String
  sequence : Nat
  seenEpochs : List String
  seenTradeIds : List String
  hasThread : Bool
  threadStarted : Bool
  threadAlive : Bool
  streamReady : Bool
  startupResolved : Bool
  startupError : Option String
  stopping : Bool
  closed : Bool
  recoveryDueAt : Option Int
  recoveryTimer : Bool
  readings : Nat → Datetime

/-- A trade of the stream, where an identity that is no integer and a timestamp that is no
date-time are absent. -/
structure Trade where
  symbol : String
  id : Option Int
  timestamp : Option Datetime

/-- A trading status of the stream, with the same reading of absent fields. -/
structure TradingStatus where
  symbol : String
  statusCode : Option String
  timestamp : Option Datetime

/-- A part of a method of the adapter. -/
abbrev Step := Action AlpacaOpportunityHaltStreamAdapter Failure

variable (settings : Settings) (adapter : AlpacaOpportunityHaltStreamAdapter)

/-! ## Recovery -/

/-- The thread of the stream is running. -/
def isLive : Bool :=
  adapter.hasThread && adapter.threadStarted && adapter.threadAlive

/-- The adapter is closed, or is being stopped. -/
def isStopped : Bool :=
  adapter.closed || adapter.stopping

/-- Forget the recovery that was due. -/
def cancelRecovery : AlpacaOpportunityHaltStreamAdapter :=
  { adapter with
    recoveryTimer := false
    recoveryDueAt := none }

/-- Make a recovery due inside the session, and start its timer on a live stream. -/
def armRecovery (observedAt : Int) : AlpacaOpportunityHaltStreamAdapter :=
  if !insideSession settings.config observedAt then cancelRecovery adapter
  else { adapter with
    recoveryDueAt := some (observedAt + settings.resubscribeBackoff)
    recoveryTimer := adapter.recoveryTimer || (isLive adapter && !isStopped adapter) }

/-- Put a snapshot on record. An acknowledgement and an open market need no recovery; a market that
is no longer open and an epoch that is no longer acknowledged do. -/
def setSnapshot (updated : HaltAuthoritySnapshot) : AlpacaOpportunityHaltStreamAdapter :=
  let previous := adapter.snapshot
  let left := { adapter with snapshot := updated }
  if updated.acknowledgedAt.isSome &&
      (previous.acknowledgedAt.isNone || updated.state == .openConfirmed) then
    cancelRecovery left
  else if (previous.state == .openConfirmed && updated.state == .unknown) ||
      (previous.acknowledgedAt.isSome && updated.acknowledgedAt.isNone) then
    armRecovery settings left updated.observedAt
  else left

/-- The epoch on record is the one of the connection, which has sent its acknowledgement. -/
def hasContinuity : Bool :=
  adapter.epoch.isSome && 0 < adapter.sequence && adapter.snapshot.acknowledgedAt.isSome &&
  adapter.snapshot.epoch == adapter.epoch

/-- A stream that fails before it is ready fails the start of the adapter. -/
def resolveStartupFailure (code : String) : AlpacaOpportunityHaltStreamAdapter :=
  if !adapter.streamReady && adapter.startupError.isNone then
    { adapter with
      startupError := some code
      startupResolved := true }
  else adapter

/-! ## Messages -/

/-- The instant of a date-time, which has to be in UTC. -/
def strictUtc (value : Datetime) : Except Failure Int :=
  if value.isUtc then .ok value.instant else .error (.runtime "HALT_STREAM_TIME_INVALID")

/-- The next reading of the clock. -/
def now : Step Int := do
  let adapter ← Action.read
  Action.write fun adapter => { adapter with readings := fun count => adapter.readings (count + 1) }
  Action.check (strictUtc (adapter.readings 0))

/-- A time that is given, or the next reading of the clock. -/
def given : Option Int → Step Int
  | some time => pure time
  | none => now

variable [Digest]

/-- A message in the envelope of the adapter, with its digest. -/
def envelope (epoch : String) (sequence : Nat) (kind : HaltAuthorityEventKind)
    (eventAt receivedAt : Int) (statusCode tradeId : Option String) : HaltAuthorityEvent :=
  let event : HaltAuthorityEvent := {
    kind
    symbol := settings.config.symbol
    epoch
    sequence
    eventAt := ⟨eventAt, true⟩
    receivedAt := ⟨receivedAt, true⟩
    statusCode
    tradeId
    sourceHash := "" }
  { event with sourceHash := haltAuthorityEventDigest event }

/-- Number a message that was received at a time and reduce the snapshot by it. The number is
taken before the authority may refuse. -/
def record (epoch : String) (kind : HaltAuthorityEventKind) (eventAt received : Int)
    (statusCode tradeId : Option String) : Step Unit := do
  Action.write fun adapter => { adapter with sequence := adapter.sequence + 1 }
  let adapter ← Action.read
  let updated ← Action.check (reduceHaltAuthority adapter.snapshot
    (envelope settings epoch adapter.sequence kind eventAt received statusCode tradeId)
    settings.config settings.codebook ⟨received, true⟩)
  Action.write fun adapter => setSnapshot settings adapter updated

/-- Send a message to the authority, where the connection has an epoch. -/
def emit (kind : HaltAuthorityEventKind) (eventAt : Int) (receivedAt : Option Int)
    (statusCode tradeId : Option String) : Step Unit := do
  let adapter ← Action.read
  match adapter.epoch with
  | none => pure ()
  | some epoch => do
      let received ← given receivedAt
      record settings epoch kind eventAt received statusCode tradeId

/-- Send a message that breaks the epoch, where there is one to break. -/
def failure (kind : HaltAuthorityEventKind) (time : Option Int) : Step Unit := do
  let adapter ← Action.read
  if hasContinuity adapter then do
    let eventAt ← given time
    emit settings kind eventAt none none none
  else pure ()

/-- Break the epoch as far as possible: nothing is raised. -/
def safeFailure (kind : HaltAuthorityEventKind) (time : Option Int) : Step Unit :=
  (failure settings kind time).suppress

/-! ## Connections -/

/-- The epoch of a new connection. The factory of epochs may raise, which is the absent value here,
and a text that is blank, not stripped or seen before is refused. -/
def newEpoch : Option String → Step String
  | none => do
      Action.write fun adapter => resolveStartupFailure adapter "HALT_STREAM_EPOCH_INVALID"
      Action.check (.error (.runtime "HALT_STREAM_EPOCH_INVALID"))
  | some epoch => do
      let adapter ← Action.read
      if !isNonblankToken epoch || adapter.seenEpochs.contains epoch then do
        failure settings .gap none
        Action.check (.error (.runtime "HALT_STREAM_EPOCH_INVALID"))
      else pure epoch

/-- The connection takes an epoch: its messages are numbered from the start. -/
def takeEpoch (epoch : String) : AlpacaOpportunityHaltStreamAdapter :=
  { adapter with
    seenEpochs := epoch :: adapter.seenEpochs
    epoch := some epoch
    sequence := 0 }

/-- A new connection breaks the epoch before it and takes a new one. -/
def openConnection (epoch : Option String) : Step Unit := do
  Action.write cancelRecovery
  failure settings .reconnect none
  let epoch ← newEpoch settings epoch
  Action.write fun adapter => takeEpoch adapter epoch
  let observedAt ← now
  Action.write fun adapter => armRecovery settings adapter observedAt

/-- The stream starts a connection. -/
def connectionStarting (epoch : Option String) : Step Unit := do
  let adapter ← Action.read
  if isStopped adapter then pure () else openConnection settings epoch

/-- The channels that an acknowledgement may name. -/
def subscriptionChannels : List String :=
  ["trades", "quotes", "orderbooks", "bars", "updatedBars", "dailyBars", "statuses", "lulds",
    "news", "corrections", "cancelErrors"]

omit [Digest] in
/-- A document is the list of the one symbol of the adapter. -/
def namesSymbol : Json → Bool
  | .array [.text symbol] => symbol == settings.config.symbol
  | _ => false

/-- A document is an empty list. -/
def isEmptyList : Json → Bool
  | .array [] => true
  | _ => false

/-- A message acknowledges the trades and statuses of the one symbol, and no other channel. -/
def exactSubscriptionAck : Json → Bool
  | .object members =>
      (Json.member "T" members).bind Json.asText == some "subscription" &&
      (members.all fun (key, _) => key == "T" || subscriptionChannels.contains key) &&
      (Json.member "trades" members).any (namesSymbol settings) &&
      (Json.member "statuses" members).any (namesSymbol settings) &&
      (Json.member "corrections" members).all (namesSymbol settings) &&
      (Json.member "cancelErrors" members).all (namesSymbol settings) &&
      subscriptionChannels.all fun key =>
        ["trades", "statuses", "corrections", "cancelErrors"].contains key ||
          (Json.member key members).all isEmptyList
  | _ => false

/-- Refuse an acknowledgement, and try again later. -/
def rejectSubscription (kind : HaltAuthorityEventKind) : Step Unit := do
  failure settings kind none
  let observedAt ← now
  Action.write fun adapter => armRecovery settings adapter observedAt
  Action.write fun adapter => resolveStartupFailure adapter "HALT_STREAM_SUBSCRIPTION_INVALID"

/-- Acknowledge the epoch of the connection. -/
def acknowledgeSubscription : Step Unit := do
  let eventAt ← now
  emit settings .epochAck eventAt none none none
  Action.write fun adapter =>
    { adapter with
      streamReady := true
      startupResolved := true }

/-- The stream answers a subscription. The answer has to be the first message of its epoch. -/
def subscriptionMessage (message : Json) : Step Unit := do
  let adapter ← Action.read
  if isStopped adapter then pure ()
  else if !exactSubscriptionAck settings message then rejectSubscription settings .malformed
  else if adapter.epoch.isNone || adapter.sequence != 0 then rejectSubscription settings .gap
  else acknowledgeSubscription settings

/-- The stream breaks: the epoch ends, and a start that waits fails. -/
def streamFailure (kind : HaltAuthorityEventKind) (code : String) : Step Unit := do
  safeFailure settings kind none
  Action.write fun adapter => resolveStartupFailure adapter code

def streamError : Step Unit :=
  streamFailure settings .error "HALT_STREAM_START_FAILED"

/-- The stream sends a message that nobody asked for. -/
def unexpectedMessage : Step Unit :=
  streamFailure settings .gap "HALT_STREAM_START_FAILED"

def streamClosed : Step Unit :=
  streamFailure settings .threadDead "HALT_STREAM_THREAD_DEAD"

/-! ## Callbacks -/

/-- Run a callback with the time at which it was called. What it raises ends the epoch. -/
def contained (callback : Int → Step Unit) : Step Unit := do
  let received ← now.attempt
  match received with
  | none => safeFailure settings .malformed none
  | some received =>
      (callback received).handle (safeFailure settings .malformed (some received))

omit [Digest] in
/-- The identity and the timestamp of a value that is a trade of the symbol. -/
def tradeOf (value : Option Trade) : Option (String × Datetime) := do
  let trade ← value
  let id ← trade.id
  let timestamp ← trade.timestamp
  if trade.symbol == settings.config.symbol && 0 ≤ id then
    some (intText id.toNat, timestamp)
  else none

omit [Digest] in
/-- A trade was printed before the epoch was acknowledged, and arrives as its first one. -/
def printedBefore (snapshot : HaltAuthoritySnapshot) (timestamp : Datetime) :
    Except Failure Bool :=
  match snapshot.acknowledgedAt, snapshot.lastTradeAt with
  | some acknowledgedAt, none => do
      let printedAt ← strictUtc timestamp
      return decide (printedAt ≤ acknowledgedAt)
  | _, _ => .ok false

omit [Digest] in
/-- Remember the identity of a trade. -/
def seeTrade (tradeId : String) : AlpacaOpportunityHaltStreamAdapter :=
  { adapter with seenTradeIds := tradeId :: adapter.seenTradeIds }

/-- Send a trade to the authority and remember it. -/
def sendTrade (received : Int) (tradeId : String) (timestamp : Datetime) : Step Unit := do
  let eventAt ← Action.check (strictUtc timestamp)
  emit settings .trade eventAt (some received) none (some tradeId)
  Action.write fun adapter => seeTrade adapter tradeId

/-- Take a trade with an identity that was not seen before. One that was printed before the epoch
was acknowledged is no evidence for it, and is skipped. -/
def newTrade (received : Int) (tradeId : String) (timestamp : Datetime) : Step Unit := do
  let adapter ← Action.read
  let skipped ← Action.check (printedBefore adapter.snapshot timestamp)
  if skipped then Action.write fun adapter => seeTrade adapter tradeId
  else sendTrade settings received tradeId timestamp

def takeTrade (value : Option Trade) (received : Int) : Step Unit := do
  let adapter ← Action.read
  match tradeOf settings value with
  | none => failure settings .malformed (some received)
  | some (tradeId, timestamp) =>
      if adapter.seenTradeIds.contains tradeId then
        failure settings .malformed (some received)
      else newTrade settings received tradeId timestamp

/-- The stream delivers a trade. -/
def onTrade (value : Option Trade) : Step Unit := do
  let adapter ← Action.read
  if isStopped adapter then pure () else contained settings (takeTrade settings value)

omit [Digest] in
/-- The code and the timestamp of a value that is a trading status of the symbol. -/
def statusOf (value : Option TradingStatus) : Option (String × Datetime) := do
  let status ← value
  let code ← status.statusCode
  let timestamp ← status.timestamp
  if status.symbol == settings.config.symbol && isNonblankToken code then some (code, timestamp)
  else none

/-- Take a value that was received as a trading status. -/
def takeStatus (value : Option TradingStatus) (received : Int) : Step Unit :=
  match statusOf settings value with
  | none => failure settings .malformed (some received)
  | some (code, timestamp) => do
      let eventAt ← Action.check (strictUtc timestamp)
      emit settings .tradingStatus eventAt (some received) (some code) none

/-- The stream delivers a trading status. -/
def onStatus (value : Option TradingStatus) : Step Unit := do
  let adapter ← Action.read
  if isStopped adapter then pure () else contained settings (takeStatus settings value)

/-! ## Reads and recoveries -/

/-- Open a new connection on a live stream: the first part of a recovery. It tells whether the
stream has to be asked for the subscription. -/
def beginResubscribe (due : Bool) (epoch : Option String) : Step Bool := do
  let adapter ← Action.read
  if due && isLive adapter && !isStopped adapter then do
    connectionStarting settings epoch
    pure true
  else pure false

omit [Digest] in
def isDue (time : Int) : Bool :=
  adapter.recoveryDueAt.any fun due => due ≤ time

/-- Read the snapshot at a time, which counts from the reading of the clock on, and begin the
recovery that is due. -/
def snapshot (readAt : Option Datetime) (epoch : Option String) : Step Bool := do
  let time ← now
  let requestedAt ← Action.check ((readAt.map strictUtc).getD (.ok time))
  let adapter ← Action.read
  let updated ← Action.check
    (readHaltAuthority adapter.snapshot settings.config ⟨max requestedAt time, true⟩)
  Action.write fun adapter => setSnapshot settings adapter updated
  let adapter ← Action.read
  beginResubscribe settings (isDue adapter time) epoch

/-- The timer of a recovery fires. -/
def recoverLiveStream (epoch : Option String) : Step Bool := do
  Action.write fun adapter => { adapter with recoveryTimer := false }
  beginResubscribe settings true epoch

omit [Digest] in
/-- The stream refused to subscribe again: the second part of a recovery. -/
def resubscribeFailed : Step Unit := do
  let observedAt ← now
  Action.write fun adapter => armRecovery settings adapter observedAt

/-! ## Start and stop -/

omit [Digest] in
/-- The first part of a start creates the thread. -/
def startCreated : Step Unit := do
  let adapter ← Action.read
  Action.check (raiseIf adapter.closed (.runtime "HALT_STREAM_CLOSED"))
  Action.check (raiseIf adapter.stopping (.runtime "HALT_STREAM_STOPPING"))
  Action.write fun adapter => { adapter with hasThread := true }

omit [Digest] in
/-- The second part of a start, where the thread started. -/
def startSucceeded : Step Unit :=
  Action.write fun adapter => { adapter with threadStarted := true }

omit [Digest] in
/-- The second part of a start, where the thread did not start. -/
def startFailed : Step Unit :=
  Action.write fun adapter =>
    { adapter with
      startupError := some "HALT_STREAM_START_FAILED"
      startupResolved := true
      closed := true }

omit [Digest] in
/-- The first part of a stop. -/
def stopRequested : Step Unit := do
  let adapter ← Action.read
  if adapter.closed then pure ()
  else Action.write fun adapter => { cancelRecovery adapter with stopping := true }

/-- The second part of a stop, once the thread was joined or not. -/
def stopJoined : Step Unit :=
  safeFailure settings .threadDead none

omit [Digest] in
/-- The last part of a stop: the adapter is closed when its thread is gone. -/
def stopFinished : Step Unit :=
  Action.write fun adapter =>
    { adapter with
      closed := !isLive adapter
      startupResolved := true }

/-- The thread of the stream raised. -/
def runRaised : Step Unit :=
  safeFailure settings .error none

/-- The thread of the stream ends. -/
def runEnded : Step Unit := do
  streamFailure settings .threadDead "HALT_STREAM_THREAD_DEAD"
  Action.write fun adapter => { adapter with startupResolved := true }

/-! ## The system -/

/-- The calls of an adapter, in the parts that run under its lock, and what happens to its
thread. -/
inductive Call where
  | connectionStarting (epoch : Option String)
  | subscriptionMessage (message : Json)
  | streamError
  | unexpectedMessage
  | streamClosed
  | onTrade (value : Option Trade)
  | onStatus (value : Option TradingStatus)
  | snapshot (readAt : Option Datetime) (epoch : Option String)
  | recoverLiveStream (epoch : Option String)
  | resubscribeFailed
  | startCreated
  | startSucceeded
  | startFailed
  | stopRequested
  | stopJoined
  | stopFinished
  | runRaised
  | runEnded
  | threadRuns (alive : Bool)

/-- Run an action and forget its value. -/
def forget {Value : Type} (action : Step Value) : Step Unit := do
  let _ ← action
  pure ()

/-- What a call does. -/
def perform : Call → Step Unit
  | .connectionStarting epoch => connectionStarting settings epoch
  | .subscriptionMessage message => subscriptionMessage settings message
  | .streamError => streamError settings
  | .unexpectedMessage => unexpectedMessage settings
  | .streamClosed => streamClosed settings
  | .onTrade value => onTrade settings value
  | .onStatus value => onStatus settings value
  | .snapshot readAt epoch => forget (snapshot settings readAt epoch)
  | .recoverLiveStream epoch => forget (recoverLiveStream settings epoch)
  | .resubscribeFailed => resubscribeFailed settings
  | .startCreated => startCreated
  | .startSucceeded => startSucceeded
  | .startFailed => startFailed
  | .stopRequested => stopRequested
  | .stopJoined => stopJoined settings
  | .stopFinished => stopFinished
  | .runRaised => runRaised settings
  | .runEnded => runEnded settings
  | .threadRuns alive => Action.write fun adapter => { adapter with threadAlive := alive }

omit [Digest] in
/-- A text names one symbol. -/
def isSingleSymbol (value : String) : Bool :=
  !value.isEmpty && value != "*" && value.toList.all fun c => c != ',' && !isSpace c

/-- A new adapter with a clock. -/
def create (clock : Nat → Datetime) : Except Failure AlpacaOpportunityHaltStreamAdapter := do
  raiseIf (settings.config.feed != pinnedStockFeed ||
    settings.config.sdkVersion != pinnedAlpacaPyVersion ||
    !isSingleSymbol settings.config.symbol ||
    !(0 < settings.resubscribeBackoff && settings.resubscribeBackoff ≤ Calendar.seconds 30))
    (.runtime "HALT_STREAM_CONFIG_INVALID")
  let readAt ← strictUtc (clock 0)
  let snapshot ← initialHaltAuthority settings.config ⟨readAt, true⟩
  return {
    snapshot
    epoch := none
    sequence := 0
    seenEpochs := []
    seenTradeIds := []
    hasThread := false
    threadStarted := false
    threadAlive := false
    streamReady := false
    startupResolved := false
    startupError := none
    stopping := false
    closed := false
    recoveryDueAt := none
    recoveryTimer := false
    readings := fun count => clock (count + 1) }

/-- The adapter with a clock: it starts as a new one, and its steps are calls in any order. -/
def haltStream (clock : Nat → Datetime) : System AlpacaOpportunityHaltStreamAdapter Call where
  initial adapter := create settings clock = .ok adapter
  step adapter call next := next = (perform settings call adapter).2

end OpportunityHaltStream

end AlphaDecay
