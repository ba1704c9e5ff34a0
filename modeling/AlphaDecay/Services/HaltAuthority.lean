import AlphaDecay.Foundation.Transition
import AlphaDecay.Execution.Identity

/-!
# The halt authority

The authority that says whether trading of a symbol is halted. An adapter numbers the messages of
a stream, and every message reduces the snapshot on record to the next one. A snapshot carries the
digest of its own fields, and is checked before each reduction and each read. A message that does
not hold fails closed: an open market becomes unknown, and a halt stays latched.
-/

namespace AlphaDecay

open Foundation

/-! ## Times -/

/-- A date-time: an instant in microseconds, and whether its time zone is UTC. One without a time
zone is not in UTC. -/
structure Datetime where
  instant : Int
  isUtc : Bool

/-- The instant of a date-time in UTC. -/
def Datetime.toUtc (value : Datetime) (code : String) : Except Failure Int :=
  if value.isUtc then .ok value.instant else .error (.value code)

def dateOf (instant : Int) : Calendar.Date :=
  Calendar.dateOfDay (instant.toNat / Calendar.microsPerDay)

/-- The ISO text of an instant, with microseconds. -/
def microsecondText (instant : Int) : String :=
  let date := dateOf instant
  let time := instant.toNat % Calendar.microsPerDay
  let seconds := time / 1000000
  String.ofList (
    Text.fixedDigits 10 4 date.year ++ '-' :: (Text.fixedDigits 10 2 date.month ++ '-' ::
    (Text.fixedDigits 10 2 date.day ++ 'T' :: (Text.fixedDigits 10 2 (seconds / 3600) ++ ':' ::
    (Text.fixedDigits 10 2 (seconds / 60 % 60) ++ ':' :: (Text.fixedDigits 10 2 (seconds % 60) ++
    ('.' :: Text.fixedDigits 10 6 (time % 1000000) ++ ['+', '0', '0', ':', '0', '0'])))))))

/-- How far a read may lie behind the snapshot on record. -/
def readSkewTolerance : Int := Calendar.seconds 30

/-- How far a trade may lie ahead of a read. -/
def futureTradeTolerance : Int := Calendar.seconds 5

/-- How far a trade may lie behind the message before it. -/
def tradeOrderTolerance : Int := Calendar.seconds 5

/-! ## Data -/

/-- What the authority knows of a halt. -/
inductive HaltAuthorityState where
  | unknown
  | openConfirmed
  | haltedLatched
  | resumePending
deriving DecidableEq, Repr

/-- What a status code means. -/
inductive HaltCodeMeaning where
  | halt
  | resume
deriving DecidableEq, Repr

/-- Who numbers the messages: the adapter, in the order in which it receives them. -/
inductive HaltSequenceAuthority where
  | adapterReceiveOrderV1
deriving DecidableEq, Repr

/-- The kinds of messages. -/
inductive HaltAuthorityEventKind where
  | epochAck
  | trade
  | tradingStatus
  | quote
  | bar
  | tradable
  | reconnect
  | gap
  | error
  | malformed
  | threadDead
deriving DecidableEq, Repr

structure HaltStatusCodebook where
  version : String
  feed : String
  sdkVersion : String
  mappings : List (String × HaltCodeMeaning)
  sourceHash : String

/-- What an authority is configured for: one symbol in one session. -/
structure HaltAuthorityConfig where
  symbol : String
  feed : String
  sdkVersion : String
  sessionDate : Calendar.Date
  sessionOpenAt : Datetime
  sessionCloseAt : Datetime
  maximumTradeAge : Int
  sequenceAuthority : HaltSequenceAuthority
  codebookHash : String
  sourceHash : String

/-- A message in the envelope of the adapter, which adds the epoch and the sequence. -/
structure HaltAuthorityEvent where
  kind : HaltAuthorityEventKind
  symbol : String
  epoch : String
  sequence : Int
  eventAt : Datetime
  receivedAt : Datetime
  statusCode : Option String
  tradeId : Option String
  sourceHash : String

structure HaltAuthoritySnapshot where
  symbol : String
  feed : String
  sdkVersion : String
  sequenceAuthority : HaltSequenceAuthority
  codebookHash : String
  configHash : String
  sessionDate : Calendar.Date
  sessionOpenAt : Datetime
  sessionCloseAt : Datetime
  epoch : Option String
  acknowledgedAt : Option Int
  state : HaltAuthorityState
  lastSequence : Int
  lastEventAt : Option Int
  lastEventHash : Option String
  decisiveEventHash : Option String
  lastRejectedEventHash : Option String
  lastTradeAt : Option Int
  lastTradeId : Option String
  lastTradeHash : Option String
  haltLatchedAt : Option Int
  haltEventHash : Option String
  transitionCount : Int
  observedAt : Int
  sourceHash : String

/-! ## Texts -/

def HaltAuthorityState.text : HaltAuthorityState → String
  | unknown => "UNKNOWN"
  | openConfirmed => "OPEN_CONFIRMED"
  | haltedLatched => "HALTED_LATCHED"
  | resumePending => "RESUME_PENDING"

/-- A halt that is latched: trading stays halted until it is proven to have resumed. -/
def HaltAuthorityState.isLatched : HaltAuthorityState → Bool
  | haltedLatched | resumePending => true
  | _ => false

def HaltCodeMeaning.text : HaltCodeMeaning → String
  | halt => "HALT"
  | resume => "RESUME"

def HaltSequenceAuthority.text : HaltSequenceAuthority → String
  | adapterReceiveOrderV1 => "ADAPTER_RECEIVE_ORDER_V1"

def HaltAuthorityEventKind.text : HaltAuthorityEventKind → String
  | epochAck => "EPOCH_ACK"
  | trade => "TRADE"
  | tradingStatus => "TRADING_STATUS"
  | quote => "QUOTE"
  | bar => "BAR"
  | tradable => "TRADABLE"
  | reconnect => "RECONNECT"
  | gap => "GAP"
  | error => "ERROR"
  | malformed => "MALFORMED"
  | threadDead => "THREAD_DEAD"

/-- The kinds of messages that break a stream. -/
def HaltAuthorityEventKind.isFailure : HaltAuthorityEventKind → Bool
  | reconnect | gap | error | malformed | threadDead => true
  | _ => false

/-- A text that is not empty and has no white space at its ends. -/
def isNonblankToken (text : String) : Bool :=
  !text.isEmpty && isStripped text

/-! ## Digests -/

variable [Digest]

/-- The digest of a document in a domain. -/
def canonicalHash (domain : String) (value : Json) : String :=
  Digest.authorityHash (.object [("domain", .text domain), ("value", value)])

def instantJson (instant : Int) : Json :=
  .text (microsecondText instant)

def haltStatusCodebookDigest (value : HaltStatusCodebook) : String :=
  canonicalHash "alphadecay.opportunity.halt-codebook.v1" (.object [
    ("version", .text value.version),
    ("feed", .text value.feed),
    ("sdk_version", .text value.sdkVersion),
    ("mappings", .array (value.mappings.map fun (code, meaning) =>
      .array [.text code, .text meaning.text]))])

def haltAuthorityConfigDigest (value : HaltAuthorityConfig) : String :=
  canonicalHash "alphadecay.opportunity.halt-config.v1" (.object [
    ("symbol", .text value.symbol),
    ("feed", .text value.feed),
    ("sdk_version", .text value.sdkVersion),
    ("session_date", .text (dateText value.sessionDate)),
    ("session_open_at", instantJson value.sessionOpenAt.instant),
    ("session_close_at", instantJson value.sessionCloseAt.instant),
    ("maximum_trade_age", .number value.maximumTradeAge),
    ("sequence_authority", .text value.sequenceAuthority.text),
    ("codebook_hash", .text value.codebookHash)])

/-- The digest of a message. -/
def haltAuthorityEventDigest (value : HaltAuthorityEvent) : String :=
  canonicalHash "alphadecay.opportunity.halt-event.v1" (.object [
    ("kind", .text value.kind.text),
    ("symbol", .text value.symbol),
    ("epoch", .text value.epoch),
    ("sequence", .number value.sequence),
    ("event_at", instantJson value.eventAt.instant),
    ("received_at", instantJson value.receivedAt.instant),
    ("status_code", Json.ofOptional .text value.statusCode),
    ("trade_id", Json.ofOptional .text value.tradeId)])

/-- The digest of a snapshot. It covers every field but the digest itself. -/
def haltAuthoritySnapshotDigest (value : HaltAuthoritySnapshot) : String :=
  canonicalHash "alphadecay.opportunity.halt-authority.v1" (.object [
    ("symbol", .text value.symbol),
    ("feed", .text value.feed),
    ("sdk_version", .text value.sdkVersion),
    ("sequence_authority", .text value.sequenceAuthority.text),
    ("codebook_hash", .text value.codebookHash),
    ("config_hash", .text value.configHash),
    ("session_date", .text (dateText value.sessionDate)),
    ("session_open_at", instantJson value.sessionOpenAt.instant),
    ("session_close_at", instantJson value.sessionCloseAt.instant),
    ("epoch", Json.ofOptional .text value.epoch),
    ("acknowledged_at", Json.ofOptional instantJson value.acknowledgedAt),
    ("state", .text value.state.text),
    ("last_sequence", .number value.lastSequence),
    ("last_event_at", Json.ofOptional instantJson value.lastEventAt),
    ("last_event_hash", Json.ofOptional .text value.lastEventHash),
    ("decisive_event_hash", Json.ofOptional .text value.decisiveEventHash),
    ("last_rejected_event_hash", Json.ofOptional .text value.lastRejectedEventHash),
    ("last_trade_at", Json.ofOptional instantJson value.lastTradeAt),
    ("last_trade_id", Json.ofOptional .text value.lastTradeId),
    ("last_trade_hash", Json.ofOptional .text value.lastTradeHash),
    ("halt_latched_at", Json.ofOptional instantJson value.haltLatchedAt),
    ("halt_event_hash", Json.ofOptional .text value.haltEventHash),
    ("transition_count", .number value.transitionCount),
    ("observed_at", instantJson value.observedAt)])

def withDigest (value : HaltAuthoritySnapshot) : HaltAuthoritySnapshot :=
  { value with sourceHash := haltAuthoritySnapshotDigest value }

/-! ## Checks -/

/-- Check a configuration. -/
def validateConfig (config : HaltAuthorityConfig) : Except Failure Unit :=
  raiseIf (!([config.symbol, config.feed, config.sdkVersion].all isNonblankToken &&
    isHash config.codebookHash && 0 < config.maximumTradeAge &&
    config.maximumTradeAge ≤ Calendar.seconds 60 &&
    config.sessionOpenAt.isUtc && config.sessionCloseAt.isUtc &&
    config.sessionOpenAt.instant < config.sessionCloseAt.instant &&
    dateOf config.sessionOpenAt.instant == dateOf config.sessionCloseAt.instant &&
    config.sessionDate == dateOf config.sessionOpenAt.instant &&
    config.sourceHash == haltAuthorityConfigDigest config)) (.value "HALT_CONFIG_INVALID")

/-- A snapshot belongs to a configuration and carries its own digest. -/
def crossScopeValid (previous : HaltAuthoritySnapshot) (config : HaltAuthorityConfig) : Bool :=
  previous.sourceHash == haltAuthoritySnapshotDigest previous &&
  previous.configHash == config.sourceHash && previous.symbol == config.symbol &&
  previous.feed == config.feed && previous.sdkVersion == config.sdkVersion &&
  previous.sequenceAuthority == config.sequenceAuthority &&
  previous.codebookHash == config.codebookHash && previous.sessionDate == config.sessionDate &&
  previous.sessionOpenAt.instant == config.sessionOpenAt.instant &&
  previous.sessionCloseAt.instant == config.sessionCloseAt.instant

/-- An acknowledged epoch has a message, and one that is not acknowledged has none. -/
def activeEpochValid (previous : HaltAuthoritySnapshot) : Bool :=
  (previous.acknowledgedAt.isNone && previous.lastSequence == 0) ||
  ((previous.epoch.any fun epoch => !epoch.isEmpty) && previous.lastSequence ≥ 1 &&
    previous.acknowledgedAt.any fun acknowledgedAt =>
      previous.lastEventAt.any fun lastEventAt => acknowledgedAt ≤ lastEventAt)

/-- Times and hashes stand together, and every hash is one. -/
def hashPairsValid (previous : HaltAuthoritySnapshot) : Bool :=
  previous.lastTradeAt.isNone == previous.lastTradeHash.isNone &&
  previous.lastTradeHash.isNone == previous.lastTradeId.isNone &&
  previous.haltLatchedAt.isNone == previous.haltEventHash.isNone &&
  previous.lastEventAt.isNone == previous.lastEventHash.isNone &&
  previous.lastEventHash.all isHash && previous.decisiveEventHash.all isHash &&
  previous.lastRejectedEventHash.all isHash && previous.lastTradeHash.all isHash &&
  previous.haltEventHash.all isHash && previous.lastTradeId.all isNonblankToken

/-- One time is not after another, where both are there. -/
def notAfter (first second : Option Int) : Bool :=
  first.all fun a => second.all fun b => a ≤ b

/-- The times of a snapshot are in order. -/
def chronologyValid (previous : HaltAuthoritySnapshot) : Bool :=
  notAfter previous.lastEventAt (some previous.observedAt) &&
  notAfter previous.lastTradeAt (some previous.observedAt) &&
  notAfter previous.haltLatchedAt (some previous.observedAt) &&
  notAfter previous.lastTradeAt previous.lastEventAt &&
  notAfter previous.haltLatchedAt previous.lastEventAt &&
  (previous.acknowledgedAt.all fun acknowledgedAt =>
    previous.lastTradeAt.all fun lastTradeAt => acknowledgedAt < lastTradeAt)

/-- The fields of a snapshot fit its state. -/
def stateValid (previous : HaltAuthoritySnapshot) : Bool :=
  match previous.state with
  | .unknown => true
  | .openConfirmed => previous.acknowledgedAt.isSome && previous.lastTradeAt.isSome &&
      previous.haltLatchedAt.isNone
  | .haltedLatched => previous.haltLatchedAt.isSome
  | .resumePending => previous.haltLatchedAt.any fun haltLatchedAt =>
      previous.lastEventAt.any fun lastEventAt => haltLatchedAt < lastEventAt

/-- The counters of a snapshot are not negative. -/
def scalarValid (previous : HaltAuthoritySnapshot) : Bool :=
  0 ≤ previous.lastSequence && 0 ≤ previous.transitionCount

/-- Check a snapshot on record. -/
def validatePrevious (previous : HaltAuthoritySnapshot) (config : HaltAuthorityConfig) :
    Except Failure Unit :=
  raiseIf (!(crossScopeValid previous config && activeEpochValid previous &&
    hashPairsValid previous && chronologyValid previous && stateValid previous &&
    scalarValid previous)) (.value "HALT_PREVIOUS_INVALID")

/-- Refuse a time that lies too far behind the snapshot on record. -/
def validateReadTime (previous : HaltAuthoritySnapshot) (observedAt : Int) : Except Failure Unit :=
  raiseIf (previous.observedAt - observedAt > readSkewTolerance)
    (.value "HALT_READ_TIME_REGRESSION")

/-- A time lies inside the session. -/
def insideSession (config : HaltAuthorityConfig) (observedAt : Int) : Bool :=
  config.sessionOpenAt.instant ≤ observedAt && observedAt < config.sessionCloseAt.instant

/-- A codebook is well-formed and the one of a configuration. -/
def codebookValid (codebook : HaltStatusCodebook) (config : HaltAuthorityConfig) : Bool :=
  (codebook.mappings.all fun (code, _) => !code.isEmpty) && !codebook.version.isEmpty &&
  !codebook.feed.isEmpty && !codebook.sdkVersion.isEmpty && !codebook.mappings.isEmpty &&
  decide (codebook.mappings.map Prod.fst).Nodup &&
  codebook.sourceHash == haltStatusCodebookDigest codebook && codebook.feed == config.feed &&
  codebook.sdkVersion == config.sdkVersion && codebook.sourceHash == config.codebookHash

/-- A message holds at a time. -/
def eventValid (event : HaltAuthorityEvent) (config : HaltAuthorityConfig) (observedAt : Int) :
    Bool :=
  event.eventAt.isUtc && event.receivedAt.isUtc && event.symbol == config.symbol &&
  isNonblankToken event.epoch && 0 < event.sequence &&
  config.sessionOpenAt.instant ≤ event.eventAt.instant &&
  event.eventAt.instant < config.sessionCloseAt.instant &&
  event.eventAt.instant ≤ event.receivedAt.instant && event.receivedAt.instant ≤ observedAt &&
  event.sourceHash == haltAuthorityEventDigest event

/-- A message follows the last one. A trade may share its time or lie slightly behind it. -/
def chronologyAcceptable (lastEventAt : Int) (event : HaltAuthorityEvent) : Bool :=
  if event.kind = .trade then lastEventAt - event.eventAt.instant ≤ tradeOrderTolerance
  else event.eventAt.instant > lastEventAt

/-- A message continues the acknowledged epoch. -/
def continuesEpoch (previous : HaltAuthoritySnapshot) (event : HaltAuthorityEvent) : Bool :=
  previous.epoch.isSome && previous.acknowledgedAt.isSome &&
  previous.epoch == some event.epoch && event.sequence == previous.lastSequence + 1 &&
  previous.lastEventAt.all fun lastEventAt => chronologyAcceptable lastEventAt event

/-! ## Changes of a snapshot -/

/-- The state of a snapshot that fails closed: a halt stays latched. -/
def closedState (previous : HaltAuthoritySnapshot) : HaltAuthorityState :=
  if previous.state.isLatched then previous.state else .unknown

/-- A changed snapshot in a state, which counts as a transition when the state is new. -/
def transition (previous : HaltAuthoritySnapshot) (state : HaltAuthorityState)
    (changed : HaltAuthoritySnapshot) : HaltAuthoritySnapshot :=
  withDigest { changed with
    state
    transitionCount := if state = previous.state then previous.transitionCount
      else previous.transitionCount + 1 }

/-- Fail closed: the epoch is no longer acknowledged. -/
def failClosed (previous : HaltAuthoritySnapshot) (observedAt : Int)
    (rejectedEventHash : Option String) : HaltAuthoritySnapshot :=
  transition previous (closedState previous) { previous with
    acknowledgedAt := none
    lastSequence := 0
    observedAt
    lastRejectedEventHash :=
      if rejectedEventHash.isSome then rejectedEventHash else previous.lastRejectedEventHash }

/-- Outside of the session nothing is known, and no halt stays latched. -/
def sessionClosed (previous : HaltAuthoritySnapshot) (observedAt : Int) : HaltAuthoritySnapshot :=
  transition previous .unknown { previous with
    acknowledgedAt := none
    lastSequence := 0
    haltLatchedAt := none
    haltEventHash := none
    observedAt }

/-- A snapshot that has recorded a message. -/
def recordEvent (previous : HaltAuthoritySnapshot) (event : HaltAuthorityEvent)
    (observedAt : Int) : HaltAuthoritySnapshot :=
  { previous with
    lastSequence := event.sequence
    lastEventAt := some event.eventAt.instant
    lastEventHash := some event.sourceHash
    observedAt }

/-- A message may acknowledge a new epoch. -/
def acknowledgesEpoch (previous : HaltAuthoritySnapshot) (event : HaltAuthorityEvent) : Bool :=
  previous.acknowledgedAt.isNone && !event.epoch.isEmpty && event.sequence == 1 &&
  previous.epoch != some event.epoch &&
  (previous.lastEventAt.all fun lastEventAt => lastEventAt < event.eventAt.instant) &&
  event.statusCode.isNone && event.tradeId.isNone

/-- The epoch of a message is acknowledged: its trades are still to come. -/
def acknowledged (previous : HaltAuthoritySnapshot) (event : HaltAuthorityEvent)
    (observedAt : Int) : HaltAuthoritySnapshot :=
  transition previous (closedState previous) { recordEvent previous event observedAt with
    epoch := some event.epoch
    acknowledgedAt := some event.eventAt.instant
    decisiveEventHash := some event.sourceHash
    lastTradeAt := none
    lastTradeId := none
    lastTradeHash := none }

/-- Acknowledge the epoch of a message, or fail closed. -/
def acknowledgeEpoch (previous : HaltAuthoritySnapshot) (event : HaltAuthorityEvent)
    (observedAt : Int) : HaltAuthoritySnapshot :=
  if acknowledgesEpoch previous event then acknowledged previous event observedAt
  else failClosed previous observedAt (some event.sourceHash)

/-- A message that breaks the stream ends the epoch. -/
def failureEvent (previous : HaltAuthoritySnapshot) (event : HaltAuthorityEvent)
    (observedAt : Int) : HaltAuthoritySnapshot :=
  transition previous (closedState previous) { recordEvent previous event observedAt with
    acknowledgedAt := none
    lastSequence := 0
    decisiveEventHash := some event.sourceHash }

/-- The meaning of a status message, where its codebook holds and knows its code. -/
def statusMeaning (event : HaltAuthorityEvent) (config : HaltAuthorityConfig)
    (codebook : Option HaltStatusCodebook) : Option HaltCodeMeaning := do
  let codebook ← codebook
  let code ← event.statusCode
  if codebookValid codebook config && !code.isEmpty && event.tradeId.isNone then
    lastByKey Prod.fst codebook.mappings code |>.map Prod.snd
  else none

/-- The state after a status message. -/
def statusState (previous : HaltAuthoritySnapshot) : HaltCodeMeaning → HaltAuthorityState
  | .halt => .haltedLatched
  | .resume => if previous.state.isLatched then .resumePending else .unknown

/-- A status message latches a halt, or announces that trading resumes. -/
def announced (previous : HaltAuthoritySnapshot) (event : HaltAuthorityEvent)
    (meaning : HaltCodeMeaning) (observedAt : Int) : HaltAuthoritySnapshot :=
  transition previous (statusState previous meaning) { recordEvent previous event observedAt with
    decisiveEventHash := some event.sourceHash
    haltLatchedAt :=
      if meaning = .halt then some event.eventAt.instant else previous.haltLatchedAt
    haltEventHash :=
      if meaning = .halt then some event.sourceHash else previous.haltEventHash }

/-- Record a status message that means something, or fail closed. -/
def statusEvent (previous : HaltAuthoritySnapshot) (event : HaltAuthorityEvent)
    (config : HaltAuthorityConfig) (codebook : Option HaltStatusCodebook) (observedAt : Int) :
    HaltAuthoritySnapshot :=
  match statusMeaning event config codebook with
  | some meaning => announced previous event meaning observedAt
  | none => failClosed previous observedAt (some event.sourceHash)

/-- A trade is new, well-formed, later than the acknowledgement of its epoch, and fresh. -/
def validTrade (previous : HaltAuthoritySnapshot) (event : HaltAuthorityEvent)
    (config : HaltAuthorityConfig) (observedAt : Int) : Bool :=
  event.tradeId.any isNonblankToken && event.tradeId != previous.lastTradeId &&
  event.statusCode.isNone &&
  (previous.acknowledgedAt.any fun acknowledgedAt => acknowledgedAt < event.eventAt.instant) &&
  0 ≤ observedAt - event.eventAt.instant &&
  observedAt - event.eventAt.instant ≤ config.maximumTradeAge

/-- The state after a trade: it opens an unknown market, and one that was about to resume. -/
def tradeState : HaltAuthorityState → HaltAuthorityState
  | .unknown | .resumePending => .openConfirmed
  | state => state

/-- A trade confirms that the market is open, except while a halt is latched. -/
def traded (previous : HaltAuthoritySnapshot) (event : HaltAuthorityEvent) (observedAt : Int) :
    HaltAuthoritySnapshot :=
  let opens := tradeState previous.state = .openConfirmed
  transition previous (tradeState previous.state) { recordEvent previous event observedAt with
    decisiveEventHash := some event.sourceHash
    lastTradeAt := some event.eventAt.instant
    lastTradeId := event.tradeId
    lastTradeHash := some event.sourceHash
    haltLatchedAt := if opens then none else previous.haltLatchedAt
    haltEventHash := if opens then none else previous.haltEventHash }

/-- Record a valid trade, or fail closed. -/
def tradeEvent (previous : HaltAuthoritySnapshot) (event : HaltAuthorityEvent)
    (config : HaltAuthorityConfig) (observedAt : Int) : HaltAuthoritySnapshot :=
  if validTrade previous event config observedAt then traded previous event observedAt
  else failClosed previous observedAt (some event.sourceHash)

/-- The last trade no longer proves that the market is open. -/
def isTradeStale (previous : HaltAuthoritySnapshot) (config : HaltAuthorityConfig)
    (observedAt : Int) : Bool :=
  previous.lastTradeAt.all fun lastTradeAt =>
    observedAt - lastTradeAt > config.maximumTradeAge ||
      lastTradeAt - observedAt > futureTradeTolerance

/-- The state after any other message: it confirms nothing, and an open market may go stale. -/
def passiveState (previous : HaltAuthoritySnapshot) (config : HaltAuthorityConfig)
    (observedAt : Int) : HaltAuthorityState :=
  if previous.state = .openConfirmed ∧ isTradeStale previous config observedAt then .unknown
  else previous.state

/-- Record any other message, or fail closed. -/
def passiveEvent (previous : HaltAuthoritySnapshot) (event : HaltAuthorityEvent)
    (config : HaltAuthorityConfig) (observedAt : Int) : HaltAuthoritySnapshot :=
  if event.statusCode.isSome || event.tradeId.isSome then
    failClosed previous observedAt (some event.sourceHash)
  else
    transition previous (passiveState previous config observedAt)
      (recordEvent previous event observedAt)

/-! ## Reductions and reads -/

/-- The first snapshot of a configuration at a time: nothing is known. -/
def firstSnapshot (config : HaltAuthorityConfig) (observedAt : Int) : HaltAuthoritySnapshot :=
  withDigest {
    symbol := config.symbol
    feed := config.feed
    sdkVersion := config.sdkVersion
    sequenceAuthority := config.sequenceAuthority
    codebookHash := config.codebookHash
    configHash := config.sourceHash
    sessionDate := config.sessionDate
    sessionOpenAt := config.sessionOpenAt
    sessionCloseAt := config.sessionCloseAt
    epoch := none
    acknowledgedAt := none
    state := .unknown
    lastSequence := 0
    lastEventAt := none
    lastEventHash := none
    decisiveEventHash := none
    lastRejectedEventHash := none
    lastTradeAt := none
    lastTradeId := none
    lastTradeHash := none
    haltLatchedAt := none
    haltEventHash := none
    transitionCount := 0
    observedAt
    sourceHash := "" }

/-- The first snapshot of an authority. -/
def initialHaltAuthority (config : HaltAuthorityConfig) (readAt : Datetime) :
    Except Failure HaltAuthoritySnapshot := do
  validateConfig config
  let observedAt ← readAt.toUtc "HALT_READ_TIME_INVALID"
  return firstSnapshot config observedAt

/-- What a message makes of a snapshot that was checked. -/
def reduced (previous : HaltAuthoritySnapshot) (event : HaltAuthorityEvent)
    (config : HaltAuthorityConfig) (codebook : Option HaltStatusCodebook) (observedAt : Int) :
    HaltAuthoritySnapshot :=
  if !insideSession config observedAt then sessionClosed previous observedAt
  else if !eventValid event config observedAt then failClosed previous observedAt none
  else if event.kind = .epochAck then acknowledgeEpoch previous event observedAt
  else if !continuesEpoch previous event then
    failClosed previous observedAt (some event.sourceHash)
  else if event.kind.isFailure then failureEvent previous event observedAt
  else if event.kind = .tradingStatus then statusEvent previous event config codebook observedAt
  else if event.kind = .trade then tradeEvent previous event config observedAt
  else passiveEvent previous event config observedAt

/-- Reduce a snapshot by a message. -/
def reduceHaltAuthority (previous : HaltAuthoritySnapshot) (event : HaltAuthorityEvent)
    (config : HaltAuthorityConfig) (codebook : Option HaltStatusCodebook) (readAt : Datetime) :
    Except Failure HaltAuthoritySnapshot := do
  validateConfig config
  validatePrevious previous config
  let observedAt ← readAt.toUtc "HALT_READ_TIME_INVALID"
  validateReadTime previous observedAt
  return reduced previous event config codebook observedAt

/-- What a read makes of a snapshot that was checked. -/
def reread (previous : HaltAuthoritySnapshot) (config : HaltAuthorityConfig) (observedAt : Int) :
    HaltAuthoritySnapshot :=
  if !insideSession config observedAt then sessionClosed previous observedAt
  else if previous.state.isLatched then withDigest { previous with observedAt }
  else if previous.state ≠ .openConfirmed ∨ isTradeStale previous config observedAt then
    transition previous .unknown { previous with observedAt }
  else withDigest { previous with observedAt }

/-- Read the authority at a time. A time before the snapshot on record counts as its time. -/
def readHaltAuthority (previous : HaltAuthoritySnapshot) (config : HaltAuthorityConfig)
    (readAt : Datetime) : Except Failure HaltAuthoritySnapshot := do
  validateConfig config
  validatePrevious previous config
  let requestedAt ← readAt.toUtc "HALT_READ_TIME_INVALID"
  validateReadTime previous requestedAt
  return reread previous config (max requestedAt previous.observedAt)

/-! ## The system -/

/-- A call of the authority. -/
inductive HaltCall where
  | reduce (event : HaltAuthorityEvent) (codebook : Option HaltStatusCodebook) (readAt : Datetime)
  | read (readAt : Datetime)

def HaltCall.readAt : HaltCall → Datetime
  | reduce _ _ readAt | read readAt => readAt

def HaltCall.result (call : HaltCall) (config : HaltAuthorityConfig)
    (previous : HaltAuthoritySnapshot) : Except Failure HaltAuthoritySnapshot :=
  match call with
  | .reduce event codebook readAt => reduceHaltAuthority previous event config codebook readAt
  | .read readAt => readHaltAuthority previous config readAt

/-- The snapshot on record after a call: one that raises leaves it as it was. -/
def HaltCall.execute (call : HaltCall) (config : HaltAuthorityConfig)
    (previous : HaltAuthoritySnapshot) : HaltAuthoritySnapshot :=
  match call.result config previous with
  | .ok next => next
  | .error _ => previous

/-- The authority of a configuration: it starts with a first snapshot, and its steps are calls. -/
def haltAuthority (config : HaltAuthorityConfig) : System HaltAuthoritySnapshot HaltCall where
  initial snapshot := ∃ readAt, initialHaltAuthority config readAt = .ok snapshot
  step previous call next := next = call.execute config previous

end AlphaDecay
