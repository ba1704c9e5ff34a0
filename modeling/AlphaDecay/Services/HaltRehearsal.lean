import AlphaDecay.Persistence.Rehearsal
import AlphaDecay.Services.HaltSteps

/-!
# A rehearsal of the halt authority

An authority for one symbol, and the messages of a session on which statements about its runs can
be evaluated: the epoch is acknowledged at the opening, and times count the seconds from there.
-/

namespace AlphaDecay

open Foundation

section Calls

variable [Digest]

/-- The snapshot on record after calls in order. -/
def afterCalls (config : HaltAuthorityConfig) (previous : HaltAuthoritySnapshot)
    (calls : List HaltCall) : HaltAuthoritySnapshot :=
  calls.foldl (fun snapshot call => call.execute config snapshot) previous

/-- Calls in order that meet a condition are a run of the authority that meets it. -/
theorem run_of_calls {config : HaltAuthorityConfig}
    {condition : HaltAuthoritySnapshot → HaltCall → Bool} {previous : HaltAuthoritySnapshot}
    {calls : List HaltCall}
    (h : System.allAlong (fun snapshot call => HaltCall.execute call config snapshot) condition
      previous calls = true) :
    ((haltAuthority config).restrict fun snapshot call => condition snapshot call = true).Run
      previous calls (afterCalls config previous calls) :=
  System.Run.of_allAlong (fun _ _ _ => rfl) h

end Calls

namespace HaltRehearsal

/-- The opening of the session: a time on 28 August 2026. -/
def openAt : Int := 63923520600000000

/-- A number of seconds after the opening. -/
def secondsIn (seconds : Int) : Datetime where
  instant := openAt + Calendar.seconds seconds
  isUtc := true

/-- The status codes of the feed. -/
def codebook : HaltStatusCodebook where
  version := "alpaca-sip-v1"
  feed := "SIP"
  sdkVersion := "0.44.0"
  mappings := [("H", .halt), ("T", .resume)]
  sourceHash := Rehearsal.zeros

/-- The authority for one symbol in one session. -/
def config : HaltAuthorityConfig where
  symbol := "NVDA"
  feed := "SIP"
  sdkVersion := "0.44.0"
  sessionDate := dateOf openAt
  sessionOpenAt := secondsIn 0
  sessionCloseAt := secondsIn 23400
  maximumTradeAge := Calendar.seconds 15
  sequenceAuthority := .adapterReceiveOrderV1
  codebookHash := Rehearsal.zeros
  sourceHash := Rehearsal.zeros

/-- A message of the stream. -/
def message (kind : HaltAuthorityEventKind) (sequence : Int) (seconds : Int)
    (statusCode tradeId : Option String) : HaltAuthorityEvent where
  kind
  symbol := "NVDA"
  epoch := "epoch-1"
  sequence
  eventAt := secondsIn seconds
  receivedAt := secondsIn seconds
  statusCode
  tradeId
  sourceHash := Rehearsal.zeros

/-- Reduce a message at a time. -/
def reduceAt (event : HaltAuthorityEvent) (seconds : Int) : HaltCall :=
  .reduce event (some codebook) (secondsIn seconds)

def opening : HaltAuthoritySnapshot :=
  firstSnapshot config openAt

theorem opening_ok : initialHaltAuthority config (secondsIn 0) = .ok opening := by
  rw [initialHaltAuthority, check_bind_ok]
  refine ⟨by decide +kernel, ?_⟩
  rfl

theorem opening_initial : (haltAuthority config).initial opening :=
  ⟨secondsIn 0, opening_ok⟩

/-- The acknowledgement of the epoch, ten seconds in. -/
def acknowledgement : HaltCall :=
  reduceAt (message .epochAck 1 10 none none) 10

/-- The first trade of the epoch, a second later. -/
def firstTrade : HaltCall :=
  reduceAt (message .trade 2 11 none (some "trade-1")) 11

/-- A read, another second later. -/
def readLater : HaltCall :=
  .read (secondsIn 12)

end HaltRehearsal

end AlphaDecay
