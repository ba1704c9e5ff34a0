import AlphaDecay.Services.HaltValidity

/-!
# Fresh proof that a market is open

Every reduction judges its message: it accepts it, or fails closed. The judged authority keeps the
log of these judgements, oldest first. A market is confirmed open only in an epoch that is fresh:
since its acknowledgement every message was accepted, in sequence and without a failure, and the
last of its trades is new, later than the acknowledgement and not too old.
-/

namespace AlphaDecay

open Foundation

/-! ## Judged messages -/

/-- A message that a reduction has judged, and whether it was accepted. -/
structure Judged where
  event : HaltAuthorityEvent
  accepted : Bool

/-- The trades among judged messages. -/
def tradesOf (log : List Judged) : List Judged :=
  log.filter fun judged => judged.event.kind = .trade

/-- The acknowledgements that were accepted. -/
def acknowledgementsOf (log : List Judged) : List Judged :=
  log.filter fun judged => judged.accepted && judged.event.kind = .epochAck

/-- An acknowledgement, with the messages judged before and after it, stands for a fresh epoch: it
has another name than the epoch before, every message since was accepted, in sequence and without
a failure, and its trades are later than the acknowledgement and differ from one to the next. -/
structure FreshEpoch (before : List Judged) (acknowledgement : Judged) (after : List Judged) :
    Prop where
  kind : acknowledgement.event.kind = .epochAck
  accepted : acknowledgement.accepted = true
  renamed : ∀ earlier ∈ (acknowledgementsOf before).getLast?,
    earlier.event.epoch ≠ acknowledgement.event.epoch
  unbroken : ∀ judged ∈ after, judged.accepted = true ∧
    judged.event.epoch = acknowledgement.event.epoch ∧
    judged.event.kind.isFailure = false ∧ judged.event.kind ≠ .epochAck
  consecutive : (acknowledgement :: after).map (·.event.sequence) =
    (List.range (after.length + 1)).map fun n : Nat => (n : Int) + 1
  later : ∀ trade ∈ tradesOf after,
    acknowledgement.event.eventAt.instant < trade.event.eventAt.instant
  distinct : (tradesOf after).IsChain fun earlier trade =>
    earlier.event.tradeId ≠ trade.event.tradeId

/-- An acknowledgement starts a fresh epoch when it is accepted, has another name than the epoch
before it, and is the first in its sequence. -/
theorem FreshEpoch.start {before : List Judged} {acknowledgement : Judged}
    (hkind : acknowledgement.event.kind = .epochAck) (haccepted : acknowledgement.accepted = true)
    (hrenamed : ∀ earlier ∈ (acknowledgementsOf before).getLast?,
      earlier.event.epoch ≠ acknowledgement.event.epoch)
    (hsequence : acknowledgement.event.sequence = 1) : FreshEpoch before acknowledgement [] where
  kind := hkind
  accepted := haccepted
  renamed := hrenamed
  unbroken _ h := nomatch h
  consecutive := by simp [hsequence]
  later _ h := nomatch h
  distinct := .nil

/-- The trades of a list with one message more. -/
theorem tradesOf_snoc (log : List Judged) (judged : Judged) :
    tradesOf (log ++ [judged]) =
      if judged.event.kind = .trade then tradesOf log ++ [judged] else tradesOf log := by
  unfold tradesOf
  rw [List.filter_append, List.filter_singleton]
  by_cases htrade : judged.event.kind = .trade <;> simp [htrade]

/-- A fresh epoch stays fresh when a message continues it, and when the message is a trade that is
new and later than the acknowledgement. -/
theorem FreshEpoch.snoc {before after : List Judged} {acknowledgement judged : Judged}
    (h : FreshEpoch before acknowledgement after) (haccepted : judged.accepted = true)
    (hepoch : judged.event.epoch = acknowledgement.event.epoch)
    (hfailure : judged.event.kind.isFailure = false) (hkind : judged.event.kind ≠ .epochAck)
    (hsequence : judged.event.sequence = (after.length : Int) + 2)
    (htrade : judged.event.kind = .trade →
      acknowledgement.event.eventAt.instant < judged.event.eventAt.instant ∧
      ∀ earlier ∈ (tradesOf after).getLast?, earlier.event.tradeId ≠ judged.event.tradeId) :
    FreshEpoch before acknowledgement (after ++ [judged]) where
  kind := h.kind
  accepted := h.accepted
  renamed := h.renamed
  unbroken := by
    intro message hmem
    rcases List.mem_append.mp hmem with hmem | hmem
    · exact h.unbroken message hmem
    · obtain rfl := List.mem_singleton.mp hmem
      exact ⟨haccepted, hepoch, hfailure, hkind⟩
  consecutive := by
    have hsequences := h.consecutive
    rw [← List.cons_append, List.map_append, hsequences, List.length_append, List.length_singleton,
      List.range_succ (n := after.length + 1), List.map_append, List.map_singleton,
      List.map_singleton, hsequence]
    simp only [Nat.cast_add, Nat.cast_one]
    congr 2
  later := by
    intro trade hmem
    rw [tradesOf_snoc] at hmem
    split at hmem
    · rename_i hiskind
      rcases List.mem_append.mp hmem with hmem | hmem
      · exact h.later trade hmem
      · obtain rfl := List.mem_singleton.mp hmem
        exact (htrade hiskind).1
    · exact h.later trade hmem
  distinct := by
    rw [tradesOf_snoc]
    split
    · rename_i hiskind
      refine List.isChain_append.mpr ⟨h.distinct, .singleton _, ?_⟩
      intro earlier hearlier last hlast
      obtain rfl : judged = last := by simpa using hlast
      exact (htrade hiskind).2 earlier hearlier
    · exact h.distinct

/-- The acknowledgements of a list with one message more. -/
theorem acknowledgementsOf_snoc (log : List Judged) (judged : Judged) :
    acknowledgementsOf (log ++ [judged]) =
      if judged.accepted = true ∧ judged.event.kind = .epochAck
      then acknowledgementsOf log ++ [judged] else acknowledgementsOf log := by
  unfold acknowledgementsOf
  rw [List.filter_append, List.filter_singleton]
  by_cases haccepted : judged.accepted = true <;> by_cases hkind : judged.event.kind = .epochAck <;>
    simp [haccepted, hkind]

/-! ## Judgements -/

section

variable [Digest]

variable {codebook : Option HaltStatusCodebook}

/-- A reduction accepts a message: the session is open, the message holds, and the branch of its
kind does not fail closed. -/
def accepts (previous : HaltAuthoritySnapshot) (event : HaltAuthorityEvent)
    (config : HaltAuthorityConfig) (codebook : Option HaltStatusCodebook) (observedAt : Int) :
    Bool :=
  insideSession config observedAt && eventValid event config observedAt &&
  if event.kind = .epochAck then acknowledgesEpoch previous event
  else if !continuesEpoch previous event then false
  else if event.kind.isFailure then true
  else if event.kind = .tradingStatus then (statusMeaning event config codebook).isSome
  else if event.kind = .trade then validTrade previous event config observedAt
  else !(event.statusCode.isSome || event.tradeId.isSome)

/-- The ways in which a message is judged and changes a snapshot. -/
inductive Judgement (previous : HaltAuthoritySnapshot) (event : HaltAuthorityEvent)
    (config : HaltAuthorityConfig) (codebook : Option HaltStatusCodebook) (observedAt : Int) :
    Bool → HaltAuthoritySnapshot → Prop where
  | closed : Judgement previous event config codebook observedAt false
      (sessionClosed previous observedAt)
  | failed (rejected : Option String) : Judgement previous event config codebook observedAt false
      (failClosed previous observedAt rejected)
  | acknowledged (hkind : event.kind = .epochAck)
      (hack : acknowledgesEpoch previous event = true) :
      Judgement previous event config codebook observedAt true
        (acknowledged previous event observedAt)
  | failure (hkind : event.kind.isFailure = true) :
      Judgement previous event config codebook observedAt true
        (failureEvent previous event observedAt)
  | announced (meaning : HaltCodeMeaning) (hcontinues : continuesEpoch previous event = true)
      (hkind : event.kind = .tradingStatus) :
      Judgement previous event config codebook observedAt true
        (announced previous event meaning observedAt)
  | traded (hcontinues : continuesEpoch previous event = true) (hkind : event.kind = .trade)
      (htrade : validTrade previous event config observedAt = true) :
      Judgement previous event config codebook observedAt true (traded previous event observedAt)
  | passed (hcontinues : continuesEpoch previous event = true)
      (hkind : event.kind.isFailure = false ∧ event.kind ≠ .epochAck ∧ event.kind ≠ .trade) :
      Judgement previous event config codebook observedAt true
        (transition previous (passiveState previous config observedAt)
          (recordEvent previous event observedAt))

/-- Every message is judged in one of the listed ways, and accepted or not as the code says. -/
theorem reduced_judgement (previous : HaltAuthoritySnapshot) (event : HaltAuthorityEvent)
    (config : HaltAuthorityConfig) (codebook : Option HaltStatusCodebook) (observedAt : Int) :
    Judgement previous event config codebook observedAt
      (accepts previous event config codebook observedAt)
      (reduced previous event config codebook observedAt) := by
  unfold reduced accepts
  by_cases hinside : insideSession config observedAt = true
  case neg => simpa [hinside] using .closed
  by_cases hvalid : eventValid event config observedAt = true
  case neg => simpa [hinside, hvalid] using .failed none
  simp only [hinside, hvalid, Bool.not_true, Bool.false_eq_true, if_false, Bool.true_and]
  by_cases hack : event.kind = .epochAck
  · simp only [hack, if_true]
    unfold acknowledgeEpoch
    by_cases hacknowledges : acknowledgesEpoch previous event = true
    · rw [if_pos hacknowledges, hacknowledges]
      exact .acknowledged hack hacknowledges
    · rw [if_neg hacknowledges, Bool.eq_false_of_not_eq_true hacknowledges]
      exact .failed _
  by_cases hcontinues : continuesEpoch previous event = true
  case neg => simpa [hack, hcontinues] using .failed (some event.sourceHash)
  simp only [hack, hcontinues, Bool.not_true, Bool.false_eq_true, if_false]
  by_cases hfailure : event.kind.isFailure = true
  · simp only [hfailure, if_true]
    exact .failure hfailure
  simp only [hfailure]
  by_cases hstatus : event.kind = .tradingStatus
  · simp only [hstatus, if_true]
    unfold statusEvent
    cases statusMeaning event config codebook with
    | none => exact .failed _
    | some meaning => exact .announced meaning hcontinues hstatus
  simp only [hstatus, if_false]
  by_cases htrade : event.kind = .trade
  · simp only [htrade, if_true]
    unfold tradeEvent
    by_cases hvalidTrade : validTrade previous event config observedAt = true
    · rw [if_pos hvalidTrade, hvalidTrade]
      exact .traded hcontinues htrade hvalidTrade
    · rw [if_neg hvalidTrade, Bool.eq_false_of_not_eq_true hvalidTrade]
      exact .failed _
  · simp only [htrade, if_false]
    unfold passiveEvent
    by_cases hextra : (event.statusCode.isSome || event.tradeId.isSome) = true
    · rw [if_pos hextra, hextra]
      exact .failed _
    · rw [if_neg hextra, Bool.eq_false_of_not_eq_true hextra]
      exact .passed hcontinues ⟨Bool.eq_false_of_not_eq_true hfailure, hack, htrade⟩

/-- What a call judges: nothing when it only reads, or raises. -/
def HaltCall.judged (config : HaltAuthorityConfig) (previous : HaltAuthoritySnapshot) :
    HaltCall → Option Judged
  | .read _ => none
  | .reduce event codebook readAt =>
      if (reduceHaltAuthority previous event config codebook readAt).isOk then
        some { event, accepted := accepts previous event config codebook readAt.instant }
      else none

/-- A snapshot on record, with the log of the messages that were judged. -/
structure Judging where
  snapshot : HaltAuthoritySnapshot
  log : List Judged

def Judging.after (config : HaltAuthorityConfig) (judging : Judging) (call : HaltCall) :
    Judging where
  snapshot := call.execute config judging.snapshot
  log := judging.log ++ (call.judged config judging.snapshot).toList

/-- The authority with the log of the messages it judges. -/
def judgedAuthority (config : HaltAuthorityConfig) : System Judging HaltCall where
  initial judging := (haltAuthority config).initial judging.snapshot ∧ judging.log = []
  step previous call next := next = previous.after config call

/-! ## What a snapshot records of its log -/

structure RecordsEpoch (snapshot : HaltAuthoritySnapshot) (acknowledgedAt : Int)
    (acknowledgement : Judged) (after : List Judged) : Prop where
  epoch : snapshot.epoch = some acknowledgement.event.epoch
  acknowledgedAt : acknowledgedAt = acknowledgement.event.eventAt.instant
  lastSequence : snapshot.lastSequence = (after.length : Int) + 1
  lastTradeAt : snapshot.lastTradeAt = (tradesOf after).getLast?.map (·.event.eventAt.instant)
  lastTradeId : snapshot.lastTradeId = (tradesOf after).getLast?.bind (·.event.tradeId)

/-- A snapshot records its log: the name of the last epoch, and the messages of a fresh one. -/
structure Records (snapshot : HaltAuthoritySnapshot) (log : List Judged) : Prop where
  epoch : snapshot.epoch = (acknowledgementsOf log).getLast?.map (·.event.epoch)
  active : ∀ acknowledgedAt ∈ snapshot.acknowledgedAt, ∃ before acknowledgement after,
    log = before ++ acknowledgement :: after ∧ FreshEpoch before acknowledgement after ∧
    RecordsEpoch snapshot acknowledgedAt acknowledgement after

variable {previous next : HaltAuthoritySnapshot} {event : HaltAuthorityEvent}
  {config : HaltAuthorityConfig} {observedAt : Int} {log : List Judged} {judged : Judged}

omit [Digest] in
/-- A snapshot whose epoch has ended records a log without a new acknowledgement. -/
theorem Records.ended (h : Records previous log) (hepoch : next.epoch = previous.epoch)
    (hended : next.acknowledgedAt = none)
    (hjudged : ¬(judged.accepted = true ∧ judged.event.kind = .epochAck)) :
    Records next (log ++ [judged]) where
  epoch := by rw [acknowledgementsOf_snoc, if_neg hjudged, hepoch, h.epoch]
  active acknowledgedAt hack := by
    rw [hended] at hack
    cases hack

omit [Digest] in
/-- A snapshot that only reads records the same log, whether or not its epoch ends. -/
theorem Records.reread (h : Records previous log) (hepoch : next.epoch = previous.epoch)
    (hack : next.acknowledgedAt = none ∨ next.acknowledgedAt = previous.acknowledgedAt)
    (hsequence : next.acknowledgedAt.isSome → next.lastSequence = previous.lastSequence)
    (htradeAt : next.lastTradeAt = previous.lastTradeAt)
    (htradeId : next.lastTradeId = previous.lastTradeId) : Records next log where
  epoch := hepoch.trans h.epoch
  active acknowledgedAt hactive := by
    rcases hack with hended | hsame
    · rw [hended] at hactive
      cases hactive
    · have hisSome : next.acknowledgedAt.isSome := Option.isSome_of_mem hactive
      rw [hsame] at hactive
      obtain ⟨before, acknowledgement, after, hlog, hfresh, hrecords⟩ :=
        h.active acknowledgedAt hactive
      exact ⟨before, acknowledgement, after, hlog, hfresh, hepoch.trans hrecords.epoch,
        hrecords.acknowledgedAt, (hsequence hisSome).trans hrecords.lastSequence,
        htradeAt.trans hrecords.lastTradeAt, htradeId.trans hrecords.lastTradeId⟩

/-- An acknowledgement that is accepted starts a fresh epoch. -/
theorem Records.acknowledge (h : Records previous log) (hkind : event.kind = .epochAck)
    (hack : acknowledgesEpoch previous event = true) :
    Records (acknowledged previous event observedAt) (log ++ [{ event, accepted := true }]) := by
  simp only [acknowledgesEpoch, Bool.and_eq_true, beq_iff_eq, bne_iff_ne] at hack
  obtain ⟨⟨⟨⟨⟨⟨-, -⟩, hsequence⟩, hrenamed⟩, -⟩, -⟩, -⟩ := hack
  constructor
  · rw [acknowledgementsOf_snoc, if_pos ⟨rfl, hkind⟩, List.getLast?_concat]
    rfl
  · rintro acknowledgedAt ⟨⟩
    refine ⟨log, { event, accepted := true }, [], rfl,
      .start hkind rfl (fun earlier hearlier hsame => hrenamed ?_) hsequence,
        ⟨rfl, rfl, ?_, rfl, rfl⟩⟩
    · rw [h.epoch, Option.mem_def.mp hearlier]
      exact congrArg some hsame
    · exact hsequence

/-- What a message that continues an epoch makes of a snapshot. -/
structure Continued (previous : HaltAuthoritySnapshot) (event : HaltAuthorityEvent)
    (next : HaltAuthoritySnapshot) : Prop where
  continues : continuesEpoch previous event = true
  kind : event.kind.isFailure = false ∧ event.kind ≠ .epochAck
  epoch : next.epoch = previous.epoch
  acknowledgedAt : next.acknowledgedAt = previous.acknowledgedAt
  lastSequence : next.lastSequence = event.sequence
  lastTradeAt : next.lastTradeAt =
    if event.kind = .trade then some event.eventAt.instant else previous.lastTradeAt
  lastTradeId : next.lastTradeId =
    if event.kind = .trade then event.tradeId else previous.lastTradeId
  trade : event.kind = .trade → event.tradeId ≠ previous.lastTradeId ∧
    ∀ acknowledgedAt ∈ previous.acknowledgedAt, acknowledgedAt < event.eventAt.instant

omit [Digest] in
/-- A message that continues a fresh epoch keeps it fresh. -/
theorem Records.continued (h : Records previous log) (hnext : Continued previous event next) :
    Records next (log ++ [{ event, accepted := true }]) where
  epoch := by
    rw [acknowledgementsOf_snoc, if_neg fun hack => hnext.kind.2 hack.2, hnext.epoch, h.epoch]
  active acknowledgedAt hactive := by
    rw [hnext.acknowledgedAt] at hactive
    obtain ⟨before, acknowledgement, after, rfl, hfresh, hrecords⟩ :=
      h.active acknowledgedAt hactive
    obtain ⟨hepoch, hsequence, -⟩ := continuesEpoch_acknowledged hnext.continues
    have hname : event.epoch = acknowledgement.event.epoch :=
      Option.some.inj (hepoch.symm.trans hrecords.epoch)
    have hcount : event.sequence = (after.length : Int) + 2 := by
      rw [hsequence, hrecords.lastSequence]
      omega
    refine ⟨before, acknowledgement, after ++ [{ event, accepted := true }], by simp,
      hfresh.snoc rfl hname hnext.kind.1 hnext.kind.2 hcount fun htrade => ?_,
      hnext.epoch.trans hrecords.epoch, hrecords.acknowledgedAt, ?_, ?_, ?_⟩
    · obtain ⟨hdifferent, hlater⟩ := hnext.trade htrade
      refine ⟨hrecords.acknowledgedAt ▸ hlater acknowledgedAt hactive, fun earlier hearlier hsame =>
        hdifferent ?_⟩
      rw [hrecords.lastTradeId, Option.mem_def.mp hearlier]
      exact hsame.symm
    · rw [hnext.lastSequence, hcount, List.length_append, List.length_singleton]
      omega
    · rw [hnext.lastTradeAt, tradesOf_snoc]
      by_cases htrade : event.kind = .trade
      · simp [htrade]
      · simp [htrade, hrecords.lastTradeAt]
    · rw [hnext.lastTradeId, tradesOf_snoc]
      by_cases htrade : event.kind = .trade
      · simp [htrade]
      · simp [htrade, hrecords.lastTradeId]

/-- A message that is judged keeps a snapshot that records its log. -/
theorem Records.judge {accepted : Bool} (h : Records previous log)
    (hjudgement : Judgement previous event config codebook observedAt accepted next) :
    Records next (log ++ [⟨event, accepted⟩]) := by
  cases hjudgement with
  | closed => exact h.ended rfl rfl (by rintro ⟨⟨⟩, -⟩)
  | failed rejected => exact h.ended rfl rfl (by rintro ⟨⟨⟩, -⟩)
  | acknowledged hkind hack => exact h.acknowledge hkind hack
  | failure hkind =>
      refine h.ended rfl rfl fun hack => ?_
      rw [hack.2] at hkind
      cases hkind
  | announced meaning hcontinues hkind =>
      have hnot : event.kind ≠ .trade := by
        rw [hkind]
        rintro ⟨⟩
      refine h.continued ⟨hcontinues, ?_, rfl, rfl, rfl, (if_neg hnot).symm, (if_neg hnot).symm,
        fun htrade => absurd htrade hnot⟩
      rw [hkind]
      exact ⟨rfl, by rintro ⟨⟩⟩
  | traded hcontinues hkind htrade =>
      have hdifferent : event.tradeId ≠ previous.lastTradeId := by
        simp only [validTrade, Bool.and_eq_true, bne_iff_ne] at htrade
        exact htrade.1.1.1.1.2
      refine h.continued ⟨hcontinues, ?_, rfl, rfl, rfl, (if_pos hkind).symm, (if_pos hkind).symm,
        fun _ => ⟨hdifferent, (validTrade_facts htrade).2⟩⟩
      rw [hkind]
      exact ⟨rfl, by rintro ⟨⟩⟩
  | passed hcontinues hkind =>
      exact h.continued ⟨hcontinues, ⟨hkind.1, hkind.2.1⟩, rfl, rfl, rfl, (if_neg hkind.2.2).symm,
        (if_neg hkind.2.2).symm, fun htrade => absurd htrade hkind.2.2⟩

variable {judging : Judging} {call : HaltCall}

theorem Judging.after_of_ok (hresult : call.result config judging.snapshot = .ok next) :
    (judging.after config call).snapshot = next := by
  rw [Judging.after, HaltCall.execute, hresult]

/-- A call that does not raise returns what it leaves on record. -/
theorem Judging.result_of_isOk (h : (call.result config judging.snapshot).isOk = true) :
    call.result config judging.snapshot = .ok (judging.after config call).snapshot := by
  cases hresult : call.result config judging.snapshot with
  | error failure =>
      rw [hresult] at h
      cases h
  | ok next => rw [after_of_ok hresult]

/-- A call that raises changes nothing. -/
theorem Judging.after_of_error {failure : Failure}
    (hresult : call.result config judging.snapshot = .error failure) :
    judging.after config call = judging := by
  have hjudged : call.judged config judging.snapshot = none := by
    cases call with
    | read readAt => rfl
    | reduce event codebook readAt =>
        have hreduce : reduceHaltAuthority judging.snapshot event config codebook readAt =
          .error failure := hresult
        rw [HaltCall.judged, hreduce]
        rfl
  rw [Judging.after, HaltCall.execute, hresult, hjudged, Option.toList_none, List.append_nil]

/-- A read keeps what a snapshot records, unless it ends the epoch. -/
theorem Records.rereading (h : Records previous log)
    (hreading : Rereading previous config observedAt next) : Records next log := by
  cases hreading with
  | closed _ => exact h.reread rfl (.inl rfl) (by rintro ⟨⟩) rfl rfl
  | kept => exact h.reread rfl (.inr rfl) (fun _ => rfl) rfl rfl
  | stale _ => exact h.reread rfl (.inr rfl) (fun _ => rfl) rfl rfl

/-- Every call keeps a snapshot that records its log. -/
theorem Records.after (h : Records judging.snapshot judging.log) (call : HaltCall) :
    Records (judging.after config call).snapshot (judging.after config call).log := by
  cases hresult : call.result config judging.snapshot with
  | error failure => rwa [Judging.after_of_error hresult]
  | ok next =>
      rw [Judging.after_of_ok hresult]
      cases call with
      | read readAt =>
          have hread : readHaltAuthority judging.snapshot config readAt = .ok next := hresult
          obtain ⟨-, -, -, -, rfl⟩ := readHaltAuthority_ok.mp hread
          rw [Judging.after, HaltCall.judged, Option.toList_none, List.append_nil]
          exact h.rereading (reread_rereading _ _ _)
      | reduce event codebook readAt =>
          have hreduce : reduceHaltAuthority judging.snapshot event config codebook readAt =
            .ok next := hresult
          obtain ⟨-, -, -, -, rfl⟩ := reduceHaltAuthority_ok.mp hreduce
          rw [Judging.after, HaltCall.judged, if_pos (by rw [hreduce]; rfl), Option.toList_some]
          exact h.judge (reduced_judgement _ _ _ _ _)

/-- In every run the snapshot records its log. -/
theorem records_of_reachable (hreach : (judgedAuthority config).Reachable judging) :
    Records judging.snapshot judging.log := by
  refine System.Reachable.invariant
    (P := fun judging => Records judging.snapshot judging.log) ?_ ?_ hreach
  · rintro judging ⟨⟨readAt, hinitial⟩, hlog⟩
    rw [initialHaltAuthority, check_bind_ok, bind_ok] at hinitial
    obtain ⟨-, observed, -, hfirst⟩ := hinitial
    rw [← Except.ok.inj hfirst, hlog]
    exact ⟨rfl, by rintro _ ⟨⟩⟩
  · rintro judging call next h rfl
    exact h.after call

/-! ## When the market is open -/

/-- A snapshot is proven open at a time: its epoch is acknowledged, and its last trade is not older
than the configuration allows. -/
def ProvenOpen (snapshot : HaltAuthoritySnapshot) (config : HaltAuthorityConfig) (time : Int) :
    Prop :=
  snapshot.acknowledgedAt.isSome = true ∧
    ∃ tradedAt, snapshot.lastTradeAt = some tradedAt ∧ time - tradedAt ≤ config.maximumTradeAge

omit [Digest] in
/-- A trade that is not stale is not older than the configuration allows. -/
theorem exists_trade_of_not_stale (h : isTradeStale previous config observedAt = false) :
    ∃ tradedAt, previous.lastTradeAt = some tradedAt ∧
      observedAt - tradedAt ≤ config.maximumTradeAge := by
  unfold isTradeStale at h
  cases htrade : previous.lastTradeAt with
  | none =>
      rw [htrade] at h
      cases h
  | some tradedAt =>
      rw [htrade, Option.all_some, Bool.or_eq_false_iff, decide_eq_false_iff_not] at h
      exact ⟨tradedAt, rfl, by omega⟩

omit [Digest] in
theorem closedState_ne_open : closedState previous ≠ .openConfirmed := by
  obtain hclosed | ⟨hclosed, -⟩ | ⟨hclosed, -⟩ := closedState_cases previous <;> rw [hclosed] <;>
    rintro ⟨⟩

/-- A message that leaves a market open finds proof that it is: a new trade, or the last one of a
market that was open before. -/
theorem Judgement.proven {accepted : Bool}
    (h : Judgement previous event config codebook observedAt accepted next)
    (hopen : next.state = .openConfirmed) :
    ProvenOpen next config observedAt ∧
      (event.kind = .trade ∨ previous.state = .openConfirmed) := by
  cases h with
  | closed => cases hopen
  | failed rejected => exact absurd hopen closedState_ne_open
  | acknowledged hkind hack => exact absurd hopen closedState_ne_open
  | failure hkind => exact absurd hopen closedState_ne_open
  | announced meaning hcontinues hkind =>
      have hstate : statusState previous meaning = .openConfirmed := hopen
      unfold statusState at hstate
      split at hstate
      · cases hstate
      · split at hstate <;> cases hstate
  | traded hcontinues hkind htrade =>
      obtain ⟨-, -, acknowledgedAt, hack⟩ := continuesEpoch_acknowledged hcontinues
      have hactive : previous.acknowledgedAt.isSome = true := by rw [hack]; rfl
      simp only [validTrade, Bool.and_eq_true, decide_eq_true_eq] at htrade
      exact ⟨⟨hactive, _, rfl, htrade.2⟩, .inl hkind⟩
  | passed hcontinues hkind =>
      have hstate : passiveState previous config observedAt = .openConfirmed := hopen
      unfold passiveState at hstate
      split at hstate
      · cases hstate
      · rename_i hstale
        rw [not_and, Bool.not_eq_true] at hstale
        obtain ⟨-, -, acknowledgedAt, hack⟩ := continuesEpoch_acknowledged hcontinues
        have hactive : previous.acknowledgedAt.isSome = true := by rw [hack]; rfl
        exact ⟨⟨hactive, exists_trade_of_not_stale (hstale hstate)⟩, .inr hstate⟩

/-- A read that leaves a market open finds it open, with proof that it is. -/
theorem reread_proven (hstate : StateValid previous)
    (hopen : (AlphaDecay.reread previous config observedAt).state = .openConfirmed) :
    ProvenOpen (AlphaDecay.reread previous config observedAt) config observedAt := by
  unfold AlphaDecay.reread at hopen ⊢
  split at hopen
  · cases hopen
  · split at hopen
    · rename_i hlatched
      have hprevious : previous.state = .openConfirmed := hopen
      rw [hprevious] at hlatched
      cases hlatched
    · split at hopen
      · cases hopen
      · rename_i hinside hlatched hfresh
        rw [if_neg hinside, if_neg hlatched, if_neg hfresh]
        rw [not_or, not_not, Bool.not_eq_true] at hfresh
        exact ⟨(hstate.1 hfresh.1).1, exists_trade_of_not_stale hfresh.2⟩

/-- A call that returns an open market finds proof of it at the time of the call. -/
theorem HaltCall.proven (hresult : call.result config previous = .ok next)
    (hopen : next.state = .openConfirmed) : ProvenOpen next config call.readAt.instant := by
  cases call with
  | read readAt =>
      have hread : readHaltAuthority previous config readAt = .ok next := hresult
      obtain ⟨-, hprevious, -, -, rfl⟩ := readHaltAuthority_ok.mp hread
      have hstate := stateValid_iff.mp (validatePrevious_ok.mp hprevious).state
      obtain ⟨hactive, tradedAt, htrade, hage⟩ := reread_proven hstate hopen
      -- a read never goes back behind the snapshot on record
      have hlater : readAt.instant ≤ max readAt.instant previous.observedAt := le_max_left _ _
      exact ⟨hactive, tradedAt, htrade, by show readAt.instant - tradedAt ≤ _; omega⟩
  | reduce event codebook readAt =>
      have hreduce : reduceHaltAuthority previous event config codebook readAt = .ok next := hresult
      obtain ⟨-, -, -, -, rfl⟩ := reduceHaltAuthority_ok.mp hreduce
      exact ((reduced_judgement _ _ _ _ _).proven hopen).1

/-- In every run a call returns an open market only in a fresh epoch whose last trade is not older
than the configuration allows, and no quote, bar or tradable message opens a market. -/
theorem openConfirmed_fresh (config : HaltAuthorityConfig) :
    (∀ (judging : Judging) (call : HaltCall) (next : HaltAuthoritySnapshot),
      (judgedAuthority config).Reachable judging →
      call.result config judging.snapshot = .ok next → next.state = .openConfirmed →
      ∃ before acknowledgement after trade,
        (judging.after config call).log = before ++ acknowledgement :: after ∧
        next.epoch = some acknowledgement.event.epoch ∧
        FreshEpoch before acknowledgement after ∧
        (tradesOf after).getLast? = some trade ∧
        call.readAt.instant - trade.event.eventAt.instant ≤ config.maximumTradeAge) ∧
    ∀ (previous next : HaltAuthoritySnapshot) (event : HaltAuthorityEvent)
      (codebook : Option HaltStatusCodebook) (readAt : Datetime),
      event.kind ∈ [.quote, .bar, .tradable] →
      reduceHaltAuthority previous event config codebook readAt = .ok next →
      next.state = .openConfirmed → previous.state = .openConfirmed := by
  constructor
  · intro judging call next hreach hresult hopen
    have hrecords : Records (judging.after config call).snapshot (judging.after config call).log :=
      (records_of_reachable hreach).after call
    rw [Judging.after_of_ok hresult] at hrecords
    obtain ⟨hactive, tradedAt, htrade, hage⟩ := HaltCall.proven hresult hopen
    obtain ⟨acknowledgedAt, hack⟩ := Option.isSome_iff_exists.mp hactive
    obtain ⟨before, acknowledgement, after, hlog, hfresh, hepoch⟩ :=
      hrecords.active acknowledgedAt hack
    rw [hepoch.lastTradeAt, Option.map_eq_some_iff] at htrade
    obtain ⟨trade, hlast, rfl⟩ := htrade
    exact ⟨before, acknowledgement, after, trade, hlog, hepoch.epoch, hfresh, hlast, hage⟩
  · intro previous next event codebook readAt hkind hresult hopen
    obtain ⟨-, -, -, -, rfl⟩ := reduceHaltAuthority_ok.mp hresult
    rcases ((reduced_judgement _ _ _ _ _).proven hopen).2 with htrade | hprevious
    · rw [htrade] at hkind
      simp at hkind
    · exact hprevious

end

/-! ## A trade in two epochs -/

section Rehearsed

open HaltRehearsal

/-- The judged authority at the opening of the session. -/
def judgedOpening : Judging where
  snapshot := opening
  log := []

/-- The judged authority after calls in order. -/
def judgedAfter (calls : List HaltCall) : Judging :=
  calls.foldl (Judging.after config) judgedOpening

/-- Calls from the opening of the session are a run of the judged authority. -/
theorem judgedAfter_reachable (calls : List HaltCall) :
    (judgedAuthority config).Reachable (judgedAfter calls) := by
  induction calls using List.reverseRecOn with
  | nil => exact .of_initial ⟨opening_initial, rfl⟩
  | append_singleton calls call ih =>
      have hstep : (judgedAuthority config).step (judgedAfter calls) call
          (judgedAfter (calls ++ [call])) := List.foldl_concat ..
      exact ih.run (.single hstep)

/-- A message of the second epoch. -/
def laterMessage (kind : HaltAuthorityEventKind) (sequence seconds : Int)
    (tradeId : Option String) : HaltCall :=
  reduceAt { message kind sequence seconds none tradeId with epoch := "epoch-2" } seconds

/-- A gap in the stream after the first trade, and the acknowledgement of another epoch. -/
def gapAndAcknowledgement : List HaltCall :=
  [acknowledgement, firstTrade, reduceAt (message .gap 3 12 none none) 12,
    laterMessage .epochAck 1 13 none]

/-- In the rehearsal the trade after the acknowledgement opens the market in a fresh epoch. -/
theorem openConfirmed_rehearsed :
    ∃ before acknowledgement after trade,
      (judgedAfter [HaltRehearsal.acknowledgement, firstTrade]).log =
        before ++ acknowledgement :: after ∧
      FreshEpoch before acknowledgement after ∧ (tradesOf after).getLast? = some trade := by
  obtain ⟨before, acknowledgement, after, trade, hlog, -, hfresh, hlast, -⟩ :=
    (openConfirmed_fresh config).1 (judgedAfter [HaltRehearsal.acknowledgement]) firstTrade
      ((judgedAfter [HaltRehearsal.acknowledgement]).after config firstTrade).snapshot
      (judgedAfter_reachable _) (Judging.result_of_isOk (by decide +kernel)) (by decide +kernel)
  exact ⟨before, acknowledgement, after, trade, hlog, hfresh, hlast⟩

/-- In the rehearsal a trade opens the market in two epochs, and so under the name of the trade
that was accepted before it. -/
theorem openConfirmed_repeated :
    ¬∀ (judging : Judging) (call : HaltCall) (next : HaltAuthoritySnapshot),
      (judgedAuthority config).Reachable judging →
      call.result config judging.snapshot = .ok next → next.state = .openConfirmed →
      ∃ earlier trade,
        tradesOf ((judging.after config call).log.filter (·.accepted)) = earlier ++ [trade] ∧
        ∀ before ∈ earlier.getLast?, before.event.tradeId ≠ trade.event.tradeId := by
  intro h
  let judging := judgedAfter gapAndAcknowledgement
  let repeated := laterMessage .trade 2 14 (some "trade-1")
  have hnames : (tradesOf ((judging.after config repeated).log.filter (·.accepted))).map
      (·.event.tradeId) = [some "trade-1"] ++ [some "trade-1"] := by decide +kernel
  obtain ⟨earlier, trade, htrades, hdifferent⟩ := h judging repeated
    (judging.after config repeated).snapshot (judgedAfter_reachable _)
    (Judging.result_of_isOk (by decide +kernel)) (by decide +kernel)
  rw [htrades, List.map_append, List.map_singleton] at hnames
  obtain ⟨hearlier, htrade⟩ := List.append_inj' hnames rfl
  obtain ⟨before, rfl, hbefore⟩ := List.map_eq_singleton_iff.mp hearlier
  refine hdifferent before rfl ?_
  rw [hbefore]
  exact (List.singleton_inj.mp htrade).symm

end Rehearsed

end AlphaDecay
