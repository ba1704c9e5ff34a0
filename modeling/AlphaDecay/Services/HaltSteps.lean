import AlphaDecay.Services.HaltAuthority

/-!
# The steps of the halt authority

What a call of the authority can do, said once. `Reduction` lists the eight ways in which a message
changes a snapshot, each with the checks that the message passed, and `reduced_reduction` finds the
one of a message. The proofs about runs split these cases and not the checks of the code.
-/

namespace AlphaDecay

open Foundation

variable [Digest]

/-- A message passed the checks that every recorded message has to pass. -/
structure Follows (previous : HaltAuthoritySnapshot) (event : HaltAuthorityEvent)
    (config : HaltAuthorityConfig) (observedAt : Int) : Prop where
  inside : insideSession config observedAt = true
  valid : eventValid event config observedAt = true
  continues : continuesEpoch previous event = true

/-- The ways in which a message changes a snapshot. -/
inductive Reduction (previous : HaltAuthoritySnapshot) (event : HaltAuthorityEvent)
    (config : HaltAuthorityConfig) (codebook : Option HaltStatusCodebook) (observedAt : Int) :
    HaltAuthoritySnapshot → Prop where
  | closed (houtside : insideSession config observedAt = false) :
      Reduction previous event config codebook observedAt (sessionClosed previous observedAt)
  | failed (rejected : Option String)
      (hrejected : ∀ hash ∈ rejected, hash = haltAuthorityEventDigest event) :
      Reduction previous event config codebook observedAt (failClosed previous observedAt rejected)
  | acknowledged (hvalid : eventValid event config observedAt = true)
      (hack : acknowledgesEpoch previous event = true) :
      Reduction previous event config codebook observedAt (acknowledged previous event observedAt)
  | failure (hfollows : Follows previous event config observedAt)
      (hkind : event.kind.isFailure = true) :
      Reduction previous event config codebook observedAt (failureEvent previous event observedAt)
  | announced (meaning : HaltCodeMeaning) (hfollows : Follows previous event config observedAt)
      (hkind : event.kind = .tradingStatus)
      (hmeaning : statusMeaning event config codebook = some meaning) :
      Reduction previous event config codebook observedAt
        (announced previous event meaning observedAt)
  | traded (hfollows : Follows previous event config observedAt) (hkind : event.kind = .trade)
      (htrade : validTrade previous event config observedAt = true) :
      Reduction previous event config codebook observedAt (traded previous event observedAt)
  | passed (hfollows : Follows previous event config observedAt)
      (hkind : event.kind ≠ .tradingStatus ∧ event.kind ≠ .trade) :
      Reduction previous event config codebook observedAt
        (transition previous (passiveState previous config observedAt)
          (recordEvent previous event observedAt))

variable {config : HaltAuthorityConfig} {event : HaltAuthorityEvent} {observedAt : Int}
  {previous : HaltAuthoritySnapshot}

theorem eventValid_sourceHash (hvalid : eventValid event config observedAt = true) :
    event.sourceHash = haltAuthorityEventDigest event := by
  simp only [eventValid, Bool.and_eq_true, beq_iff_eq] at hvalid
  exact hvalid.2

theorem eventValid_eventAt (hvalid : eventValid event config observedAt = true) :
    event.eventAt.instant ≤ observedAt := by
  simp only [eventValid, Bool.and_eq_true, decide_eq_true_eq] at hvalid
  omega

/-- A message that holds has an epoch and a positive sequence. -/
theorem eventValid_epoch (hvalid : eventValid event config observedAt = true) :
    event.epoch.isEmpty = false ∧ 0 < event.sequence := by
  simp only [eventValid, isNonblankToken, Bool.and_eq_true, decide_eq_true_eq,
    Bool.not_eq_true'] at hvalid
  obtain ⟨⟨⟨⟨⟨⟨⟨-, hepoch, -⟩, hsequence⟩, -⟩, -⟩, -⟩, -⟩, -⟩ := hvalid
  exact ⟨hepoch, hsequence⟩

/-- Every message changes a snapshot in one of the listed ways. -/
theorem reduced_reduction (previous : HaltAuthoritySnapshot) (event : HaltAuthorityEvent)
    (config : HaltAuthorityConfig) (codebook : Option HaltStatusCodebook) (observedAt : Int) :
    Reduction previous event config codebook observedAt
      (reduced previous event config codebook observedAt) := by
  unfold reduced
  by_cases hinside : insideSession config observedAt = true
  case neg =>
    rw [Bool.not_eq_true] at hinside
    simpa [hinside] using .closed hinside
  by_cases hvalid : eventValid event config observedAt = true
  case neg =>
    rw [Bool.not_eq_true] at hvalid
    simpa [hinside, hvalid] using .failed none (by simp)
  -- from here on the message holds, and a rejection records its digest
  have hfailed : Reduction previous event config codebook observedAt
      (failClosed previous observedAt (some event.sourceHash)) :=
    .failed _ (by
      intro hash hhash
      rw [← Option.mem_some_iff.mp hhash, eventValid_sourceHash hvalid])
  by_cases hack : event.kind = .epochAck
  · simp only [hinside, hvalid, hack, Bool.not_true, Bool.false_eq_true, if_false, if_true]
    unfold acknowledgeEpoch
    split
    · rename_i hacknowledges
      exact .acknowledged hvalid hacknowledges
    · exact hfailed
  by_cases hcontinues : continuesEpoch previous event = true
  case neg =>
    rw [Bool.not_eq_true] at hcontinues
    simpa [hinside, hvalid, hack, hcontinues] using hfailed
  have hfollows : Follows previous event config observedAt := ⟨hinside, hvalid, hcontinues⟩
  simp only [hinside, hvalid, hack, hcontinues, Bool.not_true, Bool.false_eq_true, if_false]
  split
  · rename_i hfailure
    exact .failure hfollows hfailure
  split
  · rename_i hstatus
    unfold statusEvent
    split
    · rename_i meaning hmeaning
      exact .announced meaning hfollows hstatus hmeaning
    · exact hfailed
  split
  · rename_i htrade
    unfold tradeEvent
    split
    · rename_i hvalidTrade
      exact .traded hfollows htrade hvalidTrade
    · exact hfailed
  · rename_i hstatus htrade
    unfold passiveEvent
    split
    · exact hfailed
    · exact .passed hfollows ⟨hstatus, htrade⟩

/-- A reduction accepts a trade: it holds, continues its epoch and is valid. -/
def acceptsTrade (previous : HaltAuthoritySnapshot) (event : HaltAuthorityEvent)
    (config : HaltAuthorityConfig) (observedAt : Int) : Bool :=
  insideSession config observedAt && eventValid event config observedAt &&
  event.kind == .trade && continuesEpoch previous event &&
  validTrade previous event config observedAt

/-- A trade that is accepted is recorded. -/
theorem reduced_of_acceptsTrade (haccepts : acceptsTrade previous event config observedAt = true)
    (codebook : Option HaltStatusCodebook) :
    Follows previous event config observedAt ∧
    validTrade previous event config observedAt = true ∧
    reduced previous event config codebook observedAt =
      traded previous event observedAt := by
  simp only [acceptsTrade, Bool.and_eq_true, beq_iff_eq] at haccepts
  obtain ⟨⟨⟨⟨hinside, hvalid⟩, hkind⟩, hcontinues⟩, htrade⟩ := haccepts
  refine ⟨⟨hinside, hvalid, hcontinues⟩, htrade, ?_⟩
  simp [reduced, tradeEvent, hinside, hvalid, hkind, hcontinues, htrade,
    HaltAuthorityEventKind.isFailure]

omit [Digest] in
theorem Datetime.toUtc_ok {value : Datetime} {code : String} {instant : Int} :
    value.toUtc code = .ok instant ↔ value.isUtc = true ∧ value.instant = instant := by
  unfold Datetime.toUtc
  split <;> simp_all

variable {next : HaltAuthoritySnapshot}

/-- A reduction succeeds exactly when the configuration, the snapshot and the read time pass their
checks. -/
theorem reduceHaltAuthority_ok {codebook : Option HaltStatusCodebook} {readAt : Datetime} :
    reduceHaltAuthority previous event config codebook readAt = .ok next ↔
      validateConfig config = .ok () ∧ validatePrevious previous config = .ok () ∧
      readAt.isUtc = true ∧ previous.observedAt - readAt.instant ≤ readSkewTolerance ∧
      reduced previous event config codebook readAt.instant = next := by
  rw [reduceHaltAuthority, check_bind_ok, check_bind_ok, bind_ok]
  simp [Datetime.toUtc_ok, validateReadTime, pure, Except.pure, and_assoc]

/-- A read succeeds under the same checks. -/
theorem readHaltAuthority_ok {readAt : Datetime} :
    readHaltAuthority previous config readAt = .ok next ↔
      validateConfig config = .ok () ∧ validatePrevious previous config = .ok () ∧
      readAt.isUtc = true ∧ previous.observedAt - readAt.instant ≤ readSkewTolerance ∧
      reread previous config (max readAt.instant previous.observedAt) = next := by
  rw [readHaltAuthority, check_bind_ok, check_bind_ok, bind_ok]
  simp [Datetime.toUtc_ok, validateReadTime, pure, Except.pure, and_assoc]

/-- The ways in which a read changes a snapshot. -/
inductive Rereading (previous : HaltAuthoritySnapshot) (config : HaltAuthorityConfig)
    (observedAt : Int) : HaltAuthoritySnapshot → Prop where
  | closed (houtside : insideSession config observedAt = false) :
      Rereading previous config observedAt (sessionClosed previous observedAt)
  | kept :
      Rereading previous config observedAt (withDigest { previous with observedAt })
  | stale (hlatched : previous.state.isLatched = false) :
      Rereading previous config observedAt
        (transition previous .unknown { previous with observedAt })

/-- Every read changes a snapshot in one of the listed ways. -/
theorem reread_rereading (previous : HaltAuthoritySnapshot) (config : HaltAuthorityConfig)
    (observedAt : Int) : Rereading previous config observedAt
    (reread previous config observedAt) := by
  unfold reread
  split
  · rename_i houtside
    exact .closed (by simpa using houtside)
  split
  · exact .kept
  · rename_i hlatched
    split
    · exact .stale (by simpa using hlatched)
    · exact .kept

end AlphaDecay
