import AlphaDecay.Services.HaltRehearsal

/-!
# The halt latch

A halt stays latched until trading is proven to have resumed. A monitor keeps the log of the
messages that a run accepts, oldest first, and `ProvenResumed` says of a log what the latch
promises: after the last halt a resumption was announced, and after it came a trade that happened
later. The phase of a log is what its messages prove, and the state of a snapshot follows the phase
while every trade is in order: one that opens a market comes after the announcement it confirms.
-/

namespace AlphaDecay

open Foundation

/-! ## What a log proves -/

/-- A message that a reduction accepts, with the time at which it happened. -/
inductive Accepted where
  | halt (eventAt : Int)
  | resume (eventAt : Int)
  | trade (eventAt : Int)
deriving DecidableEq, Repr

/-- A message that latches a halt. -/
def Accepted.isHalt : Accepted → Bool
  | halt _ => true
  | _ => false

/-- After a halt, messages prove that trading has resumed: a resumption was announced, and after it
came a trade that happened later. -/
def ProvesResumption (messages : List Accepted) : Prop :=
  ∃ before between after resumedAt tradedAt,
    messages = before ++ .resume resumedAt :: (between ++ .trade tradedAt :: after) ∧
    resumedAt < tradedAt

/-- The messages after the last halt of a log prove that trading has resumed. -/
def ProvenResumed (log : List Accepted) : Prop :=
  ∀ before haltedAt after, log = before ++ .halt haltedAt :: after →
    (∀ message ∈ after, message.isHalt = false) → ProvesResumption after

/-- What a log proves: no halt is open, a halt is, or one is and its earliest announcement of a
resumption happened at a time. -/
inductive Phase where
  | clear
  | halted
  | announced (resumedAt : Int)
deriving DecidableEq, Repr

/-- The phase after a message. -/
def Phase.next : Phase → Accepted → Phase
  | _, .halt _ => .halted
  | .halted, .resume resumedAt => .announced resumedAt
  | .announced first, .resume resumedAt => .announced (min first resumedAt)
  | .announced first, .trade tradedAt => if first < tradedAt then .clear else .announced first
  | phase, _ => phase

def phaseOf (log : List Accepted) : Phase :=
  log.foldl Phase.next .clear

@[simp] theorem phaseOf_snoc (log : List Accepted) (message : Accepted) :
    phaseOf (log ++ [message]) = (phaseOf log).next message := by
  simp [phaseOf]

/-- The resumption is proven at the end of a list of messages exactly when it was before, or when
the last one is a trade that happened after an announcement. -/
theorem provesResumption_snoc {messages : List Accepted} {message : Accepted} :
    ProvesResumption (messages ++ [message]) ↔ ProvesResumption messages ∨
      ∃ tradedAt resumedAt, message = .trade tradedAt ∧ .resume resumedAt ∈ messages ∧
        resumedAt < tradedAt := by
  constructor
  · rintro ⟨before, between, after, resumedAt, tradedAt, hmessages, hlater⟩
    rcases List.eq_nil_or_concat after with rfl | ⟨rest, last, rfl⟩
    · have hsplit : messages ++ [message] =
          (before ++ .resume resumedAt :: between) ++ [.trade tradedAt] := by
        simpa using hmessages
      obtain ⟨rfl, hlast⟩ := List.append_inj' hsplit rfl
      cases hlast
      exact .inr ⟨tradedAt, resumedAt, rfl, by simp, hlater⟩
    · have hsplit : messages ++ [message] =
          (before ++ .resume resumedAt :: (between ++ .trade tradedAt :: rest)) ++ [last] := by
        simpa using hmessages
      obtain ⟨rfl, -⟩ := List.append_inj' hsplit rfl
      exact .inl ⟨before, between, rest, resumedAt, tradedAt, rfl, hlater⟩
  · rintro (⟨before, between, after, resumedAt, tradedAt, rfl, hlater⟩ |
      ⟨tradedAt, resumedAt, rfl, hmem, hlater⟩)
    · exact ⟨before, between, after ++ [message], resumedAt, tradedAt, by simp, hlater⟩
    · obtain ⟨before, between, rfl⟩ := List.append_of_mem hmem
      exact ⟨before, between, [], resumedAt, tradedAt, by simp, hlater⟩

/-- What a phase says of the messages since the last halt. -/
def Phase.Describes (messages : List Accepted) : Phase → Prop
  | .clear => ProvesResumption messages
  | .halted => ¬ ProvesResumption messages ∧ ∀ resumedAt, .resume resumedAt ∉ messages
  | .announced first => ¬ ProvesResumption messages ∧ .resume first ∈ messages ∧
      ∀ resumedAt, .resume resumedAt ∈ messages → first ≤ resumedAt

/-- A message that is not a halt changes the phase as it changes what is proven. -/
theorem Phase.Describes.next {messages : List Accepted} {phase : Phase}
    (h : phase.Describes messages) {message : Accepted} (hmessage : message.isHalt = false) :
    (phase.next message).Describes (messages ++ [message]) := by
  cases phase with
  | clear =>
      have hproven : ProvesResumption (messages ++ [message]) := provesResumption_snoc.mpr (.inl h)
      cases message with
      | halt haltedAt => cases hmessage
      | resume resumedAt => exact hproven
      | trade tradedAt => exact hproven
  | halted =>
      obtain ⟨hunproven, hnone⟩ := h
      cases message with
      | halt haltedAt => cases hmessage
      | resume resumedAt =>
          refine ⟨?_, by simp, fun found hfound => ?_⟩
          · rw [provesResumption_snoc]
            rintro (hproven | ⟨_, _, hkind, _⟩)
            · exact hunproven hproven
            · cases hkind
          · rcases List.mem_append.mp hfound with hold | hnew
            · exact absurd hold (hnone found)
            · cases List.mem_singleton.mp hnew
              exact le_refl _
      | trade tradedAt =>
          refine ⟨?_, fun found hfound => ?_⟩
          · rw [provesResumption_snoc]
            rintro (hproven | ⟨_, resumedAt, _, hmem, _⟩)
            · exact hunproven hproven
            · exact hnone resumedAt hmem
          · rcases List.mem_append.mp hfound with hold | hnew
            · exact hnone found hold
            · cases List.mem_singleton.mp hnew
  | announced first =>
      obtain ⟨hunproven, hfirst, hleast⟩ := h
      cases message with
      | halt haltedAt => cases hmessage
      | resume resumedAt =>
          refine ⟨?_, ?_, fun found hfound => ?_⟩
          · rw [provesResumption_snoc]
            rintro (hproven | ⟨_, _, hkind, _⟩)
            · exact hunproven hproven
            · cases hkind
          · rcases min_choice first resumedAt with hmin | hmin
            · rw [hmin]
              exact List.mem_append_left _ hfirst
            · rw [hmin]
              simp
          · rcases List.mem_append.mp hfound with hold | hnew
            · exact (min_le_left _ _).trans (hleast found hold)
            · cases List.mem_singleton.mp hnew
              exact min_le_right _ _
      | trade tradedAt =>
          show Phase.Describes _ (if first < tradedAt then .clear else .announced first)
          split
          · rename_i hlater
            exact provesResumption_snoc.mpr (.inr ⟨tradedAt, first, rfl, hfirst, hlater⟩)
          · rename_i hlater
            refine ⟨?_, List.mem_append_left _ hfirst, fun found hfound => ?_⟩
            · rw [provesResumption_snoc]
              rintro (hproven | ⟨_, resumedAt, hkind, hmem, hlt⟩)
              · exact hunproven hproven
              · cases hkind
                have := hleast resumedAt hmem
                omega
            · rcases List.mem_append.mp hfound with hold | hnew
              · exact hleast found hold
              · cases List.mem_singleton.mp hnew

/-- The phase of a log describes the messages since its last halt. -/
theorem phaseOf_describes (before : List Accepted) (haltedAt : Int) (after : List Accepted)
    (hafter : ∀ message ∈ after, message.isHalt = false) :
    (phaseOf (before ++ .halt haltedAt :: after)).Describes after := by
  induction after using List.reverseRecOn with
  | nil =>
      show (phaseOf (before ++ [.halt haltedAt])).Describes []
      rw [phaseOf_snoc]
      refine ⟨?_, nofun⟩
      rintro ⟨pre, between, post, _, _, hnil, _⟩
      simp at hnil
  | append_singleton after message ih =>
      have hlast : before ++ .halt haltedAt :: (after ++ [message]) =
          (before ++ .halt haltedAt :: after) ++ [message] := by simp
      rw [hlast, phaseOf_snoc]
      exact (ih fun found hfound => hafter found (List.mem_append_left _ hfound)).next
        (hafter message (by simp))

/-- A log has no halt, or it has a last one. -/
theorem last_halt (log : List Accepted) :
    (∀ message ∈ log, message.isHalt = false) ∨
    ∃ before haltedAt after, log = before ++ .halt haltedAt :: after ∧
      ∀ message ∈ after, message.isHalt = false := by
  induction log using List.reverseRecOn with
  | nil => exact .inl nofun
  | append_singleton log message ih =>
      cases hmessage : message.isHalt with
      | true =>
          cases message with
          | halt haltedAt => exact .inr ⟨log, haltedAt, [], rfl, nofun⟩
          | resume _ | trade _ => cases hmessage
      | false =>
          rcases ih with hnone | ⟨before, haltedAt, after, rfl, hafter⟩
          · exact .inl (List.forall_mem_append.mpr ⟨hnone, by simpa using hmessage⟩)
          · exact .inr ⟨before, haltedAt, after ++ [message], by simp,
              List.forall_mem_append.mpr ⟨hafter, by simpa using hmessage⟩⟩

/-- Without a halt the phase of a log is clear. -/
theorem phaseOf_clear {log : List Accepted} (h : ∀ message ∈ log, message.isHalt = false) :
    phaseOf log = .clear := by
  induction log using List.reverseRecOn with
  | nil => rfl
  | append_singleton log message ih =>
      rw [phaseOf_snoc, ih fun found hfound => h found (List.mem_append_left _ hfound)]
      have hmessage := h message (by simp)
      cases message with
      | halt haltedAt => cases hmessage
      | resume time | trade time => rfl

/-- The phase of a log is clear exactly when trading is proven to have resumed since its last
halt. -/
theorem provenResumed_iff (log : List Accepted) :
    ProvenResumed log ↔ phaseOf log = .clear := by
  constructor
  · intro hproven
    rcases last_halt log with hnone | ⟨before, haltedAt, after, rfl, hafter⟩
    · exact phaseOf_clear hnone
    · have hdescribes := phaseOf_describes before haltedAt after hafter
      have hresumed := hproven before haltedAt after rfl hafter
      cases hphase : phaseOf (before ++ .halt haltedAt :: after) with
      | clear => rfl
      | halted =>
          rw [hphase] at hdescribes
          exact absurd hresumed hdescribes.1
      | announced first =>
          rw [hphase] at hdescribes
          exact absurd hresumed hdescribes.1
  · rintro hclear before haltedAt after rfl hafter
    have hdescribes := phaseOf_describes before haltedAt after hafter
    rw [hclear] at hdescribes
    exact hdescribes

/-! ## The watched authority -/

section

variable [Digest]
variable {config : HaltAuthorityConfig} {previous : HaltAuthoritySnapshot} {observedAt : Int}
  {event : HaltAuthorityEvent}
variable {codebook : Option HaltStatusCodebook}

variable {call : HaltCall}

/-- What a status message says when it is accepted. -/
def HaltCodeMeaning.accepted (meaning : HaltCodeMeaning) (eventAt : Int) : Accepted :=
  match meaning with
  | halt => .halt eventAt
  | resume => .resume eventAt

/-- A reduction takes a status message: it holds and continues its epoch. -/
def takesStatus (previous : HaltAuthoritySnapshot) (event : HaltAuthorityEvent)
    (config : HaltAuthorityConfig) (observedAt : Int) : Bool :=
  insideSession config observedAt && eventValid event config observedAt &&
  event.kind == .tradingStatus && continuesEpoch previous event

/-- What a reduction accepts of a message: a halt, a resumption or a trade. -/
def acceptance (previous : HaltAuthoritySnapshot) (event : HaltAuthorityEvent)
    (config : HaltAuthorityConfig) (codebook : Option HaltStatusCodebook) (observedAt : Int) :
    Option Accepted :=
  if acceptsTrade previous event config observedAt then some (.trade event.eventAt.instant)
  else if takesStatus previous event config observedAt then
    (statusMeaning event config codebook).map (·.accepted event.eventAt.instant)
  else none

/-- What a call accepts: nothing when it only reads, or raises. -/
def HaltCall.acceptance (config : HaltAuthorityConfig) (previous : HaltAuthoritySnapshot) :
    HaltCall → Option Accepted
  | .read _ => none
  | .reduce event codebook readAt =>
      if (reduceHaltAuthority previous event config codebook readAt).isOk then
        AlphaDecay.acceptance previous event config codebook readAt.instant
      else none

/-- A snapshot on record, with the log of the messages that were accepted. -/
structure Watched where
  snapshot : HaltAuthoritySnapshot
  log : List Accepted

/-- The authority with the log of the messages it accepts. -/
def watchedAuthority (config : HaltAuthorityConfig) : System Watched HaltCall where
  initial watched := (haltAuthority config).initial watched.snapshot ∧ watched.log = []
  step previous call next :=
    (haltAuthority config).step previous.snapshot call next.snapshot ∧
    next.log = previous.log ++ (call.acceptance config previous.snapshot).toList

def Watched.after (config : HaltAuthorityConfig) (watched : Watched) (call : HaltCall) :
    Watched where
  snapshot := call.execute config watched.snapshot
  log := watched.log ++ (call.acceptance config watched.snapshot).toList

theorem Watched.step_after (config : HaltAuthorityConfig) (watched : Watched) (call : HaltCall) :
    (watchedAuthority config).step watched call (watched.after config call) :=
  ⟨rfl, rfl⟩

/-- An accepted trade is in order: while a halt is open, the market is not merely unknown, and
once a resumption was announced, the trade happened after its earliest announcement. -/
def inOrder (watched : Watched) : Accepted → Bool
  | .trade tradedAt =>
      match phaseOf watched.log with
      | .clear => true
      | .halted => watched.snapshot.state != .unknown
      | .announced first => first < tradedAt
  | _ => true

/-- A call accepts no trade that is out of order. -/
def keepsOrder (config : HaltAuthorityConfig) (watched : Watched) (call : HaltCall) : Bool :=
  (call.acceptance config watched.snapshot).all (inOrder watched)

/-- The state of a snapshot fits the phase of its log: an open halt is latched, unless the session
closed over it. -/
def Latched (watched : Watched) : Prop :=
  match phaseOf watched.log with
  | .clear => True
  | .halted => watched.snapshot.state = .haltedLatched ∨ watched.snapshot.state = .unknown
  | .announced _ => watched.snapshot.state = .resumePending ∨ watched.snapshot.state = .unknown

/-- What a message that is accepted makes of a state. -/
def acceptedState (previous : HaltAuthoritySnapshot) : Accepted → HaltAuthorityState
  | .halt _ => .haltedLatched
  | .resume _ => statusState previous .resume
  | .trade _ => tradeState previous.state

/-- A state message that is taken and means something is announced. -/
theorem reduced_of_takesStatus (htakes : takesStatus previous event config observedAt = true)
    {meaning : HaltCodeMeaning} (hmeaning : statusMeaning event config codebook = some meaning) :
    reduced previous event config codebook observedAt =
      announced previous event meaning observedAt := by
  simp only [takesStatus, Bool.and_eq_true, beq_iff_eq] at htakes
  obtain ⟨⟨⟨hinside, hvalid⟩, hkind⟩, hcontinues⟩ := htakes
  simp [reduced, statusEvent, hinside, hvalid, hkind, hcontinues, hmeaning,
    HaltAuthorityEventKind.isFailure]

/-- A message that is accepted makes of the state what it stands for. -/
theorem reduced_state_of_acceptance {message : Accepted}
    (h : acceptance previous event config codebook observedAt = some message) :
    (reduced previous event config codebook observedAt).state = acceptedState previous message := by
  unfold acceptance at h
  split at h
  · rename_i haccepts
    cases h
    rw [(reduced_of_acceptsTrade haccepts codebook).2.2]
    rfl
  split at h
  · rename_i htakes
    obtain ⟨meaning, hmeaning, rfl⟩ := Option.map_eq_some_iff.mp h
    rw [reduced_of_takesStatus htakes hmeaning]
    cases meaning <;> rfl
  · cases h

/-- A message that is not accepted leaves the state, or it is no longer known. -/
theorem Reduction.state_of_not_accepted {next : HaltAuthoritySnapshot}
    (hreduction : Reduction previous event config codebook observedAt next)
    (h : acceptance previous event config codebook observedAt = none) :
    next.state = previous.state ∨ next.state = .unknown := by
  have hclosed : closedState previous = previous.state ∨ closedState previous = .unknown := by
    unfold closedState
    split
    · exact .inl rfl
    · exact .inr rfl
  cases hreduction with
  | closed _ => exact .inr rfl
  | failed _ _ => exact hclosed
  | acknowledged _ _ => exact hclosed
  | failure _ _ => exact hclosed
  | announced meaning hfollows hkind hmeaning =>
      simp [acceptance, acceptsTrade, takesStatus, hfollows.inside, hfollows.valid,
        hfollows.continues, hkind, hmeaning] at h
  | traded hfollows hkind htrade =>
      simp [acceptance, acceptsTrade, hfollows.inside, hfollows.valid, hfollows.continues, hkind,
        htrade] at h
  | passed _ _ =>
      show passiveState previous config observedAt = _ ∨ passiveState previous config observedAt = _
      unfold passiveState
      split
      · exact .inr rfl
      · exact .inl rfl

/-- A read leaves the state, or it is no longer known. -/
theorem Rereading.state {next : HaltAuthoritySnapshot}
    (hreading : Rereading previous config observedAt next) :
    next.state = previous.state ∨ next.state = .unknown := by
  cases hreading with
  | closed _ => exact .inr rfl
  | kept => exact .inl rfl
  | stale _ => exact .inr rfl

/-- A call that accepts a message makes of the state what the message stands for. -/
theorem execute_state_of_acceptance {message : Accepted}
    (h : call.acceptance config previous = some message) :
    (call.execute config previous).state = acceptedState previous message := by
  cases call with
  | read readAt => cases h
  | reduce event codebook readAt =>
      rw [HaltCall.acceptance] at h
      cases hresult : reduceHaltAuthority previous event config codebook readAt with
      | error failure => simp [hresult, Except.isOk, Except.toBool] at h
      | ok next =>
          rw [if_pos (by rw [hresult]; rfl)] at h
          have hnext := (reduceHaltAuthority_ok.mp hresult).2.2.2.2
          have hexecute : HaltCall.execute (.reduce event codebook readAt) config previous =
            next := by
            rw [HaltCall.execute, HaltCall.result, hresult]
          rw [hexecute, ← hnext]
          exact reduced_state_of_acceptance h

/-- A call that accepts nothing leaves the state, or it is no longer known. -/
theorem execute_state_of_not_accepted (h : call.acceptance config previous = none) :
    (call.execute config previous).state = previous.state ∨
      (call.execute config previous).state = .unknown := by
  rw [HaltCall.execute]
  cases hresult : call.result config previous with
  | error failure => exact .inl rfl
  | ok next =>
      cases call with
      | read readAt =>
          obtain ⟨_, _, _, _, hnext⟩ := readHaltAuthority_ok.mp hresult
          rw [← hnext]
          exact (reread_rereading _ _ _).state
      | reduce event codebook readAt =>
          have hreduce : reduceHaltAuthority previous event config codebook readAt = .ok next :=
            hresult
          rw [HaltCall.acceptance, if_pos (by rw [hreduce]; rfl)] at h
          rw [← (reduceHaltAuthority_ok.mp hreduce).2.2.2.2]
          exact (reduced_reduction _ _ _ _ _).state_of_not_accepted h

/-! ## Runs -/

/-- A call that accepts no trade out of order keeps the state in step with the log, and a call
that accepts one opens a market whose resumption is not proven. -/
theorem Latched.step {watched next : Watched} (h : Latched watched)
    (hstep : (watchedAuthority config).step watched call next) :
    (keepsOrder config watched call = true → Latched next) ∧
    (keepsOrder config watched call = false →
      next.snapshot.state = .openConfirmed ∧ phaseOf next.log ≠ .clear) := by
  obtain ⟨hnext, hlog⟩ := hstep
  have hsnapshot : next.snapshot = call.execute config watched.snapshot := hnext
  cases hacceptance : call.acceptance config watched.snapshot with
  | none =>
      have hstate := execute_state_of_not_accepted hacceptance
      rw [← hsnapshot] at hstate
      rw [hacceptance] at hlog
      simp only [Option.toList_none, List.append_nil] at hlog
      refine ⟨fun _ => ?_, by simp [keepsOrder, hacceptance]⟩
      unfold Latched at h ⊢
      rw [hlog]
      cases hphase : phaseOf watched.log with
      | clear => trivial
      | halted | announced _ =>
          rw [hphase] at h
          rcases hstate with hsame | hunknown
          · rwa [hsame]
          · exact .inr hunknown
  | some message =>
      have hstate := execute_state_of_acceptance hacceptance
      rw [← hsnapshot] at hstate
      rw [hacceptance] at hlog
      simp only [Option.toList_some] at hlog
      have horder : keepsOrder config watched call = inOrder watched message := by
        simp [keepsOrder, hacceptance]
      rw [horder]
      unfold Latched at h ⊢
      rw [hlog, phaseOf_snoc]
      cases message with
      | halt haltedAt => exact ⟨fun _ => .inl hstate, nofun⟩
      | resume resumedAt =>
          refine ⟨fun _ => ?_, nofun⟩
          have hstate : next.snapshot.state = statusState watched.snapshot .resume := hstate
          cases hphase : phaseOf watched.log with
          | clear => trivial
          | halted | announced _ =>
              rw [hphase] at h
              show next.snapshot.state = .resumePending ∨ next.snapshot.state = .unknown
              rw [hstate]
              rcases h with hlatched | hunknown
              · simp [statusState, hlatched, HaltAuthorityState.isLatched]
              · simp [statusState, hunknown, HaltAuthorityState.isLatched]
      | trade tradedAt =>
          have hstate : next.snapshot.state = tradeState watched.snapshot.state := hstate
          cases hphase : phaseOf watched.log with
          | clear => exact ⟨fun _ => trivial, by simp [inOrder, hphase]⟩
          | halted =>
              rw [hphase] at h
              rw [hstate]
              rcases h with hlatched | hunknown
              · exact ⟨fun _ => .inl (by rw [hlatched]; rfl), by simp [inOrder, hphase, hlatched]⟩
              · refine ⟨by simp [inOrder, hphase, hunknown], fun _ => ⟨by rw [hunknown]; rfl, ?_⟩⟩
                exact nofun
          | announced first =>
              rw [hphase] at h
              rw [hstate]
              simp only [inOrder, hphase, Phase.next]
              by_cases hlater : first < tradedAt
              · simp [hlater]
              · simp only [hlater, decide_false, if_false]
                refine ⟨nofun, fun _ => ⟨?_, nofun⟩⟩
                rcases h with hpending | hunknown
                · rw [hpending]
                  rfl
                · rw [hunknown]
                  rfl

omit [Digest] in
/-- A snapshot whose state is in step with its log is open only when the resumption is proven. -/
theorem Latched.provenResumed {watched : Watched} (h : Latched watched)
    (hopen : watched.snapshot.state = .openConfirmed) : ProvenResumed watched.log := by
  rw [provenResumed_iff]
  unfold Latched at h
  cases hphase : phaseOf watched.log with
  | clear => rfl
  | halted | announced _ =>
      rw [hphase, hopen] at h
      simp at h

/-- While no call accepts a trade out of order, the market is open only when trading is proven to
have resumed since the last halt. The first call that accepts one breaks this. -/
theorem haltLatch_held (config : HaltAuthorityConfig) (watched : Watched)
    (hreach : ((watchedAuthority config).restrict fun watched call =>
      keepsOrder config watched call = true).Reachable watched) :
    (watched.snapshot.state = .openConfirmed → ProvenResumed watched.log) ∧
    ∀ call next, (watchedAuthority config).step watched call next →
      ((next.snapshot.state = .openConfirmed → ProvenResumed next.log) ↔
        keepsOrder config watched call = true) := by
  have hlatched : Latched watched := by
    refine System.Reachable.invariant (P := Latched) ?_ ?_ hreach
    · rintro state ⟨_, hlog⟩
      unfold Latched
      rw [hlog]
      trivial
    · rintro state call next hstate ⟨horder, hstep⟩
      exact (hstate.step hstep).1 horder
  refine ⟨hlatched.provenResumed, fun call next hstep => ?_⟩
  obtain ⟨hkept, hbroken⟩ := hlatched.step hstep
  constructor
  · intro hheld
    by_contra horder
    rw [Bool.not_eq_true] at horder
    obtain ⟨hopen, hphase⟩ := hbroken horder
    exact hphase ((provenResumed_iff next.log).mp (hheld hopen))
  · intro horder
    exact (hkept horder).provenResumed

end

/-! ## The rehearsed session -/

section Rehearsed

open HaltRehearsal

/-- The halt of the rehearsal, and the announcement that trading resumes. -/
def haltAndResume : List HaltCall :=
  [acknowledgement, reduceAt (message .tradingStatus 2 12 (some "H") none) 12,
    reduceAt (message .tradingStatus 3 20 (some "T") none) 20]

/-- A trade that happened during the halt and is reported after the announcement. -/
def reportedTrade : HaltCall :=
  reduceAt (message .trade 4 18 none (some "trade-1")) 21

/-- A trade that happened after the announcement. -/
def laterTrade : HaltCall :=
  reduceAt (message .trade 4 21 none (some "trade-1")) 21

/-- The watched authority at the opening of the session. -/
def watchedOpening : Watched where
  snapshot := opening
  log := []

/-- Calls in order that meet a condition are a run of the watched authority that meets it. -/
theorem watched_of_calls {condition : Watched → HaltCall → Bool} (calls : List HaltCall)
    (h : System.allAlong (Watched.after config) condition watchedOpening calls = true) :
    ((watchedAuthority config).restrict fun watched call => condition watched call = true).Reachable
      (calls.foldl (Watched.after config) watchedOpening) :=
  ⟨watchedOpening, calls, ⟨opening_initial, rfl⟩,
    System.Run.of_allAlong (fun state call _ => Watched.step_after config state call) h⟩

/-- In the rehearsal a trade that happened two seconds before the announcement, during the halt,
opens the market, although every call lies in the session. -/
theorem haltLatch_released :
    ∃ watched, ((watchedAuthority config).restrict fun _ call =>
        insideSession config call.readAt.instant).Reachable watched ∧
      watched.snapshot.state = .openConfirmed ∧ ¬ ProvenResumed watched.log := by
  refine ⟨_, watched_of_calls (haltAndResume ++ [reportedTrade]) (by decide +kernel),
    by decide +kernel, ?_⟩
  rw [provenResumed_iff]
  decide +kernel

/-- In the rehearsal a trade that happened after the announcement opens the market, and the one
that happened before it would break the latch. -/
theorem haltLatch_held_rehearsed :
    ProvenResumed ((haltAndResume ++ [laterTrade]).foldl (Watched.after config)
      watchedOpening).log ∧
    ¬ ((reportedTrade.execute config
          (haltAndResume.foldl (Watched.after config) watchedOpening).snapshot).state =
        .openConfirmed →
      ProvenResumed ((haltAndResume.foldl (Watched.after config) watchedOpening).after config
        reportedTrade).log) := by
  have hproven := haltLatch_held config _
    (watched_of_calls (haltAndResume ++ [laterTrade]) (by decide +kernel))
  have hlatched := haltLatch_held config _ (watched_of_calls haltAndResume (by decide +kernel))
  refine ⟨hproven.1 (by decide +kernel), fun hheld => ?_⟩
  have horder := (hlatched.2 reportedTrade _ (Watched.step_after config _ _)).mp hheld
  have hbroken : keepsOrder config (haltAndResume.foldl (Watched.after config) watchedOpening)
      reportedTrade = false := by decide +kernel
  rw [hbroken] at horder
  cases horder

end Rehearsed

end AlphaDecay
