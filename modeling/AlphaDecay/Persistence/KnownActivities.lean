import AlphaDecay.Persistence.Ledger

/-!
# Known activities

A finalization stores the activities of its sweep as the known activities of the next state. What
was known and lies in the window of the sweep must be among them, but an activity before the window
need not be. `knownActivities_kept` says that nothing is forgotten as long as every sweep shows the
known activities from before its window again, and `knownActivities_forgotten` is a run in which
one does not.
-/

namespace AlphaDecay

open Foundation Table

/-! ## Equal activities -/

/-- Everything that the equality of activities compares. -/
def ActivityItem.content (item : ActivityItem) :
    (String × ActivityType × Int × Option String × Option String × Option String × TimeQuality ×
      Option String) × Option ℚ :=
  ((item.activityIdHash, item.activityType, item.occurredAt, item.symbol, item.providerOrderId,
    item.clientOrderId, item.timeQuality, item.providerActivityType),
    item.signedQuantity.map Decimal.value)

/-- Optional decimals are the same when their values are. -/
theorem sameDecimal_iff {a b : Option Decimal} :
    sameDecimal a b = true ↔ a.map Decimal.value = b.map Decimal.value := by
  cases a with
  | none => cases b <;> simp [sameDecimal]
  | some a =>
      cases b with
      | none => simp [sameDecimal]
      | some b => simp [sameDecimal, Decimal.beq_iff_value]

/-- Activities are equal when their contents are. -/
theorem ActivityItem.beq_iff {a b : ActivityItem} : (a == b) = true ↔ a.content = b.content := by
  show (decide (a.activityIdHash = b.activityIdHash ∧ a.activityType = b.activityType ∧
    a.occurredAt = b.occurredAt ∧ a.symbol = b.symbol ∧ a.providerOrderId = b.providerOrderId ∧
    a.clientOrderId = b.clientOrderId ∧ a.timeQuality = b.timeQuality ∧
    a.providerActivityType = b.providerActivityType) &&
    sameDecimal a.signedQuantity b.signedQuantity) = true ↔ _
  rw [Bool.and_eq_true, decide_eq_true_eq, sameDecimal_iff]
  simp only [content, Prod.mk.injEq]

def isAmong (activities : List ActivityItem) (item : ActivityItem) : Bool :=
  activities.any fun other => other == item

theorem isAmong_iff {activities : List ActivityItem} {item : ActivityItem} :
    isAmong activities item = true ↔ item.content ∈ activities.map ActivityItem.content := by
  unfold isAmong
  rw [List.any_eq_true, List.mem_map]
  exact exists_congr fun other => and_congr_right fun _ => ActivityItem.beq_iff

/-! ## What is kept -/

/-- Nothing that one of the states knows is forgotten in a later one: the known activities and the
resolved hashes stay, and the resolved hashes are hashes of known activities. -/
structure KnownKept (db : Database) : Prop where
  known : ∀ (i j : Nat) earlier later, i ≤ j → db.states.rows[i]? = some earlier →
    db.states.rows[j]? = some later →
    ∀ item ∈ earlier.knownActivities, isAmong later.knownActivities item = true
  resolved : ∀ (i j : Nat) earlier later, i ≤ j → db.states.rows[i]? = some earlier →
    db.states.rows[j]? = some later →
    earlier.resolvedActivityHashes ⊆ later.resolvedActivityHashes
  resolvedKnown : ∀ row ∈ db.states.rows,
    row.resolvedActivityHashes ⊆ activityHashes row.knownActivities

/-- Some activity that a state knows happened before its window and is not among others. -/
def missesEarlier (state : AccountReconciliationStateRow) (activities : List ActivityItem) : Bool :=
  state.knownActivities.any fun item =>
    activityPredatesWindow item state.baselineCapturedAt && !isAmong activities item

/-- A finalization comes with a sweep that does not show again what the latest state knows from
before the window. -/
def forgets (db : Database) (transaction : Transaction) : Bool :=
  match transaction.call with
  | .finalizeExecutionAuthorized _ sweep _ claim _ =>
      (db.intent claim.intentId).any fun intent =>
        (db.latestState intent.accountRole).any fun state =>
          missesEarlier state sweep.activities
  | _ => false

/-! ## One finalization -/

section

variable {intent : ExecutionIntentRow} {state : AccountReconciliationStateRow}
  {attempt : OrderAttempt} {candidates : List ActivityItem} {requireVisible : Bool}
  {bound : BoundActivities}

/-- What was resolved stays resolved. -/
theorem boundCandidates_resolved
    (h : boundCandidates intent state attempt candidates requireVisible = .ok bound) :
    state.resolvedActivityHashes ⊆ bound.resolved := by
  simp only [boundCandidates, check_bind_ok] at h
  obtain ⟨-, h⟩ := h
  intro hash hhash
  split at h
  · simp only [boundFees, check_bind_ok] at h
    obtain ⟨-, h⟩ := h
    cases h
    split
    · exact hhash
    · exact mem_sortedSet.mpr (List.mem_append_left _ hhash)
  · simp only [boundTrades, check_bind_ok] at h
    obtain ⟨-, h⟩ := h
    cases h
    exact mem_sortedSet.mpr (List.mem_append_left _ hhash)

/-- What was known from within the window is among the candidates. -/
theorem boundCandidates_known (hunique : (activityHashes state.knownActivities).Nodup)
    (h : boundCandidates intent state attempt candidates requireVisible = .ok bound)
    {item : ActivityItem} (hitem : item ∈ state.knownActivities)
    (hwindow : activityPredatesWindow item state.baselineCapturedAt = false) :
    isAmong candidates item = true := by
  simp only [boundCandidates, check_bind_ok, raiseIf_ok] at h
  obtain ⟨hmissing, -⟩ := h
  have hfound : activityByHash state.knownActivities item.activityIdHash = some item :=
    lastByKey_eq_some hitem rfl fun other hother heq =>
      List.inj_on_of_nodup_map hunique hother hitem heq
  have hhash : item.activityIdHash ∈ activityHashes state.knownActivities :=
    List.mem_map_of_mem hitem
  unfold knownMissing at hmissing
  rw [List.any_eq_false] at hmissing
  have hitemKept := hmissing item.activityIdHash hhash
  rw [hfound, Option.any_some, hwindow] at hitemKept
  simp only [Bool.not_false, Bool.true_and, bne, Bool.not_eq_true, Bool.not_eq_false'] at hitemKept
  cases hcandidate : activityByHash candidates item.activityIdHash with
  | none =>
      rw [hcandidate] at hitemKept
      cases hitemKept
  | some other =>
      rw [hcandidate] at hitemKept
      have hmem : other ∈ candidates :=
        (List.mem_filter.mp (List.mem_of_getLast? hcandidate)).1
      exact List.any_eq_true.mpr ⟨other, hmem, hitemKept⟩

end

section Steps

variable [Digest] {settings : RepositorySettings} {db after : Database}

omit [Digest] in
theorem SweepObservation.activities_distinct (sweep : SweepObservation) :
    (activityHashes sweep.activities).Nodup := by
  have hvalid := sweep.valid
  simp only [SweepObservationFields.postInit, check_bind_ok, requireCanonicalActivities,
    requireCanonical, raiseIf_ok, Bool.not_eq_false', decide_eq_true_eq] at hvalid
  exact hvalid.2.2.2.2.2.2.2.2.2.2.imp fun hlt => ne_of_lt hlt

omit [Digest] in
theorem isAmong_trans {found others : List ActivityItem} {item : ActivityItem}
    (h : isAmong found item = true) (hothers : ∀ other ∈ found, isAmong others other = true) :
    isAmong others item = true := by
  obtain ⟨other, hother, hcontent⟩ := List.mem_map.mp (isAmong_iff.mp h)
  rw [isAmong_iff, ← hcontent]
  exact isAmong_iff.mp (hothers other hother)

omit [Digest] in
theorem isAmong_self {activities : List ActivityItem} {item : ActivityItem}
    (h : item ∈ activities) : isAmong activities item = true :=
  isAmong_iff.mpr (List.mem_map_of_mem h)

/-- Nothing is forgotten, and the known activities of each state have distinct hashes. -/
structure KnownSound (db : Database) : Prop extends KnownKept db where
  distinct : ∀ row ∈ db.states.rows, (activityHashes row.knownActivities).Nodup

omit [Digest] in
/-- One more state keeps what is known when it keeps what the last state knows. -/
theorem KnownSound.append {before : List AccountReconciliationStateRow}
    {last next : AccountReconciliationStateRow} (h : KnownSound db)
    (hrows : db.states.rows = before ++ [last])
    (hafter : after.states.rows = db.states.rows ++ [next])
    (hknown : ∀ item ∈ last.knownActivities, isAmong next.knownActivities item = true)
    (hresolved : last.resolvedActivityHashes ⊆ next.resolvedActivityHashes)
    (hresolvedKnown : next.resolvedActivityHashes ⊆ activityHashes next.knownActivities)
    (hdistinct : (activityHashes next.knownActivities).Nodup) : KnownSound after := by
  have hlast : db.states.rows[before.length]? = some last := by
    rw [hrows, List.getElem?_concat_length]
  have hlength : db.states.rows.length = before.length + 1 := by
    rw [hrows, List.length_append, List.length_singleton]
  -- A later state is an old one, or the new one, which continues the last.
  have hpair : ∀ {i j : Nat} {earlier later}, i ≤ j → after.states.rows[i]? = some earlier →
      after.states.rows[j]? = some later →
      (db.states.rows[i]? = some earlier ∧ db.states.rows[j]? = some later) ∨
        (later = next ∧ (earlier = next ∨ db.states.rows[i]? = some earlier ∧
          i ≤ before.length)) := by
    intro i j earlier later hij hearlier hlater
    rw [hafter] at hearlier hlater
    rcases getElem?_append_one hlater with hold | ⟨hj, rfl⟩
    · obtain ⟨hlt, -⟩ := List.getElem?_eq_some_iff.mp hold
      rw [List.getElem?_append_left (by omega)] at hearlier
      exact .inl ⟨hearlier, hold⟩
    · rcases getElem?_append_one hearlier with hold | ⟨hi, rfl⟩
      · obtain ⟨hlt, -⟩ := List.getElem?_eq_some_iff.mp hold
        exact .inr ⟨rfl, .inr ⟨hold, by omega⟩⟩
      · exact .inr ⟨rfl, .inl rfl⟩
  refine {
    known := ?_
    resolved := ?_
    resolvedKnown := ?_
    distinct := ?_ }
  · intro i j earlier later hij hearlier hlater item hitem
    rcases hpair hij hearlier hlater with ⟨hold, hnew⟩ | ⟨rfl, rfl | ⟨hold, hle⟩⟩
    · exact h.known i j earlier later hij hold hnew item hitem
    · exact isAmong_self hitem
    · exact isAmong_trans (h.known i before.length earlier last hle hold hlast item hitem) hknown
  · intro i j earlier later hij hearlier hlater
    rcases hpair hij hearlier hlater with ⟨hold, hnew⟩ | ⟨rfl, rfl | ⟨hold, hle⟩⟩
    · exact h.resolved i j earlier later hij hold hnew
    · exact List.Subset.refl _
    · exact List.Subset.trans (h.resolved i before.length earlier last hle hold hlast) hresolved
  · intro row hrow
    rw [hafter] at hrow
    rcases List.mem_append.mp hrow with hold | hnew
    · exact h.resolvedKnown row hold
    · rw [List.mem_singleton.mp hnew]
      exact hresolvedKnown
  · intro row hrow
    rw [hafter] at hrow
    rcases List.mem_append.mp hrow with hold | hnew
    · exact h.distinct row hold
    · rw [List.mem_singleton.mp hnew]
      exact hdistinct

omit [Digest] in
theorem AccountReconciliationState.resolved_known (state : AccountReconciliationState) :
    state.resolvedActivityHashes ⊆ activityHashes state.knownActivities := by
  have hvalid := state.valid
  simp only [AccountReconciliationStateFields.check, raiseIf_ok, Bool.or_eq_false_iff,
    Bool.not_eq_false', List.all_eq_true, List.contains_iff_mem] at hvalid
  exact hvalid.2

section Settled

variable {claim : ExecutionIntent} {sweep : SweepObservation} {requestedStatus : String}
  {now : Int} {lockId : Uuid} {rows : FinalizationRows} {evaluated : WholeAccountReconciliation}
  {latest : AttemptObservationRow} {permit : BrokerMutationPermit}
  {state : AccountReconciliationState} {complete certificate : ExecutionCertificate}
  {hasFill : Bool}

/-- A finalization whose sweep shows what was known from before its window forgets nothing. -/
theorem Settlement.known
    (hsettled : Settlement settings db after claim sweep requestedStatus now lockId rows evaluated
      latest permit state complete certificate hasFill)
    (h : KnownSound db) (hsound : StatesSound db)
    (hshown : missesEarlier rows.state sweep.activities = false) : KnownSound after := by
  obtain ⟨before, hrows, -⟩ := hsettled.last hsound
  obtain ⟨last, hfinal⟩ := finalExpectation_facts hsettled.expected
  obtain ⟨-, -, -, -, -, hknown, hresolved⟩ := nextState_fields hsettled.next
  rw [hsettled.sweep_eq] at hknown
  have hmem : rows.state ∈ db.states.rows := by
    rw [hrows]
    exact List.mem_append_right _ (List.mem_singleton_self _)
  refine h.append hrows hsettled.stateRows ?_ ?_ ?_ ?_
  · intro item hitem
    show isAmong state.knownActivities item = true
    rw [hknown]
    cases hwindow : activityPredatesWindow item rows.state.baselineCapturedAt with
    | true =>
        have hitemShown := List.any_eq_false.mp hshown item hitem
        rw [hwindow] at hitemShown
        simpa using hitemShown
    | false => exact boundCandidates_known (h.distinct _ hmem) hfinal.bound hitem hwindow
  · show rows.state.resolvedActivityHashes ⊆ state.resolvedActivityHashes
    rw [hresolved]
    exact boundCandidates_resolved hfinal.bound
  · exact state.resolved_known
  · show (activityHashes state.knownActivities).Nodup
    rw [hknown]
    exact sweep.activities_distinct

/-- A finalization forgets nothing only when its sweep shows what was known from before its
window. -/
theorem Settlement.shown
    (hsettled : Settlement settings db after claim sweep requestedStatus now lockId rows evaluated
      latest permit state complete certificate hasFill)
    (hsound : StatesSound db) (h : KnownKept after) :
    missesEarlier rows.state sweep.activities = false := by
  obtain ⟨before, hrows, -⟩ := hsettled.last hsound
  obtain ⟨-, -, -, -, -, hknown, -⟩ := nextState_fields hsettled.next
  rw [hsettled.sweep_eq] at hknown
  have happended := hsettled.stateRows
  rw [hrows] at happended
  have hkept := h.known before.length (before.length + 1) rows.state
    (nextStateRow rows evaluated permit latest state) (Nat.le_succ _)
    (by rw [happended, List.append_assoc]; simp) (by rw [happended]; simp)
  unfold missesEarlier
  rw [List.any_eq_false]
  intro item hitem
  have hshown : isAmong state.knownActivities item = true := hkept item hitem
  rw [hknown] at hshown
  simp [hshown]

/-- A finalization forgets when its sweep misses what the state that it continues knows. -/
theorem Settlement.forgets
    (hsettled : Settlement settings db after claim sweep requestedStatus now lockId rows evaluated
      latest permit state complete certificate hasFill)
    {transaction : Transaction} {supplied : ExecutionCertificate}
    {positionGreeks : List PositionGreekObservation}
    (hcall : transaction.call = .finalizeExecutionAuthorized supplied sweep requestedStatus claim
      positionGreeks) :
    AlphaDecay.forgets db transaction = missesEarlier rows.state sweep.activities := by
  have hread := readFinalization_rows hsettled.read
  unfold AlphaDecay.forgets
  rw [hcall]
  dsimp only
  rw [hread.intent, Option.any_some, hread.state, Option.any_some]

end Settled

/-- A transaction that does not forget keeps what is known. -/
theorem KnownSound.step (h : KnownSound db) (hsound : StatesSound db) {transaction : Transaction}
    (hstep : StateStep settings db transaction after) (hshown : forgets db transaction = false) :
    KnownSound after := by
  cases hstep with
  | kept hstates _ =>
      obtain ⟨⟨hknown, hresolved, hresolvedKnown⟩, hdistinct⟩ := h
      rw [← hstates] at hknown hresolved hresolvedKnown hdistinct
      exact ⟨⟨hknown, hresolved, hresolvedKnown⟩, hdistinct⟩
  | @opened baseline sweep row hopening =>
      have hrows := hopening.stateRows
      rw [hsound.unopened hopening.unopened, List.nil_append] at hrows
      -- The only state is the first one.
      have honly : ∀ {n : Nat} {found}, after.states.rows[n]? = some found → found = row := by
        intro n found hfound
        rw [hrows, List.getElem?_singleton] at hfound
        split at hfound
        · exact (Option.some.inj hfound).symm
        · cases hfound
      refine {
        known := ?_
        resolved := ?_
        resolvedKnown := ?_
        distinct := ?_ }
      · intro i j earlier later hij hearlier hlater item hitem
        rw [honly hlater]
        rw [honly hearlier] at hitem
        exact isAmong_self hitem
      · intro i j earlier later hij hearlier hlater
        rw [honly hlater, honly hearlier]
        exact List.Subset.refl _
      · intro found hfound
        rw [hrows, List.mem_singleton] at hfound
        rw [hfound]
        exact hopening.resolved_known
      · intro found hfound
        rw [hrows, List.mem_singleton] at hfound
        rw [hfound, hopening.known]
        exact sweep.activities_distinct
  | settled hcall hresult hsettled =>
      rw [hsettled.forgets hcall] at hshown
      exact hsettled.known h hsound hshown

/-- In a run in which no finalization forgets, what is known is kept. -/
theorem knownSound_of_reachable {world : World}
    (h : ((repository settings).restrict fun world transaction =>
      forgets world.db transaction = false).Reachable world) :
    KnownSound world.db := by
  have hboth : KnownSound world.db ∧ StatesSound world.db := by
    refine h.invariant (P := fun world => KnownSound world.db ∧ StatesSound world.db) ?_ ?_
    · intro world hempty
      have hinitial : (repository settings).Reachable world :=
        ⟨world, [], hempty, System.Run.refl _⟩
      have hrows : world.db.states.rows = [] := by
        rw [show world.db = {} from hempty]
        rfl
      refine ⟨⟨⟨?_, ?_, ?_⟩, ?_⟩, statesSound_of_reachable hinitial⟩
      all_goals simp [hrows]
    · intro world transaction next hsound hstep
      obtain ⟨hshown, -, rfl⟩ := hstep
      obtain ⟨hstates, hbaselines, hfunded⟩ := @execute_states settings _ transaction world.db
      exact ⟨hsound.1.step hsound.2 hstates hshown,
        hsound.2.step hstates hbaselines (hfunded hsound.2.funded)⟩
  exact hboth.1

/-- In a run in which every sweep of a finalization shows again what the latest state knows from
before its window, nothing is ever forgotten. From there a finalization forgets nothing exactly
when its sweep shows that again. -/
theorem knownActivities_kept {world : World}
    (hreach : ((repository settings).restrict fun world transaction =>
      forgets world.db transaction = false).Reachable world) :
    KnownKept world.db ∧ ∀ transaction next, (repository settings).step world transaction next →
      (finalizedBy settings world.db transaction).isSome = true →
      (KnownKept next.db ↔ forgets world.db transaction = false) := by
  have hknown := knownSound_of_reachable hreach
  refine ⟨hknown.toKnownKept, ?_⟩
  intro transaction next hstep hfinalized
  obtain ⟨-, rfl⟩ := hstep
  have hplain : (repository settings).Reachable world := by
    obtain ⟨initial, labels, hinitial, hrun⟩ := hreach
    exact ⟨initial, labels, hinitial, hrun.of_restrict⟩
  have hsound := statesSound_of_reachable hplain
  obtain ⟨hstates, -, -⟩ := @execute_states settings _ transaction world.db
  constructor
  · intro hkept
    obtain ⟨finalized, hfinalized⟩ := Option.isSome_iff_exists.mp hfinalized
    obtain ⟨supplied, sweep, requestedStatus, claim, positionGreeks, rows, evaluated,
      latest, permit,
      state, complete, stored, hasFill, hcall, hsettled, -⟩ := finalizedBy_some hfinalized
    rw [hsettled.forgets hcall]
    exact hsettled.shown hsound hkept
  · intro hshown
    exact (hknown.step hsound hstates hshown).toKnownKept

end Steps

section Rehearsed

open Rehearsal

/-- Whether a transaction does not forget. -/
def remembers (world : World) (transaction : Transaction) : Bool :=
  !forgets world.db transaction

theorem filledPlay_remembers : (match playMeeting remembers filledPlay { db := {}, clock := 0 } with
    | .ok last => last.db.states.rows.map fun row => row.knownActivities.length
    | .error _ => []) = [1, 3] := by
  decide +kernel

/-- A transaction that finalizes nothing does not forget. -/
example : remembers { db := {}, clock := 0 }
    (callAt (.setAutonomousEnabled .submission true .owner) (timeAt 0) 0) = true := by
  decide +kernel

/-- In the rehearsal of a filled entry the second state knows the funding and both trades. -/
theorem knownActivities_kept_rehearsed : ∃ world : World,
    ((repository Rehearsal.settings).restrict fun world transaction =>
      forgets world.db transaction = false).Reachable world ∧
    (world.db.states.rows.map fun row => row.knownActivities.length) = [1, 3] ∧
    KnownKept world.db := by
  have hshown := filledPlay_remembers
  split at hshown
  · rename_i last hplayed
    obtain ⟨transactions, hrun⟩ := run_of_playMeeting hplayed
    have hreach : ((repository Rehearsal.settings).restrict fun world transaction =>
        forgets world.db transaction = false).Reachable last := by
      refine ⟨{ db := {}, clock := 0 }, transactions, rfl, ?_⟩
      simpa only [remembers, Bool.not_eq_true'] using hrun
    exact ⟨last, hreach, hshown, (knownActivities_kept hreach).1⟩
  · cases hshown

theorem rejectedPlay_ends : endsAs (rejectedPlay ++ [rejectedFinal]) (fun last =>
    last.db.states.rows.map (fun row => row.knownActivities.length) == [1, 0]) = true := by
  decide +kernel

/-- Before the opening there is no state. -/
example : endsAs [] (fun last => last.db.states.rows.isEmpty) = true := by decide +kernel

/-- A finalization can forget: the account was funded before the window, the first state knows the
funding, and after a finalization whose sweep shows only the window the second state does not. -/
theorem knownActivities_forgotten : ∃ world : World,
    (repository Rehearsal.settings).Reachable world ∧
    (world.db.states.rows.map fun row => row.knownActivities.length) = [1, 0] ∧
    ¬KnownKept world.db := by
  obtain ⟨last, hplayed, hends⟩ := exists_play rejectedPlay_ends
  have hcounts := beq_iff_eq.mp hends
  refine ⟨last, reachable_of_play hplayed, hcounts, ?_⟩
  intro hkept
  match hrows : last.db.states.rows with
  | [first, second] =>
      rw [hrows] at hcounts
      obtain ⟨hfirst, hsecond⟩ : first.knownActivities.length = 1 ∧
          second.knownActivities.length = 0 := by simpa using hcounts
      obtain ⟨item, hitem⟩ := List.length_eq_one_iff.mp hfirst
      have hamong := hkept.known 0 1 first second (by omega) (by rw [hrows]; rfl)
        (by rw [hrows]; rfl) item (by rw [hitem]; exact List.mem_singleton_self _)
      rw [List.length_eq_zero_iff.mp hsecond] at hamong
      cases hamong
  | [] | [_] | _ :: _ :: _ :: _ =>
      rw [hrows] at hcounts
      simp at hcounts

end Rehearsed

end AlphaDecay
