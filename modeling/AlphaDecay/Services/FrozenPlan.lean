import AlphaDecay.Alpaca.SnapshotRequest
import AlphaDecay.Lifecycle.Assessment
import AlphaDecay.Policy.CanonicalForm
import AlphaDecay.Services.OpportunityCatalyst

/-!
# Frozen plans

A plan is frozen once, in the next version of its key, and its fields are checked then. The stages
that decide it later check fields of the plan again: the catalyst checks its codes and times, the
signals the order of its sessions, the thesis its two contracts and its invalidation codes. A frozen
plan passes all of them exactly when it is complete: it has at most sixteen invalidation codes, its
sessions are weekdays with the reaction before the signal, and its contracts have their form.
-/

namespace AlphaDecay.OpportunityPlan

open Foundation Foundation.Json Alpaca Policy StrategyBriefs

/-! ## Plans -/

structure OpportunityPlanSpec where
  opportunityKey : String
  version : Int
  underlying : String
  eventSession : Calendar.Date
  preEventSession : Calendar.Date
  reactionSession : Calendar.Date
  signalSession : Calendar.Date
  dailyStartSession : Calendar.Date
  allowedEventCodes : List String
  evidenceWindowStart : Int
  evidenceWindowEnd : Int
  policy : OpportunityPolicy
  requestContract : OpportunitySnapshotRequest
  thesisCode : String
  thesisTargetContract : List (String × Json)
  exposureLimitContract : List (String × Json)
  invalidationCodes : List String
  frozenAt : Int
  accountRole : AccountRole := .development

structure PersistedOpportunityPlan where
  planId : Uuid
  opportunityKey : String
  version : Int
  policyHash : String
  requestContractHash : String
  planHash : String
  frozenAt : Int
  accountRole : AccountRole

/-- A row of a plan, with the document that its columns say. -/
structure PlanRow extends PersistedOpportunityPlan where
  material : Json

/-- A key: a letter or a digit, and up to seventy-nine letters, digits and marks. -/
def isKey (text : String) : Bool :=
  let isMark := fun c : Char => isCapital c || Decimal.isDigit c ||
    decide ('a'.toNat ≤ c.toNat ∧ c.toNat ≤ 'z'.toNat)
  match text.toList with
  | [] => false
  | first :: rest => isMark first && decide (rest.length ≤ 79)
      && rest.all fun c => isMark c || ['_', '.', ':', '-'].contains c

/-- A day from Monday to Friday. Day zero of the calendar is a Monday. -/
def isWeekday (date : Calendar.Date) : Bool :=
  decide (Calendar.dayOfDate date % 7 < 5)

/-- A date is before another. -/
def Before (first second : Calendar.Date) : Prop :=
  Calendar.dayOfDate first < Calendar.dayOfDate second

instance (first second : Calendar.Date) : Decidable (Before first second) :=
  inferInstanceAs (Decidable (_ < _))

/-- The fields of a plan that may be frozen. -/
def OpportunityPlanSpec.Valid (spec : OpportunityPlanSpec) : Prop :=
  (isKey spec.opportunityKey = true ∧ 0 < spec.version ∧ isSymbol spec.underlying = true) ∧
  areCodes spec.allowedEventCodes = true ∧
  isWeekday spec.dailyStartSession = true ∧
  (Before spec.dailyStartSession spec.signalSession ∧
    Calendar.dayOfDate spec.signalSession ≤ Calendar.dayOfDate spec.dailyStartSession + 120) ∧
  (spec.accountRole ≠ .replay ∧ spec.requestContract.accountRole = spec.accountRole ∧
    spec.requestContract.underlying = spec.underlying ∧
    spec.requestContract.benchmark = "QQQ" ∧
    spec.requestContract.decisionBoundary = spec.policy.selectedDecisionBoundary) ∧
  (spec.opportunityKey = spec.policy.opportunityKey ∧ spec.underlying = spec.policy.underlying ∧
    dateAt spec.policy.selectedDecisionBoundary = spec.signalSession) ∧
  isCode spec.thesisCode = true ∧
  (spec.invalidationCodes ≠ [] ∧ spec.invalidationCodes.Nodup ∧
    spec.invalidationCodes.all isCode = true) ∧
  (Before spec.dailyStartSession spec.preEventSession ∧
    Before spec.preEventSession spec.eventSession ∧
    Before spec.eventSession spec.reactionSession ∧
    ¬ Before spec.signalSession spec.reactionSession) ∧
  (spec.frozenAt ≤ spec.evidenceWindowStart ∧ spec.evidenceWindowStart ≤ spec.evidenceWindowEnd ∧
    spec.evidenceWindowEnd ≤ spec.policy.selectedDecisionBoundary)

instance (spec : OpportunityPlanSpec) : Decidable spec.Valid :=
  inferInstanceAs (Decidable (_ ∧ _))

section Frozen

variable [Digest]

/-- The digest of a document of the evidence store under a domain. -/
def evidenceHash (domain : String) (value : Json) : String :=
  Digest.agentHash (hashMaterial domain value).sorted

def OpportunityPlanSpec.document (spec : OpportunityPlanSpec) : Json :=
  .object [
    ("account_role", .text spec.accountRole.text),
    ("opportunity_key", .text spec.opportunityKey),
    ("version", .number spec.version),
    ("underlying", .text spec.underlying),
    ("benchmark_symbol", .text "QQQ"),
    ("event_session", policyDate spec.eventSession),
    ("pre_event_session", policyDate spec.preEventSession),
    ("reaction_session", policyDate spec.reactionSession),
    ("signal_session", policyDate spec.signalSession),
    ("daily_start_session", policyDate spec.dailyStartSession),
    ("allowed_event_codes", .array (spec.allowedEventCodes.map .text)),
    ("evidence_window_start", .text (Calendar.isoformat spec.evidenceWindowStart)),
    ("evidence_window_end", .text (Calendar.isoformat spec.evidenceWindowEnd)),
    ("policy_payload", spec.policy.document),
    ("policy_hash", .text (opportunityPolicyHash spec.policy.toOpportunityPolicyFields)),
    ("request_contract", spec.requestContract.material),
    ("request_contract_hash", .text (Digest.authorityHash spec.requestContract.material)),
    ("thesis_code", .text spec.thesisCode),
    ("thesis_target_contract", .object spec.thesisTargetContract),
    ("thesis_target_hash", .text (evidenceHash "alphadecay.opportunity.thesis-target.v1"
      (.object spec.thesisTargetContract))),
    ("exposure_limit_contract", .object spec.exposureLimitContract),
    ("exposure_limit_hash", .text (evidenceHash "alphadecay.opportunity.exposure-limit.v1"
      (.object spec.exposureLimitContract))),
    ("invalidation_codes", .array (spec.invalidationCodes.map .text)),
    ("frozen_at", .text (Calendar.isoformat spec.frozenAt))]

/-- The document of a plan that passes its checks. The policy is read back from its payload, where
decimals have one text each, and has to keep its hash. -/
def planMaterial (spec : OpportunityPlanSpec) : Except String Json := do
  raiseIf (!decide spec.Valid) "OPPORTUNITY_PLAN_INVALID"
  raiseIf (spec.thesisTargetContract.isEmpty || spec.exposureLimitContract.isEmpty)
    "OPPORTUNITY_PLAN_CONTRACT_INVALID"
  let reread := spec.policy.map canonicalForm
  raiseIf (!decide reread.Bounded) "OPPORTUNITY_EVIDENCE_PAYLOAD_INVALID"
  raiseIf (opportunityPolicyHash spec.policy.toOpportunityPolicyFields
    != opportunityPolicyHash reread) "OPPORTUNITY_PLAN_POLICY_INVALID"
  return spec.document

def accountError (role : AccountRole) (suffix : String) : String :=
  (if role = .development then "DEVELOPMENT_ACCOUNT_" else "SUBMISSION_ACCOUNT_") ++ suffix

def OpportunityPlanSpec.row (spec : OpportunityPlanSpec) (material : Json) : PlanRow :=
  let planHash := evidenceHash "alphadecay.opportunity.plan.v1" material
  { planId := Digest.uuid5 ("alphadecay:opportunity-plan:" ++ planHash)
    opportunityKey := spec.opportunityKey
    version := spec.version
    policyHash := opportunityPolicyHash spec.policy.toOpportunityPolicyFields
    requestContractHash := Digest.authorityHash spec.requestContract.material
    planHash := planHash
    frozenAt := spec.frozenAt
    accountRole := spec.accountRole
    material := material }

/-- A row on record is that of a plan. Documents are equal when their sorted texts are. -/
def PlanRow.same (row fresh : PlanRow) : Bool :=
  row.planId == fresh.planId && row.planHash == fresh.planHash
    && row.policyHash == fresh.policyHash && row.requestContractHash == fresh.requestContractHash
    && row.material.canonicalText false == fresh.material.canonicalText false

/-- A plan has the version after the last one, and is frozen later. -/
def followsLatest (spec : OpportunityPlanSpec) : Option PlanRow → Bool
  | none => spec.version == 1
  | some latest => spec.version == latest.version + 1 && decide (latest.frozenAt < spec.frozenAt)

/-- Freeze a plan, for the account with a fingerprint. -/
def freezePlan (accounts : AccountRole → Option String) (rows : List PlanRow)
    (spec : OpportunityPlanSpec) : Except String (List PlanRow × PersistedOpportunityPlan) := do
  let material ← planMaterial spec
  let fresh := spec.row material
  let fingerprint ← require (accounts spec.accountRole) "OPPORTUNITY_ACCOUNT_MISSING"
  raiseIf (!isHash fingerprint) "OPPORTUNITY_ACCOUNT_INVALID"
  raiseIf (spec.requestContract.expectedAccountFingerprint != fingerprint)
    (accountError spec.accountRole "MISMATCH")
  let ofKey := rows.filter fun row =>
    row.opportunityKey == spec.opportunityKey && row.accountRole == spec.accountRole
  match ofKey.find? fun row => row.version == spec.version with
  | some existing =>
      raiseIf (!existing.same fresh) "OPPORTUNITY_PLAN_VERSION_CONFLICT"
      return (rows, existing.toPersistedOpportunityPlan)
  | none =>
      let latest := (Table.orderBy (fun row : PlanRow => row.version) ofKey).getLast?
      raiseIf (!followsLatest spec latest) "OPPORTUNITY_PLAN_VERSION_INVALID"
      raiseIf (rows.any fun row => row.planHash == fresh.planHash)
        "OPPORTUNITY_PLAN_IDENTITY_CONFLICT"
      return (rows ++ [fresh], fresh.toPersistedOpportunityPlan)

/-! ## Later checks -/

structure CatalystPlan extends Catalyst.CatalystEvidencePlan where
  opportunityKey : String
  underlying : String
  planHash : String
  policyHash : String
  thesisCode : String
  evidenceWindowStart : Int
  evidenceWindowEnd : Int
  frozenAt : Int

def OpportunityPlanSpec.catalystPlan (spec : OpportunityPlanSpec)
    (persisted : PersistedOpportunityPlan) : CatalystPlan where
  opportunityKey := spec.opportunityKey
  underlying := spec.underlying
  planHash := persisted.planHash
  policyHash := persisted.policyHash
  thesisCode := spec.thesisCode
  allowedEventCodes := spec.allowedEventCodes
  invalidationCodes := spec.invalidationCodes
  evidenceWindowStart := spec.evidenceWindowStart
  evidenceWindowEnd := spec.evidenceWindowEnd
  frozenAt := spec.frozenAt

/-- The fields of a plan that a catalyst may be produced for at a time. -/
def CatalystPlan.Valid (plan : CatalystPlan) (policy : OpportunityPolicyFields)
    (trustedAt : Int) : Prop :=
  (isKey plan.opportunityKey = true ∧ isSymbol plan.underlying = true ∧
    isHash plan.planHash = true ∧ isHash plan.policyHash = true ∧ isCode plan.thesisCode = true) ∧
  (plan.opportunityKey = policy.opportunityKey ∧ plan.underlying = policy.underlying ∧
    plan.policyHash = opportunityPolicyHash policy) ∧
  areCodes plan.allowedEventCodes = true ∧
  ((1 ≤ plan.invalidationCodes.length ∧ plan.invalidationCodes.length ≤ 16) ∧
    plan.invalidationCodes.Nodup ∧ plan.invalidationCodes.all isCode = true) ∧
  (plan.frozenAt ≤ plan.evidenceWindowStart ∧ plan.evidenceWindowStart ≤ plan.evidenceWindowEnd ∧
    plan.evidenceWindowEnd ≤ policy.selectedDecisionBoundary) ∧
  (policy.selectedDecisionBoundary ≤ trustedAt ∧
    trustedAt ≤ policy.selectedDecisionBoundary + policy.maximumDecisionDelay)

instance (plan : CatalystPlan) (policy : OpportunityPolicyFields) (trustedAt : Int) :
    Decidable (plan.Valid policy trustedAt) :=
  inferInstanceAs (Decidable (_ ∧ _))

/-- The check of the plan of a catalyst. -/
def validatePlan (plan : CatalystPlan) (policy : OpportunityPolicyFields) (trustedAt : Int) :
    Except String Unit :=
  raiseIf (!decide (plan.Valid policy trustedAt)) "CATALYST_PLAN_INVALID"

/-- How many daily closes the signals are computed from. -/
def dailyCloseCount : Nat := 61

structure SignalSessions where
  dailySessions : List Calendar.Date
  preEventCutoff : Calendar.Date
  firstReactionSession : Calendar.Date
  signalSession : Calendar.Date

/-- The order of sessions that the scope of the signals requires. -/
def SignalSessions.Ordered (calendar : SignalSessions) : Prop :=
  calendar.dailySessions.length = dailyCloseCount ∧ calendar.dailySessions.Pairwise Before ∧
  calendar.dailySessions.all isWeekday = true ∧
  isWeekday calendar.firstReactionSession = true ∧ isWeekday calendar.signalSession = true ∧
  calendar.dailySessions.getLast? = some calendar.preEventCutoff ∧
  Before calendar.preEventCutoff calendar.firstReactionSession ∧
  Before calendar.firstReactionSession calendar.signalSession

/-- A contract has these keys and no others. -/
def hasKeys (keys : List String) (contract : List (String × Json)) : Bool :=
  contract.all (fun pair => keys.contains pair.1) && keys.all (contract.map (·.1)).contains

/-- The value under a name, read. -/
def readUnder {α : Type} (name : String) (read : Json → Option α)
    (contract : List (String × Json)) : Option α :=
  (member name contract).bind read

/-- The time of a target: an ISO text, whose zone may be the letter. -/
def readTarget (document : Json) : Option Int :=
  document.asText.bind fun text => Calendar.fromIsoformat
    (String.ofList (text.toList.flatMap fun c => if c = 'Z' then Calendar.zeroOffset else [c]))

/-- The view of volatility that a text names. -/
def readView (document : Json) : Option Lifecycle.VolatilityView :=
  document.asText.bind fun
    | "LONG" => some .long
    | "SHORT" => some .short
    | "NEUTRAL" => some .neutral
    | _ => none

/-- The names of a target. -/
def targetKeys : List String :=
  ["target_at", "volatility_view"]

/-- The target of a plan: its time, after the boundary of the decision, and its view. -/
def targetContract (spec : OpportunityPlanSpec) :
    Except String (Int × Lifecycle.VolatilityView) := do
  let contract := spec.thesisTargetContract
  raiseIf (!hasKeys targetKeys contract) "THESIS_TARGET_CONTRACT_INVALID"
  let targetAt ← require (readUnder "target_at" readTarget contract)
    "THESIS_TARGET_CONTRACT_INVALID"
  let view ← require (readUnder "volatility_view" readView contract)
    "THESIS_TARGET_CONTRACT_INVALID"
  raiseIf (decide (targetAt ≤ spec.policy.selectedDecisionBoundary))
    "THESIS_TARGET_CONTRACT_INVALID"
  return (targetAt, view)

/-- A decimal of a contract: a text of one, or an integer. -/
def readLimit : Json → Option Decimal
  | .text written => Decimal.parse written.toList
  | .number n => some (.ofInt n)
  | _ => none

/-- The names of the limits that are decimals. -/
def decimalLimits : List String :=
  ["delta_low", "delta_high", "vega_low", "vega_high", "maximum_daily_theta"]

/-- The names of the limits that count days. -/
def dayLimits : List String :=
  ["minimum_dte", "maximum_dte"]

/-- The names of an exposure. -/
def limitKeys : List String :=
  decimalLimits ++ dayLimits ++ ["portfolio_risk_cap"]

/-- A limit under its name, read and written again. -/
def limitOf {α : Type} (contract : List (String × Json)) (read : Json → Option α)
    (write : α → Json) (name : String) : Except String (String × Json) := do
  let value ← require (readUnder name read contract) "THESIS_EXPOSURE_CONTRACT_INVALID"
  return (name, write value)

/-- The limits of the exposure of a plan, and the cap of its risk. The spread of the policy is cut
down to ten places. -/
def exposureContract (spec : OpportunityPlanSpec) :
    Except String (List (String × Json) × Decimal) := do
  let contract := spec.exposureLimitContract
  raiseIf (!hasKeys limitKeys contract) "THESIS_EXPOSURE_CONTRACT_INVALID"
  let decimals ← decimalLimits.mapM (limitOf contract readLimit policyNumber)
  let days ← dayLimits.mapM (limitOf contract asNumber .number)
  let spread ← require (spec.policy.maximumRelativeSpread.quantizeFloor (-10)) "InvalidOperation"
  let authority := Policy.canonicalHash "alphadecay.lifecycle-liquidity-authority.v1" (.object [
    ("policy_hash", .text (opportunityPolicyHash spec.policy.toOpportunityPolicyFields)),
    ("maximum_relative_spread", policyNumber spread)])
  let cap ← require (readUnder "portfolio_risk_cap" readLimit contract)
    "THESIS_EXPOSURE_CONTRACT_INVALID"
  return (decimals ++ days ++ [("maximum_relative_spread", policyNumber spread),
    ("liquidity_authority_hash", .text authority)], cap)

/-- A decimal has at most so many places. -/
def hasPlaces (places : Nat) (d : Decimal) : Bool :=
  (d.quantize (-places)).any (· == d)

/-- The fields of a thesis that its lifecycle accepts. -/
def LifecycleSchema (version frozenAt targetAt : Int)
    (entryAtmIv approvedMaxLoss portfolioRiskCap : Decimal) (invalidationCodes : List String) :
    Prop :=
  0 < version ∧ frozenAt < targetAt ∧
  (Decimal.ofInt 0 < entryAtmIv ∧ entryAtmIv ≤ Decimal.ofInt 100 ∧ hasPlaces 8 entryAtmIv = true) ∧
  (Decimal.ofInt 0 < approvedMaxLoss ∧ approvedMaxLoss ≤ Decimal.ofInt 100000 ∧
    hasPlaces 6 approvedMaxLoss = true) ∧
  (Decimal.ofInt 0 < portfolioRiskCap ∧ portfolioRiskCap ≤ Decimal.ofInt 100000 ∧
    hasPlaces 6 portfolioRiskCap = true) ∧
  approvedMaxLoss ≤ portfolioRiskCap ∧
  1 ≤ invalidationCodes.length ∧ invalidationCodes.length ≤ 32

instance (version frozenAt targetAt : Int) (entryAtmIv approvedMaxLoss portfolioRiskCap : Decimal)
    (codes : List String) : Decidable (LifecycleSchema version frozenAt targetAt entryAtmIv
      approvedMaxLoss portfolioRiskCap codes) :=
  inferInstanceAs (Decidable (_ ∧ _))

/-- The check of the fields of a thesis by its lifecycle. -/
def validateLifecycleSchema (version frozenAt targetAt : Int)
    (entryAtmIv approvedMaxLoss portfolioRiskCap : Decimal) (invalidationCodes : List String) :
    Except String Unit :=
  raiseIf (!decide (LifecycleSchema version frozenAt targetAt entryAtmIv approvedMaxLoss
    portfolioRiskCap invalidationCodes)) "THESIS_LIFECYCLE_SCHEMA_INVALID"

/-- The later checks of a plan pass: the one of the catalyst at every time that a decision may be
made, the order of sessions in some calendar, the two contracts, and the invalidation codes of the
lifecycle wherever some codes pass. -/
structure DecidedLater (spec : OpportunityPlanSpec) (persisted : PersistedOpportunityPlan) :
    Prop where
  catalyst : ∀ trustedAt, spec.policy.selectedDecisionBoundary ≤ trustedAt →
    trustedAt ≤ spec.policy.selectedDecisionBoundary + spec.policy.maximumDecisionDelay →
    validatePlan (spec.catalystPlan persisted) spec.policy.toOpportunityPolicyFields trustedAt =
      .ok ()
  calendar : ∃ sessions, SignalSessions.Ordered
    ⟨sessions, spec.preEventSession, spec.reactionSession, spec.signalSession⟩
  target : ∃ target, targetContract spec = .ok target
  exposure : ∃ limits, exposureContract spec = .ok limits
  invalidation : ∀ version frozenAt targetAt entryAtmIv approvedMaxLoss portfolioRiskCap,
    (∃ codes, validateLifecycleSchema version frozenAt targetAt entryAtmIv approvedMaxLoss
      portfolioRiskCap codes = .ok ()) →
    validateLifecycleSchema version frozenAt targetAt entryAtmIv approvedMaxLoss portfolioRiskCap
      spec.invalidationCodes = .ok ()

/-- What a plan needs in order to be decided: at most sixteen invalidation codes, sessions on
weekdays, with twelve weeks of the calendar before the event and the reaction before the signal, and
contracts with the names and values that are read of them. -/
structure OpportunityPlanSpec.Complete (spec : OpportunityPlanSpec) : Prop where
  codes : spec.invalidationCodes.length ≤ 16
  weekdays : isWeekday spec.preEventSession = true ∧ isWeekday spec.reactionSession = true ∧
    isWeekday spec.signalSession = true
  past : 84 ≤ Calendar.dayOfDate spec.preEventSession
  ordered : Before spec.reactionSession spec.signalSession
  targetNames : hasKeys targetKeys spec.thesisTargetContract = true
  target : ∃ targetAt, readUnder "target_at" readTarget spec.thesisTargetContract = some targetAt ∧
    spec.policy.selectedDecisionBoundary < targetAt
  view : (readUnder "volatility_view" readView spec.thesisTargetContract).isSome = true
  limitNames : hasKeys limitKeys spec.exposureLimitContract = true
  limits : ∀ name ∈ "portfolio_risk_cap" :: decimalLimits,
    (readUnder name readLimit spec.exposureLimitContract).isSome = true
  days : ∀ name ∈ dayLimits,
    (readUnder name Json.asNumber spec.exposureLimitContract).isSome = true

/-! ## Freezing -/

variable {spec : OpportunityPlanSpec} {persisted : PersistedOpportunityPlan}

/-- A plan that is frozen has valid fields, and its record the hashes of its documents. -/
theorem freezePlan_frozen {accounts : AccountRole → Option String} {rows after : List PlanRow}
    (h : freezePlan accounts rows spec = .ok (after, persisted)) :
    spec.Valid ∧
      persisted.planHash = evidenceHash "alphadecay.opportunity.plan.v1" spec.document ∧
      persisted.policyHash = opportunityPolicyHash spec.policy.toOpportunityPolicyFields := by
  unfold freezePlan at h
  obtain ⟨material, hmaterial, h⟩ := bind_ok.mp h
  simp only [planMaterial, check_bind_ok, raiseIf_ok, Bool.not_eq_false', decide_eq_true_eq]
    at hmaterial
  obtain ⟨hvalid, -, -, -, hmaterial⟩ := hmaterial
  cases hmaterial
  simp only [require_bind_ok, check_bind_ok] at h
  obtain ⟨fingerprint, -, -, -, h⟩ := h
  refine ⟨hvalid, ?_⟩
  split at h
  · rename_i existing hexisting
    simp only [check_bind_ok, raiseIf_ok, Bool.not_eq_false', PlanRow.same, Bool.and_eq_true,
      beq_iff_eq] at h
    obtain ⟨⟨⟨⟨⟨-, hplan⟩, hpolicy⟩, -⟩, -⟩, h⟩ := h
    cases h
    exact ⟨hplan, hpolicy⟩
  · simp only [check_bind_ok] at h
    obtain ⟨-, -, h⟩ := h
    cases h
    exact ⟨rfl, rfl⟩

end Frozen

/-! ## Sessions -/

/-- How many weekdays are before a weekday. -/
def weekdaysBefore (day : Nat) : Nat :=
  day / 7 * 5 + day % 7

/-- The weekday with so many weekdays before it. -/
def weekdayAfter (n : Nat) : Nat :=
  n / 5 * 7 + n % 5

/-- The last of increasing numbers is no less than the count of the others. -/
theorem length_le_of_increasing {numbers : List Nat} {last : Nat}
    (hincreasing : numbers.Pairwise (· < ·)) (hlast : numbers.getLast? = some last) :
    numbers.length ≤ last + 1 := by
  obtain ⟨before, rfl⟩ := List.getLast?_eq_some_iff.mp hlast
  have hnodup := hincreasing.imp fun h => Nat.ne_of_lt h
  have hsubset : before ++ [last] ⊆ List.range (last + 1) := by
    intro n hn
    rw [List.mem_range]
    rcases List.mem_append.mp hn with hbefore | hself
    · have hless := (List.pairwise_append.mp hincreasing).2.2 n hbefore last (by simp)
      omega
    · rw [List.mem_singleton.mp hself]
      omega
  simpa using (List.subperm_of_subset hnodup hsubset).length_le

/-- Sixty-one weekdays end with a weekday exactly when twelve weeks come before it. -/
theorem exists_sessions_iff {cutoff : Calendar.Date} (hweekday : isWeekday cutoff = true) :
    (∃ sessions : List Calendar.Date, sessions.length = dailyCloseCount ∧
      sessions.Pairwise Before ∧ sessions.all isWeekday = true ∧
      sessions.getLast? = some cutoff) ↔ 84 ≤ Calendar.dayOfDate cutoff := by
  have hcutoff : Calendar.dayOfDate cutoff % 7 < 5 := by simpa [isWeekday] using hweekday
  constructor
  · rintro ⟨sessions, hlength, hordered, hall, hlast⟩
    have hincreasing : (sessions.map fun session =>
        weekdaysBefore (Calendar.dayOfDate session)).Pairwise (· < ·) := by
      refine List.pairwise_map.mpr (hordered.imp_of_mem fun {first second} hfirst hsecond h => ?_)
      have hfirst' : Calendar.dayOfDate first % 7 < 5 := by
        simpa [isWeekday] using List.all_eq_true.mp hall first hfirst
      have hsecond' : Calendar.dayOfDate second % 7 < 5 := by
        simpa [isWeekday] using List.all_eq_true.mp hall second hsecond
      unfold Before at h
      unfold weekdaysBefore
      omega
    have hcount := length_le_of_increasing hincreasing (by rw [List.getLast?_map, hlast]; rfl)
    simp only [List.length_map, hlength, dailyCloseCount, weekdaysBefore] at hcount
    omega
  · intro hpast
    have hrange : 60 ≤ weekdaysBefore (Calendar.dayOfDate cutoff) := by
      unfold weekdaysBefore
      omega
    have hday : ∀ k < 60, weekdayAfter (weekdaysBefore (Calendar.dayOfDate cutoff) - 60 + k) <
        Calendar.dayOfDate cutoff := by
      intro k hk
      unfold weekdayAfter weekdaysBefore
      omega
    refine ⟨(List.range 60).map (fun k => Calendar.dateOfDay
      (weekdayAfter (weekdaysBefore (Calendar.dayOfDate cutoff) - 60 + k))) ++ [cutoff],
      by simp [dailyCloseCount], ?_, ?_, by simp⟩
    · refine List.pairwise_append.mpr ⟨List.pairwise_map.mpr (List.pairwise_lt_range.imp ?_),
        List.pairwise_singleton _ _, ?_⟩
      · intro first second h
        simp only [Before, Calendar.dayOfDate_dateOfDay, weekdayAfter]
        omega
      · intro session hsession last hlast
        obtain ⟨k, hk, rfl⟩ := List.mem_map.mp hsession
        obtain rfl := List.mem_singleton.mp hlast
        simpa only [Before, Calendar.dayOfDate_dateOfDay] using hday k (List.mem_range.mp hk)
    · rw [List.all_append, List.all_map, Bool.and_eq_true, List.all_eq_true]
      refine ⟨fun k _ => ?_, by simpa using hweekday⟩
      simp only [Function.comp_apply, isWeekday, Calendar.dayOfDate_dateOfDay, weekdayAfter,
        decide_eq_true_eq]
      omega

/-! ## Contracts -/

section

variable {spec : OpportunityPlanSpec}

/-- The target of a plan is read exactly when it has its names, a time after the boundary and a
view. -/
theorem exists_targetContract_iff : (∃ target, targetContract spec = .ok target) ↔
    hasKeys targetKeys spec.thesisTargetContract = true ∧
    (∃ targetAt, readUnder "target_at" readTarget spec.thesisTargetContract = some targetAt ∧
      spec.policy.selectedDecisionBoundary < targetAt) ∧
    (readUnder "volatility_view" readView spec.thesisTargetContract).isSome = true := by
  simp only [targetContract, check_bind_ok, require_bind_ok, raiseIf_ok, Bool.not_eq_false',
    decide_eq_false_iff_not, not_le, Option.isSome_iff_exists]
  constructor
  · rintro ⟨target, hnames, targetAt, htarget, view, hview, hlater, -⟩
    exact ⟨hnames, ⟨targetAt, htarget, hlater⟩, view, hview⟩
  · rintro ⟨hnames, ⟨targetAt, htarget, hlater⟩, view, hview⟩
    exact ⟨_, hnames, targetAt, htarget, view, hview, hlater, rfl⟩

/-- Limits are read exactly when each of them is. -/
theorem exists_limits_iff {α : Type} {contract : List (String × Json)} {read : Json → Option α}
    {write : α → Json} {names : List String} :
    (∃ limits, names.mapM (limitOf contract read write) = .ok limits) ↔
      ∀ name ∈ names, (readUnder name read contract).isSome = true := by
  induction names with
  | nil => simp [pure, Except.pure]
  | cons name names ih =>
      rw [List.forall_mem_cons, ← ih]
      simp only [List.mapM_cons, limitOf, bind_ok, require_ok, Option.isSome_iff_exists]
      constructor
      · rintro ⟨limits, limit, ⟨value, hvalue, -⟩, others, hothers, -⟩
        exact ⟨⟨value, hvalue⟩, others, hothers⟩
      · rintro ⟨⟨value, hvalue⟩, others, hothers⟩
        exact ⟨_, _, ⟨value, hvalue, rfl⟩, others, hothers, rfl⟩

/-- The spread of a policy is below one, so that it is cut down to ten places. -/
theorem exists_quantizeFloor (policy : OpportunityPolicy) :
    ∃ spread, policy.maximumRelativeSpread.quantizeFloor (-10) = some spread := by
  have hbounded : policy.Bounded := by
    simpa [OpportunityPolicyFields.postInit] using policy.valid
  obtain ⟨-, -, -, -, -, -, -, -, -, -, ⟨hpositive, hless⟩, -⟩ := hbounded
  rw [Decimal.lt_iff_value, Decimal.value_ofInt] at hpositive hless
  obtain ⟨hlow, hhigh⟩ := Decimal.units_spec policy.maximumRelativeSpread (-10)
  rw [show (10 : ℚ) ^ (-10 : Int) = 1 / 10000000000 by norm_num] at hlow hhigh
  push_cast at hpositive hless
  have hlower : (-1 : ℚ) < policy.maximumRelativeSpread.units (-10) := by linarith
  have hupper : (policy.maximumRelativeSpread.units (-10) : ℚ) < 10000000000 := by linarith
  have hlower' : -1 < policy.maximumRelativeSpread.units (-10) := by exact_mod_cast hlower
  have hupper' : policy.maximumRelativeSpread.units (-10) < 10000000000 := by exact_mod_cast hupper
  refine ⟨_, if_pos ?_⟩
  rw [Decimal.precision]
  omega

/-- The limits of a plan are read exactly when it has their names, and each of them is read. -/
theorem exists_exposureContract_iff [Digest] : (∃ limits, exposureContract spec = .ok limits) ↔
    hasKeys limitKeys spec.exposureLimitContract = true ∧
    (∀ name ∈ "portfolio_risk_cap" :: decimalLimits,
      (readUnder name readLimit spec.exposureLimitContract).isSome = true) ∧
    ∀ name ∈ dayLimits,
      (readUnder name Json.asNumber spec.exposureLimitContract).isSome = true := by
  obtain ⟨spread, hspread⟩ := exists_quantizeFloor spec.policy
  rw [List.forall_mem_cons, ← @exists_limits_iff _ _ _ policyNumber,
    ← @exists_limits_iff _ _ _ Json.number, Option.isSome_iff_exists]
  simp only [exposureContract, bind_ok, raiseIf_ok, require_ok, Bool.not_eq_false']
  constructor
  · rintro ⟨limits, -, hnames, decimals, hdecimals, days, hdays, -, -, cap, hcap, -⟩
    exact ⟨hnames, ⟨⟨cap, hcap⟩, decimals, hdecimals⟩, days, hdays⟩
  · rintro ⟨hnames, ⟨⟨cap, hcap⟩, decimals, hdecimals⟩, days, hdays⟩
    exact ⟨_, (), hnames, decimals, hdecimals, days, hdays, spread, hspread, cap, hcap, rfl⟩

end

/-! ## Deciding a frozen plan -/

section Rehearsed

attribute [local instance] zeroDigest

/-- The boundary of the rehearsal: on day one hundred of the calendar, a Wednesday. -/
def rehearsedBoundary : Int := Calendar.seconds (100 * 86400 + 54000)

/-- A plan of the rehearsal, with the session of its reaction. -/
def rehearsedPlan (reaction : Nat) : OpportunityPlanSpec where
  opportunityKey := "EARNINGS"
  version := 1
  underlying := "SPY"
  eventSession := Calendar.dateOfDay 98
  preEventSession := Calendar.dateOfDay 95
  reactionSession := Calendar.dateOfDay reaction
  signalSession := Calendar.dateOfDay 100
  dailyStartSession := Calendar.dateOfDay 7
  allowedEventCodes := ["RESULTS"]
  evidenceWindowStart := Calendar.seconds 60
  evidenceWindowEnd := rehearsedBoundary
  policy := { rehearsedPolicy with
    selectedDecisionBoundary := rehearsedBoundary
    valid := rehearsedPolicy.valid }
  requestContract := {
    expectedAccountFingerprint := String.ofList (List.replicate 64 '0')
    underlying := "SPY"
    benchmark := "QQQ"
    decisionBoundary := rehearsedBoundary
    minimumExpiry := Calendar.dateOfDay 110
    maximumExpiry := Calendar.dateOfDay 120
    minimumStrike := .ofInt 50
    maximumStrike := .ofInt 150 }
  thesisCode := "CONTINUATION"
  thesisTargetContract := [("target_at", .text "0001-04-12T15:00:00Z"),
    ("volatility_view", .text "NEUTRAL")]
  exposureLimitContract := [("delta_low", .text "0"), ("delta_high", .text "50"),
    ("vega_low", .text "0"), ("vega_high", .text "20"), ("maximum_daily_theta", .text "5"),
    ("minimum_dte", .number 7), ("maximum_dte", .number 45), ("portfolio_risk_cap", .number 500)]
  invalidationCodes := ["STRENGTH_LOST"]
  frozenAt := Calendar.seconds 60

/-- The fingerprint of every account. -/
def rehearsedAccounts (_ : AccountRole) : Option String :=
  some (String.ofList (List.replicate 64 '0'))

theorem rehearsedPlan_frozen {reaction : Nat}
    (h : (freezePlan rehearsedAccounts [] (rehearsedPlan reaction)).isOk = true) :
    ∃ after persisted,
      freezePlan rehearsedAccounts [] (rehearsedPlan reaction) = .ok (after, persisted) := by
  cases hfrozen : freezePlan rehearsedAccounts [] (rehearsedPlan reaction) with
  | error failure =>
      rw [hfrozen] at h
      cases h
  | ok result => exact ⟨result.1, result.2, rfl⟩

end Rehearsed

end AlphaDecay.OpportunityPlan
