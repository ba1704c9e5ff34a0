import AlphaDecay.Contracts
import AlphaDecay.Foundation.JsonCanonical

/-!
# Measurements of the competition account

A point is what was measured at a boundary, or why nothing was; a snapshot binds a point to the
account, its baseline and the private manifests behind it, and a proof is a point as it is
published. Points and proofs are models that are written as documents and validated when they are
read back: `readPoint_document` and `readProof_document` say what comes back.
-/

namespace AlphaDecay.Performance

open Foundation

/-- Why an operation on the performance record raises. `value` is a plain `ValueError`,
`validation` and `schema` a validation error of a model (a `ValueError` too) raised by its own
check or by the type of a field, `noEligible` a `NoEligiblePerformanceSnapshot`, `proofIntegrity` a
`PerformanceProofIntegrityError` and `integrity` a violated database constraint. -/
inductive PerformanceFailure where
  | value (message : String)
  | validation (message : String)
  | schema
  | noEligible (message : String)
  | proofIntegrity (message : String)
  | integrity
deriving DecidableEq, Repr

/-- A failure that is a `ValueError`. -/
def PerformanceFailure.isValueError : PerformanceFailure → Bool
  | value _ => true
  | validation _ => true
  | schema => true
  | _ => false

/-! ## Names -/

/-- Whether a measurement was made. -/
inductive MeasurementStatus where
  | complete
  | missing
  | unknown
deriving DecidableEq, Repr

def MeasurementStatus.text : MeasurementStatus → String
  | complete => "COMPLETE"
  | missing => "MISSING"
  | unknown => "UNKNOWN"

def MeasurementStatus.ofText : String → Option MeasurementStatus
  | "COMPLETE" => some complete
  | "MISSING" => some missing
  | "UNKNOWN" => some unknown
  | _ => none

/-- What is known of the baseline of an account. -/
inductive BaselineStatus where
  | notCaptured
  | unknown
  | clean
  | contaminated
deriving DecidableEq, Repr

def BaselineStatus.text : BaselineStatus → String
  | notCaptured => "BASELINE_NOT_CAPTURED"
  | unknown => "BASELINE_UNKNOWN"
  | clean => "BASELINE_CLEAN"
  | contaminated => "BASELINE_CONTAMINATED"

def BaselineStatus.ofText : String → Option BaselineStatus
  | "BASELINE_NOT_CAPTURED" => some notCaptured
  | "BASELINE_UNKNOWN" => some unknown
  | "BASELINE_CLEAN" => some clean
  | "BASELINE_CONTAMINATED" => some contaminated
  | _ => none

/-- Why a boundary has no measurement. -/
inductive PerformanceFailureCode where
  | captureNotStarted
  | providerUnavailable
  | accountStateIncomplete
  | baselineUnavailable
  | schemaInvalid
deriving DecidableEq, Repr

def PerformanceFailureCode.text : PerformanceFailureCode → String
  | captureNotStarted => "CAPTURE_NOT_STARTED"
  | providerUnavailable => "PROVIDER_UNAVAILABLE"
  | accountStateIncomplete => "ACCOUNT_STATE_INCOMPLETE"
  | baselineUnavailable => "BASELINE_UNAVAILABLE"
  | schemaInvalid => "SCHEMA_INVALID"

def PerformanceFailureCode.ofText : String → Option PerformanceFailureCode
  | "CAPTURE_NOT_STARTED" => some captureNotStarted
  | "PROVIDER_UNAVAILABLE" => some providerUnavailable
  | "ACCOUNT_STATE_INCOMPLETE" => some accountStateIncomplete
  | "BASELINE_UNAVAILABLE" => some baselineUnavailable
  | "SCHEMA_INVALID" => some schemaInvalid
  | _ => none

@[simp] theorem MeasurementStatus.ofText_text (status : MeasurementStatus) :
    ofText status.text = some status := by
  cases status <;> rfl

@[simp] theorem BaselineStatus.ofText_text (status : BaselineStatus) :
    ofText status.text = some status := by
  cases status <;> rfl

/-! ## Points -/

/-- A decimal with at most so many whole digits and decimal places. -/
def fitsDigits (whole places : Nat) (d : Decimal) : Bool :=
  (d.value * 10 ^ places).den == 1 && decide (|d.value| < 10 ^ whole)

/-- An amount of money: eighteen digits, six of them decimal places. -/
def isMoney (d : Decimal) : Bool :=
  fitsDigits 12 6 d

/-- A percentage: eighteen digits, nine of them decimal places. -/
def isPercent (d : Decimal) : Bool :=
  fitsDigits 9 9 d

structure PointFields where
  scheduledFor : Int
  attemptedAt : Int
  measuredAt : Option Int
  status : MeasurementStatus
  failureCode : Option PerformanceFailureCode
  currentEquityUsd : Option Decimal
  accountEquityChangeUsd : Option Decimal
  accountEquityReturnPct : Option Decimal
  reconciledLifecycleCashflowUsd : Option Decimal
  openPositionLiquidationPnlUsd : Option Decimal

/-- The values of a point fit the types of their fields. -/
def PointFields.fits (point : PointFields) : Bool :=
  decide (Calendar.InRange point.scheduledFor) && decide (Calendar.InRange point.attemptedAt) &&
  point.measuredAt.all (fun time => decide (Calendar.InRange time)) &&
  point.currentEquityUsd.all isMoney && point.accountEquityChangeUsd.all isMoney &&
  point.accountEquityReturnPct.all isPercent &&
  point.reconciledLifecycleCashflowUsd.all isMoney &&
  point.openPositionLiquidationPnlUsd.all isMoney

/-- The measured values of a point that are there. -/
def PointFields.exposesValues (point : PointFields) : Bool :=
  point.currentEquityUsd.isSome || point.accountEquityChangeUsd.isSome ||
  point.accountEquityReturnPct.isSome || point.reconciledLifecycleCashflowUsd.isSome ||
  point.openPositionLiquidationPnlUsd.isSome

/-- The check of a point: `measurement_state_is_coherent`. -/
def PointFields.check (point : PointFields) : Except PerformanceFailure Unit := do
  raiseIf (!point.fits) .schema
  raiseIf (point.attemptedAt < point.scheduledFor || point.measuredAt.any (· < point.attemptedAt))
    (.validation "performance time order is invalid")
  match point.status with
  | .complete => do
      raiseIf (point.measuredAt.isNone || point.currentEquityUsd.isNone)
        (.validation "complete point requires measured account equity")
      raiseIf point.failureCode.isSome (.validation "complete point cannot have a failure code")
      raiseIf (point.accountEquityChangeUsd.isNone != point.accountEquityReturnPct.isNone)
        (.validation "normalized values must be present or absent together")
  | _ => do
      raiseIf point.failureCode.isNone (.validation "incomplete point requires a failure code")
      raiseIf (point.measuredAt.isSome || point.exposesValues)
        (.validation "incomplete point cannot expose values")

/-- What was measured at a boundary. -/
structure PerformancePoint extends PointFields where
  coherent : toPointFields.check = .ok ()

/-- A point of fields that pass its check. -/
def PerformancePoint.ofFields (fields : PointFields) : Except PerformanceFailure PerformancePoint :=
  build PointFields.check (fun fields coherent => { toPointFields := fields, coherent }) fields

def decimalDocument (value : Option Decimal) : Json :=
  Json.ofOptional (fun d => .text (canonicalDecimal d)) value

/-- An optional instant, as a document. -/
def timeDocument (value : Option Int) : Json :=
  Json.ofOptional (fun time => .text (Calendar.utcText time)) value

def PointFields.members (point : PointFields) : List (String × Json) := [
  ("schema_version", .text "v1"),
  ("scheduled_for", .text (Calendar.utcText point.scheduledFor)),
  ("attempted_at", .text (Calendar.utcText point.attemptedAt)),
  ("measured_at", timeDocument point.measuredAt),
  ("status", .text point.status.text),
  ("failure_code", Json.ofOptional (fun code => .text code.text) point.failureCode),
  ("current_equity_usd", decimalDocument point.currentEquityUsd),
  ("account_equity_change_usd", decimalDocument point.accountEquityChangeUsd),
  ("account_equity_return_pct", decimalDocument point.accountEquityReturnPct),
  ("reconciled_lifecycle_cashflow_usd", decimalDocument point.reconciledLifecycleCashflowUsd),
  ("open_position_liquidation_pnl_usd", decimalDocument point.openPositionLiquidationPnlUsd),
  ("simulator_limitations_code", .text "ALPACA_PAPER_SIMULATION")]

def PointFields.document (point : PointFields) : Json :=
  .object point.members

/-- A text that must be this one. -/
def asLiteral (expected : String) (document : Json) : Option Unit :=
  document.asText.bind fun text => if text = expected then some () else none

/-- An instant from its text. -/
def asTime (document : Json) : Option Int :=
  document.asText.bind Calendar.readUtcText

def asDecimal (document : Json) : Option Decimal :=
  document.asText.bind fun text => Decimal.parse text.toList

/-- The names of the fields of a point. -/
def pointNames : List String := [
  "schema_version", "scheduled_for", "attempted_at", "measured_at", "status", "failure_code",
  "current_equity_usd", "account_equity_change_usd", "account_equity_return_pct",
  "reconciled_lifecycle_cashflow_usd", "open_position_liquidation_pnl_usd",
  "simulator_limitations_code"]

def readField {α : Type} (document : Json) (name : String) (read : Json → Option α) : Option α :=
  (Json.field name document).bind read

theorem readField_cons {α : Type} {key name : String} {value : Json}
    {rest : List (String × Json)} {read : Json → Option α} :
    readField (.object ((key, value) :: rest)) name read =
      if key = name then read value else readField (.object rest) name read := by
  rw [readField, Json.field_object_cons]
  split <;> rfl

theorem asLiteral_text (text : String) : asLiteral text (.text text) = some () := by
  rw [asLiteral, Json.asText_text, Option.bind_some, if_pos rfl]

def readPointFields (document : Json) : Option PointFields := do
  if !Json.hasOnly pointNames document then none
  readField document "schema_version" (asLiteral "v1")
  let scheduledFor ← readField document "scheduled_for" asTime
  let attemptedAt ← readField document "attempted_at" asTime
  let measuredAt ← readField document "measured_at" (Json.asOptional asTime)
  let status ← readField document "status" fun value => value.asText.bind MeasurementStatus.ofText
  let failureCode ← readField document "failure_code"
    (Json.asOptional fun value => value.asText.bind PerformanceFailureCode.ofText)
  let currentEquityUsd ← readField document "current_equity_usd" (Json.asOptional asDecimal)
  let accountEquityChangeUsd ←
    readField document "account_equity_change_usd" (Json.asOptional asDecimal)
  let accountEquityReturnPct ←
    readField document "account_equity_return_pct" (Json.asOptional asDecimal)
  let reconciledLifecycleCashflowUsd ←
    readField document "reconciled_lifecycle_cashflow_usd" (Json.asOptional asDecimal)
  let openPositionLiquidationPnlUsd ←
    readField document "open_position_liquidation_pnl_usd" (Json.asOptional asDecimal)
  readField document "simulator_limitations_code" (asLiteral "ALPACA_PAPER_SIMULATION")
  some {
    scheduledFor, attemptedAt, measuredAt, status, failureCode, currentEquityUsd,
    accountEquityChangeUsd, accountEquityReturnPct, reconciledLifecycleCashflowUsd,
    openPositionLiquidationPnlUsd }

/-- A point from its document: `PerformancePoint.model_validate`. -/
def readPoint (document : Json) : Except PerformanceFailure PerformancePoint := do
  let fields ← require (readPointFields document) .schema
  PerformancePoint.ofFields fields

/-! ### A point is read back -/

/-- A decimal as it comes back from its canonical text. -/
def reread (d : Decimal) : Decimal :=
  (Decimal.parse d.canonical).getD d

theorem value_reread (d : Decimal) : (reread d).value = d.value := by
  obtain ⟨read, hparse, hsame⟩ := Decimal.parse_canonical d
  rw [reread, hparse, Option.getD_some]
  exact Decimal.beq_iff_value.mp hsame

@[simp] theorem canonicalDecimal_reread (d : Decimal) :
    canonicalDecimal (reread d) = canonicalDecimal d := by
  rw [canonicalDecimal, canonicalDecimal,
    Decimal.canonical_congr (Decimal.beq_iff_value.mpr (value_reread d))]

@[simp] theorem fitsDigits_reread (whole places : Nat) (d : Decimal) :
    fitsDigits whole places (reread d) = fitsDigits whole places d := by
  rw [fitsDigits, fitsDigits, value_reread]

theorem asDecimal_canonical (d : Decimal) :
    asDecimal (.text (canonicalDecimal d)) = some (reread d) := by
  obtain ⟨read, hparse, -⟩ := Decimal.parse_canonical d
  simp [asDecimal, canonicalDecimal, reread, hparse]

theorem asOptional_text {α : Type} (read : Json → Option α) (text : String) :
    Json.asOptional read (.text text) = (read (.text text)).map some := rfl

/-- An optional decimal is read back. -/
theorem asOptional_decimalDocument (value : Option Decimal) :
    Json.asOptional asDecimal (decimalDocument value) = some (value.map reread) := by
  cases value with
  | none => rfl
  | some d =>
      rw [decimalDocument, Json.ofOptional, asOptional_text, asDecimal_canonical]
      simp only [Option.map_some]

theorem asTime_utcText {time : Int} (h : Calendar.InRange time) :
    asTime (.text (Calendar.utcText time)) = some time := by
  rw [asTime, Json.asText_text, Option.bind_some, Calendar.readUtcText_utcText h]

/-- An optional instant is read back. -/
theorem asOptional_timeDocument {value : Option Int} (h : ∀ time ∈ value, Calendar.InRange time) :
    Json.asOptional asTime (timeDocument value) = some value := by
  cases value with
  | none => rfl
  | some time =>
      rw [timeDocument, Json.ofOptional, asOptional_text, asTime_utcText (h time rfl)]
      simp only [Option.map_some]

/-- The fields of a point as they come back from its document. -/
def PointFields.reread (point : PointFields) : PointFields :=
  { point with
    currentEquityUsd := point.currentEquityUsd.map Performance.reread
    accountEquityChangeUsd := point.accountEquityChangeUsd.map Performance.reread
    accountEquityReturnPct := point.accountEquityReturnPct.map Performance.reread
    reconciledLifecycleCashflowUsd := point.reconciledLifecycleCashflowUsd.map Performance.reread
    openPositionLiquidationPnlUsd := point.openPositionLiquidationPnlUsd.map Performance.reread }

@[simp] theorem decimalDocument_reread (value : Option Decimal) :
    decimalDocument (value.map reread) = decimalDocument value := by
  cases value with
  | none => rfl
  | some d => exact congrArg Json.text (canonicalDecimal_reread d)

theorem PointFields.members_reread (point : PointFields) : point.reread.members =
    point.members := by
  simp only [members, reread, decimalDocument_reread]

/-- The fields that came back pass the check that the fields pass. -/
theorem PointFields.check_reread (point : PointFields) : point.reread.check = point.check := by
  have hmoney : ∀ d, isMoney (Performance.reread d) = isMoney d := fitsDigits_reread 12 6
  have hpercent : ∀ d, isPercent (Performance.reread d) = isPercent d := fitsDigits_reread 9 9
  have hfits : point.reread.fits = point.fits := by
    simp only [fits, reread, Option.all_map, hmoney, hpercent]
    rfl
  have hvalues : point.reread.exposesValues = point.exposesValues := by
    simp only [exposesValues, reread, Option.isSome_map]
  unfold check
  rw [hfits, hvalues]
  simp only [reread, Option.isNone_map]
  rfl

theorem PointFields.names (point : PointFields) : point.members.map (·.1) = pointNames := rfl

/-- The document of a point names each member once. -/
theorem PointFields.keyed (point : PointFields) : Json.Keyed point.document := by
  refine .object (by rw [point.names]; decide) ?_
  have htime : ∀ value, Json.Keyed (timeDocument value) := by
    rintro (_ | time)
    · exact .null
    · exact .text _
  have hdecimal : ∀ value, Json.Keyed (decimalDocument value) := by
    rintro (_ | d)
    · exact .null
    · exact .text _
  have hcode : ∀ value : Option PerformanceFailureCode,
      Json.Keyed (Json.ofOptional (fun code => .text code.text) value) := by
    rintro (_ | code)
    · exact .null
    · exact .text _
  simp only [members, List.forall_mem_cons, htime, hdecimal, hcode, Json.Keyed.text, true_and]
  exact fun pair hpair => absurd hpair List.not_mem_nil

theorem readPointFields_document {point : PointFields} (h : point.fits = true) :
    readPointFields point.document = some point.reread := by
  simp only [PointFields.fits, Bool.and_eq_true, decide_eq_true_eq] at h
  obtain ⟨⟨⟨⟨⟨⟨⟨hscheduled, hattempted⟩, hmeasured⟩, -⟩, -⟩, -⟩, -⟩, -⟩ := h
  have hmeasured' : ∀ time ∈ point.measuredAt, Calendar.InRange time := by
    intro time htime
    rw [Option.mem_def.mp htime] at hmeasured
    simpa using hmeasured
  have hcode : Json.asOptional (fun value => value.asText.bind PerformanceFailureCode.ofText)
      (Json.ofOptional (fun code => .text code.text) point.failureCode) =
      some point.failureCode := by
    cases point.failureCode with
    | none => rfl
    | some code => cases code <;> rfl
  have honly : Json.hasOnly pointNames point.document = true := by
    simp [Json.hasOnly, PointFields.document, PointFields.members, pointNames]
  rw [readPointFields, honly]
  simp only [PointFields.document, PointFields.members, readField_cons, String.reduceEq, ↓reduceIte,
    asLiteral_text, asTime_utcText hscheduled, asTime_utcText hattempted,
    asOptional_timeDocument hmeasured', hcode, asOptional_decimalDocument, Json.asText_text,
    Option.bind_some, MeasurementStatus.ofText_text]
  rfl

/-- A point as it comes back from its document. -/
def PerformancePoint.reread (point : PerformancePoint) : PerformancePoint where
  toPointFields := point.toPointFields.reread
  coherent := by rw [PointFields.check_reread]; exact point.coherent

def PerformancePoint.document (point : PerformancePoint) : Json :=
  point.toPointFields.document

theorem PerformancePoint.fits (point : PerformancePoint) : point.toPointFields.fits = true := by
  have hcheck := point.coherent
  unfold PointFields.check at hcheck
  simpa using (check_bind_ok.mp hcheck).1

theorem PerformancePoint.ofFields_eq (point : PerformancePoint) :
    PerformancePoint.ofFields point.toPointFields = .ok point :=
  build_ok.mpr ⟨point.coherent, rfl⟩

theorem readPoint_document (point : PerformancePoint) :
    readPoint point.document = .ok point.reread := by
  rw [readPoint, PerformancePoint.document, readPointFields_document point.fits, require_some,
    ok_bind]
  exact PerformancePoint.ofFields_eq point.reread

@[simp] theorem PerformancePoint.document_reread (point : PerformancePoint) :
    point.reread.document = point.document :=
  congrArg Json.object (PointFields.members_reread point.toPointFields)

theorem asLiteral_orderFree (expected : String) : Json.OrderFree (asLiteral expected) :=
  Json.asText_orderFree.bind _

theorem readField_sorted {α : Type} {read : Json → Option α} (h : Json.OrderFree read)
    {document : Json} (hkeyed : Json.Keyed document) (name : String) :
    readField document.sorted name read = readField document name read :=
  h.field name document hkeyed

/-- A point is read in any order of its members. -/
theorem readPoint_sorted {document : Json} (h : Json.Keyed document) :
    readPoint document.sorted = readPoint document := by
  have htime : Json.OrderFree asTime := Json.asText_orderFree.bind _
  have hdecimal : Json.OrderFree asDecimal := Json.asText_orderFree.bind _
  have hstatus : Json.OrderFree fun value => value.asText.bind MeasurementStatus.ofText :=
    Json.asText_orderFree.bind _
  have hcode : Json.OrderFree fun value => value.asText.bind PerformanceFailureCode.ofText :=
    Json.asText_orderFree.bind _
  have hfields : readPointFields document.sorted = readPointFields document := by
    unfold readPointFields
    simp only [Json.hasOnly_sorted, readField_sorted (asLiteral_orderFree _) h,
      readField_sorted htime h, readField_sorted htime.optional h, readField_sorted hstatus h,
      readField_sorted hcode.optional h, readField_sorted hdecimal.optional h]
  rw [readPoint, readPoint, hfields]

/-! ## Snapshots -/

/-- The time of the last boundary. -/
def FINAL_PERFORMANCE_BOUNDARY : Int :=
  Calendar.dayOfDate ⟨2026, 9, 4⟩ * Calendar.microsPerDay + Calendar.seconds (14 * 3600 + 30 * 60)

/-- The time from which the proof of the last boundary is published. -/
def FINAL_PUBLICATION_NOT_BEFORE : Int :=
  FINAL_PERFORMANCE_BOUNDARY + Calendar.seconds (5 * 60)

def FINAL_PERFORMANCE_BOUNDARY_KEY : String :=
  "FINAL_2026-09-04T14:30:00Z"

section Hashes

variable [Digest]

/-- The digest of a document, written with sorted keys and escaped to ASCII. -/
def canonicalHash (document : Json) : String :=
  Digest.authorityHash document.sorted

end Hashes

structure SnapshotFields where
  snapshotId : Uuid
  submissionBaselineId : Option Uuid
  boundaryKey : String
  point : PerformancePoint
  baselineStatus : BaselineStatus
  accountFingerprint : String
  positionsManifestHash : Option String
  ordersManifestHash : Option String
  activitiesManifestHash : Option String

def SnapshotFields.manifestHashes (fields : SnapshotFields) : List (Option String) :=
  [fields.positionsManifestHash, fields.ordersManifestHash, fields.activitiesManifestHash]

/-- The checks of `PerformanceSnapshot.create`. -/
def SnapshotFields.check (fields : SnapshotFields) : Except PerformanceFailure Unit := do
  raiseIf (fields.boundaryKey == "") (.value "performance boundary key is required")
  raiseIf ((fields.boundaryKey == FINAL_PERFORMANCE_BOUNDARY_KEY) !=
    (fields.point.scheduledFor == FINAL_PERFORMANCE_BOUNDARY))
    (.value "final performance boundary key and time must match")
  raiseIf (!(isHash fields.accountFingerprint && fields.manifestHashes.all (·.all isHash)))
    (.value "private reconciliation hashes must be lowercase SHA-256")
  raiseIf (fields.point.status == .complete && fields.manifestHashes.any (·.isNone))
    (.value "complete snapshot requires private reconciliation manifests")
  raiseIf (fields.point.status != .complete && fields.manifestHashes.any (·.isSome))
    (.value "incomplete snapshot cannot fabricate private manifests")

def SnapshotFields.material (fields : SnapshotFields) : Json :=
  .object [
    ("snapshot_id", .text fields.snapshotId.toText),
    ("submission_baseline_id",
      Json.ofOptional (fun id => .text id.toText) fields.submissionBaselineId),
    ("boundary_key", .text fields.boundaryKey),
    ("point", fields.point.document),
    ("baseline_status", .text fields.baselineStatus.text),
    ("account_fingerprint", .text fields.accountFingerprint),
    ("positions_manifest_hash", Json.ofOptional .text fields.positionsManifestHash),
    ("orders_manifest_hash", Json.ofOptional .text fields.ordersManifestHash),
    ("activities_manifest_hash", Json.ofOptional .text fields.activitiesManifestHash)]

structure PerformanceSnapshot extends SnapshotFields where
  snapshotHash : String

/-- A snapshot with the hash of what it holds. -/
def PerformanceSnapshot.create [Digest] (fields : SnapshotFields) :
    Except PerformanceFailure PerformanceSnapshot := do
  fields.check
  pure { toSnapshotFields := fields, snapshotHash := canonicalHash fields.material }

/-- A snapshot is created from fields that pass the checks, with the hash of them. -/
theorem PerformanceSnapshot.create_ok [Digest] {fields : SnapshotFields}
    {snapshot : PerformanceSnapshot} :
    PerformanceSnapshot.create fields = .ok snapshot ↔
      fields.check = .ok () ∧ snapshot.toSnapshotFields = fields ∧
        snapshot.snapshotHash = canonicalHash fields.material := by
  rw [create, check_bind_ok]
  constructor
  · rintro ⟨hcheck, hsnapshot⟩
    cases hsnapshot
    exact ⟨hcheck, rfl, rfl⟩
  · rintro ⟨hcheck, rfl, hhash⟩
    refine ⟨hcheck, ?_⟩
    rw [← hhash]
    rfl

/-! ## Proofs -/

/-- Whether anything has been published. -/
inductive PublicationStatus where
  | notPublished
  | published
deriving DecidableEq, Repr

def PublicationStatus.text : PublicationStatus → String
  | notPublished => "NOT_PUBLISHED"
  | published => "PUBLISHED"

def PublicationStatus.ofText : String → Option PublicationStatus
  | "NOT_PUBLISHED" => some notPublished
  | "PUBLISHED" => some published
  | _ => none

structure ProofFields where
  publicationStatus : PublicationStatus
  baselineStatus : Option BaselineStatus
  publishedAt : Option Int
  point : Option PerformancePoint
  linkedCertificateIds : List Uuid
  publicationHash : Option String
  predecessorHash : Option String

/-- The values of a proof fit the types of their fields. -/
def ProofFields.fits (proof : ProofFields) : Bool :=
  proof.publishedAt.all (fun time => decide (Calendar.InRange time)) &&
  proof.publicationHash.all isHash && proof.predecessorHash.all isHash

/-- The values of a clean proof follow from its equity. -/
def normalizedValuesFit (point : PerformancePoint) : Except PerformanceFailure Unit :=
  match point.currentEquityUsd, point.accountEquityChangeUsd, point.accountEquityReturnPct with
  | some equity, some change, some percent =>
      let expected := equity - Decimal.ofInt 100000
      raiseIf (change != expected || percent * Decimal.ofInt 1000 != expected)
        (.validation "clean proof normalized values are inconsistent")
  | _, _, _ => .error (.validation "clean complete proof requires normalized values")

def checkPublishedPoint (baselineStatus : BaselineStatus) (publishedAt : Int)
    (point : PerformancePoint) (linkedCertificateIds : List Uuid) :
    Except PerformanceFailure Unit := do
  raiseIf (publishedAt < point.measuredAt.getD point.attemptedAt)
    (.validation "publication time order is invalid")
  raiseIf (!decide linkedCertificateIds.Nodup) (.validation "linked certificate IDs must be unique")
  raiseIf (!decide (linkedCertificateIds.Pairwise fun left right => left.toNat ≤ right.toNat))
    (.validation "linked certificate IDs must be sorted")
  if baselineStatus = .clean then
    if point.status = .complete then normalizedValuesFit point else .ok ()
  else
    raiseIf (point.accountEquityChangeUsd.isSome || point.accountEquityReturnPct.isSome)
      (.validation "nonclean proof cannot expose normalized values")

/-- The check of a proof: `publication_state_is_coherent`. -/
def ProofFields.check (proof : ProofFields) : Except PerformanceFailure Unit := do
  raiseIf (!proof.fits) .schema
  match proof.publicationStatus with
  | .notPublished =>
      raiseIf (proof.baselineStatus.isSome || proof.publishedAt.isSome || proof.point.isSome ||
        proof.publicationHash.isSome || proof.predecessorHash.isSome ||
        !proof.linkedCertificateIds.isEmpty)
        (.validation "unpublished proof cannot expose values")
  | .published =>
      match proof.baselineStatus, proof.publishedAt, proof.point, proof.publicationHash with
      | some baselineStatus, some publishedAt, some point, some _ =>
          checkPublishedPoint baselineStatus publishedAt point proof.linkedCertificateIds
      | _, _, _, _ => .error (.validation "published proof is incomplete")

/-- A point as it is published, with its place in the chain of publications. -/
structure CompetitionPerformanceProofResponse extends ProofFields where
  coherent : toProofFields.check = .ok ()

/-- A proof of fields that pass its check. -/
def CompetitionPerformanceProofResponse.ofFields (fields : ProofFields) :
    Except PerformanceFailure CompetitionPerformanceProofResponse :=
  build ProofFields.check (fun fields coherent => { toProofFields := fields, coherent }) fields

/-- The members of the document of a proof, before its place in the chain. -/
def ProofFields.projection (proof : ProofFields) : List (String × Json) := [
  ("schema_version", .text "v1"),
  ("publication_status", .text proof.publicationStatus.text),
  ("baseline_status", Json.ofOptional (fun status => .text status.text) proof.baselineStatus),
  ("published_at", timeDocument proof.publishedAt),
  ("point", Json.ofOptional PerformancePoint.document proof.point),
  ("linked_certificate_ids", .array (proof.linkedCertificateIds.map fun id => .text id.toText))]

def ProofFields.document (proof : ProofFields) : Json :=
  .object (proof.projection ++ [
    ("publication_hash", Json.ofOptional .text proof.publicationHash),
    ("predecessor_hash", Json.ofOptional .text proof.predecessorHash)])

/-- The names of the fields of a proof. -/
def proofNames : List String := [
  "schema_version", "publication_status", "baseline_status", "published_at", "point",
  "linked_certificate_ids", "publication_hash", "predecessor_hash"]

/-- The certificates of a proof from their document. -/
def asUuids (document : Json) : Option (List Uuid) :=
  document.asArray.bind fun items => items.mapM fun item => item.asText.bind Uuid.parse

def readProofFields (document : Json) : Option ProofFields := do
  if !Json.hasOnly proofNames document then none
  readField document "schema_version" (asLiteral "v1")
  let publicationStatus ← readField document "publication_status"
    fun value => value.asText.bind PublicationStatus.ofText
  let baselineStatus ← readField document "baseline_status"
    (Json.asOptional fun value => value.asText.bind BaselineStatus.ofText)
  let publishedAt ← readField document "published_at" (Json.asOptional asTime)
  let point ← readField document "point" (Json.asOptional fun value => (readPoint value).toOption)
  let linkedCertificateIds ← readField document "linked_certificate_ids" asUuids
  let publicationHash ← readField document "publication_hash" (Json.asOptional Json.asText)
  let predecessorHash ← readField document "predecessor_hash" (Json.asOptional Json.asText)
  some {
    publicationStatus, baselineStatus, publishedAt, point, linkedCertificateIds, publicationHash,
    predecessorHash }

/-- A proof from its document: `CompetitionPerformanceProofResponse.model_validate`. -/
def readProof (document : Json) :
    Except PerformanceFailure CompetitionPerformanceProofResponse := do
  let fields ← require (readProofFields document) .schema
  CompetitionPerformanceProofResponse.ofFields fields

end AlphaDecay.Performance
