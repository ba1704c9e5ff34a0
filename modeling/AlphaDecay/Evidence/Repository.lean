import AlphaDecay.Contracts
import AlphaDecay.Foundation.Table
import AlphaDecay.Foundation.ValueCodec

/-!
# The evidence ledger

Workers that classify a piece of evidence lease it first, by its hash. A lease has a generation and
runs out; while it is current its holder may complete it with classifications, which are stored
once, or release it. A stored classification is read back through its model and its hash. The
ledger also counts the requests to the model against a hard limit.
-/

namespace AlphaDecay.Evidence

open Foundation Foundation.Table Foundation.Json

/-- What the ledger raises: the codes of an `EvidenceLedgerError`, a `ValueError` of a model, and a
violated constraint of the database. -/
inductive EvidenceLedgerFailure where
  | integrity
  | leaseLost
  | budgetModelInvalid
  | budgetIntegrity
  | budgetExhausted
  | validation
  | database
deriving DecidableEq, Repr

/-- The code of an `EvidenceLedgerError`. -/
def EvidenceLedgerFailure.code : EvidenceLedgerFailure → Option String
  | integrity => some "MODEL_CLASSIFICATION_INTEGRITY_ERROR"
  | leaseLost => some "MODEL_CLASSIFICATION_LEASE_LOST"
  | budgetModelInvalid => some "MODEL_CALL_BUDGET_MODEL_INVALID"
  | budgetIntegrity => some "MODEL_CALL_BUDGET_INTEGRITY_ERROR"
  | budgetExhausted => some "MODEL_CALL_BUDGET_EXHAUSTED"
  | validation => none
  | database => none

/-! ## Classifications -/

/-- How evidence bears on a thesis. -/
inductive EvidenceRelation where
  | supports
  | contradicts
  | neutral
deriving DecidableEq, Repr

def EvidenceRelation.text : EvidenceRelation → String
  | supports => "SUPPORTS"
  | contradicts => "CONTRADICTS"
  | neutral => "NEUTRAL"

def EvidenceRelation.ofText : String → Option EvidenceRelation
  | "SUPPORTS" => some supports
  | "CONTRADICTS" => some contradicts
  | "NEUTRAL" => some neutral
  | _ => none

/-- How close a source is to the event. -/
inductive EvidenceTier where
  | primary
  | originalReporting
  | secondary
deriving DecidableEq, Repr

def EvidenceTier.text : EvidenceTier → String
  | primary => "PRIMARY"
  | originalReporting => "ORIGINAL_REPORTING"
  | secondary => "SECONDARY"

def EvidenceTier.ofText : String → Option EvidenceTier
  | "PRIMARY" => some primary
  | "ORIGINAL_REPORTING" => some originalReporting
  | "SECONDARY" => some secondary
  | _ => none

structure ClassificationFields where
  clusterId : String
  sourceIds : List String
  eventCode : String
  relation : EvidenceRelation
  materiality : Int
  relevance : Decimal
  confidence : Decimal
  sourceTier : EvidenceTier
  invalidates : Bool
  independentReportingGroup : Option String
  invalidationConditionId : Option String

/-- The validation of a classification. -/
def ClassificationFields.check (fields : ClassificationFields) :
    Except EvidenceLedgerFailure Unit :=
  raiseIf (!(!fields.sourceIds.isEmpty && decide (1 ≤ fields.materiality) &&
    decide (fields.materiality ≤ 3) && decide (Decimal.ofInt 0 ≤ fields.relevance) &&
    decide (fields.relevance ≤ Decimal.ofInt 1) && decide (Decimal.ofInt 0 ≤ fields.confidence) &&
    decide (fields.confidence ≤ Decimal.ofInt 1))) .validation

structure EvidenceClassification extends ClassificationFields where
  valid : toClassificationFields.check = .ok ()

def EvidenceClassification.ofFields (fields : ClassificationFields) :
    Except EvidenceLedgerFailure EvidenceClassification :=
  build ClassificationFields.check
    (fun fields valid => { toClassificationFields := fields, valid }) fields

theorem EvidenceClassification.ofFields_eq (classification : EvidenceClassification) :
    EvidenceClassification.ofFields classification.toClassificationFields = .ok classification :=
  build_ok.mpr ⟨classification.valid, rfl⟩

/-- Classifications, as documents. -/
def classificationCodec : Codec EvidenceClassification :=
  (((Fields.literal "schema_version" "v1").tagged <|
    (Fields.one "cluster_id" .text).both <|
    (Fields.one "source_ids" Codec.text.list).both <|
    (Fields.one "event_code" .text).both <|
    (Fields.one "relation" (.named EvidenceRelation.text EvidenceRelation.ofText)).both <|
    (Fields.one "materiality" .number).both <|
    (Fields.one "relevance" .decimal).both <|
    (Fields.one "confidence" .decimal).both <|
    (Fields.one "source_tier" (.named EvidenceTier.text EvidenceTier.ofText)).both <|
    (Fields.one "invalidates" .boolean).both <|
    (Fields.one "independent_reporting_group" Codec.text.optional).both <|
    Fields.one "invalidation_condition_id" Codec.text.optional).record).as
    (fun c => (c.clusterId, c.sourceIds, c.eventCode, c.relation, c.materiality, c.relevance,
      c.confidence, c.sourceTier, c.invalidates, c.independentReportingGroup,
      c.invalidationConditionId))
    fun (clusterId, sourceIds, eventCode, relation, materiality, relevance, confidence, sourceTier,
        invalidates, independentReportingGroup, invalidationConditionId) =>
      (EvidenceClassification.ofFields {
        clusterId, sourceIds, eventCode, relation, materiality, relevance, confidence, sourceTier,
        invalidates, independentReportingGroup, invalidationConditionId }).toOption

/-- Classifications are read back. -/
theorem classificationCodec_lawful : classificationCodec.Lawful fun _ => True := by
  have hrelation : (Codec.named EvidenceRelation.text EvidenceRelation.ofText).Lawful
      fun _ => True :=
    Codec.named_lawful fun relation _ => by cases relation <;> rfl
  have htier : (Codec.named EvidenceTier.text EvidenceTier.ofText).Lawful fun _ => True :=
    Codec.named_lawful fun tier _ => by cases tier <;> rfl
  have hnull : ∀ text, Codec.text.write text ≠ Json.null := fun _ => nofun
  refine (((Fields.literal_lawful _ _).tagged <|
    (Fields.one_lawful Codec.text_lawful _).both <|
    (Fields.one_lawful Codec.text_lawful.list _).both <|
    (Fields.one_lawful Codec.text_lawful _).both <|
    (Fields.one_lawful hrelation _).both <|
    (Fields.one_lawful Codec.number_lawful _).both <|
    (Fields.one_lawful Codec.decimal_lawful _).both <|
    (Fields.one_lawful Codec.decimal_lawful _).both <|
    (Fields.one_lawful htier _).both <|
    (Fields.one_lawful Codec.boolean_lawful _).both <|
    (Fields.one_lawful (Codec.text_lawful.optional hnull) _).both <|
    Fields.one_lawful (Codec.text_lawful.optional hnull) _).record (by decide)).as ?_ ?_
  · intro classification _
    simp
  · intro classification _
    show (EvidenceClassification.ofFields classification.toClassificationFields).toOption =
      some classification
    rw [classification.ofFields_eq]
    rfl

/-! ## Payloads -/

def EVENT_CODES : List String :=
  ["RESULTS", "GUIDANCE", "DEMAND", "SUPPLY", "PRODUCT", "CUSTOMER_PARTNER", "CAPITAL",
    "REGULATORY_LEGAL", "MANAGEMENT", "MACRO", "OTHER"]

def IDENTIFIER_CHARACTERS : List Char :=
  "abcdefghijklmnopqrstuvwxyzABCDEFGHIJKLMNOPQRSTUVWXYZ0123456789._:-".toList

def validateHash (value : String) : Except EvidenceLedgerFailure Unit :=
  raiseIf (decide (value.toList.length ≠ 64) ||
    value.toList.any fun character => !"0123456789abcdef".toList.contains character) .integrity

/-- Check an identifier. -/
def validateIdentifier (value : String) : Except EvidenceLedgerFailure Unit :=
  raiseIf (value.toList.isEmpty || decide (160 < value.toList.length) ||
    value.toList.any fun character => !IDENTIFIER_CHARACTERS.contains character) .integrity

/-- Check an identifier that may be missing. -/
def validateOptional (value : Option String) : Except EvidenceLedgerFailure Unit :=
  match value with
  | none => .ok ()
  | some identifier => validateIdentifier identifier

/-- Check the sources of a classification and add them to those that were seen. -/
def addSources (seen : List String) : List String → Except EvidenceLedgerFailure (List String)
  | [] => .ok seen
  | sourceId :: rest => do
      validateIdentifier sourceId
      raiseIf (seen.contains sourceId) .integrity
      addSources (sourceId :: seen) rest

/-- Check classifications after others, and write them. -/
def payloadItems (clusterIds sourceIds : List String) :
    List EvidenceClassification → Except EvidenceLedgerFailure (List Json)
  | [] => .ok []
  | classification :: rest => do
      raiseIf (!EVENT_CODES.contains classification.eventCode) .integrity
      validateIdentifier classification.clusterId
      raiseIf (clusterIds.contains classification.clusterId) .integrity
      let seen ← addSources sourceIds classification.sourceIds
      validateOptional classification.independentReportingGroup
      validateOptional classification.invalidationConditionId
      raiseIf (classification.invalidates != classification.invalidationConditionId.isSome)
        .integrity
      let payload ← payloadItems (classification.clusterId :: clusterIds) seen rest
      return classificationCodec.write classification :: payload

def classificationPayload (classifications : List EvidenceClassification) :
    Except EvidenceLedgerFailure (List Json) := do
  raiseIf (!decide (1 ≤ classifications.length ∧ classifications.length ≤ 12)) .integrity
  payloadItems [] [] classifications

/-! ## Tables -/

/-- The state of the classification of evidence. -/
inductive ClaimState where
  | pending
  | completed
deriving DecidableEq, Repr

structure EvidenceClassificationClaimRow where
  evidenceHash : String
  state : ClaimState
  generation : Int
  leaseOwner : Option Uuid
  leaseExpiresAt : Option Int
  updatedAt : Int
deriving DecidableEq

structure EvidenceClassificationRow where
  evidenceHash : String
  classificationsPayload : List Json
  classificationHash : String
  completedGeneration : Int
  completedAt : Int

structure ModelCallBudgetRow where
  model : String
  requestCount : Int
  hardLimit : Int
deriving DecidableEq

/-- The constraints of the claims: one for each hash, and an owner holds one lease. -/
def claimSchema : Schema EvidenceClassificationClaimRow where
  check row :=
    decide (0 < row.generation) && isHash row.evidenceHash &&
    match row.state with
    | .pending => row.leaseExpiresAt.isSome
    | .completed => row.leaseOwner.isNone && row.leaseExpiresAt.isNone
  clash left right :=
    clashOn (fun row => some row.evidenceHash) left right ||
    clashOn (·.leaseOwner) left right

/-- The constraints of the classifications: one for each hash, and each has a hash of its own. -/
def classificationSchema : Schema EvidenceClassificationRow where
  check row := decide (0 < row.completedGeneration) && isHash row.classificationHash
  clash left right :=
    clashOn (fun row => some row.evidenceHash) left right ||
    clashOn (fun row => some row.classificationHash) left right

/-- The model whose requests are counted. -/
def MODEL : String := "gemini-3.7-flash"

/-- The constraints of the budgets. -/
def budgetSchema : Schema ModelCallBudgetRow where
  check row :=
    row.model == MODEL && decide (row.hardLimit = 50) &&
    decide (0 ≤ row.requestCount ∧ row.requestCount ≤ row.hardLimit)
  clash left right := clashOn (fun row => some row.model) left right

structure EvidenceStore where
  claims : Checked claimSchema
  classifications : Checked classificationSchema
  budgets : Checked budgetSchema

def EvidenceStore.claimOf (store : EvidenceStore) (evidenceHash : String) :
    Option EvidenceClassificationClaimRow :=
  lookup (·.evidenceHash) evidenceHash store.claims.rows

def EvidenceStore.storedOf (store : EvidenceStore) (evidenceHash : String) :
    Option EvidenceClassificationRow :=
  lookup (·.evidenceHash) evidenceHash store.classifications.rows

/-! ## The operations -/

structure EvidenceLease where
  evidenceHash : String
  leaseOwner : Uuid
  generation : Int
deriving DecidableEq

/-- What a worker that asks for evidence gets: a lease, the stored classifications, or the answer
that another worker is at it. -/
inductive EvidenceClaim where
  | lease (lease : EvidenceLease)
  | stored (evidenceHash : String) (classifications : List EvidenceClassification)
  | inProgress (evidenceHash : String)

/-- How long a lease runs, at most two minutes. -/
structure LeaseTtl where
  micros : Int
  positive : 0 < micros
  bounded : micros ≤ Calendar.seconds 120

/-- Time is up for the claim on a piece of evidence. -/
def expired (evidenceHash : String) (now : Int) (claim : EvidenceClassificationClaimRow) : Bool :=
  claim.evidenceHash == evidenceHash && decide (claim.state = .pending) &&
  claim.leaseExpiresAt.any fun expiresAt => decide (expiresAt ≤ now)

/-- A lease is the current one of a claim, and has not run out. -/
def leaseMatches (claim : Option EvidenceClassificationClaimRow) (lease : EvidenceLease)
    (now : Int) : Bool :=
  claim.any fun claim =>
    decide (claim.state = .pending) && decide (claim.generation = lease.generation) &&
    decide (claim.leaseOwner = some lease.leaseOwner) &&
    claim.leaseExpiresAt.any fun expiresAt => decide (now < expiresAt)

/-- A claim is the one of a lease, whether it has run out or not. -/
def heldBy (lease : EvidenceLease) (claim : EvidenceClassificationClaimRow) : Bool :=
  claim.evidenceHash == lease.evidenceHash && decide (claim.state = .pending) &&
  decide (claim.generation = lease.generation) &&
  decide (claim.leaseOwner = some lease.leaseOwner)

def firstClaim (ttl : LeaseTtl) (evidenceHash : String) (leaseOwner : Uuid) (now : Int) :
    EvidenceClassificationClaimRow where
  evidenceHash
  state := .pending
  generation := 1
  leaseOwner := some leaseOwner
  leaseExpiresAt := some (now + ttl.micros)
  updatedAt := now

/-- A claim that its next holder takes over. -/
def takenOver (ttl : LeaseTtl) (leaseOwner : Uuid) (now : Int)
    (claim : EvidenceClassificationClaimRow) : EvidenceClassificationClaimRow :=
  { claim with
    generation := claim.generation + 1
    leaseOwner := some leaseOwner
    leaseExpiresAt := some (now + ttl.micros)
    updatedAt := now }

def completedClaim (now : Int) (claim : EvidenceClassificationClaimRow) :
    EvidenceClassificationClaimRow :=
  { claim with state := .completed, leaseOwner := none, leaseExpiresAt := none, updatedAt := now }

/-- A claim that its holder gives up. -/
def releasedClaim (now : Int) (claim : EvidenceClassificationClaimRow) :
    EvidenceClassificationClaimRow :=
  { claim with
    generation := claim.generation + 1
    leaseOwner := none
    leaseExpiresAt := some now
    updatedAt := now }

/-- A claim that nobody can take now: it is the last thing that `acquire` reads. -/
def pendingClaim (store : EvidenceStore) (evidenceHash : String) :
    Except EvidenceLedgerFailure EvidenceClaim := do
  raiseIf (!(store.claimOf evidenceHash).any fun claim => decide (claim.state = .pending))
    .integrity
  return .inProgress evidenceHash

section Operations

variable [Digest]

def classificationHash (evidenceHash : String) (payload : List Json) : String :=
  Digest.authorityHash (.object [
    ("classifications", .array payload), ("evidence_hash", .text evidenceHash)])

def readStored (store : EvidenceStore) (stored : EvidenceClassificationRow) :
    Except EvidenceLedgerFailure EvidenceClaim := do
  let claim ← require (store.claimOf stored.evidenceHash) .integrity
  raiseIf (decide (claim.state ≠ .completed) ||
    decide (claim.generation ≠ stored.completedGeneration)) .integrity
  let classifications ←
    require (stored.classificationsPayload.mapM classificationCodec.read) .integrity
  let payload ← classificationPayload classifications
  raiseIf (classificationHash stored.evidenceHash payload != stored.classificationHash) .integrity
  return .stored stored.evidenceHash classifications

/-- Take over the claim on a piece of evidence when its time is up, or answer that another worker
is at it. -/
def takeOver (ttl : LeaseTtl) (evidenceHash : String) (leaseOwner : Uuid) (now : Int)
    (store : EvidenceStore) (claim : EvidenceClassificationClaimRow) :
    Except EvidenceLedgerFailure (EvidenceClaim × EvidenceStore) :=
  if expired evidenceHash now claim then do
    let claims ← require (store.claims.update (expired evidenceHash now)
      (takenOver ttl leaseOwner now)) .database
    return (.lease ⟨evidenceHash, leaseOwner, claim.generation + 1⟩, { store with claims })
  else do
    let answer ← pendingClaim store evidenceHash
    return (answer, store)

/-- Take the first lease on a piece of evidence, or the next one. -/
def leaseEvidence (ttl : LeaseTtl) (evidenceHash : String) (leaseOwner : Uuid) (now : Int)
    (store : EvidenceStore) : Except EvidenceLedgerFailure (EvidenceClaim × EvidenceStore) :=
  match store.claimOf evidenceHash with
  | none => do
      let claims ← require (store.claims.insert (firstClaim ttl evidenceHash leaseOwner now))
        .database
      return (.lease ⟨evidenceHash, leaseOwner, 1⟩, { store with claims })
  | some claim => takeOver ttl evidenceHash leaseOwner now store claim

/-- Ask for a piece of evidence. -/
def acquire (ttl : LeaseTtl) (evidenceHash : String) (leaseOwner : Uuid) (now : Int)
    (store : EvidenceStore) : Except EvidenceLedgerFailure (EvidenceClaim × EvidenceStore) := do
  validateHash evidenceHash
  match store.storedOf evidenceHash with
  | some stored => (fun answer => (answer, store)) <$> readStored store stored
  | none => leaseEvidence ttl evidenceHash leaseOwner now store

def completedRow (lease : EvidenceLease) (payload : List Json) (now : Int) :
    EvidenceClassificationRow where
  evidenceHash := lease.evidenceHash
  classificationsPayload := payload
  classificationHash := classificationHash lease.evidenceHash payload
  completedGeneration := lease.generation
  completedAt := now

/-- The claim of a lease that has not run out. -/
def completable (lease : EvidenceLease) (now : Int)
    (claim : EvidenceClassificationClaimRow) : Bool :=
  heldBy lease claim && claim.leaseExpiresAt.any fun expiresAt => decide (now < expiresAt)

def complete (lease : EvidenceLease) (classifications : List EvidenceClassification) (now : Int)
    (store : EvidenceStore) : Except EvidenceLedgerFailure EvidenceStore := do
  validateHash lease.evidenceHash
  let payload ← classificationPayload classifications
  raiseIf (!leaseMatches (store.claimOf lease.evidenceHash) lease now) .leaseLost
  let stored ← require (store.classifications.insert (completedRow lease payload now)) .database
  raiseIf (decide ((store.claims.rows.filter (completable lease now)).length ≠ 1)) .leaseLost
  let claims ← require (store.claims.update (completable lease now) (completedClaim now)) .database
  return { store with claims, classifications := stored }

end Operations

/-- Give a lease up. -/
def release (lease : EvidenceLease) (now : Int) (store : EvidenceStore) :
    Except EvidenceLedgerFailure EvidenceStore := do
  let claims ← require (store.claims.update (heldBy lease) (releasedClaim now)) .database
  return { store with claims }

/-- A budget that is not used up. -/
def available (model : String) (budget : ModelCallBudgetRow) : Bool :=
  budget.model == model && decide (budget.requestCount < budget.hardLimit)

/-- A budget after one more request. -/
def spent (budget : ModelCallBudgetRow) : ModelCallBudgetRow :=
  { budget with requestCount := budget.requestCount + 1 }

def reserveModelRequest (model : String) (store : EvidenceStore) :
    Except EvidenceLedgerFailure (Int × EvidenceStore) := do
  raiseIf (model != MODEL) .budgetModelInvalid
  let budget ← require (lookup (·.model) model store.budgets.rows) .budgetIntegrity
  raiseIf (!available model budget) .budgetExhausted
  let budgets ← require (store.budgets.update (available model) spent) .database
  return (budget.requestCount + 1, { store with budgets })

end AlphaDecay.Evidence
