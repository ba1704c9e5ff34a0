import AlphaDecay.Performance.Repository

/-!
# What is stored is verified

A stored snapshot is the row of one that passed its checks, and a published row is what was built
from a stored snapshot at some time after some predecessor. Verifying either of them again
succeeds: the point comes back from its payload with the same hash, and the proof from its text.
-/

namespace AlphaDecay.Performance

open Foundation Table

variable [Digest]

/-! ## Snapshots -/

/-- A row holds a snapshot that was created with its checks. -/
def Stored (row : PerformanceSnapshotRow) : Prop :=
  ∃ snapshot, PerformanceSnapshot.create snapshot.toSnapshotFields = .ok snapshot ∧
    row = snapshotRow snapshot

/-- A snapshot with its point as it comes back. -/
def SnapshotFields.reread (fields : SnapshotFields) : SnapshotFields :=
  { fields with point := fields.point.reread }

omit [Digest] in
theorem SnapshotFields.check_reread (fields : SnapshotFields) :
    fields.reread.check = fields.check := rfl

omit [Digest] in
theorem SnapshotFields.material_reread (fields : SnapshotFields) :
    fields.reread.material = fields.material := by
  simp only [material, reread, PerformancePoint.document_reread]

omit [Digest] in
theorem beq_reread (value : Option Decimal) : (value == value.map reread) = true := by
  cases value with
  | none => rfl
  | some d => exact Decimal.beq_iff_value.mpr (value_reread d).symm

omit [Digest] in
theorem snapshotRow_repeats (snapshot : PerformanceSnapshot) :
    (snapshotRow snapshot).repeats snapshot.point.reread = true := by
  simp [PerformanceSnapshotRow.repeats, snapshotRow, PerformancePoint.reread, PointFields.reread,
    beq_reread]

theorem verifySnapshotRow_stored {row : PerformanceSnapshotRow} (h : Stored row) :
    verifySnapshotRow row = .ok () := by
  obtain ⟨snapshot, hcreate, rfl⟩ := h
  obtain ⟨hcheck, -, hhash⟩ := PerformanceSnapshot.create_ok.mp hcreate
  have hreread : PerformanceSnapshot.create snapshot.toSnapshotFields.reread =
      .ok { toSnapshotFields := snapshot.toSnapshotFields.reread
            snapshotHash := snapshot.snapshotHash } := by
    refine PerformanceSnapshot.create_ok.mpr ⟨?_, rfl, ?_⟩
    · rw [SnapshotFields.check_reread, hcheck]
    · rw [SnapshotFields.material_reread, ← hhash]
  have hread : readPoint (snapshotRow snapshot).pointPayload = .ok snapshot.point.reread :=
    readPoint_document snapshot.point
  have hfields : (snapshotRow snapshot).fields snapshot.point.reread =
      snapshot.toSnapshotFields.reread := rfl
  have hrepeats := snapshotRow_repeats snapshot
  rw [verifySnapshotRow, hread, ok_bind, hfields, hreread, asIntegrity, ok_bind, raiseIf_ok]
  simp only [SnapshotFields.reread, hrepeats, Bool.true_and, Bool.not_eq_false', beq_iff_eq]
  rfl

/-! ## Publications -/

/-- The fields of the proof that is built for a snapshot. -/
def publishedFields (snapshot : PerformanceSnapshotRow) (point : PerformancePoint)
    (publishedAt : Int) (predecessorHash : Option String) : ProofFields where
  publicationStatus := .published
  baselineStatus := some snapshot.baselineStatus
  publishedAt := some publishedAt
  point := some point.reread
  linkedCertificateIds := []
  publicationHash := some (publicationHash snapshot.scheduledFor snapshot.snapshotHash
    (canonicalHash (.object (projection snapshot publishedAt))) predecessorHash)
  predecessorHash

/-- The document from which the proof of a snapshot is read. -/
def payloadDocument (snapshot : PerformanceSnapshotRow) (publishedAt : Int)
    (predecessorHash : Option String) : Json :=
  .object (projection snapshot publishedAt ++ [
    ("publication_hash", .text (publicationHash snapshot.scheduledFor snapshot.snapshotHash
      (canonicalHash (.object (projection snapshot publishedAt))) predecessorHash)),
    ("predecessor_hash", Json.ofOptional .text predecessorHash)])

section Payload

variable {snapshot : PerformanceSnapshotRow} {point : PerformancePoint} {publishedAt : Int}
  {predecessorHash : Option String}

/-- The payload names each of its members once. -/
theorem payloadDocument_keyed (hpayload : snapshot.pointPayload = point.document) :
    Json.Keyed (payloadDocument snapshot publishedAt predecessorHash) := by
  have hnames : ((projection snapshot publishedAt ++ [
      ("publication_hash", Json.text (publicationHash snapshot.scheduledFor snapshot.snapshotHash
        (canonicalHash (.object (projection snapshot publishedAt))) predecessorHash)),
      ("predecessor_hash", Json.ofOptional .text predecessorHash)]).map (·.1)) = proofNames := rfl
  refine .object (by rw [hnames]; decide) ?_
  have hpoint : Json.Keyed snapshot.pointPayload := by
    rw [hpayload]
    exact point.toPointFields.keyed
  have hpredecessor : Json.Keyed (Json.ofOptional .text predecessorHash) := by
    cases predecessorHash with
    | none => exact .null
    | some hash => exact .text hash
  have hitems : Json.Keyed (.array []) := .array fun item hitem => absurd hitem List.not_mem_nil
  simp only [projection, List.cons_append, List.nil_append, List.forall_mem_cons, hpoint,
    hpredecessor, hitems, Json.Keyed.text, true_and]
  exact fun pair hpair => absurd hpair List.not_mem_nil

theorem readProofFields_payload (hpayload : snapshot.pointPayload = point.document)
    (htime : Calendar.InRange publishedAt) :
    readProofFields (payloadDocument snapshot publishedAt predecessorHash) =
      some (publishedFields snapshot point publishedAt predecessorHash) := by
  have honly : Json.hasOnly proofNames (payloadDocument snapshot publishedAt predecessorHash) =
      true := by
    simp [Json.hasOnly, payloadDocument, projection, proofNames]
  have hpoint : Json.asOptional (fun value => (readPoint value).toOption) point.document =
      some (some point.reread) := by
    show Option.map some (readPoint point.document).toOption = _
    rw [readPoint_document]
    rfl
  have hpredecessor : Json.asOptional Json.asText (Json.ofOptional .text predecessorHash) =
      some predecessorHash := by
    cases predecessorHash <;> rfl
  have hstatus : Json.asOptional (fun value => value.asText.bind BaselineStatus.ofText)
      (.text snapshot.baselineStatus.text) = some (some snapshot.baselineStatus) := by
    rw [asOptional_text, Json.asText_text, Option.bind_some, BaselineStatus.ofText_text,
      Option.map_some]
  have hnow : Json.asOptional asTime (.text (Calendar.utcText publishedAt)) =
      some (some publishedAt) := by
    rw [asOptional_text, asTime_utcText htime, Option.map_some]
  have hids : asUuids (.array []) = some [] := rfl
  rw [readProofFields, honly]
  simp only [payloadDocument, projection, List.cons_append, List.nil_append, readField_cons,
    String.reduceEq, ↓reduceIte, asLiteral_text, Json.asText_text, Option.bind_some,
    PublicationStatus.ofText, hpayload, hpoint, hpredecessor, hstatus, hnow, hids,
    asOptional_text, Option.map_some, publishedFields]
  rfl

omit [Digest] in
/-- A proof of fields that pass their check has these fields. -/
theorem ofFields_ok {fields : ProofFields} {proof : CompetitionPerformanceProofResponse} :
    CompetitionPerformanceProofResponse.ofFields fields = .ok proof ↔
      proof.toProofFields = fields := by
  constructor
  · intro h
    obtain ⟨hcheck, rfl⟩ := build_ok.mp h
    rfl
  · rintro rfl
    exact build_ok.mpr ⟨proof.coherent, rfl⟩

theorem readProof_payload (hpayload : snapshot.pointPayload = point.document)
    (htime : Calendar.InRange publishedAt) :
    readProof (payloadDocument snapshot publishedAt predecessorHash) =
      CompetitionPerformanceProofResponse.ofFields
        (publishedFields snapshot point publishedAt predecessorHash) := by
  rw [readProof, readProofFields_payload hpayload htime, require_some, ok_bind]

/-- A proof with the fields of the payload is written as the payload. -/
theorem document_publishedFields (hpayload : snapshot.pointPayload = point.document) :
    (publishedFields snapshot point publishedAt predecessorHash).document =
      payloadDocument snapshot publishedAt predecessorHash := by
  have hpoint : Json.ofOptional PerformancePoint.document (some point.reread) =
      snapshot.pointPayload := by
    rw [Json.ofOptional, PerformancePoint.document_reread, hpayload]
  simp only [ProofFields.document, ProofFields.projection, publishedFields, hpoint]
  rfl

omit [Digest] in
/-- A proof is read in any order of its members. -/
theorem readProof_sorted {document : Json} (h : Json.Keyed document) :
    readProof document.sorted = readProof document := by
  have htime : Json.OrderFree asTime := Json.asText_orderFree.bind _
  have hstatus : Json.OrderFree fun value => value.asText.bind PublicationStatus.ofText :=
    Json.asText_orderFree.bind _
  have hbaseline : Json.OrderFree fun value => value.asText.bind BaselineStatus.ofText :=
    Json.asText_orderFree.bind _
  have hpoint : Json.OrderFree fun value => (readPoint value).toOption := by
    intro value hvalue
    show (readPoint value.sorted).toOption = (readPoint value).toOption
    rw [readPoint_sorted hvalue]
  have hids : Json.OrderFree asUuids := (Json.asText_orderFree.bind Uuid.parse).items
  have hfields : readProofFields document.sorted = readProofFields document := by
    unfold readProofFields
    simp only [Json.hasOnly_sorted, readField_sorted (asLiteral_orderFree _) h,
      readField_sorted hstatus h, readField_sorted hbaseline.optional h,
      readField_sorted htime.optional h, readField_sorted hpoint.optional h,
      readField_sorted hids h, readField_sorted Json.asText_orderFree.optional h]
  rw [readProof, readProof, hfields]

end Payload

def publicationRow (snapshot : PerformanceSnapshotRow) (publishedAt : Int)
    (predecessorHash : Option String) : PerformancePublicationRow :=
  let projectionHash := canonicalHash (.object (projection snapshot publishedAt))
  let hash := publicationHash snapshot.scheduledFor snapshot.snapshotHash projectionHash
    predecessorHash
  { publicationId := Digest.uuid5 hash
    snapshotId := snapshot.snapshotId
    boundaryScheduledFor := snapshot.scheduledFor
    publishedAt
    payloadText := Json.canonicalText true (payloadDocument snapshot publishedAt predecessorHash)
    projectionHash
    publicationHash := hash
    predecessorHash }

/-- A row publishes a snapshot after a predecessor, with a proof. -/
def Published (row : PerformancePublicationRow) (predecessorHash : Option String)
    (snapshot : PerformanceSnapshotRow) (proof : CompetitionPerformanceProofResponse) : Prop :=
  Stored snapshot ∧ Calendar.InRange row.publishedAt ∧
    row = publicationRow snapshot row.publishedAt predecessorHash ∧
    readProof (payloadDocument snapshot row.publishedAt predecessorHash) = .ok proof

variable {row : PerformancePublicationRow} {predecessorHash : Option String}
  {snapshot : PerformanceSnapshotRow} {proof : CompetitionPerformanceProofResponse}

omit [Digest] in
theorem Stored.payload [Digest] (h : Stored snapshot) :
    ∃ point : PerformancePoint, snapshot.pointPayload = point.document ∧
      snapshot.scheduledFor = point.scheduledFor ∧ snapshot.measurementStatus = point.status := by
  obtain ⟨snapshot, -, rfl⟩ := h
  exact ⟨snapshot.point, rfl, rfl, rfl⟩

theorem Published.fields (h : Published row predecessorHash snapshot proof)
    {point : PerformancePoint} (hpayload : snapshot.pointPayload = point.document) :
    proof.toProofFields = publishedFields snapshot point row.publishedAt predecessorHash := by
  obtain ⟨-, htime, -, hread⟩ := h
  rw [readProof_payload hpayload htime] at hread
  exact ofFields_ok.mp hread

/-- The hash of the proof is the hash of its row. -/
theorem Published.hash (h : Published row predecessorHash snapshot proof) :
    proof.publicationHash = some row.publicationHash := by
  obtain ⟨point, hpayload, -, -⟩ := h.1.payload
  have hfields := h.fields hpayload
  obtain ⟨-, -, hrow, -⟩ := h
  rw [hfields, hrow]
  rfl

/-- The payload names its predecessor. -/
theorem payload_predecessor {publishedAt : Int} :
    readField (payloadDocument snapshot publishedAt predecessorHash) "predecessor_hash"
      (Json.asOptional Json.asText) = some predecessorHash := by
  simp only [payloadDocument, projection, List.cons_append, List.nil_append, readField_cons,
    String.reduceEq, ↓reduceIte]
  cases predecessorHash <;> rfl

omit [Digest] in
theorem PointFields.same_self (point : PointFields) : point.same point = true := by
  have hself : ∀ value : Option Decimal, (value == value) = true := by
    rintro (_ | d)
    · rfl
    · exact Decimal.beq_self d
  simp only [PointFields.same, hself, beq_self_eq_true, Bool.and_self]

/-- The digest of a payload without its place in the chain is that of the projection. -/
theorem canonicalHash_withoutChain {publishedAt : Int} {point : PerformancePoint}
    (hpayload : snapshot.pointPayload = point.document) :
    canonicalHash (withoutChain
      (payloadDocument snapshot publishedAt predecessorHash).sorted) =
      canonicalHash (.object (projection snapshot publishedAt)) := by
  have hkeyed := @payloadDocument_keyed _ snapshot point publishedAt predecessorHash hpayload
  rw [canonicalHash, withoutChain, Json.sorted_keepMembers hkeyed, canonicalHash]
  rfl

/-- A publication is verified against its snapshot and its predecessor. -/
theorem verifyPublication_published (h : Published row predecessorHash snapshot proof) :
    verifyPublication row predecessorHash snapshot = .ok proof := by
  obtain ⟨point, hpayload, -, -⟩ := h.1.payload
  have hfields := h.fields hpayload
  obtain ⟨hstored, htime, hrow, hread⟩ := h
  have hkeyed := @payloadDocument_keyed _ snapshot point row.publishedAt predecessorHash hpayload
  have htext : row.payloadText =
      Json.canonicalText true (payloadDocument snapshot row.publishedAt predecessorHash) := by
    rw [hrow]
    rfl
  have hpayloadRead : readPayload row.payloadText =
      .ok ((payloadDocument snapshot row.publishedAt predecessorHash).sorted, proof) := by
    rw [readPayload, htext, Json.loads_canonicalText hkeyed, require_some, ok_bind,
      Json.canonicalText_sorted hkeyed, readProof_sorted hkeyed, hread]
    simp
  have hpoint : readPoint snapshot.pointPayload = .ok point.reread := by
    rw [hpayload, readPoint_document]
  have hagrees : row.agrees predecessorHash snapshot point.reread
      (payloadDocument snapshot row.publishedAt predecessorHash).sorted proof = true := by
    have hid : row.snapshotId = snapshot.snapshotId := congrArg (·.snapshotId) hrow
    have hboundary : row.boundaryScheduledFor = snapshot.scheduledFor :=
      congrArg (·.boundaryScheduledFor) hrow
    have hpredecessor : row.predecessorHash = predecessorHash :=
      congrArg (·.predecessorHash) hrow
    have hprojection : row.projectionHash =
        canonicalHash (.object (projection snapshot row.publishedAt)) :=
      congrArg (·.projectionHash) hrow
    have hhash : row.publicationHash = publicationHash snapshot.scheduledFor snapshot.snapshotHash
        (canonicalHash (.object (projection snapshot row.publishedAt))) predecessorHash :=
      congrArg (·.publicationHash) hrow
    rw [PerformancePublicationRow.agrees, canonicalHash_withoutChain hpayload,
      readField_sorted Json.asText_orderFree.optional hkeyed, payload_predecessor]
    simp only [hid, hboundary, hpredecessor, hprojection, hhash, hfields, publishedFields,
      Option.any_some, PointFields.same_self, beq_self_eq_true, Bool.and_self]
  rw [verifyPublication, verifySnapshotRow_stored hstored, hpayloadRead, asIntegrity]
  simp only [ok_bind, hpoint, hagrees, Bool.not_true]
  rfl

end AlphaDecay.Performance
