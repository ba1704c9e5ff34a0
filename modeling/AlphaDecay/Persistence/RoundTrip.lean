import AlphaDecay.Persistence.Codec

/-!
# Round trips of stored reconciliations

Decoding the document of a value gives an equal value. All fields are read back as they were
written, except the quantities of positions: their stored text is canonical, so the decimal that
is read back may have another exponent. Everything that is computed from an inventory is a function
of its content, which does not depend on how quantities are written.
-/

namespace AlphaDecay

open Foundation

/-! ## Fields -/

section

variable {α : Type} {read : Json → Option α} {name key : String} {document : Json}
  {rest : List (String × Json)}
variable {decode : Json → Except Failure α}

@[simp] theorem readField_object_cons :
    readField read name (.object ((key, document) :: rest)) =
      if key = name then require (read document) .key else readField read name (.object rest) := by
  simp only [readField, Json.field_object_cons]
  split <;> rfl

@[simp] theorem readOptional_object_cons :
    readOptional read name (.object ((key, document) :: rest)) =
      if key = name then require (Json.asOptional read document) .key
      else readOptional read name (.object rest) := by
  rw [readOptional, readField_object_cons]
  rfl

@[simp] theorem getOptional_object_cons :
    getOptional read name (.object ((key, document) :: rest)) =
      if key = name then require (Json.asOptional read document) .key
      else getOptional read name (.object rest) := by
  simp only [getOptional, Json.field_object_cons]
  split <;> rfl

@[simp] theorem readNested_object_cons :
    readNested decode name (.object ((key, document) :: rest)) =
      if key = name then decode document else readNested decode name (.object rest) := by
  simp only [readNested, Json.field_object_cons]
  split <;> rfl

@[simp] theorem readEach_object_cons :
    readEach decode name (.object ((key, document) :: rest)) =
      if key = name then require document.asArray .key >>= readAll decode
      else readEach decode name (.object rest) := by
  simp only [readEach, readField_object_cons]
  split <;> rfl

/-- Items that are each read back are read back together. -/
theorem readAll_encoded {decode : Json → Except Failure α} {encode : α → Json}
    (hread : ∀ item, decode (encode item) = .ok item) (items : List α) :
    readAll decode (items.map encode) = .ok items := by
  induction items with
  | nil => rfl
  | cons item others ih => simp [readAll, hread, ih, pure, Except.pure]

/-- Items of which each is read back up to a part of it are read back together up to that part. -/
theorem readAll_part {β : Type} {encode : α → Json} {part : α → β}
    (hread : ∀ item, ∃ found, decode (encode item) = .ok found ∧ part found = part item)
    (items : List α) :
    ∃ decoded, readAll decode (items.map encode) = .ok decoded ∧
      decoded.map part = items.map part := by
  induction items with
  | nil => exact ⟨[], rfl, rfl⟩
  | cons item others ih =>
      obtain ⟨first, hfirst, hsame⟩ := hread item
      obtain ⟨decoded, hdecoded, hparts⟩ := ih
      refine ⟨first :: decoded, ?_, by simp [hsame, hparts]⟩
      simp [readAll, hfirst, hdecoded, pure, Except.pure]

@[simp] theorem asTime_timeText {t : Int} (h : Calendar.InRange t) :
    asTime (timeText t) = some t := by
  simpa [asTime, timeText] using Calendar.fromIsoformat_isoformat h

@[simp] theorem asDecimal_decimalText (value : Decimal) :
    asDecimal (decimalText value) = some value := by
  simp [asDecimal, decimalText, Json.ofChars, Decimal.parse_toText]

@[simp] theorem asUuid_text (id : Uuid) : asUuid (.text id.toText) = some id := by
  simpa [asUuid] using Uuid.parse_toText id

@[simp] theorem asOptional_text (value : Option String) :
    Json.asOptional Json.asText (Json.ofOptional .text value) = some value :=
  Json.asOptional_ofOptional value (fun _ h => by cases h) (fun _ _ => rfl)

@[simp] theorem asOptional_decimalText (value : Option Decimal) :
    Json.asOptional asDecimal (Json.ofOptional decimalText value) = some value :=
  Json.asOptional_ofOptional value (fun _ h => by cases h) (fun x _ => asDecimal_decimalText x)

end

/-! ## Values that are read back as they were -/

@[simp] theorem requireUtc_ok {value : Int} {code : String} :
    requireUtc value code = .ok () ↔ Calendar.InRange value := by
  simp [requireUtc]

/-- An activity is read back from its document. -/
theorem activityFromJson_toJson (item : ActivityItem) :
    activityFromJson (activityToJson item) = .ok item := by
  have hvalid := item.valid
  simp only [ActivityItemFields.postInit, check_bind_ok, requireUtc_ok] at hvalid
  obtain ⟨-, htime, -⟩ := hvalid
  simp [activityFromJson, activityToJson, readEnum, readTimeQuality, htime]
  exact build_ok.mpr ⟨item.valid, rfl⟩

theorem openOrderLegFromJson_toJson (leg : OpenOrderLeg) :
    openOrderLegFromJson (openOrderLegToJson leg) = .ok leg := by
  simp [openOrderLegFromJson, openOrderLegToJson, readEnum]
  exact build_ok.mpr ⟨leg.valid, rfl⟩

theorem OpenOrderItem.exists_state (order : OpenOrderItem) :
    ∃ state, order.state = .broker state := by
  have hvalid := order.valid
  simp only [OpenOrderItemFields.postInit, check_bind_ok, raiseIf_ok, Bool.or_eq_false_iff,
    openStateMatchesFill, Bool.not_eq_false'] at hvalid
  obtain ⟨-, -, -, -, ⟨⟨⟨⟨⟨⟨⟨-, hstate⟩, -⟩, -⟩, -⟩, -⟩, -⟩, -⟩⟩ := hvalid
  cases hcase : order.state with
  | broker state => exact ⟨state, rfl⟩
  | prepared => simp [hcase, AttemptState.satisfies] at hstate
  | assignmentLocked => simp [hcase, AttemptState.satisfies] at hstate
  | unknown text => simp [hcase, AttemptState.satisfies] at hstate

/-- An open order is read back from its document. -/
theorem openOrderFromJson_toJson (order : OpenOrderItem) :
    openOrderFromJson (openOrderToJson order) = .ok order := by
  have hstate : AttemptState.ofText order.state.text = order.state := by
    obtain ⟨state, h⟩ := order.exists_state
    rw [h, AttemptState.ofText_broker]
  have hlegs := readAll_encoded openOrderLegFromJson_toJson order.legs
  simp [openOrderFromJson, openOrderToJson, hlegs, hstate]
  exact build_ok.mpr ⟨order.valid, rfl⟩

/-- An account observation is read back from its document. -/
theorem accountObservationFromJson_toJson (account : AccountObservation) :
    accountObservationFromJson (accountObservationToJson account) = .ok account := by
  have hvalid := account.valid
  simp only [AccountObservationFields.postInit, check_bind_ok, requireUtc_ok] at hvalid
  obtain ⟨-, -, htime, -⟩ := hvalid
  simp [accountObservationFromJson, accountObservationToJson, readEnum, htime]
  exact build_ok.mpr ⟨account.valid, rfl⟩

/-- Pagination evidence is read back from its document. -/
theorem paginationFromJson_toJson (pagination : ActivityPaginationEvidence) :
    paginationFromJson (paginationToJson pagination) = .ok pagination := by
  have hvalid := pagination.valid
  simp only [ActivityPaginationFields.postInit, check_bind_ok, requireUtc_ok, raiseIf_ok,
    Bool.or_eq_false_iff, bne_eq_false_iff_eq] at hvalid
  obtain ⟨hstart, hend, hthrough, hestablished, hvisible, ⟨-, hhorizon⟩, -⟩ := hvalid
  have hwhole : Calendar.seconds (pagination.visibilityHorizon.tdiv 1000000) =
      pagination.visibilityHorizon := by
    rw [hhorizon]
    decide
  simp [paginationFromJson, paginationToJson, hstart, hend, hthrough, hestablished, hvisible,
    hwhole]
  exact build_ok.mpr ⟨pagination.valid, rfl⟩

/-! ## Inventories -/

/-- What depends on the content of each item is the same for inventories of the same content. -/
theorem map_congr_content {α : Type} {f : InventoryItem → α}
    (hf : ∀ a b : InventoryItem, a.content = b.content → f a = f b) {a b : List InventoryItem}
    (h : a.map InventoryItem.content = b.map InventoryItem.content) : a.map f = b.map f := by
  induction a generalizing b with
  | nil =>
      cases b with
      | nil => rfl
      | cons => cases h
  | cons item rest ih =>
      cases b with
      | nil => cases h
      | cons other others =>
          simp only [List.map_cons, List.cons.injEq] at h ⊢
          exact ⟨hf item other h.1, ih h.2⟩

/-- An inventory item is read back from its document with the same content. -/
theorem inventoryFromJson_toJson (item : InventoryItem) :
    ∃ found, inventoryFromJson (inventoryToJson item) = .ok found ∧
      found.content = item.content := by
  obtain ⟨quantity, hparse, hequal⟩ := Decimal.parse_canonical item.signedQuantity
  have hvalue := Decimal.beq_iff_value.mp hequal
  have hzero : (quantity == Decimal.ofInt 0) = (item.signedQuantity == Decimal.ofInt 0) := by
    rw [Bool.eq_iff_iff, Decimal.beq_iff_value, Decimal.beq_iff_value, hvalue]
  have hvalid : InventoryItemFields.postInit
      { item.toInventoryItemFields with signedQuantity := quantity } = .ok () := by
    have hold := item.valid
    unfold InventoryItemFields.postInit at hold ⊢
    simpa only [hzero, Decimal.isIntegral_congr hvalue] using hold
  refine ⟨⟨_, hvalid⟩, ?_, by simp [InventoryItem.content, hvalue]⟩
  simp [inventoryFromJson, inventoryToJson, readEnum, asDecimal, canonicalDecimal, hparse]
  exact build_ok.mpr ⟨hvalid, rfl⟩

theorem inventoryKey_congr (a b : InventoryItem) (h : a.content = b.content) :
    inventoryKey a = inventoryKey b := by
  simp only [InventoryItem.content, Prod.mk.injEq] at h
  simp [inventoryKey, h.1, h.2.1]

theorem canonicalInventory_congr (a b : InventoryItem) (h : a.content = b.content) :
    canonicalInventory a = canonicalInventory b := by
  simp only [InventoryItem.content, Prod.mk.injEq, ← Decimal.beq_iff_value] at h
  simp [canonicalInventory, canonicalNumber, canonicalDecimal, h.1, h.2.1, h.2.2.1,
    Decimal.canonical_congr h.2.2.2]

section SameContent

variable {a b : List InventoryItem}
  (h : a.map InventoryItem.content = b.map InventoryItem.content)

include h

theorem requireCanonicalInventory_congr :
    requireCanonicalInventory a = requireCanonicalInventory b := by
  rw [requireCanonicalInventory, requireCanonical, map_congr_content inventoryKey_congr h]
  rfl

theorem canonicalPositions_congr : canonicalPositions a = canonicalPositions b := by
  rw [canonicalPositions, map_congr_content canonicalInventory_congr h, canonicalPositions]

/-- Inventories of the same content hold equities alike. -/
theorem any_equity_congr :
    (a.any fun item => item.kind == .equity) = b.any fun item => item.kind == .equity := by
  have hkinds : a.map (fun item => item.kind) = b.map fun item => item.kind :=
    map_congr_content (fun left right hsame => congrArg Prod.fst hsame) h
  have hany : ∀ items : List InventoryItem, (items.any fun item => item.kind == .equity) =
      (items.map fun item => item.kind).any fun kind => kind == .equity := by
    intro items
    rw [List.any_map]
    rfl
  rw [hany, hany, hkinds]

end SameContent

/-! ## Sweeps -/

section

variable (sweep : SweepObservation) {first final : List InventoryItem}
  (hfirst : first.map InventoryItem.content = sweep.firstPositions.map InventoryItem.content)
  (hfinal : final.map InventoryItem.content = sweep.finalPositions.map InventoryItem.content)

/-- A sweep with other positions of the same content. -/
def SweepObservation.withPositions : SweepObservation where
  toSweepObservationFields :=
    { sweep.toSweepObservationFields with firstPositions := first, finalPositions := final }
  valid := by
    have hvalid := sweep.valid
    unfold SweepObservationFields.postInit at hvalid ⊢
    rw [← requireCanonicalInventory_congr hfirst, ← requireCanonicalInventory_congr hfinal]
      at hvalid
    exact hvalid

theorem AccountObservation.beq_self (account : AccountObservation) :
    (account == account) = true := by
  show (decide _ && account.equity == account.equity &&
    account.buyingPower == account.buyingPower && account.cash == account.cash) = true
  simp

@[simp] theorem sameDecimal_self (value : Option Decimal) : sameDecimal value value = true := by
  cases value with
  | none => rfl
  | some d => exact Decimal.beq_self d

instance : ReflBEq ActivityItem where
  rfl {item} := by
    show (decide _ && sameDecimal item.signedQuantity item.signedQuantity) = true
    simp

/-- A sweep equals itself with other positions of the same content. -/
theorem SweepObservation.withPositions_beq :
    (sweep.withPositions hfirst hfinal == sweep) = true := by
  show (decide _ && sweep.firstAccount == sweep.firstAccount &&
    sweep.finalAccount == sweep.finalAccount && first == sweep.firstPositions &&
    final == sweep.finalPositions && sweep.activities == sweep.activities) = true
  simp [inventory_beq, hfirst, hfinal, AccountObservation.beq_self, withPositions]

theorem canonicalSweep_withPositions :
    canonicalSweep (sweep.withPositions hfirst hfinal) = canonicalSweep sweep := by
  simp only [canonicalSweep, SweepObservation.withPositions, canonicalPositions_congr hfirst,
    canonicalPositions_congr hfinal]

/-- A sweep is read back from its document, up to how the quantities of positions are written. -/
theorem sweepFromJson_toJson :
    ∃ (first final : List InventoryItem)
      (hfirst : first.map InventoryItem.content = sweep.firstPositions.map InventoryItem.content)
      (hfinal : final.map InventoryItem.content = sweep.finalPositions.map InventoryItem.content),
      sweepFromJson (sweepToJson sweep) = .ok (sweep.withPositions hfirst hfinal) := by
  obtain ⟨first, hreadFirst, hfirst⟩ := readAll_part inventoryFromJson_toJson sweep.firstPositions
  obtain ⟨final, hreadFinal, hfinal⟩ := readAll_part inventoryFromJson_toJson sweep.finalPositions
  refine ⟨first, final, hfirst, hfinal, ?_⟩
  have hvalid := sweep.valid
  simp only [SweepObservationFields.postInit, check_bind_ok, requireUtc_ok] at hvalid
  obtain ⟨hstarted, hcompleted, -⟩ := hvalid
  simp [sweepFromJson, sweepToJson, hstarted, hcompleted, paginationFromJson_toJson,
    accountObservationFromJson_toJson, hreadFirst, hreadFinal,
    readAll_encoded openOrderFromJson_toJson, readAll_encoded activityFromJson_toJson]
  exact build_ok.mpr ⟨(sweep.withPositions hfirst hfinal).valid, rfl⟩

end

/-! ## Expectations -/

section

variable (expectation : ReconciliationExpectation) {positions : List InventoryItem}
  (hpositions : positions.map InventoryItem.content =
    expectation.expectedPositions.map InventoryItem.content)

/-- An expectation with other positions of the same content. -/
def ReconciliationExpectation.withPositions : ReconciliationExpectation where
  toReconciliationExpectationFields :=
    { expectation.toReconciliationExpectationFields with expectedPositions := positions }
  valid := by
    have hvalid := expectation.valid
    unfold ReconciliationExpectationFields.check at hvalid ⊢
    rw [← requireCanonicalInventory_congr hpositions] at hvalid
    exact hvalid

/-- An expectation equals itself with other positions of the same content. -/
theorem ReconciliationExpectation.withPositions_beq :
    (expectation.withPositions hpositions == expectation) = true := by
  show (decide _ && expectation.expectedCash == expectation.expectedCash &&
    positions == expectation.expectedPositions &&
    expectation.knownActivities == expectation.knownActivities) = true
  simp [inventory_beq, hpositions, withPositions]

theorem readAll_hashes (hashes : List String) :
    readAll (fun item => require item.asText .key) (hashes.map .text) = .ok hashes :=
  @readAll_encoded String _ Json.text (fun _ => rfl) hashes

theorem canonicalExpectationMembers_withPositions :
    canonicalExpectationMembers (expectation.withPositions hpositions) =
      canonicalExpectationMembers expectation := by
  simp only [canonicalExpectationMembers, ReconciliationExpectation.withPositions,
    canonicalPositions_congr hpositions]

variable [Digest]

theorem ReconciliationExpectation.expectationHash_withPositions :
    (expectation.withPositions hpositions).expectationHash = expectation.expectationHash := by
  rw [expectationHash, canonicalExpectationMembers_withPositions, expectationHash]

/-- An expectation is read back from its document, up to how the quantities of positions are
written, with its hash. -/
theorem expectationFromJson_toJson :
    ∃ (positions : List InventoryItem)
      (hpositions : positions.map InventoryItem.content =
        expectation.expectedPositions.map InventoryItem.content),
      expectationFromJson (expectationToJson expectation) =
        .ok (expectation.withPositions hpositions) := by
  obtain ⟨positions, hread, hpositions⟩ :=
    readAll_part inventoryFromJson_toJson expectation.expectedPositions
  refine ⟨positions, hpositions, ?_⟩
  have hvalid := expectation.valid
  simp only [ReconciliationExpectationFields.check, check_bind_ok, requireUtc_ok] at hvalid
  obtain ⟨-, -, -, -, hbaseline, hstart, hthrough, -⟩ := hvalid
  have hfields : expectationFieldsFromJson (expectationToJson expectation) =
      .ok (expectation.withPositions hpositions).toReconciliationExpectationFields := by
    simp [expectationFieldsFromJson, expectationToJson, readEnum, hbaseline, hstart, hthrough,
      hread, readAll_encoded openOrderFromJson_toJson, readAll_encoded activityFromJson_toJson,
      readAll_hashes]
    rfl
  have hbuilt : ReconciliationExpectation.fromRepositoryState
      (expectation.withPositions hpositions).toReconciliationExpectationFields =
        .ok (expectation.withPositions hpositions) :=
    build_ok.mpr ⟨(expectation.withPositions hpositions).valid, rfl⟩
  have hstored : readField Json.asText "expectation_hash" (expectationToJson expectation) =
      .ok expectation.expectationHash := by
    simp [expectationToJson]
  have hhash : (expectation.withPositions hpositions).expectationHash =
      expectation.expectationHash := expectation.expectationHash_withPositions hpositions
  simp [expectationFromJson, hfields, hbuilt, hstored, hhash, raiseIf, pure, Except.pure]

end

/-! ## Reconciliations -/

variable (value : WholeAccountReconciliation) {first final positions : List InventoryItem}
  (hfirst : first.map InventoryItem.content =
    value.sweep.firstPositions.map InventoryItem.content)
  (hfinal : final.map InventoryItem.content =
    value.sweep.finalPositions.map InventoryItem.content)
  (hpositions : positions.map InventoryItem.content =
    value.expectation.expectedPositions.map InventoryItem.content)

/-- A reconciliation with other positions of the same content. -/
def WholeAccountReconciliation.withPositions : WholeAccountReconciliation where
  expectation := value.expectation.withPositions hpositions
  sweep := value.sweep.withPositions hfirst hfinal
  acceptedAt := value.acceptedAt
  acceptedInRange := value.acceptedInRange

/-- Which block codes are raised depends on the content of positions. -/
theorem raised_withPositions (code : ReconciliationBlockCode) (acceptedAt : Int) :
    code.raised (value.sweep.withPositions hfirst hfinal)
        (value.expectation.withPositions hpositions) acceptedAt =
      code.raised value.sweep value.expectation acceptedAt := by
  -- Only three codes look at positions: by comparing them, and for the equities among them.
  have hstable : (first != final) = (value.sweep.firstPositions != value.sweep.finalPositions) := by
    simp only [bne, inventory_beq, hfirst, hfinal]
  have hexpected : (final != positions) =
      (value.sweep.finalPositions != value.expectation.expectedPositions) := by
    simp only [bne, inventory_beq, hfinal, hpositions]
  have hequity := any_equity_congr hfinal
  cases code with
  | unstableSweep =>
      simp only [ReconciliationBlockCode.raised, SweepObservation.withPositions, hstable]
  | unexpectedInventory =>
      simp only [ReconciliationBlockCode.raised, SweepObservation.withPositions,
        ReconciliationExpectation.withPositions, hexpected]
  | assignmentSuspected =>
      simp only [ReconciliationBlockCode.raised, SweepObservation.withPositions,
        ReconciliationExpectation.withPositions, hexpected, hequity]
      rfl
  | accountAdjustment => rfl
  | accountMismatch => rfl
  | accountNotExecutable => rfl
  | activityWatermarkUnknown => rfl
  | activityWindowIncomplete => rfl
  | futureObservation => rfl
  | incompleteSweep => rfl
  | knownActivityMissing => rfl
  | staleObservation => rfl
  | unexpectedActivity => rfl
  | unexpectedOpenOrder => rfl

namespace WholeAccountReconciliation

theorem blockCodes_withPositions :
    (value.withPositions hfirst hfinal hpositions).blockCodes = value.blockCodes := by
  simp only [blockCodes, withPositions]
  refine List.filter_congr fun code _ => ?_
  exact raised_withPositions value hfirst hfinal hpositions code value.acceptedAt

variable [Digest]

/-- Every hash of a reconciliation depends on the content of positions. -/
theorem hashes_withPositions :
    (value.withPositions hfirst hfinal hpositions).positionsManifestHash =
        value.positionsManifestHash ∧
      (value.withPositions hfirst hfinal hpositions).reconciliationHash =
        value.reconciliationHash := by
  have hmanifest : (value.withPositions hfirst hfinal hpositions).positionsManifestHash =
      value.positionsManifestHash := by
    rw [positionsManifestHash, positionsManifestHash]
    exact congrArg Digest.authorityHash (canonicalPositions_congr hfinal)
  have hexpectation : canonicalExpectation
    (value.withPositions hfirst hfinal hpositions).expectation
      = canonicalExpectation value.expectation := by
    rw [canonicalExpectation, canonicalExpectation]
    simp only [withPositions, canonicalExpectationMembers_withPositions,
      ReconciliationExpectation.expectationHash_withPositions]
  refine ⟨hmanifest, ?_⟩
  rw [reconciliationHash, reconciliationHash, hmanifest, hexpectation,
    blockCodes_withPositions]
  simp only [withPositions, canonicalSweep_withPositions]
  rfl

end WholeAccountReconciliation

variable [Digest]

/-- A reconciliation is read back from its row, up to how the quantities of positions are
written. -/
theorem reconciliationFromRow_row :
    ∃ (first final positions : List InventoryItem)
      (hfirst : first.map InventoryItem.content =
        value.sweep.firstPositions.map InventoryItem.content)
      (hfinal : final.map InventoryItem.content =
        value.sweep.finalPositions.map InventoryItem.content)
      (hpositions : positions.map InventoryItem.content =
        value.expectation.expectedPositions.map InventoryItem.content),
      reconciliationFromRow (reconciliationRow value) =
        .ok (value.withPositions hfirst hfinal hpositions) := by
  obtain ⟨first, final, hfirst, hfinal, hsweep⟩ := sweepFromJson_toJson value.sweep
  obtain ⟨positions, hpositions, hexpectation⟩ := expectationFromJson_toJson value.expectation
  refine ⟨first, final, positions, hfirst, hfinal, hpositions, ?_⟩
  have hevaluate : WholeAccountReconciliation.evaluate
      (value.sweep.withPositions hfirst hfinal) (value.expectation.withPositions hpositions)
      value.acceptedAt = .ok (value.withPositions hfirst hfinal hpositions) := by
    rw [WholeAccountReconciliation.evaluate, dif_pos value.acceptedInRange]
    rfl
  obtain ⟨hmanifest, hhash⟩ := value.hashes_withPositions hfirst hfinal hpositions
  have hcodes := value.blockCodes_withPositions hfirst hfinal hpositions
  have hid : (value.withPositions hfirst hfinal hpositions).reconciliationId =
      value.reconciliationId := by
    rw [WholeAccountReconciliation.reconciliationId, hhash,
      WholeAccountReconciliation.reconciliationId]
  have hsafe : (value.withPositions hfirst hfinal hpositions).safe = value.safe := by
    rw [WholeAccountReconciliation.safe, hcodes, WholeAccountReconciliation.safe]
  have horders : (value.withPositions hfirst hfinal hpositions).ordersManifestHash =
      value.ordersManifestHash := rfl
  have hactivities : (value.withPositions hfirst hfinal hpositions).activitiesManifestHash =
      value.activitiesManifestHash := rfl
  simp [reconciliationFromRow, reconciliationRow, hsweep, hexpectation, hevaluate, hmanifest,
    hhash, hcodes, hid, hsafe, horders, hactivities, raiseIf, pure, Except.pure]

/-- Stored reconciliations are read back: every sweep and every expectation is decoded from its
document as an equal value, an expectation with the same hash, and every reconciliation is read
from its row with the same id, hash, manifests, safe flag and block codes. -/
theorem reconciliation_roundTrip :
    (∀ sweep : SweepObservation, ∃ decoded,
      sweepFromJson (sweepToJson sweep) = .ok decoded ∧ (decoded == sweep) = true) ∧
    (∀ expectation : ReconciliationExpectation, ∃ decoded,
      expectationFromJson (expectationToJson expectation) = .ok decoded ∧
      (decoded == expectation) = true ∧
      decoded.expectationHash = expectation.expectationHash) ∧
    ∀ value : WholeAccountReconciliation, ∃ found,
      reconciliationFromRow (reconciliationRow value) = .ok found ∧
      found.reconciliationId = value.reconciliationId ∧
      found.reconciliationHash = value.reconciliationHash ∧
      found.positionsManifestHash = value.positionsManifestHash ∧
      found.ordersManifestHash = value.ordersManifestHash ∧
      found.activitiesManifestHash = value.activitiesManifestHash ∧
      found.acceptedAt = value.acceptedAt ∧ found.safe = value.safe ∧
      found.blockCodes = value.blockCodes := by
  refine ⟨fun sweep => ?_, fun expectation => ?_, fun value => ?_⟩
  · obtain ⟨first, final, hfirst, hfinal, hdecoded⟩ := sweepFromJson_toJson sweep
    exact ⟨_, hdecoded, sweep.withPositions_beq hfirst hfinal⟩
  · obtain ⟨positions, hpositions, hdecoded⟩ := expectationFromJson_toJson expectation
    exact ⟨_, hdecoded, expectation.withPositions_beq hpositions,
      expectation.expectationHash_withPositions hpositions⟩
  · obtain ⟨first, final, positions, hfirst, hfinal, hpositions, hfound⟩ :=
      reconciliationFromRow_row value
    obtain ⟨hmanifest, hhash⟩ := value.hashes_withPositions hfirst hfinal hpositions
    have hcodes := value.blockCodes_withPositions hfirst hfinal hpositions
    refine ⟨_, hfound, ?_, hhash, hmanifest, rfl, rfl, rfl, ?_, hcodes⟩
    · rw [WholeAccountReconciliation.reconciliationId, hhash,
        WholeAccountReconciliation.reconciliationId]
    · rw [WholeAccountReconciliation.safe, hcodes, WholeAccountReconciliation.safe]

end AlphaDecay
