import AlphaDecay.Persistence.EntryBudget
import AlphaDecay.Persistence.Effects

/-!
# Identity of equal envelopes

Envelopes are equal when their decimals have the same values, and their digests are taken from
documents that hold decimals as they are written. `equalEnvelopes_agree_iff` says that equal
envelopes have the same digests, and are approved as one intent, exactly when they are written the
same; `equalEnvelopes_split` shows two that are not.
-/

namespace AlphaDecay

open Foundation Table

/-! ## Documents -/

/-- A decimal is read back from its text. -/
theorem decimalText_inj {a b : Decimal} : decimalText a = decimalText b ↔ a = b := by
  constructor
  · intro h
    have htext : a.toText = b.toText := String.ofList_injective (Json.text.inj h)
    have hparsed := Decimal.parse_toText a
    rw [htext, Decimal.parse_toText] at hparsed
    exact (Option.some.inj hparsed).symm
  · rintro rfl
    rfl

/-- An optional decimal is read back from its text. -/
theorem optionalDecimalText_inj {a b : Option Decimal} :
    Json.ofOptional decimalText a = Json.ofOptional decimalText b ↔ a = b := by
  cases a with
  | none => cases b <;> simp [Json.ofOptional, decimalText, Json.ofChars]
  | some a =>
      cases b with
      | none => simp [Json.ofOptional, decimalText, Json.ofChars]
      | some b => simp only [Json.ofOptional, decimalText_inj, Option.some.injEq]

/-- The document whose digest identifies an intent. -/
def intentDocument (envelope : OrderEnvelope) : Json :=
  .object ([
    ("account_fingerprint", .text envelope.accountFingerprint),
    ("policy_hash", .text envelope.policyHash),
    ("authorization_certificate_id", .text envelope.authorizationCertificateId.toText),
    ("action", .text envelope.action.text),
    ("legs", legsToJson envelope.legs),
    ("quantity", .number envelope.quantity),
    ("minimum_limit", decimalText envelope.minimumLimit),
    ("maximum_limit", decimalText envelope.maximumLimit),
    ("position_or_book_fingerprint", .text envelope.positionOrBookFingerprint)]
    ++ rollAuthorityPayload envelope)

/-- The document whose hash identifies an envelope. -/
def orderEnvelopeDocument (envelope : OrderEnvelope) : Json :=
  .object ([
    ("action", .text envelope.action.text),
    ("legs", legsToJson envelope.legs),
    ("quantity", .number envelope.quantity),
    ("minimum_limit", decimalText envelope.minimumLimit),
    ("maximum_limit", decimalText envelope.maximumLimit),
    ("approved_max_loss", decimalText envelope.approvedMaxLoss),
    ("event_key", .text envelope.eventKey),
    ("trading_day", .text (dateText envelope.tradingDay))]
    ++ rollAuthorityPayload envelope)

/-! ## Equal envelopes -/

/-- Two envelopes write the decimals of their price bounds and of their roll authority with the
same signs, digits and exponents. -/
structure SameLimits (a b : OrderEnvelope) : Prop where
  minimumLimit : a.minimumLimit = b.minimumLimit
  maximumLimit : a.maximumLimit = b.maximumLimit
  quotedRelativeSpread : a.quotedRelativeSpread = b.quotedRelativeSpread
  maximumRelativeSpread : a.maximumRelativeSpread = b.maximumRelativeSpread
  incrementalDebit : a.incrementalDebit = b.incrementalDebit
  maximumIncrementalDebit : a.maximumIncrementalDebit = b.maximumIncrementalDebit

/-- Two envelopes write all their decimals the same. -/
def SameWritten (a b : OrderEnvelope) : Prop :=
  SameLimits a b ∧ a.approvedMaxLoss = b.approvedMaxLoss

/-- The parts of an envelope that are not decimals. -/
structure SameTerms (a b : OrderEnvelope) : Prop where
  action : a.action = b.action
  authorizationCertificateId : a.authorizationCertificateId = b.authorizationCertificateId
  policyHash : a.policyHash = b.policyHash
  accountFingerprint : a.accountFingerprint = b.accountFingerprint
  positionOrBookFingerprint : a.positionOrBookFingerprint = b.positionOrBookFingerprint
  legs : a.legs = b.legs
  quantity : a.quantity = b.quantity
  eventKey : a.eventKey = b.eventKey
  tradingDay : a.tradingDay = b.tradingDay
  marketSessionId : a.marketSessionId = b.marketSessionId

section Equal

variable {a b : OrderEnvelope}

/-- Equal envelopes have the same terms. -/
theorem sameTerms_of_beq (h : (a == b) = true) : SameTerms a b := by
  have h : (decide _ && _ && _ && _ && _ && _ && _ && _) = true := h
  simp only [Bool.and_eq_true, decide_eq_true_eq] at h
  obtain ⟨⟨⟨⟨⟨⟨⟨hterms, -⟩, -⟩, -⟩, -⟩, -⟩, -⟩, -⟩ := h
  obtain ⟨haction, hauthorization, hpolicy, haccount, hposition, hlegs, hquantity, hevent, hday,
    hsession⟩ := hterms
  exact ⟨haction, hauthorization, hpolicy, haccount, hposition, hlegs, hquantity, hevent, hday,
    hsession⟩

/-- An envelope equals itself. -/
theorem OrderEnvelope.beq_self (envelope : OrderEnvelope) : (envelope == envelope) = true := by
  have hsame : ∀ value, sameDecimal value value = true := by
    intro value
    cases value with
    | none => rfl
    | some value => exact Decimal.beq_self value
  show (decide _ && _ && _ && _ && _ && _ && _ && _) = true
  simp only [hsame, Decimal.beq_self, and_self, decide_true, Bool.and_true]

/-- Envelopes that equal the same envelope are equal. -/
theorem OrderEnvelope.beq_trans {c : OrderEnvelope} (h : (a == b) = true) (hbc : (b == c) = true) :
    (a == c) = true := by
  have hdecimal : ∀ {x y z : Decimal}, (x == y) = true → (y == z) = true → (x == z) = true := by
    intro x y z hxy hyz
    rw [Decimal.beq_iff_value] at hxy hyz ⊢
    exact hxy.trans hyz
  have hoptional : ∀ {x y z : Option Decimal}, sameDecimal x y = true → sameDecimal y z = true →
      sameDecimal x z = true := by
    intro x y z hxy hyz
    cases x with
    | none =>
        cases y with
        | none => exact hyz
        | some y => cases hxy
    | some x =>
        cases y with
        | none => cases hxy
        | some y =>
            cases z with
            | none => cases hyz
            | some z => exact hdecimal hxy hyz
  have hab : (decide _ && _ && _ && _ && _ && _ && _ && _) = true := h
  have hbc : (decide _ && _ && _ && _ && _ && _ && _ && _) = true := hbc
  show (decide _ && _ && _ && _ && _ && _ && _ && _) = true
  simp only [Bool.and_eq_true, decide_eq_true_eq] at hab hbc ⊢
  obtain ⟨⟨⟨⟨⟨⟨⟨hterms, hminimum⟩, hmaximum⟩, hloss⟩, hquoted⟩, hspread⟩, hdebit⟩, htotal⟩ := hab
  obtain ⟨⟨⟨⟨⟨⟨⟨hterms', hminimum'⟩, hmaximum'⟩, hloss'⟩, hquoted'⟩, hspread'⟩, hdebit'⟩,
    htotal'⟩ := hbc
  refine ⟨⟨⟨⟨⟨⟨⟨?_, hdecimal hminimum hminimum'⟩, hdecimal hmaximum hmaximum'⟩,
    hdecimal hloss hloss'⟩, hoptional hquoted hquoted'⟩, hoptional hspread hspread'⟩,
    hoptional hdebit hdebit'⟩, hoptional htotal htotal'⟩
  simp only [hterms, hterms', and_self]

theorem OrderEnvelope.rollValues_none (envelope : OrderEnvelope) (h : envelope.action ≠ .roll) :
    envelope.quotedRelativeSpread = none ∧ envelope.maximumRelativeSpread = none ∧
      envelope.incrementalDebit = none ∧ envelope.maximumIncrementalDebit = none := by
  have hvalid := envelope.valid
  simp only [OrderEnvelopeFields.postInit, if_neg h, check_bind_ok, raiseIf_ok,
    Bool.or_eq_false_iff, Option.isSome_eq_false_iff, Option.isNone_iff_eq_none] at hvalid
  obtain ⟨-, -, -, ⟨⟨⟨-, hquoted⟩, hmaximum⟩, hdebit⟩, hmaximumDebit⟩ := hvalid
  exact ⟨hquoted, hmaximum, hdebit, hmaximumDebit⟩

/-- The members of a roll are the same exactly when its decimals are written the same. -/
theorem rollAuthorityPayload_inj (hterms : SameTerms a b) :
    rollAuthorityPayload a = rollAuthorityPayload b ↔
      a.quotedRelativeSpread = b.quotedRelativeSpread ∧
      a.maximumRelativeSpread = b.maximumRelativeSpread ∧
      a.incrementalDebit = b.incrementalDebit ∧
      a.maximumIncrementalDebit = b.maximumIncrementalDebit := by
  by_cases hroll : b.action = .roll
  · simp only [rollAuthorityPayload, hterms.action, hroll, hterms.marketSessionId, if_true,
      List.cons.injEq, Prod.mk.injEq, optionalDecimalText_inj, true_and, and_true]
  · have ha := a.rollValues_none (hterms.action ▸ hroll)
    have hb := b.rollValues_none hroll
    simp only [rollAuthorityPayload, hterms.action, hroll, if_false, ha, hb, and_self]

/-- Equal envelopes have the same intent document exactly when they write their limits the same. -/
theorem intentDocument_inj (hterms : SameTerms a b) :
    intentDocument a = intentDocument b ↔ SameLimits a b := by
  simp only [intentDocument, hterms.accountFingerprint, hterms.policyHash,
    hterms.authorizationCertificateId, hterms.action, hterms.legs, hterms.quantity,
    hterms.positionOrBookFingerprint, Json.object.injEq, List.cons_append, List.nil_append,
    List.cons.injEq, Prod.mk.injEq, decimalText_inj, rollAuthorityPayload_inj hterms, true_and]
  constructor
  · rintro ⟨hminimum, hmaximum, hquoted, hspread, hdebit, hmaximumDebit⟩
    exact ⟨hminimum, hmaximum, hquoted, hspread, hdebit, hmaximumDebit⟩
  · rintro ⟨hminimum, hmaximum, hquoted, hspread, hdebit, hmaximumDebit⟩
    exact ⟨hminimum, hmaximum, hquoted, hspread, hdebit, hmaximumDebit⟩

/-- Equal envelopes have the same document exactly when they write their limits and their loss the
same. -/
theorem orderEnvelopeDocument_inj (hterms : SameTerms a b) :
    orderEnvelopeDocument a = orderEnvelopeDocument b ↔ SameWritten a b := by
  simp only [orderEnvelopeDocument, hterms.action, hterms.legs, hterms.quantity, hterms.eventKey,
    hterms.tradingDay, Json.object.injEq, List.cons_append, List.nil_append,
    List.cons.injEq, Prod.mk.injEq, decimalText_inj, rollAuthorityPayload_inj hterms, true_and]
  constructor
  · rintro ⟨hminimum, hmaximum, hloss, hquoted, hspread, hdebit, hmaximumDebit⟩
    exact ⟨⟨hminimum, hmaximum, hquoted, hspread, hdebit, hmaximumDebit⟩, hloss⟩
  · rintro ⟨⟨hminimum, hmaximum, hquoted, hspread, hdebit, hmaximumDebit⟩, hloss⟩
    exact ⟨hminimum, hmaximum, hloss, hquoted, hspread, hdebit, hmaximumDebit⟩

variable [Digest]

/-- The documents of two envelopes do not collide: they have the same digest only when they are the
same. -/
structure NoCollision (a b : OrderEnvelope) : Prop where
  intent : intentDigest a = intentDigest b → intentDocument a = intentDocument b
  envelope : orderEnvelopeHash a = orderEnvelopeHash b →
    orderEnvelopeDocument a = orderEnvelopeDocument b

theorem intentDigest_eq_iff (hterms : SameTerms a b) (hfree : NoCollision a b) :
    intentDigest a = intentDigest b ↔ SameLimits a b := by
  rw [← intentDocument_inj hterms]
  exact ⟨hfree.intent, fun h => congrArg Digest.authorityHash h⟩

theorem orderEnvelopeHash_eq_iff (hterms : SameTerms a b) (hfree : NoCollision a b) :
    orderEnvelopeHash a = orderEnvelopeHash b ↔ SameWritten a b := by
  rw [← orderEnvelopeDocument_inj hterms]
  exact ⟨hfree.envelope, fun h => congrArg Digest.authorityHash h⟩

end Equal

/-! ## Approvals in the database -/

section

variable [Digest] {db after : Database} {role : AccountRole} {envelope : OrderEnvelope}
  {intentId : Uuid} {existing : ExecutionIntent}

/-- An intent is on record for the digest of an envelope: its row is read as the intent, and its
envelope equals the one that was approved. -/
structure Recorded (db : Database) (role : AccountRole) (envelope : OrderEnvelope)
    (existing : ExecutionIntent) : Prop where
  executable : ensureExecutableRole role = .ok ()
  row : ∃ row ∈ db.intents.rows, row.intentDigest = intentDigest envelope ∧
    intentFromRow db row = .ok existing
  role : existing.accountRole = role
  envelope : (existing.envelope == envelope) = true

omit [Digest] in
theorem intentDigests_unique (db : Database) :
    Unique (fun row : ExecutionIntentRow => some row.intentDigest) db.intents.rows := by
  refine db.intents.unique fun left right hclash => ?_
  simp only [intentSchema, Bool.or_eq_false_iff] at hclash
  simpa [clashOn] using hclash.1.1.1.1.2

theorem intentFromRow_digest {row : ExecutionIntentRow}
    (h : intentFromRow db row = .ok existing) :
    existing.digest = row.intentDigest ∧ existing.envelope = row.envelope ∧
      existing.accountRole = row.accountRole ∧ intentDigest row.envelope = row.intentDigest := by
  simp only [intentFromRow, require_bind_ok, check_bind_ok, raiseIf_ok, Bool.not_eq_false',
    ExecutionIntentRow.matchesEnvelope, Bool.and_eq_true, beq_iff_eq] at h
  obtain ⟨account, -, hmatches, h⟩ := h
  cases h
  exact ⟨rfl, rfl, rfl, hmatches.2⟩

theorem approveIntent_recorded
    (h : approveIntent db intentId role envelope = .ok (after, existing)) :
    Recorded after role envelope existing := by
  simp only [approveIntent, check_bind_ok] at h
  obtain ⟨hexecutable, h⟩ := h
  split at h
  · rename_i row hfound
    obtain ⟨hmem, hdigest⟩ := lookup_some hfound
    unfold sameIntent at h
    obtain ⟨found, hread, h⟩ := bind_ok.mp h
    simp only [check_bind_ok, raiseIf_ok, Bool.or_eq_false_iff, bne_eq_false_iff_eq] at h
    obtain ⟨⟨hrole, hequal⟩, h⟩ := h
    cases h
    refine ⟨hexecutable, ⟨row, hmem, hdigest, hread⟩, hrole, ?_⟩
    rwa [bne, Bool.not_eq_false'] at hequal
  · simp only [conflictAs_ok, approveNew, check_bind_ok] at h
    obtain ⟨-, -, h⟩ := h
    obtain ⟨middle, hadd, h⟩ := bind_ok.mp h
    obtain ⟨approved, hread, h⟩ := bind_ok.mp h
    cases h
    obtain ⟨-, henvelope, hrole, -⟩ := intentFromRow_digest hread
    refine ⟨hexecutable, ⟨_, ?_, rfl, hread⟩, hrole, ?_⟩
    · rw [Database.addIntent_rows hadd]
      exact List.mem_append_right _ List.mem_cons_self
    · rw [henvelope]
      exact envelope.beq_self

/-- Approving an envelope that equals one on record returns the intent on record and changes
nothing, exactly when the two have the same digest. -/
theorem Recorded.approve_iff {again : OrderEnvelope} (h : Recorded db role envelope existing)
    (hequal : (existing.envelope == again) = true) (newId : Uuid) :
    approveIntent db newId role again = .ok (db, existing) ↔
      intentDigest envelope = intentDigest again := by
  obtain ⟨row, hmem, hdigest, hread⟩ := h.row
  obtain ⟨hkept, -, -, -⟩ := intentFromRow_digest hread
  constructor
  · intro happroved
    obtain ⟨other, -, hotherDigest, hotherRead⟩ := (approveIntent_recorded happroved).row
    obtain ⟨hotherKept, -, -, -⟩ := intentFromRow_digest hotherRead
    rw [← hdigest, ← hkept, hotherKept, hotherDigest]
  · intro hsame
    have hfound : lookup ExecutionIntentRow.intentDigest (intentDigest again) db.intents.rows =
        some row := by
      rw [← hsame, ← hdigest]
      exact lookup_of_mem (intentDigests_unique db) hmem
    have hrole : (existing.accountRole != role) = false := bne_eq_false_iff_eq.mpr h.role
    have henvelope : (existing.envelope != again) = false := by
      rw [bne, hequal]
      rfl
    simp only [approveIntent, h.executable, ok_bind, hfound, sameIntent, hread, hrole, henvelope,
      Bool.or_false]
    rfl

end

end AlphaDecay

namespace AlphaDecay.Memory

open Foundation

section Approvals

variable [Digest] {limits : Option EntryBudgetLimits} {store next : Store}
variable {role : AccountRole} {intentId : Uuid} {envelope : OrderEnvelope}

/-! ## Approvals in memory -/

/-- The index by digests leads to intents with these digests. -/
def Indexed (store : Store) : Prop :=
  ∀ digest id, store.digestIds.get digest = some id →
    ∃ intent, store.intents.get id = some intent ∧ intentDigest intent.envelope = digest

structure IndexKept (store next : Store) : Prop where
  digestIds : next.digestIds = store.digestIds
  intents : ∀ id intent, store.intents.get id = some intent →
    ∃ kept, next.intents.get id = some kept ∧ kept.envelope = intent.envelope

omit [Digest] in
theorem IndexKept.of_intents (hdigests : next.digestIds = store.digestIds)
    (hintents : next.intents = store.intents) : IndexKept store next :=
  ⟨hdigests, fun _ intent hget => ⟨intent, hintents ▸ hget, rfl⟩⟩

omit [Digest] in
/-- A store in which one intent changes but for its envelope keeps the index. -/
theorem IndexKept.of_change {id : Uuid} {old new : ExecutionIntent}
    (hdigests : next.digestIds = store.digestIds) (hget : store.intents.get id = some old)
    (hintents : next.intents = store.intents.set id new) (henvelope : new.envelope = old.envelope) :
    IndexKept store next := by
  refine ⟨hdigests, fun other intent hother => ?_⟩
  rw [hintents, Dict.get_set]
  split
  · rename_i heq
    subst heq
    rw [hget] at hother
    cases hother
    exact ⟨new, rfl, henvelope⟩
  · exact ⟨intent, hother, rfl⟩

omit [Digest] in
theorem IndexKept.trans {middle : Store} (h : IndexKept store middle)
    (hnext : IndexKept middle next) : IndexKept store next := by
  refine ⟨hnext.digestIds.trans h.digestIds, fun id intent hget => ?_⟩
  obtain ⟨kept, hkept, henvelope⟩ := h.intents id intent hget
  obtain ⟨last, hlast, hsame⟩ := hnext.intents id kept hkept
  exact ⟨last, hlast, hsame.trans henvelope⟩

omit [Digest] in
theorem recoverReservations_index (intents : List ExecutionIntent)
    (h : intents.foldlM recoverReservation store = .ok next) : IndexKept store next := by
  induction intents generalizing store with
  | nil =>
      cases h
      exact .of_intents rfl rfl
  | cons intent rest ih =>
      rw [List.foldlM_cons] at h
      obtain ⟨middle, hone, hrest⟩ := bind_ok.mp h
      refine IndexKept.trans ?_ (ih hrest)
      unfold recoverReservation at hone
      split at hone
      · simp only [require_bind_ok] at hone
        obtain ⟨budget, -, hone⟩ := hone
        cases hone
        exact .of_intents rfl rfl
      · cases hone
        exact .of_intents rfl rfl

/-- A claim keeps the index. -/
theorem claimIntent_index {now : Int} {token : Uuid} {actor : Actor} {fingerprint : String}
    (h : claimIntent limits now token intentId actor role fingerprint store = .ok next) :
    IndexKept store next := by
  simp only [claimIntent, require_bind_ok, check_bind_ok, raiseIf_ok] at h
  obtain ⟨intent, hget, -, -, account, -, -, -, -, -, -, h⟩ := h
  obtain ⟨reserved, hreserve, h⟩ := bind_ok.mp h
  cases h
  have hkept : reserved.digestIds = store.digestIds ∧ reserved.intents = store.intents := by
    unfold authorizeClaim at hreserve
    split at hreserve
    · simp only [reserveEntry, check_bind_ok, require_bind_ok] at hreserve
      obtain ⟨-, -, budget, -, -, -, -, hreserve⟩ := hreserve
      cases hreserve
      exact ⟨rfl, rfl⟩
    · simp only [check_bind_ok] at hreserve
      obtain ⟨-, hreserve⟩ := hreserve
      cases hreserve
      exact ⟨rfl, rfl⟩
  have hintents := congrArg
    (fun intents => intents.set intentId (claimed intent actor account now token)) hkept.2
  exact .of_change hkept.1 hget hintents rfl

/-- Every call keeps the index but an approval. -/
theorem apply_index {call : Call} (h : apply limits call store = .ok next)
    (hother : ∀ intentId role envelope, call ≠ .approveIntent intentId role envelope) :
    IndexKept store next := by
  cases call with
  | registerAccount role fingerprint equity =>
      simp only [apply, registerAccount, check_bind_ok] at h
      obtain ⟨-, -, -, h⟩ := h
      cases h
      exact .of_intents rfl rfl
  | setAutonomousEnabled role enabled actor =>
      simp only [apply, setAutonomousEnabled, check_bind_ok, require_bind_ok] at h
      obtain ⟨-, -, account, -, h⟩ := h
      cases h
      exact .of_intents rfl rfl
  | captureBaseline role baseline =>
      simp only [apply, captureBaseline, check_bind_ok, require_bind_ok] at h
      obtain ⟨-, -, account, -, -, -, h⟩ := h
      cases h
      exact .of_intents rfl rfl
  | observeAccountAdjustment role activity =>
      simp only [apply, observeAccountAdjustment, check_bind_ok] at h
      obtain ⟨-, h⟩ := h
      split at h <;> cases h <;> exact .of_intents rfl rfl
  | addAssessmentCertificate certificate =>
      simp only [apply, addAssessmentCertificate, check_bind_ok] at h
      obtain ⟨-, -, -, -, h⟩ := h
      cases h
      exact .of_intents rfl rfl
  | addEntryApproval approval =>
      simp only [apply, addEntryApproval, check_bind_ok] at h
      obtain ⟨-, -, -, h⟩ := h
      cases h
      exact .of_intents rfl rfl
  | approveIntent intentId role envelope => exact absurd rfl (hother intentId role envelope)
  | claimIntent now token intentId actor role fingerprint => exact claimIntent_index h
  | releaseUnsubmittedClaim intentId =>
      simp only [apply, releaseUnsubmittedClaim, require_bind_ok, check_bind_ok] at h
      obtain ⟨intent, hget, attempts, -, -, budget, -, h⟩ := h
      cases h
      exact .of_change rfl hget rfl rfl
  | addAttempt attempt =>
      simp only [apply, addAttempt, require_bind_ok, check_bind_ok] at h
      obtain ⟨-, attempts, -, -, -, h⟩ := h
      cases h
      exact .of_intents rfl rfl
  | replaceAttempt attempt =>
      simp only [apply, replaceAttempt, require_bind_ok, check_bind_ok] at h
      obtain ⟨-, attempts, -, existing, -, -, -, -, h⟩ := h
      cases h
      exact .of_intents rfl rfl
  | finalizeExecution now certificate reconciliation requestedStatus =>
      simp only [apply, finalizeExecution, require_bind_ok, check_bind_ok] at h
      obtain ⟨-, -, intent, hget, -, attempts, -, h⟩ := h
      obtain ⟨⟨normalized, hasFill⟩, -, h⟩ := bind_ok.mp h
      simp only [require_bind_ok] at h
      obtain ⟨account, -, budget, -, h⟩ := h
      obtain ⟨charged, -, h⟩ := bind_ok.mp h
      cases h
      exact .of_change rfl hget rfl rfl
  | recoverEntryReservations => exact recoverReservations_index _ h

/-- An approval of a new intent adds it to the index. -/
theorem approveIntent_new (h : approveIntent intentId role envelope store = .ok next) :
    ensureExecutableRole role = .ok () ∧ ((next = store ∧ ∃ id existing,
        store.digestIds.get (intentDigest envelope) = some id ∧
        store.intents.get id = some existing ∧ existing.accountRole = role ∧
        (existing.envelope == envelope) = true) ∨
      (store.intents.get intentId = none ∧ next = addApproved intentId role envelope store)) := by
  simp only [approveIntent, check_bind_ok] at h
  obtain ⟨hexecutable, h⟩ := h
  refine ⟨hexecutable, ?_⟩
  split at h
  · rename_i id hid
    simp only [require_bind_ok, check_bind_ok, raiseIf_ok, Bool.or_eq_false_iff,
      bne_eq_false_iff_eq] at h
    obtain ⟨existing, hget, ⟨hrole, hequal⟩, h⟩ := h
    cases h
    rw [bne, Bool.not_eq_false'] at hequal
    exact .inl ⟨rfl, id, existing, hid, hget, hrole, hequal⟩
  · simp only [approveNew, require_bind_ok, check_bind_ok, raiseIf_ok, Option.isSome_eq_false_iff,
      Option.isNone_iff_eq_none] at h
    obtain ⟨hnew, -, account, -, -, h⟩ := h
    cases h
    exact .inr ⟨hnew, rfl⟩

/-- An approval keeps the index right. -/
theorem Indexed.approve (hindexed : Indexed store)
    (h : approveIntent intentId role envelope store = .ok next) : Indexed next := by
  obtain ⟨-, ⟨rfl, -⟩ | ⟨hnew, rfl⟩⟩ := approveIntent_new h
  · exact hindexed
  · intro digest id hid
    simp only [addApproved, Dict.get_set] at hid ⊢
    split at hid
    · rename_i hdigest
      cases hid
      exact ⟨_, if_pos rfl, hdigest⟩
    · obtain ⟨intent, hget, hintent⟩ := hindexed digest id hid
      have hne : intentId ≠ id := by
        rintro rfl
        rw [hnew] at hget
        cases hget
      exact ⟨intent, by rw [if_neg hne]; exact hget, hintent⟩

/-- The index of every reachable store leads to intents with the digests. -/
theorem Indexed.of_reachable (h : (repository limits).Reachable store) : Indexed store := by
  refine h.invariant ?_ ?_
  · rintro _ rfl digest id hid
    cases hid
  · intro state call after hindexed hstep
    rcases hstep with hstep | ⟨-, rfl⟩
    · by_cases happroval : ∃ intentId role envelope, call = .approveIntent intentId role envelope
      · obtain ⟨intentId, role, envelope, rfl⟩ := happroval
        exact hindexed.approve hstep
      · simp only [not_exists] at happroval
        have hkept := apply_index hstep happroval
        intro digest id hid
        rw [hkept.digestIds] at hid
        obtain ⟨intent, hget, hdigest⟩ := hindexed digest id hid
        obtain ⟨kept, hlast, henvelope⟩ := hkept.intents id intent hget
        exact ⟨kept, hlast, henvelope ▸ hdigest⟩
    · exact hindexed

structure Recorded (store : Store) (role : AccountRole) (envelope : OrderEnvelope) (id : Uuid) :
    Prop where
  executable : ensureExecutableRole role = .ok ()
  indexed : store.digestIds.get (intentDigest envelope) = some id
  intent : ∃ existing, store.intents.get id = some existing ∧ existing.accountRole = role ∧
    (existing.envelope == envelope) = true

theorem approveIntent_recorded (h : approveIntent intentId role envelope store = .ok next) :
    ∃ id, Recorded next role envelope id := by
  obtain ⟨hexecutable, ⟨rfl, id, existing, hid, hget, hrole, hequal⟩ | ⟨-, rfl⟩⟩ :=
    approveIntent_new h
  · exact ⟨id, hexecutable, hid, existing, hget, hrole, hequal⟩
  · let approved : ExecutionIntent :=
      { intentId, accountRole := role, envelope, digest := intentDigest envelope
        state := .approved }
    have hget : (addApproved intentId role envelope store).intents.get intentId =
        some approved := by
      simp only [addApproved, Dict.get_set, if_true, approved]
    have hid : (addApproved intentId role envelope store).digestIds.get (intentDigest envelope) =
        some intentId := by
      simp only [addApproved, Dict.get_set, if_true]
    exact ⟨intentId, hexecutable, hid, approved, hget, rfl, envelope.beq_self⟩

/-- Approving an envelope that equals one on record finds the intent on record and changes nothing,
exactly when the two have the same digest. -/
theorem Recorded.approve_iff (hreachable : (repository limits).Reachable store)
    {again : OrderEnvelope} {id : Uuid} (h : Recorded store role envelope id)
    (hequal : (envelope == again) = true) (newId : Uuid) :
    (approveIntent newId role again store = .ok store ∧
      store.digestIds.get (intentDigest again) = some id) ↔
      intentDigest envelope = intentDigest again := by
  constructor
  · rintro ⟨-, hid⟩
    obtain ⟨intent, hget, hdigest⟩ := Indexed.of_reachable hreachable _ _ h.indexed
    obtain ⟨other, hother, hotherDigest⟩ := Indexed.of_reachable hreachable _ _ hid
    rw [hget] at hother
    cases hother
    exact hdigest.symm.trans hotherDigest
  · intro hsame
    obtain ⟨existing, hget, hrole, henvelope⟩ := h.intent
    have hid : store.digestIds.get (intentDigest again) = some id := hsame ▸ h.indexed
    have hmatch : (existing.envelope != again) = false := by
      rw [bne, OrderEnvelope.beq_trans henvelope hequal]
      rfl
    refine ⟨?_, hid⟩
    simp only [approveIntent, h.executable, ok_bind, hid, hget, require, hrole, hmatch,
      bne_self_eq_false, Bool.or_false]
    rfl

end Approvals

end AlphaDecay.Memory

namespace AlphaDecay

open Foundation

/-! ## The law -/

section

variable [Digest] {a b : OrderEnvelope}

/-- Equal envelopes have the same digests exactly when they write all their decimals the same. An
intent that was approved is on record in the database and in memory, and approving an equal
envelope returns the intent on record, and adds none, exactly when the two write their limits the
same. -/
theorem equalEnvelopes_agree_iff (hequal : (a == b) = true) (hfree : NoCollision a b) :
    ((intentDigest a = intentDigest b ∧ orderEnvelopeHash a = orderEnvelopeHash b) ↔
      SameWritten a b) ∧
    (∀ db intentId role after existing,
      approveIntent db intentId role a = .ok (after, existing) → Recorded after role a existing) ∧
    (∀ db role existing, Recorded db role a existing → ∀ newId,
      (approveIntent db newId role b = .ok (db, existing) ↔ SameLimits a b)) ∧
    (∀ intentId role store next, Memory.approveIntent intentId role a store = .ok next →
      ∃ id, Memory.Recorded next role a id) ∧
    (∀ limits role store id, (Memory.repository limits).Reachable store →
      Memory.Recorded store role a id → ∀ newId,
      ((Memory.approveIntent newId role b store = .ok store ∧
        store.digestIds.get (intentDigest b) = some id) ↔ SameLimits a b)) := by
  have hterms := sameTerms_of_beq hequal
  have hintent := intentDigest_eq_iff hterms hfree
  have henvelope := orderEnvelopeHash_eq_iff hterms hfree
  refine ⟨?_, ?_, ?_, ?_, ?_⟩
  · rw [hintent, henvelope]
    exact ⟨fun h => h.2, fun h => ⟨h.1, h⟩⟩
  · intro db intentId role after existing h
    exact approveIntent_recorded h
  · intro db role existing h newId
    rw [← hintent]
    exact h.approve_iff (OrderEnvelope.beq_trans h.envelope hequal) newId
  · intro intentId role store next h
    exact Memory.approveIntent_recorded h
  · intro limits role store id hreachable h newId
    rw [← hintent]
    exact h.approve_iff hreachable hequal newId

end

section Rehearsed

open Rehearsal

/-- The number of the text in which a document writes the minimum limit. -/
def limitCode : Json → Nat
  | .object members =>
      match members.lookup "minimum_limit" with
      | some (.text limit) => codeOfText limit
      | _ => 0
  | _ => 0

/-- Digests that tell documents apart by the text of their minimum limit. -/
@[reducible] def limitDigest : Digest where
  authorityHash document := String.ofList (Text.fixedDigits 16 64 (limitCode document))
  agentHash _ := ""
  uuid5 name := Uuid.ofNat (codeOfText name)
  authorityHash_isHash document := isHash_fixedDigits (limitCode document)

attribute [local instance] limitDigest

/-- An order that closes the entry, with a minimum limit of one dollar that is written with some
exponent. -/
def closingFields (minimumLimit : Decimal) : OrderEnvelopeFields :=
  { envelopeFields with action := .close, minimumLimit }

/-- The order with the limit written with one digit after the point. -/
def closingTenths : OrderEnvelope := ⟨closingFields ⟨false, 10, -1⟩, by decide +kernel⟩

/-- The order with the limit written with two digits after the point. -/
def closingCents : OrderEnvelope := ⟨closingFields ⟨false, 100, -2⟩, by decide +kernel⟩

/-- The account is registered and two orders are approved. -/
def approving (first second : OrderEnvelope) : List Memory.Call := [
  .registerAccount .submission fingerprint (dollars 100000),
  .approveIntent (Uuid.ofNat 10) .submission first,
  .approveIntent (Uuid.ofNat 11) .submission second]

/-- The approvals end in a store with some number of intents, whose envelopes all equal the first
one. -/
def approvesAs (first second : OrderEnvelope) (count : Nat) : Bool :=
  match Memory.callAll none (approving first second) {} with
  | .ok store => store.intents.values.length == count &&
      store.intents.values.all fun intent => intent.envelope == first
  | .error _ => false

/-- Approvals that end in such a store are a run. -/
theorem exists_approvals {first second : OrderEnvelope} {count : Nat}
    (h : approvesAs first second count = true) : ∃ store,
      (Memory.repository none).Run {} (approving first second) store ∧
      store.intents.values.length = count ∧
      ∀ intent ∈ store.intents.values, (intent.envelope == first) = true := by
  unfold approvesAs at h
  split at h
  · rename_i store hstore
    rw [Bool.and_eq_true, beq_iff_eq, List.all_eq_true] at h
    exact ⟨store, Memory.run_of_callAll hstore, h.1, h.2⟩
  · cases h

/-- The order is approved after the account was registered. -/
theorem exists_approved : ∃ store next, (Memory.repository none).Reachable next ∧
    Memory.approveIntent (Uuid.ofNat 10) .submission closingTenths store = .ok next := by
  have happroved : approvesAs closingTenths closingTenths 1 = true := by decide +kernel
  unfold approvesAs at happroved
  split at happroved
  · rename_i last hlast
    simp only [Memory.callAll, approving, List.foldlM_cons] at hlast
    obtain ⟨store, hregister, hlast⟩ := bind_ok.mp hlast
    obtain ⟨next, happrove, -⟩ := bind_ok.mp hlast
    have hfirst : (Memory.repository none).step {}
        (.registerAccount .submission fingerprint (dollars 100000)) store := .inl hregister
    have hsecond : (Memory.repository none).step store
        (.approveIntent (Uuid.ofNat 10) .submission closingTenths) next := .inl happrove
    exact ⟨store, next, ⟨{}, _, rfl, .cons hfirst (.single hsecond)⟩, happrove⟩
  · cases happroved

/-- In the rehearsal the order is approved, and approving it again changes nothing. -/
theorem equalEnvelopes_agree_rehearsed : ∃ (store next : Memory.Store),
    Memory.approveIntent (Uuid.ofNat 10) .submission closingTenths store = .ok next ∧
    ∀ newId, Memory.approveIntent newId .submission closingTenths next = .ok next := by
  obtain ⟨store, next, hreachable, happroved⟩ := exists_approved
  obtain ⟨-, -, -, hrecorded, hagain⟩ :=
    equalEnvelopes_agree_iff closingTenths.beq_self ⟨fun _ => rfl, fun _ => rfl⟩
  obtain ⟨id, hid⟩ := hrecorded _ _ _ _ happroved
  refine ⟨store, next, happroved, fun newId => ?_⟩
  have hsame : SameLimits closingTenths closingTenths := ⟨rfl, rfl, rfl, rfl, rfl, rfl⟩
  exact ((hagain none .submission next id hreachable hid newId).mpr hsame).1

/-- Two equal envelopes that write their minimum limit with one and with two digits after the point
have different digests and are approved as two intents. -/
theorem equalEnvelopes_split : (closingTenths == closingCents) = true ∧
    intentDigest closingTenths ≠ intentDigest closingCents ∧
    orderEnvelopeHash closingTenths ≠ orderEnvelopeHash closingCents ∧
    ∃ store, (Memory.repository none).Run {} (approving closingTenths closingCents) store ∧
      store.intents.values.length = 2 ∧
      ∀ intent ∈ store.intents.values, (intent.envelope == closingTenths) = true := by
  have happroved : approvesAs closingTenths closingCents 2 = true := by decide +kernel
  refine ⟨?_, ?_, ?_, exists_approvals happroved⟩ <;> decide +kernel

end Rehearsed

end AlphaDecay
