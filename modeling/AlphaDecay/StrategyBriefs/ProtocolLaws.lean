import AlphaDecay.StrategyBriefs.Protocol
import AlphaDecay.StrategyBriefs.ProtocolNumbers

/-!
# Compiled protocols verify

The dictionary that a protocol is compiled from and the dump of the protocol are the same document,
so that a compiled protocol has its hash: `jsonEntries_material`. The document determines the fields
of the protocol, so that a protocol with other fields has another document.
-/

namespace AlphaDecay.StrategyBriefs

open Foundation Foundation.Json

section General

variable [Digest]
variable {protocol : CompiledStrategyProtocol}

/-- Two documents with different texts have the same digest. -/
def Collide (left right : Json) : Prop :=
  left.canonicalText true ≠ right.canonicalText true ∧
    Digest.authorityHash left = Digest.authorityHash right

/-! ## The two encoders -/

omit [Digest] in
/-- The names of values are dumped one by one. -/
theorem jsonValue_names {α : Type} (text : α → String) (values : List α) :
    jsonValue (names text values) = .array (values.map fun value => .text (text value)) := by
  have hitems : jsonItems (values.map fun value => .name (text value)) =
      values.map fun value => .text (text value) := by
    induction values with
    | nil => rfl
    | cons value values ih => rw [List.map_cons, jsonItems, jsonValue, ih, List.map_cons]
  rw [names, jsonValue, hitems]

omit [Digest] in
/-- The dictionary of a protocol is the dump of its material. -/
theorem jsonEntries_material {material : ProtocolMaterial Decimal}
    (h : material.constants = .standard) :
    jsonValue (.dict (materialEntries material)) = materialCodec.write material := by
  have hconstants : constantsFields.write material.constants.parts =
      constantsFields.write ProtocolConstants.standard.parts := by rw [h]
  simp only [materialEntries, definitionEntries, List.cons_append, List.nil_append, jsonValue,
    jsonEntries, jsonValue_names]
  show _ = Json.object (constantsFields.write material.constants.parts ++ _)
  rw [hconstants]
  rfl

omit [Digest] in
/-- A hashed document has no name twice when the dump in it has none. -/
theorem keyed_hashed {domain : String} {dumped : Json} (h : Keyed dumped) :
    Keyed (hashedDocument domain (.model dumped)) := by
  refine .object (by simp) fun pair hpair => ?_
  simp only [List.mem_cons, List.not_mem_nil, or_false] at hpair
  rcases hpair with rfl | rfl
  · exact .text _
  · exact h

omit [Digest] in
theorem keyed_compiledDocument (protocol : CompiledStrategyProtocol) :
    Keyed (compiledDocument protocol) :=
  keyed_hashed (materialCodec_lawful.keyed _)

omit [Digest] in
/-- Valid protocols with the same text have materials with equal fields. -/
theorem map_value_eq_of_text {left right : CompiledStrategyProtocol} (hleft : left.Valid)
    (hright : right.Valid)
    (h : (compiledDocument left).canonicalText true = (compiledDocument right).canonicalText true) :
    left.toProtocolMaterial.map Decimal.value = right.toProtocolMaterial.map Decimal.value := by
  have hsorted := sorted_of_canonicalText (keyed_compiledDocument left)
    (keyed_compiledDocument right) h
  have hfree := materialCodec_lawful.orderFree.field "value"
  have hread : ((compiledDocument left).field "value").bind materialCodec.read =
      ((compiledDocument right).field "value").bind materialCodec.read := by
    refine (hfree _ (keyed_compiledDocument left)).symm.trans ?_
    rw [hsorted]
    exact hfree _ (keyed_compiledDocument right)
  have hwritten : materialCodec.read (materialCodec.write left.toProtocolMaterial) =
      materialCodec.read (materialCodec.write right.toProtocolMaterial) := hread
  rw [readMaterial_write hleft, readMaterial_write hright] at hwritten
  exact map_value_eq_of_canonical (Option.some.inj hwritten)

/-! ## Verifying -/

theorem verify_iff :
    verifyCompiledProtocol protocol = true ↔
      protocol.Valid ∧ protocol.protocolHash = compiledProtocolHash protocol := by
  simp [verifyCompiledProtocol]

/-- The hash of a protocol that verifies is not found to be a mismatch. -/
theorem evaluate_of_verify (h : verifyCompiledProtocol protocol = true)
    (observations : ProtocolObservationSet) :
    evaluateCompiledProtocol protocol observations ≠
      .error (.evaluationBlocked "PROTOCOL_HASH_MISMATCH") := by
  obtain ⟨-, hhash⟩ := verify_iff.mp h
  intro hraised
  rw [evaluateCompiledProtocol, bind_error] at hraised
  rcases hraised with hinput | ⟨-, -, hraised⟩
  · have hcodes := (raiseIf_error.mp hinput).2
    simp at hcodes
  rw [bind_error] at hraised
  rcases hraised with hmismatch | ⟨-, -, hraised⟩
  · have hdiffers := (raiseIf_error.mp hmismatch).1
    simp [hhash] at hdiffers
  dsimp only at hraised
  rw [bind_error] at hraised
  rcases hraised with hincomplete | ⟨-, -, hkey⟩
  · have hcodes := (raiseIf_error.mp hincomplete).2
    simp at hcodes
  · have hcodes := (require_error.mp hkey).2
    simp at hcodes

/-- A protocol that verifies still does with other digits for its numbers. -/
theorem verify_kept {f : Decimal → Decimal} (hf : ∀ d, (f d).value = d.value)
    (h : verifyCompiledProtocol protocol = true) :
    verifyCompiledProtocol (protocol.map f) = true := by
  obtain ⟨hvalid, hhash⟩ := verify_iff.mp h
  have hdocument : compiledDocument (protocol.map f) = compiledDocument protocol :=
    congrArg (fun dumped => hashedDocument "compiled.v1" (.model dumped))
      (material_written hf protocol.toProtocolMaterial)
  refine verify_iff.mpr ⟨(protocol_kept hf protocol).mpr hvalid, ?_⟩
  rw [compiledProtocolHash, hdocument]
  exact hhash

omit [Digest] in
theorem validate_dump (h : protocol.Valid) :
    validateProtocol (dumpProtocol protocol) = some (protocol.map canonicalForm) := by
  rw [validateProtocol, dumpProtocol, loads_dumps false (protocolCodec_lawful.keyed protocol),
    Option.bind_some, readProtocol_write h]
  simp [(protocol_kept value_canonicalForm protocol).mpr h]

/-- A protocol with another one's hash and other fields does not verify, when the two documents
do not collide. -/
theorem verify_changed {changed : CompiledStrategyProtocol}
    (h : verifyCompiledProtocol protocol = true)
    (hhash : changed.protocolHash = protocol.protocolHash)
    (hchanged : changed.map Decimal.value ≠ protocol.map Decimal.value)
    (hcollide : ¬ Collide (compiledDocument changed) (compiledDocument protocol)) :
    verifyCompiledProtocol changed = false := by
  by_contra hverified
  rw [Bool.not_eq_false] at hverified
  obtain ⟨hvalid, hown⟩ := verify_iff.mp h
  obtain ⟨hvalid', hown'⟩ := verify_iff.mp hverified
  have hdigests : Digest.authorityHash (compiledDocument changed) =
      Digest.authorityHash (compiledDocument protocol) := by
    rw [← compiledProtocolHash, ← compiledProtocolHash, ← hown, ← hown', hhash]
  by_cases htext : (compiledDocument changed).canonicalText true =
      (compiledDocument protocol).canonicalText true
  · have hmaterial := map_value_eq_of_text hvalid' hvalid htext
    exact hchanged (by rw [CompiledProtocolOf.map, CompiledProtocolOf.map, hmaterial, hhash])
  · exact hcollide ⟨htext, hdigests⟩

/-! ## Compiling -/

theorem verify_of_compile {schemas : CompilerSchemas} {request : ReviewedExecutableProtocolRequest}
    (h : compileReviewedProtocol schemas request = .ok protocol) :
    verifyCompiledProtocol protocol = true := by
  unfold compileReviewedProtocol at h
  rw [check_bind_ok] at h
  dsimp only at h
  rw [check_bind_ok, require_bind_ok] at h
  obtain ⟨-, -, symbol, -, h⟩ := h
  rw [require_bind_ok] at h
  obtain ⟨budget, -, h⟩ := h
  rw [require_bind_ok] at h
  obtain ⟨definition, -, h⟩ := h
  rw [check_bind_ok, check_bind_ok, check_bind_ok] at h
  obtain ⟨-, -, -, h⟩ := h
  rw [checkedProtocol] at h
  split at h
  · rename_i hvalid
    obtain rfl := Except.ok.inj h
    refine verify_iff.mpr ⟨hvalid, ?_⟩
    show Digest.authorityHash _ = Digest.authorityHash _
    rw [hashedDocument, jsonEntries_material rfl]
    rfl
  · cases h

/-- A protocol that is compiled from a reviewed request verifies and is evaluated without a mismatch
of its hash, also after it was dumped to JSON and validated back with the same fields. A protocol
with its hash and other fields does not verify, unless the two documents have the same digest. -/
theorem compiled_protocols_verify {schemas : CompilerSchemas}
    {request : ReviewedExecutableProtocolRequest} {protocol : CompiledStrategyProtocol}
    (h : compileReviewedProtocol schemas request = .ok protocol) :
    verifyCompiledProtocol protocol = true ∧
    (∀ observations, evaluateCompiledProtocol protocol observations ≠
      .error (.evaluationBlocked "PROTOCOL_HASH_MISMATCH")) ∧
    (∃ again, validateProtocol (dumpProtocol protocol) = some again ∧
      again.map Decimal.value = protocol.map Decimal.value ∧
      verifyCompiledProtocol again = true ∧
      ∀ observations, evaluateCompiledProtocol again observations ≠
        .error (.evaluationBlocked "PROTOCOL_HASH_MISMATCH")) ∧
    ∀ changed : CompiledStrategyProtocol, changed.protocolHash = protocol.protocolHash →
      changed.map Decimal.value ≠ protocol.map Decimal.value →
      ¬ Collide (compiledDocument changed) (compiledDocument protocol) →
      verifyCompiledProtocol changed = false := by
  have hverify := verify_of_compile h
  have hagain := verify_kept value_canonicalForm hverify
  refine ⟨hverify, evaluate_of_verify hverify, ⟨protocol.map canonicalForm,
    validate_dump (verify_iff.mp hverify).1, ?_, hagain, evaluate_of_verify hagain⟩,
    fun changed => verify_changed hverify⟩
  rw [CompiledProtocolOf.map_map, funext (f := Decimal.value ∘ canonicalForm) value_canonicalForm]

end General

/-! ## Rehearsal -/

section Rehearsed

theorem isHash_ones_zeros (c : Prop) [Decidable c] : isHash (if c then
    String.ofList (List.replicate 64 '1') else String.ofList (List.replicate 64 '0')) = true := by
  split <;> decide +kernel

/-- The digest of a rehearsal tells apart whether the symbol of a document is the one of SPY. -/
@[reducible] def symbolDigest : Digest where
  authorityHash document :=
    if ((document.field "value").bind (Json.field "symbol")).bind asText = some "SPY" then
      String.ofList (List.replicate 64 '1')
    else String.ofList (List.replicate 64 '0')
  agentHash _ := String.ofList (List.replicate 64 '0')
  uuid5 _ := Uuid.ofNat 0
  authorityHash_isHash _ := isHash_ones_zeros _

attribute [local instance] symbolDigest

def rehearsedSchemas : CompilerSchemas where
  definitionSchema := .object []
  ruleSchema := .object []
  compiledSchema := .object []

def rehearsedDefinition : ReviewedProtocolDefinition Decimal where
  opportunityKey := "SPY_DRIFT"
  definitionVersion := 1
  benchmarkSymbol := "QQQ"
  allowedEventCodes := ["MACRO"]
  thesisCode := "DRIFT"
  invalidationCodes := ["REVERSAL"]
  schedule := {
    eventSession := ⟨2026, 9, 1⟩
    preEventSession := ⟨2026, 9, 1⟩
    reactionSession := ⟨2026, 9, 1⟩
    signalSession := ⟨2026, 9, 2⟩
    dailyStartSession := ⟨2026, 9, 1⟩
    evidenceWindowStart := 63923864400000000
    evidenceWindowEnd := 63923952600000000
    entryWindowStart := 63923952600000000
    decisionBoundary := 63923954400000000
    entryWindowEnd := 63923976000000000 }
  selection := {
    minimumExpiry := ⟨2026, 9, 18⟩
    maximumExpiry := ⟨2026, 9, 25⟩
    minimumDte := 16
    targetDte := 20
    maximumDte := 23
    minimumStrike := .ofInt 400
    maximumStrike := .ofInt 420
    widthDollars := .ofInt 5
    quantity := 1
    maximumDebitPerShare := .ofInt 2
    maximumLossDollars := .ofInt 200
    maximumContractsConsidered := 64 }
  marketQuality := {
    maximumUnderlyingAgeSeconds := 60
    maximumOptionQuoteAgeSeconds := 30
    maximumLegQuoteSkewSeconds := 5
    maximumRelativeSpreadPercent := .ofInt 10
    minimumLegBidSize := 1
    minimumLegAskSize := 1 }
  maximumAccountRiskPercent := none

def rehearsedRule (sourceText : String) (predicate : ProtocolPredicate Decimal) : MachineRule where
  sourceText := sourceText
  mode := .all
  predicates := [predicate]

def rehearsedRules : ReviewedProtocolRules where
  entryRule := rehearsedRule "Above the average."
    (.numeric .underlyingLastPrice .greaterThan (.metric .underlyingSma20))
  noTradeRule := rehearsedRule "Below the long average."
    (.numeric .underlyingLastPrice .lessThan (.metric .underlyingSma50))
  profitExitRule := rehearsedRule "Half of the risk."
    (.numeric .positionReturnOnMaxRiskPercent .greaterThanOrEqual (.constant (.ofInt 50)))
  lossExitRule := rehearsedRule "Half is lost."
    (.numeric .positionReturnOnMaxRiskPercent .lessThanOrEqual (.constant (.ofInt (-50))))
  timeExitRule := rehearsedRule "A week before expiry."
    (.numeric .daysToExpiry .lessThanOrEqual (.constant (.ofInt 7)))
  invalidationRules := [rehearsedRule "Below the short average."
    (.numeric .underlyingLastPrice .lessThan (.metric .underlyingSma20))]

def rehearsedRequest : ReviewedExecutableProtocolRequest where
  curation := {
    intake := {
      source := ⟨.pastedText, "Buy the drift after the macro event.", none⟩
      marketScope := some "SPY"
      direction := some .bullish
      horizon := none
      evidence := ["The event was read as good."]
      invalidation := []
      riskBudget := some ⟨some (.ofInt 200), none⟩
      notes := none }
    protocolFields := {
      entryRule := some "Above the average."
      noTradeRule := some "Below the long average."
      profitExitRule := some "Half of the risk."
      lossExitRule := some "Half is lost."
      timeExitRule := some "A week before expiry."
      invalidationRules := ["Below the short average."] }
    classifications := ⟨.bullish, .bullCallDebitSpread, .ready, .ready, .ready, .ready, .high⟩
    blockingQuestions := []
    supportingEvidence := [⟨"evidence-1", "The event was read as good."⟩] }
  definition := some rehearsedDefinition
  rules := rehearsedRules

def rehearsedProtocol : CompiledStrategyProtocol where
  constants := .standard
  symbol := "SPY"
  direction := .bullish
  structure_ := .bullCallDebitSpread
  riskBudget := ⟨some (.ofInt 200), none⟩
  definition := rehearsedDefinition
  rules := compileRules rehearsedRules
  mandatorySafetyFacts := ProtocolFact.all
  sourceHash := String.ofList (List.replicate 64 '0')
  compilerHash := String.ofList (List.replicate 64 '0')
  definitionHash := String.ofList (List.replicate 64 '1')
  protocolHash := String.ofList (List.replicate 64 '1')

theorem rehearsedRequest_compiled :
    compileReviewedProtocol rehearsedSchemas rehearsedRequest = .ok rehearsedProtocol := by
  decide +kernel

/-- In the rehearsal the protocol verifies, also after a dump, and no longer verifies under the
symbol of another underlying. -/
theorem compiled_protocols_verify_rehearsed :
    (∃ again, validateProtocol (dumpProtocol rehearsedProtocol) = some again ∧
      again.map Decimal.value = rehearsedProtocol.map Decimal.value ∧
      verifyCompiledProtocol again = true ∧
      ∀ observations, evaluateCompiledProtocol again observations ≠
        .error (.evaluationBlocked "PROTOCOL_HASH_MISMATCH")) ∧
    verifyCompiledProtocol { rehearsedProtocol with symbol := "DIA" } = false := by
  obtain ⟨-, -, hagain, hchanged⟩ := compiled_protocols_verify rehearsedRequest_compiled
  refine ⟨hagain, hchanged { rehearsedProtocol with symbol := "DIA" } rfl ?_ ?_⟩
  · intro h
    have hsymbol := congrArg (fun protocol => protocol.symbol) h
    revert hsymbol
    decide
  · rintro ⟨-, hdigests⟩
    revert hdigests
    decide +kernel

end Rehearsed

end AlphaDecay.StrategyBriefs
