import AlphaDecay.Foundation.DecimalRounding
import AlphaDecay.StrategyBriefs.ProtocolCodec

/-!
# The numbers of a protocol

A change of the numbers of a protocol that keeps their values keeps its validity and its document.
The change to canonical decimals is one of these, and a protocol is read back from its document
with it: `readProtocol_write`. So the document of a protocol determines its fields up to the digits
of their numbers.
-/

namespace AlphaDecay.StrategyBriefs

open Foundation Foundation.Json

/-! ## Changing the numbers twice -/

section

variable {δ ε ζ : Type} (f : δ → ε) (g : ε → ζ)

@[simp] theorem ProtocolOperand.map_map (operand : ProtocolOperand δ) :
    (operand.map f).map g = operand.map (g ∘ f) := by
  cases operand <;> rfl

@[simp] theorem ProtocolPredicate.map_map (predicate : ProtocolPredicate δ) :
    (predicate.map f).map g = predicate.map (g ∘ f) := by
  cases predicate with
  | numeric left operator right =>
      exact congrArg (ProtocolPredicate.numeric left operator) (right.map_map f g)
  | fact read expected => rfl

@[simp] theorem CompiledMachineRule.map_map (rule : CompiledMachineRule δ) :
    (rule.map f).map g = rule.map (g ∘ f) := by
  simp [CompiledMachineRule.map]

@[simp] theorem CompiledProtocolRules.map_map (rules : CompiledProtocolRules δ) :
    (rules.map f).map g = rules.map (g ∘ f) := by
  simp [CompiledProtocolRules.map]

@[simp] theorem ReviewedProtocolDefinition.map_map (definition : ReviewedProtocolDefinition δ) :
    (definition.map f).map g = definition.map (g ∘ f) := by
  simp [ReviewedProtocolDefinition.map, DebitVerticalSelection.map, ProtocolMarketQuality.map]

@[simp] theorem ProtocolMaterial.map_map (material : ProtocolMaterial δ) :
    (material.map f).map g = material.map (g ∘ f) := by
  simp [ProtocolMaterial.map, StrategyRiskBudget.map]

@[simp] theorem CompiledProtocolOf.map_map (protocol : CompiledProtocolOf δ) :
    (protocol.map f).map g = protocol.map (g ∘ f) := by
  simp [CompiledProtocolOf.map]

end

/-! ## Changes that keep the values -/

section

variable {f : Decimal → Decimal} (hf : ∀ d, (f d).value = d.value)

include hf

theorem fitsDigits_kept (whole places : Nat) (d : Decimal) :
    FitsDigits whole places (f d) ↔ FitsDigits whole places d := by
  rw [FitsDigits, FitsDigits, hf]

theorem isMoney_kept (d : Decimal) : IsMoney (f d) ↔ IsMoney d := by
  rw [IsMoney, IsMoney, fitsDigits_kept hf, Decimal.lt_iff_value, Decimal.lt_iff_value, hf]

theorem isPercent_kept (d : Decimal) : IsPercent (f d) ↔ IsPercent d := by
  rw [IsPercent, IsPercent, fitsDigits_kept hf, Decimal.lt_iff_value, Decimal.lt_iff_value,
    Decimal.le_iff_value, Decimal.le_iff_value, hf]

/-- A valid selection stays valid. -/
theorem selection_kept (selection : DebitVerticalSelection Decimal) :
    (selection.map f).Valid ↔ selection.Valid := by
  have hwidth : ((selection.map f).maximumStrike - (selection.map f).minimumStrike).value =
      (selection.maximumStrike - selection.minimumStrike).value :=
    Decimal.value_sub_congr (hf _) (hf _)
  have hloss : ((selection.map f).maximumDebitPerShare * .ofInt (selection.map f).quantity *
      .ofInt 100).value =
      (selection.maximumDebitPerShare * .ofInt selection.quantity * .ofInt 100).value :=
    Decimal.value_mul_congr (Decimal.value_mul_congr (hf _) rfl) rfl
  simp only [DebitVerticalSelection.Valid, Decimal.lt_iff_value, Decimal.le_iff_value,
    Decimal.beq_iff_value, hwidth, hloss]
  simp only [DebitVerticalSelection.map, isMoney_kept hf, hf]

/-- A valid definition stays valid. -/
theorem definition_kept (definition : ReviewedProtocolDefinition Decimal) :
    (definition.map f).Valid ↔ definition.Valid := by
  have hselection := selection_kept hf definition.selection
  have hquality : (definition.marketQuality.map f).Valid ↔ definition.marketQuality.Valid := by
    simp only [ProtocolMarketQuality.Valid, ProtocolMarketQuality.map, isPercent_kept hf]
  have hpercent : (∀ percent ∈ definition.maximumAccountRiskPercent.map f, IsPercent percent) ↔
      ∀ percent ∈ definition.maximumAccountRiskPercent, IsPercent percent := by
    cases definition.maximumAccountRiskPercent with
    | none => simp
    | some percent => simp [isPercent_kept hf]
  simp only [ReviewedProtocolDefinition.Valid, ReviewedProtocolDefinition.map, hselection, hquality,
    hpercent]

theorem riskBudget_kept (budget : StrategyRiskBudget Decimal) :
    (budget.map f).Valid ↔ budget.Valid := by
  obtain ⟨dollars, percent⟩ := budget
  cases dollars <;> cases percent <;>
    simp [StrategyRiskBudget.Valid, StrategyRiskBudget.map, isMoney_kept hf, isPercent_kept hf]

/-- A valid predicate stays valid. -/
theorem predicate_kept (predicate : ProtocolPredicate Decimal) :
    (predicate.map f).Valid ↔ predicate.Valid := by
  cases predicate with
  | numeric left operator right =>
      cases right with
      | metric read => exact Iff.rfl
      | constant amount => exact fitsDigits_kept hf 12 9 amount
  | fact read expected => exact Iff.rfl

theorem rule_kept (rule : CompiledMachineRule Decimal) : (rule.map f).Valid ↔ rule.Valid := by
  simp [CompiledMachineRule.Valid, CompiledMachineRule.map, predicate_kept hf]

/-- Valid rules stay valid. -/
theorem rules_kept (rules : CompiledProtocolRules Decimal) :
    (rules.map f).Valid ↔ rules.Valid := by
  have hrules : (rules.map f).rules = rules.rules.map (CompiledMachineRule.map f) := rfl
  have hlength : (rules.map f).invalidationRules.length = rules.invalidationRules.length :=
    List.length_map _
  rw [CompiledProtocolRules.Valid, CompiledProtocolRules.Valid, hrules, hlength,
    List.forall_mem_map]
  simp only [rule_kept hf]

theorem protocol_kept (protocol : CompiledStrategyProtocol) :
    (protocol.map f).Valid ↔ protocol.Valid := by
  simp only [CompiledProtocolOf.Valid, CompiledProtocolOf.map, ProtocolMaterial.map,
    riskBudget_kept hf, definition_kept hf, rules_kept hf]

/-! ## Documents -/

theorem exact_written (d : Decimal) : exactCodec.write (f d) = exactCodec.write d :=
  congrArg (fun text => Json.text (String.ofList text))
    (Decimal.canonical_congr (Decimal.beq_iff_value.mpr (hf d)))

theorem optional_written (amount : Option Decimal) :
    exactCodec.optional.write (amount.map f) = exactCodec.optional.write amount := by
  cases amount with
  | none => rfl
  | some d => exact exact_written hf d

omit hf in
/-- A list keeps its document when each of its items does. -/
theorem list_written {α : Type} {codec : Codec α} {g : α → α}
    (hg : ∀ item, codec.write (g item) = codec.write item) (items : List α) :
    codec.list.write (items.map g) = codec.list.write items := by
  show Json.array ((items.map g).map codec.write) = Json.array (items.map codec.write)
  rw [List.map_map]
  exact congrArg Json.array (List.map_congr_left fun item _ => hg item)

/-- A predicate keeps its document. -/
theorem predicate_written (predicate : ProtocolPredicate Decimal) :
    predicateCodec.write (predicate.map f) = predicateCodec.write predicate := by
  cases predicate with
  | numeric left operator right =>
      cases right with
      | metric read => rfl
      | constant amount =>
          show Json.object [("kind", _), ("left", _), ("operator", _),
            ("right", Json.object [("kind", _), ("value", exactCodec.write (f amount))])] = _
          rw [exact_written hf]
          rfl
  | fact read expected => rfl

/-- A rule keeps its document. -/
theorem rule_written (rule : CompiledMachineRule Decimal) :
    ruleCodec.write (rule.map f) = ruleCodec.write rule := by
  show Json.object [("source_rule_hash", _), ("match", _),
    ("predicates", predicateCodec.list.write (rule.predicates.map (ProtocolPredicate.map f)))] = _
  rw [list_written (predicate_written hf)]
  rfl

/-- Rules keep their document. -/
theorem rules_written (rules : CompiledProtocolRules Decimal) :
    rulesCodec.write (rules.map f) = rulesCodec.write rules := by
  show Json.object [("entry_rule", ruleCodec.write (rules.entryRule.map f)),
    ("no_trade_rule", ruleCodec.write (rules.noTradeRule.map f)),
    ("profit_exit_rule", ruleCodec.write (rules.profitExitRule.map f)),
    ("loss_exit_rule", ruleCodec.write (rules.lossExitRule.map f)),
    ("time_exit_rule", ruleCodec.write (rules.timeExitRule.map f)),
    ("invalidation_rules",
      ruleCodec.list.write (rules.invalidationRules.map (CompiledMachineRule.map f)))] = _
  simp only [rule_written hf, list_written (rule_written hf)]
  rfl

/-- A definition keeps its document. -/
theorem definition_written (definition : ReviewedProtocolDefinition Decimal) :
    definitionCodec.write (definition.map f) = definitionCodec.write definition := by
  have hselection : selectionCodec.write (definition.selection.map f) =
      selectionCodec.write definition.selection := by
    show Json.object [("minimum_expiry", _), ("maximum_expiry", _), ("minimum_dte", _),
      ("target_dte", _), ("maximum_dte", _),
      ("minimum_strike", exactCodec.write (f definition.selection.minimumStrike)),
      ("maximum_strike", exactCodec.write (f definition.selection.maximumStrike)),
      ("width_dollars", exactCodec.write (f definition.selection.widthDollars)), ("quantity", _),
      ("maximum_debit_per_share", exactCodec.write (f definition.selection.maximumDebitPerShare)),
      ("maximum_loss_dollars", exactCodec.write (f definition.selection.maximumLossDollars)),
      ("maximum_contracts_considered", _)] = _
    simp only [exact_written hf]
    rfl
  have hquality : qualityCodec.write (definition.marketQuality.map f) =
      qualityCodec.write definition.marketQuality := by
    show Json.object [("maximum_underlying_age_seconds", _),
      ("maximum_option_quote_age_seconds", _), ("maximum_leg_quote_skew_seconds", _),
      ("maximum_relative_spread_percent",
        exactCodec.write (f definition.marketQuality.maximumRelativeSpreadPercent)),
      ("minimum_leg_bid_size", _), ("minimum_leg_ask_size", _)] = _
    rw [exact_written hf]
    rfl
  show Json.object [("opportunity_key", _), ("definition_version", _), ("benchmark_symbol", _),
    ("allowed_event_codes", _), ("thesis_code", _), ("invalidation_codes", _), ("schedule", _),
    ("selection", selectionCodec.write (definition.selection.map f)),
    ("market_quality", qualityCodec.write (definition.marketQuality.map f)),
    ("maximum_account_risk_percent",
      exactCodec.optional.write (definition.maximumAccountRiskPercent.map f))] = _
  rw [hselection, hquality, optional_written hf]
  rfl

/-- A risk budget keeps its document. -/
theorem riskBudget_written (budget : StrategyRiskBudget Decimal) :
    riskBudgetCodec.write (budget.map f) = riskBudgetCodec.write budget := by
  show Json.object [("max_loss_dollars", exactCodec.optional.write (budget.maxLossDollars.map f)),
    ("max_account_percent", exactCodec.optional.write (budget.maxAccountPercent.map f))] = _
  rw [optional_written hf, optional_written hf]
  rfl

/-- The members that the material of a protocol is written as stay the same. -/
theorem materialFields_written (material : ProtocolMaterial Decimal) :
    materialFields.write (material.map f).parts = materialFields.write material.parts := by
  show constantsFields.write _ ++ [("symbol", _), ("direction", _), ("structure", _),
    ("risk_budget", riskBudgetCodec.write (material.riskBudget.map f)),
    ("definition", definitionCodec.write (material.definition.map f)),
    ("rules", rulesCodec.write (material.rules.map f)), ("mandatory_safety_facts", _),
    ("source_hash", _), ("compiler_hash", _), ("definition_hash", _)] = _
  rw [riskBudget_written hf, definition_written hf, rules_written hf]
  rfl

theorem material_written (material : ProtocolMaterial Decimal) :
    materialCodec.write (material.map f) = materialCodec.write material :=
  congrArg Json.object (materialFields_written hf material)

/-- A protocol keeps its document. -/
theorem protocol_written (protocol : CompiledStrategyProtocol) :
    protocolCodec.write (protocol.map f) = protocolCodec.write protocol := by
  show Json.object (materialFields.write (protocol.toProtocolMaterial.map f).parts ++
    [("protocol_hash", Json.text protocol.protocolHash)]) = _
  rw [materialFields_written hf]
  rfl

end

/-! ## Reading protocols back -/

theorem optional_canonical (amount : Option Decimal) :
    ∀ present ∈ amount.map canonicalForm, IsCanonical present := by
  cases amount with
  | none => simp
  | some d => simpa using isCanonical_canonicalForm d

variable {protocol : CompiledStrategyProtocol}

/-- A valid protocol is canonical once its numbers are. -/
theorem canonical_map (h : protocol.Valid) :
    (protocol.map canonicalForm).toProtocolMaterial.Canonical := by
  obtain ⟨-, -, -, ⟨-, -, -, -, -, -, hschedule, hselection, -, -⟩, -⟩ := h
  refine ⟨⟨optional_canonical _, optional_canonical _⟩, ⟨hschedule, ⟨hselection.1,
    ⟨isCanonical_canonicalForm _, isCanonical_canonicalForm _, isCanonical_canonicalForm _⟩,
    isCanonical_canonicalForm _, isCanonical_canonicalForm _⟩, isCanonical_canonicalForm _,
    optional_canonical _⟩, ?_⟩
  have hrules : (protocol.map canonicalForm).rules.rules =
      protocol.rules.rules.map (CompiledMachineRule.map canonicalForm) := rfl
  intro rule hrule
  rw [hrules] at hrule
  obtain ⟨original, -, rfl⟩ := List.mem_map.mp hrule
  intro predicate hpredicate
  obtain ⟨read, -, rfl⟩ := List.mem_map.mp hpredicate
  cases read with
  | numeric left operator right =>
      cases right with
      | metric read => trivial
      | constant amount => exact isCanonical_canonicalForm amount
  | fact read expected => trivial

theorem readProtocol_write (h : protocol.Valid) :
    protocolCodec.read (protocolCodec.write protocol) = some (protocol.map canonicalForm) := by
  rw [← protocol_written value_canonicalForm protocol]
  exact protocolCodec_lawful.reads _ (canonical_map h)

theorem readMaterial_write (h : protocol.Valid) :
    materialCodec.read (materialCodec.write protocol.toProtocolMaterial) =
      some (protocol.toProtocolMaterial.map canonicalForm) := by
  rw [← material_written value_canonicalForm]
  exact materialCodec_lawful.reads _ (canonical_map h)

theorem map_value_eq_of_canonical {left right : ProtocolMaterial Decimal}
    (h : left.map canonicalForm = right.map canonicalForm) :
    left.map Decimal.value = right.map Decimal.value := by
  have hvalue : Decimal.value ∘ canonicalForm = Decimal.value := funext value_canonicalForm
  rw [← hvalue, ← ProtocolMaterial.map_map, h, ProtocolMaterial.map_map]

end AlphaDecay.StrategyBriefs
