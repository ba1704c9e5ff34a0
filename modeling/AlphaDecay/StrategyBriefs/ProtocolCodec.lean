import AlphaDecay.StrategyBriefs.Models

/-!
# Documents of compiled protocols

The JSON dump of a compiled protocol, and its reader. Decimals are written in one form for each
value, so that the codec is lawful for the protocols whose decimals have that form:
`protocolCodec_lawful`.
-/

namespace AlphaDecay.StrategyBriefs

open Foundation Foundation.Json

/-! ## Canonical decimals -/

/-- A decimal is the one that its canonical text is read as. -/
def IsCanonical (d : Decimal) : Prop :=
  Decimal.parse d.canonical = some d

/-- The decimal that the canonical text of a decimal is read as. -/
def canonicalForm (d : Decimal) : Decimal :=
  (Decimal.parse d.canonical).getD d

theorem value_canonicalForm (d : Decimal) : (canonicalForm d).value = d.value := by
  obtain ⟨read, hread, hequal⟩ := Decimal.parse_canonical d
  rw [canonicalForm, hread]
  exact Decimal.beq_iff_value.mp hequal

theorem canonical_canonicalForm (d : Decimal) : (canonicalForm d).canonical = d.canonical :=
  Decimal.canonical_congr (Decimal.beq_iff_value.mpr (value_canonicalForm d))

theorem isCanonical_canonicalForm (d : Decimal) : IsCanonical (canonicalForm d) := by
  obtain ⟨read, hread, -⟩ := Decimal.parse_canonical d
  rw [IsCanonical, canonical_canonicalForm, canonicalForm, hread]
  rfl

/-- Decimals of one value have one canonical form. -/
theorem canonicalForm_eq_iff {a b : Decimal} :
    canonicalForm a = canonicalForm b ↔ a.value = b.value := by
  constructor
  · intro h
    rw [← value_canonicalForm a, h, value_canonicalForm]
  · intro h
    have htext := Decimal.canonical_congr (Decimal.beq_iff_value.mpr h)
    obtain ⟨read, hread, -⟩ := Decimal.parse_canonical a
    rw [canonicalForm, canonicalForm, ← htext, hread]
    rfl

/-! ## Codecs -/

/-- Decimals in canonical form. -/
def exactCodec : Codec Decimal :=
  .named canonicalDecimal fun text => Decimal.parse text.toList

theorem exactCodec_lawful : exactCodec.Lawful IsCanonical :=
  Codec.named_lawful fun d h => by rw [canonicalDecimal, String.toList_ofList, h]

/-- Dates in ISO form. -/
def dateCodec : Codec Calendar.Date :=
  .named (fun date => String.ofList (Text.fixedDigits 10 4 date.year ++ '-' ::
    (Text.fixedDigits 10 2 date.month ++ '-' :: Text.fixedDigits 10 2 date.day)))
    Calendar.readDate

theorem dateCodec_lawful : dateCodec.Lawful fun date => date.isValid = true :=
  Codec.named_lawful fun _ h => Calendar.readDate_written h

/-- Instants in ISO form with the letter of the zero offset. -/
def instantCodec : Codec Int :=
  .named Calendar.utcText Calendar.readUtcText

theorem instantCodec_lawful : instantCodec.Lawful Calendar.InRange :=
  Codec.named_lawful fun _ h => Calendar.readUtcText_utcText h

theorem ProtocolMetric.ofText_text (metric : ProtocolMetric) :
    ProtocolMetric.ofText metric.text = some metric := by
  cases metric <;> decide

theorem ProtocolFact.ofText_text (fact : ProtocolFact) :
    ProtocolFact.ofText fact.text = some fact := by
  cases fact <;> decide

theorem ComparisonOperator.ofText_text (operator : ComparisonOperator) :
    ComparisonOperator.ofText operator.text = some operator := by
  cases operator <;> decide

def metricCodec : Codec ProtocolMetric :=
  .named ProtocolMetric.text ProtocolMetric.ofText

theorem metricCodec_lawful : metricCodec.Lawful fun _ => True :=
  Codec.named_lawful fun metric _ => metric.ofText_text

def factCodec : Codec ProtocolFact :=
  .named ProtocolFact.text ProtocolFact.ofText

theorem factCodec_lawful : factCodec.Lawful fun _ => True :=
  Codec.named_lawful fun fact _ => fact.ofText_text

def operatorCodec : Codec ComparisonOperator :=
  .named ComparisonOperator.text ComparisonOperator.ofText

theorem operatorCodec_lawful : operatorCodec.Lawful fun _ => True :=
  Codec.named_lawful fun operator _ => operator.ofText_text

def modeCodec : Codec RuleMatchMode :=
  .named RuleMatchMode.text RuleMatchMode.ofText

theorem modeCodec_lawful : modeCodec.Lawful fun _ => True :=
  Codec.named_lawful fun mode _ => by cases mode <;> rfl

def directionCodec : Codec StrategyDirection :=
  .named StrategyDirection.text StrategyDirection.ofText

theorem directionCodec_lawful : directionCodec.Lawful fun _ => True :=
  Codec.named_lawful fun direction _ => by cases direction <;> rfl

def structureCodec : Codec CuratedStructure :=
  .named CuratedStructure.text CuratedStructure.ofText

theorem structureCodec_lawful : structureCodec.Lawful fun _ => True :=
  Codec.named_lawful fun structured _ => by cases structured <;> rfl

/-! ## Rules -/

def metricOperandCodec : Codec ProtocolMetric :=
  ((Fields.literal "kind" "METRIC").tagged (Fields.one "metric" metricCodec)).record

theorem metricOperandCodec_lawful : metricOperandCodec.Lawful fun _ => True :=
  ((Fields.literal_lawful _ _).tagged (Fields.one_lawful metricCodec_lawful _)).record (by decide)

def constantOperandCodec : Codec Decimal :=
  ((Fields.literal "kind" "CONSTANT").tagged (Fields.one "value" exactCodec)).record

theorem constantOperandCodec_lawful : constantOperandCodec.Lawful IsCanonical :=
  ((Fields.literal_lawful _ _).tagged (Fields.one_lawful exactCodec_lawful _)).record (by decide)

/-- The two kinds of operands. -/
def ProtocolOperand.parts : ProtocolOperand Decimal → ProtocolMetric ⊕ Decimal
  | .metric read => .inl read
  | .constant amount => .inr amount

/-- The operand of its kind. -/
def ProtocolOperand.make : ProtocolMetric ⊕ Decimal → Option (ProtocolOperand Decimal)
  | .inl read => some (.metric read)
  | .inr amount => some (.constant amount)

def operandCodec : Codec (ProtocolOperand Decimal) :=
  (Codec.either "kind" "METRIC" "CONSTANT" metricOperandCodec constantOperandCodec).as
    ProtocolOperand.parts ProtocolOperand.make

def ProtocolOperand.Canonical : ProtocolOperand Decimal → Prop
  | .metric _ => True
  | .constant amount => IsCanonical amount

/-- Operands are read back. -/
theorem operandCodec_lawful : operandCodec.Lawful ProtocolOperand.Canonical := by
  refine (Codec.Lawful.either metricOperandCodec_lawful constantOperandCodec_lawful (by decide)
    (fun _ => rfl) fun _ => rfl).as ?_ ?_
  · intro operand h
    cases operand with
    | metric read => trivial
    | constant amount => exact h
  · intro operand _
    cases operand <;> rfl

/-- Numeric predicates. -/
def numericCodec :
    Codec (ProtocolMetric × ComparisonOperator × ProtocolOperand Decimal) :=
  ((Fields.literal "kind" "NUMERIC").tagged <|
    (Fields.one "left" metricOperandCodec).both <|
    (Fields.one "operator" operatorCodec).both <|
    Fields.one "right" operandCodec).record

def factPredicateCodec : Codec (ProtocolFact × Bool) :=
  ((Fields.literal "kind" "FACT").tagged <|
    (Fields.one "fact" factCodec).both <|
    Fields.one "expected" Codec.boolean).record

/-- The two kinds of predicates. -/
def ProtocolPredicate.parts : ProtocolPredicate Decimal →
    (ProtocolMetric × ComparisonOperator × ProtocolOperand Decimal) ⊕ (ProtocolFact × Bool)
  | .numeric left operator right => .inl (left, operator, right)
  | .fact read expected => .inr (read, expected)

/-- The predicate of its kind. -/
def ProtocolPredicate.make :
    (ProtocolMetric × ComparisonOperator × ProtocolOperand Decimal) ⊕ (ProtocolFact × Bool) →
      Option (ProtocolPredicate Decimal)
  | .inl (left, operator, right) => some (.numeric left operator right)
  | .inr (read, expected) => some (.fact read expected)

def predicateCodec : Codec (ProtocolPredicate Decimal) :=
  (Codec.either "kind" "NUMERIC" "FACT" numericCodec factPredicateCodec).as
    ProtocolPredicate.parts ProtocolPredicate.make

def ProtocolPredicate.Canonical : ProtocolPredicate Decimal → Prop
  | .numeric _ _ right => right.Canonical
  | .fact _ _ => True

/-- Predicates are read back. -/
theorem predicateCodec_lawful : predicateCodec.Lawful ProtocolPredicate.Canonical := by
  have hnumeric := ((Fields.literal_lawful "kind" "NUMERIC").tagged <|
    (Fields.one_lawful metricOperandCodec_lawful "left").both <|
    (Fields.one_lawful operatorCodec_lawful "operator").both <|
    Fields.one_lawful operandCodec_lawful "right").record (by decide)
  have hfact := ((Fields.literal_lawful "kind" "FACT").tagged <|
    (Fields.one_lawful factCodec_lawful "fact").both <|
    Fields.one_lawful Codec.boolean_lawful "expected").record (by decide)
  refine (Codec.Lawful.either hnumeric hfact (by decide) (fun _ => rfl) fun _ => rfl).as ?_ ?_
  · intro predicate h
    cases predicate with
    | numeric left operator right => exact ⟨trivial, trivial, h⟩
    | fact read expected => exact ⟨trivial, trivial⟩
  · intro predicate _
    cases predicate <;> rfl

def ruleCodec : Codec (CompiledMachineRule Decimal) :=
  (((Fields.one "source_rule_hash" Codec.text).both <|
    (Fields.one "match" modeCodec).both <|
    Fields.one "predicates" predicateCodec.list).record).as
    (fun rule => (rule.sourceRuleHash, rule.mode, rule.predicates))
    fun (sourceRuleHash, mode, predicates) => some { sourceRuleHash, mode, predicates }

def CompiledMachineRule.Canonical (rule : CompiledMachineRule Decimal) : Prop :=
  ∀ predicate ∈ rule.predicates, predicate.Canonical

theorem ruleCodec_lawful : ruleCodec.Lawful CompiledMachineRule.Canonical :=
  (((Fields.one_lawful Codec.text_lawful _).both <|
    (Fields.one_lawful modeCodec_lawful _).both <|
    Fields.one_lawful predicateCodec_lawful.list _).record (by decide)).as
    (fun _ h => ⟨trivial, trivial, h⟩) fun _ _ => rfl

def rulesCodec : Codec (CompiledProtocolRules Decimal) :=
  (((Fields.one "entry_rule" ruleCodec).both <|
    (Fields.one "no_trade_rule" ruleCodec).both <|
    (Fields.one "profit_exit_rule" ruleCodec).both <|
    (Fields.one "loss_exit_rule" ruleCodec).both <|
    (Fields.one "time_exit_rule" ruleCodec).both <|
    Fields.one "invalidation_rules" ruleCodec.list).record).as
    (fun rules => (rules.entryRule, rules.noTradeRule, rules.profitExitRule, rules.lossExitRule,
      rules.timeExitRule, rules.invalidationRules))
    fun (entryRule, noTradeRule, profitExitRule, lossExitRule, timeExitRule, invalidationRules) =>
      some { entryRule, noTradeRule, profitExitRule, lossExitRule, timeExitRule, invalidationRules }

def CompiledProtocolRules.Canonical (rules : CompiledProtocolRules Decimal) : Prop :=
  ∀ rule ∈ rules.rules, rule.Canonical

/-- The rules of a protocol are read back. -/
theorem rulesCodec_lawful : rulesCodec.Lawful CompiledProtocolRules.Canonical := by
  refine (((Fields.one_lawful ruleCodec_lawful _).both <|
    (Fields.one_lawful ruleCodec_lawful _).both <|
    (Fields.one_lawful ruleCodec_lawful _).both <|
    (Fields.one_lawful ruleCodec_lawful _).both <|
    (Fields.one_lawful ruleCodec_lawful _).both <|
    Fields.one_lawful ruleCodec_lawful.list _).record (by decide)).as ?_ fun _ _ => rfl
  intro rules h
  simp only [CompiledProtocolRules.Canonical, CompiledProtocolRules.rules,
    List.forall_mem_cons] at h
  exact ⟨h.1, h.2.1, h.2.2.1, h.2.2.2.1, h.2.2.2.2.1, h.2.2.2.2.2⟩

/-! ## Definitions -/

def scheduleCodec : Codec ProtocolSchedule :=
  (((Fields.one "event_session" dateCodec).both <|
    (Fields.one "pre_event_session" dateCodec).both <|
    (Fields.one "reaction_session" dateCodec).both <|
    (Fields.one "signal_session" dateCodec).both <|
    (Fields.one "daily_start_session" dateCodec).both <|
    (Fields.one "evidence_window_start" instantCodec).both <|
    (Fields.one "evidence_window_end" instantCodec).both <|
    (Fields.one "entry_window_start" instantCodec).both <|
    (Fields.one "decision_boundary" instantCodec).both <|
    Fields.one "entry_window_end" instantCodec).record).as
    (fun schedule => (schedule.eventSession, schedule.preEventSession, schedule.reactionSession,
      schedule.signalSession, schedule.dailyStartSession, schedule.evidenceWindowStart,
      schedule.evidenceWindowEnd, schedule.entryWindowStart, schedule.decisionBoundary,
      schedule.entryWindowEnd))
    fun (eventSession, preEventSession, reactionSession, signalSession, dailyStartSession,
        evidenceWindowStart, evidenceWindowEnd, entryWindowStart, decisionBoundary,
        entryWindowEnd) =>
      some { eventSession, preEventSession, reactionSession, signalSession, dailyStartSession,
             evidenceWindowStart, evidenceWindowEnd, entryWindowStart, decisionBoundary,
             entryWindowEnd }

/-- Valid schedules are read back. -/
theorem scheduleCodec_lawful : scheduleCodec.Lawful ProtocolSchedule.Valid := by
  refine (((Fields.one_lawful dateCodec_lawful _).both <|
    (Fields.one_lawful dateCodec_lawful _).both <|
    (Fields.one_lawful dateCodec_lawful _).both <|
    (Fields.one_lawful dateCodec_lawful _).both <|
    (Fields.one_lawful dateCodec_lawful _).both <|
    (Fields.one_lawful instantCodec_lawful _).both <|
    (Fields.one_lawful instantCodec_lawful _).both <|
    (Fields.one_lawful instantCodec_lawful _).both <|
    (Fields.one_lawful instantCodec_lawful _).both <|
    Fields.one_lawful instantCodec_lawful _).record (by decide)).as ?_ fun _ _ => rfl
  rintro schedule ⟨⟨hevent, hpre, hreaction, hsignal, hdaily⟩, ⟨hstart, hend, hentry, hboundary,
    hclose⟩, -⟩
  exact ⟨hevent, hpre, hreaction, hsignal, hdaily, hstart, hend, hentry, hboundary, hclose⟩

def selectionCodec : Codec (DebitVerticalSelection Decimal) :=
  (((Fields.one "minimum_expiry" dateCodec).both <|
    (Fields.one "maximum_expiry" dateCodec).both <|
    (Fields.one "minimum_dte" Codec.number).both <|
    (Fields.one "target_dte" Codec.number).both <|
    (Fields.one "maximum_dte" Codec.number).both <|
    (Fields.one "minimum_strike" exactCodec).both <|
    (Fields.one "maximum_strike" exactCodec).both <|
    (Fields.one "width_dollars" exactCodec).both <|
    (Fields.one "quantity" Codec.number).both <|
    (Fields.one "maximum_debit_per_share" exactCodec).both <|
    (Fields.one "maximum_loss_dollars" exactCodec).both <|
    Fields.one "maximum_contracts_considered" Codec.number).record).as
    (fun selection => (selection.minimumExpiry, selection.maximumExpiry, selection.minimumDte,
      selection.targetDte, selection.maximumDte, selection.minimumStrike, selection.maximumStrike,
      selection.widthDollars, selection.quantity, selection.maximumDebitPerShare,
      selection.maximumLossDollars, selection.maximumContractsConsidered))
    fun (minimumExpiry, maximumExpiry, minimumDte, targetDte, maximumDte, minimumStrike,
        maximumStrike, widthDollars, quantity, maximumDebitPerShare, maximumLossDollars,
        maximumContractsConsidered) =>
      some { minimumExpiry, maximumExpiry, minimumDte, targetDte, maximumDte, minimumStrike,
             maximumStrike, widthDollars, quantity, maximumDebitPerShare, maximumLossDollars,
             maximumContractsConsidered }

/-- The dates of a selection are of the calendar and its amounts canonical. -/
def DebitVerticalSelection.Canonical (selection : DebitVerticalSelection Decimal) : Prop :=
  (selection.minimumExpiry.isValid = true ∧ selection.maximumExpiry.isValid = true) ∧
  (IsCanonical selection.minimumStrike ∧ IsCanonical selection.maximumStrike ∧
    IsCanonical selection.widthDollars) ∧
  IsCanonical selection.maximumDebitPerShare ∧ IsCanonical selection.maximumLossDollars

/-- Selections are read back. -/
theorem selectionCodec_lawful : selectionCodec.Lawful DebitVerticalSelection.Canonical := by
  refine (((Fields.one_lawful dateCodec_lawful _).both <|
    (Fields.one_lawful dateCodec_lawful _).both <|
    (Fields.one_lawful Codec.number_lawful _).both <|
    (Fields.one_lawful Codec.number_lawful _).both <|
    (Fields.one_lawful Codec.number_lawful _).both <|
    (Fields.one_lawful exactCodec_lawful _).both <|
    (Fields.one_lawful exactCodec_lawful _).both <|
    (Fields.one_lawful exactCodec_lawful _).both <|
    (Fields.one_lawful Codec.number_lawful _).both <|
    (Fields.one_lawful exactCodec_lawful _).both <|
    (Fields.one_lawful exactCodec_lawful _).both <|
    Fields.one_lawful Codec.number_lawful _).record (by decide)).as ?_ fun _ _ => rfl
  rintro selection ⟨⟨hfirst, hlast⟩, ⟨hlow, hhigh, hwidth⟩, hdebit, hloss⟩
  exact ⟨hfirst, hlast, trivial, trivial, trivial, hlow, hhigh, hwidth, trivial, hdebit, hloss,
    trivial⟩

def qualityCodec : Codec (ProtocolMarketQuality Decimal) :=
  (((Fields.one "maximum_underlying_age_seconds" Codec.number).both <|
    (Fields.one "maximum_option_quote_age_seconds" Codec.number).both <|
    (Fields.one "maximum_leg_quote_skew_seconds" Codec.number).both <|
    (Fields.one "maximum_relative_spread_percent" exactCodec).both <|
    (Fields.one "minimum_leg_bid_size" Codec.number).both <|
    Fields.one "minimum_leg_ask_size" Codec.number).record).as
    (fun quality => (quality.maximumUnderlyingAgeSeconds, quality.maximumOptionQuoteAgeSeconds,
      quality.maximumLegQuoteSkewSeconds, quality.maximumRelativeSpreadPercent,
      quality.minimumLegBidSize, quality.minimumLegAskSize))
    fun (maximumUnderlyingAgeSeconds, maximumOptionQuoteAgeSeconds, maximumLegQuoteSkewSeconds,
        maximumRelativeSpreadPercent, minimumLegBidSize, minimumLegAskSize) =>
      some { maximumUnderlyingAgeSeconds, maximumOptionQuoteAgeSeconds, maximumLegQuoteSkewSeconds,
             maximumRelativeSpreadPercent, minimumLegBidSize, minimumLegAskSize }

/-- Qualities are read back. -/
theorem qualityCodec_lawful :
    qualityCodec.Lawful fun quality => IsCanonical quality.maximumRelativeSpreadPercent :=
  (((Fields.one_lawful Codec.number_lawful _).both <|
    (Fields.one_lawful Codec.number_lawful _).both <|
    (Fields.one_lawful Codec.number_lawful _).both <|
    (Fields.one_lawful exactCodec_lawful _).both <|
    (Fields.one_lawful Codec.number_lawful _).both <|
    Fields.one_lawful Codec.number_lawful _).record (by decide)).as
    (fun _ h => ⟨trivial, trivial, trivial, h, trivial, trivial⟩) fun _ _ => rfl

def definitionCodec : Codec (ReviewedProtocolDefinition Decimal) :=
  (((Fields.one "opportunity_key" Codec.text).both <|
    (Fields.one "definition_version" Codec.number).both <|
    (Fields.one "benchmark_symbol" Codec.text).both <|
    (Fields.one "allowed_event_codes" Codec.text.list).both <|
    (Fields.one "thesis_code" Codec.text).both <|
    (Fields.one "invalidation_codes" Codec.text.list).both <|
    (Fields.one "schedule" scheduleCodec).both <|
    (Fields.one "selection" selectionCodec).both <|
    (Fields.one "market_quality" qualityCodec).both <|
    Fields.one "maximum_account_risk_percent" exactCodec.optional).record).as
    (fun definition => (definition.opportunityKey, definition.definitionVersion,
      definition.benchmarkSymbol, definition.allowedEventCodes, definition.thesisCode,
      definition.invalidationCodes, definition.schedule, definition.selection,
      definition.marketQuality, definition.maximumAccountRiskPercent))
    fun (opportunityKey, definitionVersion, benchmarkSymbol, allowedEventCodes, thesisCode,
        invalidationCodes, schedule, selection, marketQuality, maximumAccountRiskPercent) =>
      some { opportunityKey, definitionVersion, benchmarkSymbol, allowedEventCodes, thesisCode,
             invalidationCodes, schedule, selection, marketQuality, maximumAccountRiskPercent }

/-- The schedule of a definition is valid and its numbers are canonical. -/
def ReviewedProtocolDefinition.Canonical (definition : ReviewedProtocolDefinition Decimal) :
    Prop :=
  definition.schedule.Valid ∧ definition.selection.Canonical ∧
    IsCanonical definition.marketQuality.maximumRelativeSpreadPercent ∧
    ∀ percent ∈ definition.maximumAccountRiskPercent, IsCanonical percent

theorem optionalCodec_lawful :
    exactCodec.optional.Lawful fun amount => ∀ present ∈ amount, IsCanonical present :=
  exactCodec_lawful.optional fun _ => by
    intro h
    cases h

/-- Definitions are read back. -/
theorem definitionCodec_lawful : definitionCodec.Lawful ReviewedProtocolDefinition.Canonical := by
  refine (((Fields.one_lawful Codec.text_lawful _).both <|
    (Fields.one_lawful Codec.number_lawful _).both <|
    (Fields.one_lawful Codec.text_lawful _).both <|
    (Fields.one_lawful Codec.text_lawful.list _).both <|
    (Fields.one_lawful Codec.text_lawful _).both <|
    (Fields.one_lawful Codec.text_lawful.list _).both <|
    (Fields.one_lawful scheduleCodec_lawful _).both <|
    (Fields.one_lawful selectionCodec_lawful _).both <|
    (Fields.one_lawful qualityCodec_lawful _).both <|
    Fields.one_lawful optionalCodec_lawful _).record (by decide)).as ?_ fun _ _ => rfl
  rintro definition ⟨hschedule, hselection, hquality, hpercent⟩
  exact ⟨trivial, trivial, trivial, fun _ _ => trivial, trivial, fun _ _ => trivial, hschedule,
    hselection, hquality, hpercent⟩

def riskBudgetCodec : Codec (StrategyRiskBudget Decimal) :=
  (((Fields.one "max_loss_dollars" exactCodec.optional).both <|
    Fields.one "max_account_percent" exactCodec.optional).record).as
    (fun budget => (budget.maxLossDollars, budget.maxAccountPercent))
    fun (maxLossDollars, maxAccountPercent) => some { maxLossDollars, maxAccountPercent }

def StrategyRiskBudget.Canonical (budget : StrategyRiskBudget Decimal) : Prop :=
  (∀ dollars ∈ budget.maxLossDollars, IsCanonical dollars) ∧
    ∀ percent ∈ budget.maxAccountPercent, IsCanonical percent

theorem riskBudgetCodec_lawful : riskBudgetCodec.Lawful StrategyRiskBudget.Canonical :=
  (((Fields.one_lawful optionalCodec_lawful _).both <|
    Fields.one_lawful optionalCodec_lawful _).record (by decide)).as
    (fun _ h => ⟨h.1, h.2⟩) fun _ _ => rfl

/-! ## Protocols -/

/-- The fields that say the same in every protocol. -/
def constantsFields : Fields
    (String × String × String × String × Bool × Bool × Bool × Bool × String × Int × String) :=
  (Fields.one "review_state" Codec.text).both <|
  (Fields.one "compile_status" Codec.text).both <|
  (Fields.one "arm_state" Codec.text).both <|
  (Fields.one "automation_state" Codec.text).both <|
  (Fields.one "execution_eligible" Codec.boolean).both <|
  (Fields.one "paper_trading_only" Codec.boolean).both <|
  (Fields.one "options_required" Codec.boolean).both <|
  (Fields.one "defined_risk_required" Codec.boolean).both <|
  (Fields.one "recipe" Codec.text).both <|
  (Fields.one "leg_count" Codec.number).both <|
  Fields.one "net_premium" Codec.text

/-- The values of the fields that say the same in every protocol. -/
def ProtocolConstants.parts (constants : ProtocolConstants) :
    String × String × String × String × Bool × Bool × Bool × Bool × String × Int × String :=
  (constants.reviewState, constants.compileStatus, constants.armState, constants.automationState,
    constants.executionEligible, constants.paperTradingOnly, constants.optionsRequired,
    constants.definedRiskRequired, constants.recipe, constants.legCount, constants.netPremium)

def ProtocolConstants.make
    (values : String × String × String × String × Bool × Bool × Bool × Bool × String × Int ×
      String) : ProtocolConstants :=
  match values with
  | (reviewState, compileStatus, armState, automationState, executionEligible, paperTradingOnly,
      optionsRequired, definedRiskRequired, recipe, legCount, netPremium) =>
    { reviewState, compileStatus, armState, automationState, executionEligible, paperTradingOnly,
      optionsRequired, definedRiskRequired, recipe, legCount, netPremium }

def materialFields :=
  constantsFields.both <|
  (Fields.one "symbol" Codec.text).both <|
  (Fields.one "direction" directionCodec).both <|
  (Fields.one "structure" structureCodec).both <|
  (Fields.one "risk_budget" riskBudgetCodec).both <|
  (Fields.one "definition" definitionCodec).both <|
  (Fields.one "rules" rulesCodec).both <|
  (Fields.one "mandatory_safety_facts" factCodec.list).both <|
  (Fields.one "source_hash" Codec.text).both <|
  (Fields.one "compiler_hash" Codec.text).both <|
  Fields.one "definition_hash" Codec.text

/-- The values of the fields of the material of a protocol. -/
def ProtocolMaterial.parts (material : ProtocolMaterial Decimal) :=
  (material.constants.parts, material.symbol, material.direction, material.structure_,
    material.riskBudget, material.definition, material.rules, material.mandatorySafetyFacts,
    material.sourceHash, material.compilerHash, material.definitionHash)

/-- The material that a protocol's hash covers. -/
def materialCodec : Codec (ProtocolMaterial Decimal) :=
  (materialFields.record).as ProtocolMaterial.parts
    fun (constants, symbol, direction, structure_, riskBudget, definition, rules,
        mandatorySafetyFacts, sourceHash, compilerHash, definitionHash) =>
      some { constants := .make constants, symbol, direction, structure_, riskBudget, definition,
             rules, mandatorySafetyFacts, sourceHash, compilerHash, definitionHash }

def protocolCodec : Codec CompiledStrategyProtocol :=
  ((materialFields.both (Fields.one "protocol_hash" Codec.text)).record).as
    (fun protocol => (protocol.toProtocolMaterial.parts, protocol.protocolHash))
    fun ((constants, symbol, direction, structure_, riskBudget, definition, rules,
        mandatorySafetyFacts, sourceHash, compilerHash, definitionHash), protocolHash) =>
      some { constants := .make constants, symbol, direction, structure_, riskBudget, definition,
             rules, mandatorySafetyFacts, sourceHash, compilerHash, definitionHash, protocolHash }

def ProtocolMaterial.Canonical (material : ProtocolMaterial Decimal) : Prop :=
  material.riskBudget.Canonical ∧ material.definition.Canonical ∧ material.rules.Canonical

/-- The fields of the material of a protocol are read back. -/
theorem materialFields_lawful : materialFields.Lawful fun values =>
    (values.2.2.2.2.1.Canonical ∧ values.2.2.2.2.2.1.Canonical ∧
      values.2.2.2.2.2.2.1.Canonical) := by
  have hconstants := (Fields.one_lawful Codec.text_lawful "review_state").both <|
    (Fields.one_lawful Codec.text_lawful "compile_status").both <|
    (Fields.one_lawful Codec.text_lawful "arm_state").both <|
    (Fields.one_lawful Codec.text_lawful "automation_state").both <|
    (Fields.one_lawful Codec.boolean_lawful "execution_eligible").both <|
    (Fields.one_lawful Codec.boolean_lawful "paper_trading_only").both <|
    (Fields.one_lawful Codec.boolean_lawful "options_required").both <|
    (Fields.one_lawful Codec.boolean_lawful "defined_risk_required").both <|
    (Fields.one_lawful Codec.text_lawful "recipe").both <|
    (Fields.one_lawful Codec.number_lawful "leg_count").both <|
    Fields.one_lawful Codec.text_lawful "net_premium"
  have hfields := hconstants.both <|
    (Fields.one_lawful Codec.text_lawful "symbol").both <|
    (Fields.one_lawful directionCodec_lawful "direction").both <|
    (Fields.one_lawful structureCodec_lawful "structure").both <|
    (Fields.one_lawful riskBudgetCodec_lawful "risk_budget").both <|
    (Fields.one_lawful definitionCodec_lawful "definition").both <|
    (Fields.one_lawful rulesCodec_lawful "rules").both <|
    (Fields.one_lawful factCodec_lawful.list "mandatory_safety_facts").both <|
    (Fields.one_lawful Codec.text_lawful "source_hash").both <|
    (Fields.one_lawful Codec.text_lawful "compiler_hash").both <|
    Fields.one_lawful Codec.text_lawful "definition_hash"
  refine ⟨hfields.named, hfields.keyed, hfields.orderFree, fun values members hvalid =>
    hfields.reads values members ?_⟩
  obtain ⟨hbudget, hdefinition, hrules⟩ := hvalid
  exact ⟨⟨trivial, trivial, trivial, trivial, trivial, trivial, trivial, trivial, trivial, trivial,
    trivial⟩, trivial, trivial, trivial, hbudget, hdefinition, hrules, fun _ _ => trivial, trivial,
    trivial, trivial⟩

theorem materialCodec_lawful : materialCodec.Lawful ProtocolMaterial.Canonical :=
  (materialFields_lawful.record (by decide)).as (fun _ h => h) fun _ _ => rfl

theorem protocolCodec_lawful :
    protocolCodec.Lawful fun protocol => protocol.toProtocolMaterial.Canonical :=
  ((materialFields_lawful.both (Fields.one_lawful Codec.text_lawful "protocol_hash")).record
    (by decide)).as (fun _ h => ⟨h, trivial⟩) fun _ _ => rfl

end AlphaDecay.StrategyBriefs
