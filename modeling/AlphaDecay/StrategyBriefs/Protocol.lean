import AlphaDecay.StrategyBriefs.Requests

/-!
# Compiling and evaluating protocols

`compileReviewedProtocol` turns a reviewed request into a protocol and hashes the dictionary it
made the protocol from. `verifyCompiledProtocol` and `evaluateCompiledProtocol` hash the dump of the
protocol instead, after its fields were checked again.
-/

namespace AlphaDecay.StrategyBriefs

open Foundation Foundation.Json

/-- Why compiling, observing, evaluating or classifying raises. -/
inductive ProtocolFailure where
  | compilationBlocked (code : String)
  | evaluationBlocked (code : String)
  | observationBlocked (code : String)
  | decisionBlocked (code : String)
  | tickBlocked (code : String)
  | key
  | validation
deriving DecidableEq, Repr

/-! ## Hashes -/

/-- A value that is hashed: one with a dump of its own, or a plain one. -/
inductive PlainValue where
  | model (dumped : Json)
  | dict (entries : List (String × PlainValue))
  | tuple (items : List PlainValue)
  | name (value : String)
  | amount (value : Decimal)
  | null
  | text (value : String)
  | number (value : Int)
  | truth (value : Bool)

mutual

/-- The document of a value that is hashed. -/
def jsonValue : PlainValue → Json
  | .model dumped => dumped
  | .dict entries => .object (jsonEntries entries)
  | .tuple items => .array (jsonItems items)
  | .name value => .text value
  | .amount value => .text (canonicalDecimal value)
  | .null => .null
  | .text value => .text value
  | .number value => .number value
  | .truth value => .bool value

/-- The documents of the values of a dictionary. -/
def jsonEntries : List (String × PlainValue) → List (String × Json)
  | [] => []
  | (key, value) :: entries => (key, jsonValue value) :: jsonEntries entries

/-- The documents of the items of a tuple. -/
def jsonItems : List PlainValue → List Json
  | [] => []
  | item :: items => jsonValue item :: jsonItems items

end

/-- The document of a value under a domain. -/
def hashedDocument (domain : String) (value : PlainValue) : Json :=
  .object [("domain", .text ("alphadecay.reviewed-executable-protocol." ++ domain)),
    ("value", jsonValue value)]

section Hashing

variable [Digest]

def canonicalHash (domain : String) (value : PlainValue) : String :=
  Digest.authorityHash (hashedDocument domain value)

/-- The document that a compiled protocol is hashed as when it is checked. -/
def compiledDocument (protocol : CompiledStrategyProtocol) : Json :=
  hashedDocument "compiled.v1" (.model (materialCodec.write protocol.toProtocolMaterial))

def compiledProtocolHash (protocol : CompiledStrategyProtocol) : String :=
  Digest.authorityHash (compiledDocument protocol)

/-- The schemas that are generated for the models. -/
structure CompilerSchemas where
  definitionSchema : Json
  ruleSchema : Json
  compiledSchema : Json

def names {α : Type} (text : α → String) (values : List α) : PlainValue :=
  .tuple (values.map fun value => .name (text value))

def compilerHash (schemas : CompilerSchemas) : String :=
  canonicalHash "compiler.v1" (.dict [("compiler", .text "REVIEWED_DEBIT_VERTICAL_V1"),
    ("recipe", .text "TWO_LEG_DEBIT_VERTICAL"),
    ("structures", names CuratedStructure.text [.bullCallDebitSpread, .bearPutDebitSpread]),
    ("metrics", names ProtocolMetric.text ProtocolMetric.all),
    ("facts", names ProtocolFact.text ProtocolFact.all),
    ("operators", names ComparisonOperator.text ComparisonOperator.all),
    ("mandatory_safety_facts", names ProtocolFact.text ProtocolFact.all),
    ("definition_schema", .model schemas.definitionSchema),
    ("rule_schema", .model schemas.ruleSchema),
    ("compiled_schema", .model schemas.compiledSchema)])

/-! ## Compiling -/

def structureByDirection : StrategyDirection → Option CuratedStructure
  | .bullish => some .bullCallDebitSpread
  | .bearish => some .bearPutDebitSpread
  | .neutral => some .ironCondor
  | .unsure => none

/-- Compilation is blocked when a condition holds. -/
def blockIf (condition : Bool) (code : String) : Except ProtocolFailure Unit :=
  raiseIf condition (.compilationBlocked code)

/-- The excerpts of a curation are the pieces of evidence that they name. -/
def validateEvidenceBinding (curation : StrategyCurationResponse) :
    Except ProtocolFailure Unit := do
  let evidenceById := curation.intake.evidence.zipIdx.map fun (excerpt, index) =>
    (evidenceName (index + 1), excerpt)
  let suppliedIds : List String := curation.supportingEvidence.map (·.evidenceId)
  blockIf (suppliedIds.isEmpty || !decide suppliedIds.Nodup) "PROTOCOL_EVIDENCE_BINDING_INVALID"
  blockIf (curation.supportingEvidence.any fun item =>
    Dict.find item.evidenceId evidenceById != some item.excerpt) "PROTOCOL_EVIDENCE_BINDING_INVALID"

/-- The mapped rules have the words of the curated ones. -/
def validateRuleBinding (curation : StrategyCurationResponse) (rules : ReviewedProtocolRules) :
    Except ProtocolFailure Unit := do
  let fields := curation.protocolFields
  let expected := [fields.entryRule, fields.noTradeRule, fields.profitExitRule,
    fields.lossExitRule, fields.timeExitRule]
  let actual := [rules.entryRule.sourceText, rules.noTradeRule.sourceText,
    rules.profitExitRule.sourceText, rules.lossExitRule.sourceText, rules.timeExitRule.sourceText]
  blockIf (expected.any Option.isNone || actual.map some != expected)
    "PROTOCOL_RULE_BINDING_MISMATCH"
  blockIf (rules.invalidationRules.map (·.sourceText) != fields.invalidationRules)
    "PROTOCOL_RULE_BINDING_MISMATCH"

/-- Whether two amounts that may be missing are different. -/
def optionalDiffers : Option Decimal → Option Decimal → Bool
  | some left, some right => !(left == right)
  | none, none => false
  | _, _ => true

/-- The definition fits the risk that was submitted, the calendar and the rules. -/
def validateDefinition (curation : StrategyCurationResponse)
    (definition : ReviewedProtocolDefinition Decimal) (rules : ReviewedProtocolRules) :
    Except ProtocolFailure Unit := do
  let risk ← require curation.intake.riskBudget
    (.compilationBlocked "PROTOCOL_DOLLAR_RISK_REQUIRED")
  let dollars ← require risk.maxLossDollars (.compilationBlocked "PROTOCOL_DOLLAR_RISK_REQUIRED")
  blockIf (some definition.benchmarkSymbol == curation.intake.marketScope)
    "PROTOCOL_BENCHMARK_INVALID"
  blockIf (!(definition.selection.maximumLossDollars == dollars)) "PROTOCOL_RISK_BINDING_MISMATCH"
  blockIf (optionalDiffers definition.maximumAccountRiskPercent risk.maxAccountPercent)
    "PROTOCOL_RISK_BINDING_MISMATCH"
  let signalDay : Int := Calendar.dayOfDate definition.schedule.signalSession
  let firstDay : Int := Calendar.dayOfDate definition.selection.minimumExpiry
  let lastDay : Int := Calendar.dayOfDate definition.selection.maximumExpiry
  let boundaryDay : Int := Calendar.dayOfDate (dateAt definition.schedule.decisionBoundary)
  blockIf (decide (firstDay < boundaryDay) ||
    decide (firstDay - signalDay ≠ definition.selection.minimumDte) ||
    decide (lastDay - signalDay ≠ definition.selection.maximumDte)) "PROTOCOL_EXPIRY_DTE_MISMATCH"
  blockIf (decide (definition.invalidationCodes.length ≠ rules.invalidationRules.length))
    "PROTOCOL_INVALIDATION_MAPPING_INCOMPLETE"

/-- A rule with the hash of its words. -/
def compileRule (rule : MachineRule) : CompiledMachineRule Decimal where
  sourceRuleHash := canonicalHash "rule-source.v1" (.text rule.sourceText)
  mode := rule.mode
  predicates := rule.predicates

def compileRules (rules : ReviewedProtocolRules) : CompiledProtocolRules Decimal where
  entryRule := compileRule rules.entryRule
  noTradeRule := compileRule rules.noTradeRule
  profitExitRule := compileRule rules.profitExitRule
  lossExitRule := compileRule rules.lossExitRule
  timeExitRule := compileRule rules.timeExitRule
  invalidationRules := rules.invalidationRules.map compileRule

/-- The entries of the dictionary of a definition. -/
def definitionEntries (material : ProtocolMaterial Decimal) : List (String × PlainValue) :=
  [("symbol", .text material.symbol), ("direction", .name material.direction.text),
    ("structure", .name material.structure_.text),
    ("risk_budget", .model (riskBudgetCodec.write material.riskBudget)),
    ("definition", .model (definitionCodec.write material.definition)),
    ("rules", .model (rulesCodec.write material.rules)),
    ("mandatory_safety_facts", names ProtocolFact.text material.mandatorySafetyFacts)]

/-- The dictionary that a protocol is made from. -/
def materialEntries (material : ProtocolMaterial Decimal) : List (String × PlainValue) :=
  [("review_state", .text "REVIEWED"), ("compile_status", .text "COMPILABLE"),
    ("arm_state", .text "NOT_ARMED"), ("automation_state", .text "OFF"),
    ("execution_eligible", .truth false), ("paper_trading_only", .truth true),
    ("options_required", .truth true), ("defined_risk_required", .truth true),
    ("recipe", .text "TWO_LEG_DEBIT_VERTICAL"), ("leg_count", .number 2),
    ("net_premium", .text "DEBIT")] ++ definitionEntries material ++
  [("source_hash", .text material.sourceHash), ("compiler_hash", .text material.compilerHash),
    ("definition_hash", .text material.definitionHash)]

/-- A compiled protocol whose fields pass their checks. -/
def checkedProtocol (protocol : CompiledStrategyProtocol) :
    Except ProtocolFailure CompiledStrategyProtocol :=
  if protocol.Valid then .ok protocol else .error .validation

/-- The checks of a curation before its parts are bound. -/
def validateClassifications (curation : StrategyCurationResponse) :
    Except ProtocolFailure Unit := do
  let classifications := curation.classifications
  blockIf (!curation.blockingQuestions.isEmpty ||
    [classifications.clarity, classifications.evidence, classifications.risk,
      classifications.exit].any fun readiness => readiness != .ready) "PROTOCOL_REVIEW_INCOMPLETE"
  blockIf (classifications.direction == .unsure || classifications.structure_ == .reviewRequired)
    "PROTOCOL_DIRECTION_UNRESOLVED"
  blockIf (classifications.structure_ == .ironCondor) "PROTOCOL_RECIPE_UNSUPPORTED"
  blockIf (some classifications.structure_ != structureByDirection classifications.direction)
    "PROTOCOL_DIRECTION_STRUCTURE_CONFLICT"
  blockIf (curation.intake.direction != some classifications.direction)
    "PROTOCOL_DIRECTION_BINDING_MISMATCH"

/-- The material of the protocol of a request, without the hash of its definition. -/
def draftMaterial (schemas : CompilerSchemas) (request : ReviewedExecutableProtocolRequest)
    (symbol : String) (budget : StrategyRiskBudget Decimal)
    (definition : ReviewedProtocolDefinition Decimal) : ProtocolMaterial Decimal where
  constants := .standard
  symbol := symbol
  direction := request.curation.classifications.direction
  structure_ := request.curation.classifications.structure_
  riskBudget := budget
  definition := definition
  rules := compileRules request.rules
  mandatorySafetyFacts := ProtocolFact.all
  sourceHash := canonicalHash "source.v1" (.model request.curation.document)
  compilerHash := compilerHash schemas
  definitionHash := ""

def compileReviewedProtocol (schemas : CompilerSchemas)
    (request : ReviewedExecutableProtocolRequest) :
    Except ProtocolFailure CompiledStrategyProtocol := do
  blockIf (!decide request.Valid) "PROTOCOL_REQUEST_INVALID"
  let curation := request.curation
  validateClassifications curation
  let symbol ← require (curation.intake.marketScope.filter isSymbol)
    (.compilationBlocked "PROTOCOL_SINGLE_SYMBOL_REQUIRED")
  let budget ← require curation.intake.riskBudget
    (.compilationBlocked "PROTOCOL_RISK_BUDGET_REQUIRED")
  let definition ← require request.definition (.compilationBlocked "PROTOCOL_DEFINITION_REQUIRED")
  validateEvidenceBinding curation
  validateRuleBinding curation request.rules
  validateDefinition curation definition request.rules
  let draft := draftMaterial schemas request symbol budget definition
  let material := { draft with
    definitionHash := canonicalHash "definition.v1" (.dict (definitionEntries draft)) }
  checkedProtocol { material with
    protocolHash := canonicalHash "compiled.v1" (.dict (materialEntries material)) }

/-! ## Observations -/

/-- What is observed: the numbers of metrics and the truth of facts. -/
structure ProtocolObservationSet where
  numericValues : Dict ProtocolMetric Decimal
  facts : Dict ProtocolFact Bool

/-- The checks of observations: the numbers are exact. -/
def ProtocolObservationSet.Valid (observations : ProtocolObservationSet) : Prop :=
  ∀ value ∈ observations.numericValues.values, IsExactDecimal value

instance (observations : ProtocolObservationSet) : Decidable observations.Valid :=
  inferInstanceAs (Decidable (∀ _ ∈ _, _))

structure ProtocolEvaluation where
  protocolHash : String
  safetyGatesPassed : Bool
  entryRuleMatched : Bool
  noTradeRuleMatched : Bool
  profitExitRuleMatched : Bool
  lossExitRuleMatched : Bool
  timeExitRuleMatched : Bool
  invalidationRuleMatches : List Bool
deriving DecidableEq

def ProtocolPredicate.metrics {δ : Type} : ProtocolPredicate δ → List ProtocolMetric
  | .numeric left _ (.metric right) => [left, right]
  | .numeric left _ (.constant _) => [left]
  | .fact _ _ => []

def ProtocolPredicate.facts {δ : Type} : ProtocolPredicate δ → List ProtocolFact
  | .numeric _ _ _ => []
  | .fact read _ => [read]

/-- The metrics and facts that an evaluation needs. -/
def requiredObservations (protocol : CompiledStrategyProtocol) :
    List ProtocolMetric × List ProtocolFact :=
  let rules := protocol.rules
  let predicates := ([rules.entryRule, rules.noTradeRule, rules.profitExitRule,
    rules.lossExitRule, rules.timeExitRule] ++ rules.invalidationRules).flatMap (·.predicates)
  (predicates.flatMap ProtocolPredicate.metrics,
    protocol.mandatorySafetyFacts ++ predicates.flatMap ProtocolPredicate.facts)

/-- Compare two numbers. -/
def ComparisonOperator.holds : ComparisonOperator → Decimal → Decimal → Bool
  | lessThan, left, right => decide (left < right)
  | lessThanOrEqual, left, right => decide (left ≤ right)
  | equal, left, right => left == right
  | greaterThanOrEqual, left, right => decide (right ≤ left)
  | greaterThan, left, right => decide (right < left)

/-- The number of an operand. -/
def operandValue (observations : ProtocolObservationSet) :
    ProtocolOperand Decimal → Option Decimal
  | .metric read => observations.numericValues.get read
  | .constant value => some value

/-- Whether a predicate matches, when what it reads was observed. -/
def predicateMatches (observations : ProtocolObservationSet) :
    ProtocolPredicate Decimal → Option Bool
  | .fact read expected => (observations.facts.get read).map fun value => value == expected
  | .numeric left operator right =>
      (observations.numericValues.get left).bind fun leftValue =>
        (operandValue observations right).map fun rightValue =>
          operator.holds leftValue rightValue

/-- Whether a rule matches, when what it reads was observed. -/
def ruleMatches (observations : ProtocolObservationSet) (rule : CompiledMachineRule Decimal) :
    Option Bool :=
  (rule.predicates.mapM (predicateMatches observations)).map fun results =>
    if rule.mode = .all then results.all id else results.any id

/-- What the rules of a protocol say of observations, when all that they read was observed. -/
def evaluateRules (protocol : CompiledStrategyProtocol) (observations : ProtocolObservationSet) :
    Option ProtocolEvaluation := do
  let rules := protocol.rules
  let safety ← protocol.mandatorySafetyFacts.mapM observations.facts.get
  let entryRuleMatched ← ruleMatches observations rules.entryRule
  let noTradeRuleMatched ← ruleMatches observations rules.noTradeRule
  let profitExitRuleMatched ← ruleMatches observations rules.profitExitRule
  let lossExitRuleMatched ← ruleMatches observations rules.lossExitRule
  let timeExitRuleMatched ← ruleMatches observations rules.timeExitRule
  let invalidationRuleMatches ← rules.invalidationRules.mapM (ruleMatches observations)
  pure {
    protocolHash := protocol.protocolHash
    safetyGatesPassed := safety.all id
    entryRuleMatched
    noTradeRuleMatched
    profitExitRuleMatched
    lossExitRuleMatched
    timeExitRuleMatched
    invalidationRuleMatches }

def evaluateCompiledProtocol (protocol : CompiledStrategyProtocol)
    (observations : ProtocolObservationSet) : Except ProtocolFailure ProtocolEvaluation := do
  raiseIf (!decide (protocol.Valid ∧ observations.Valid))
    (.evaluationBlocked "PROTOCOL_EVALUATION_INPUT_INVALID")
  raiseIf (protocol.protocolHash != compiledProtocolHash protocol)
    (.evaluationBlocked "PROTOCOL_HASH_MISMATCH")
  let required := requiredObservations protocol
  raiseIf (!(required.1.all (fun read => (observations.numericValues.get read).isSome) &&
    required.2.all (fun read => (observations.facts.get read).isSome)))
    (.evaluationBlocked "PROTOCOL_OBSERVATION_INCOMPLETE")
  require (evaluateRules protocol observations) .key

/-! ## Verifying -/

/-- Whether a protocol is valid and has its hash. -/
def verifyCompiledProtocol (protocol : CompiledStrategyProtocol) : Bool :=
  decide protocol.Valid && protocol.protocolHash == compiledProtocolHash protocol

end Hashing

def dumpProtocol (protocol : CompiledStrategyProtocol) : String :=
  Json.dumps false (protocolCodec.write protocol)

/-- The protocol of a JSON text, whose fields are checked. -/
def validateProtocol (text : String) : Option CompiledStrategyProtocol :=
  (Json.loads text).bind fun document =>
    (protocolCodec.read document).filter fun protocol => decide protocol.Valid

end AlphaDecay.StrategyBriefs
