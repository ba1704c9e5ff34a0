import AlphaDecay.StrategyBriefs.ProtocolCodec

/-!
# Reviewed requests

A request to compile a strategy binds the curation of a brief to a definition and to rules that a
reviewer mapped to machine predicates. The curation is dumped whole, as its hash covers all of it.
-/

namespace AlphaDecay.StrategyBriefs

open Foundation Foundation.Json

/-! ## Briefs -/

/-- Where the text of a brief comes from. -/
inductive BriefSourceKind where
  | pastedText
  | textFile
  | markdownFile
deriving DecidableEq, Repr

def BriefSourceKind.text : BriefSourceKind → String
  | pastedText => "PASTED_TEXT"
  | textFile => "TEXT_FILE"
  | markdownFile => "MARKDOWN_FILE"

structure StrategyBriefSource where
  kind : BriefSourceKind
  content : String
  filename : Option String
deriving DecidableEq

structure StrategyBriefRequest where
  source : StrategyBriefSource
  marketScope : Option String
  direction : Option StrategyDirection
  horizon : Option String
  evidence : List String
  invalidation : List String
  riskBudget : Option (StrategyRiskBudget Decimal)
  notes : Option String
deriving DecidableEq

/-! ## Curations -/

/-- How far a part of a brief is ready. -/
inductive CurationReadiness where
  | ready
  | needsInput
  | conflictReview
deriving DecidableEq, Repr

def CurationReadiness.text : CurationReadiness → String
  | ready => "READY"
  | needsInput => "NEEDS_INPUT"
  | conflictReview => "CONFLICT_REVIEW"

/-- How sure a curation is. -/
inductive CurationConfidence where
  | low
  | medium
  | high
deriving DecidableEq, Repr

def CurationConfidence.text : CurationConfidence → String
  | low => "LOW"
  | medium => "MEDIUM"
  | high => "HIGH"

inductive CurationBlockingQuestion where
  | marketScopeRequired
  | directionReviewRequired
  | horizonRequired
  | evidenceRequired
  | riskBudgetRequired
  | entryRuleRequired
  | noTradeRuleRequired
  | profitExitRequired
  | lossExitRequired
  | timeExitRequired
  | invalidationRequired
  | structureReviewRequired
deriving DecidableEq, Repr

def CurationBlockingQuestion.text : CurationBlockingQuestion → String
  | marketScopeRequired => "MARKET_SCOPE_REQUIRED"
  | directionReviewRequired => "DIRECTION_REVIEW_REQUIRED"
  | horizonRequired => "HORIZON_REQUIRED"
  | evidenceRequired => "EVIDENCE_REQUIRED"
  | riskBudgetRequired => "RISK_BUDGET_REQUIRED"
  | entryRuleRequired => "ENTRY_RULE_REQUIRED"
  | noTradeRuleRequired => "NO_TRADE_RULE_REQUIRED"
  | profitExitRequired => "PROFIT_EXIT_REQUIRED"
  | lossExitRequired => "LOSS_EXIT_REQUIRED"
  | timeExitRequired => "TIME_EXIT_REQUIRED"
  | invalidationRequired => "INVALIDATION_REQUIRED"
  | structureReviewRequired => "STRUCTURE_REVIEW_REQUIRED"

/-- The rules of a curation, in words. -/
structure StrategyProtocolFields where
  entryRule : Option String
  noTradeRule : Option String
  profitExitRule : Option String
  lossExitRule : Option String
  timeExitRule : Option String
  invalidationRules : List String
deriving DecidableEq

structure StrategyCurationClassifications where
  direction : StrategyDirection
  structure_ : CuratedStructure
  clarity : CurationReadiness
  evidence : CurationReadiness
  risk : CurationReadiness
  exit : CurationReadiness
  confidence : CurationConfidence
deriving DecidableEq

structure SupportingEvidenceExcerpt where
  evidenceId : String
  excerpt : String
deriving DecidableEq

structure StrategyCurationResponse where
  intake : StrategyBriefRequest
  protocolFields : StrategyProtocolFields
  classifications : StrategyCurationClassifications
  blockingQuestions : List CurationBlockingQuestion
  supportingEvidence : List SupportingEvidenceExcerpt
deriving DecidableEq

/-! ## Requests -/

/-- A rule that was mapped to predicates, with its words. -/
structure MachineRule where
  sourceText : String
  mode : RuleMatchMode
  predicates : List (ProtocolPredicate Decimal)
deriving DecidableEq

structure ReviewedProtocolRules where
  entryRule : MachineRule
  noTradeRule : MachineRule
  profitExitRule : MachineRule
  lossExitRule : MachineRule
  timeExitRule : MachineRule
  invalidationRules : List MachineRule
deriving DecidableEq

structure ReviewedExecutableProtocolRequest where
  curation : StrategyCurationResponse
  definition : Option (ReviewedProtocolDefinition Decimal)
  rules : ReviewedProtocolRules
deriving DecidableEq

/-! ## Documents -/

/-- The document of a text that may be missing. -/
def optionalText (value : Option String) : Json :=
  Json.ofOptional Json.text value

def textItems (values : List String) : Json :=
  .array (values.map .text)

def StrategyBriefSource.document (source : StrategyBriefSource) : Json :=
  .object [("kind", .text source.kind.text), ("content", .text source.content),
    ("filename", optionalText source.filename)]

def StrategyBriefRequest.document (request : StrategyBriefRequest) : Json :=
  .object [("source", request.source.document),
    ("market_scope", optionalText request.marketScope),
    ("direction", optionalText (request.direction.map StrategyDirection.text)),
    ("horizon", optionalText request.horizon),
    ("evidence", textItems request.evidence),
    ("invalidation", textItems request.invalidation),
    ("risk_budget", Json.ofOptional riskBudgetCodec.write request.riskBudget),
    ("notes", optionalText request.notes)]

/-- The document of the rules of a curation. -/
def StrategyProtocolFields.document (fields : StrategyProtocolFields) : Json :=
  .object [("entry_rule", optionalText fields.entryRule),
    ("no_trade_rule", optionalText fields.noTradeRule),
    ("profit_exit_rule", optionalText fields.profitExitRule),
    ("loss_exit_rule", optionalText fields.lossExitRule),
    ("time_exit_rule", optionalText fields.timeExitRule),
    ("invalidation_rules", textItems fields.invalidationRules)]

def StrategyCurationClassifications.document
    (classifications : StrategyCurationClassifications) : Json :=
  .object [("direction", .text classifications.direction.text),
    ("structure", .text classifications.structure_.text),
    ("clarity", .text classifications.clarity.text),
    ("evidence", .text classifications.evidence.text),
    ("risk", .text classifications.risk.text),
    ("exit", .text classifications.exit.text),
    ("confidence", .text classifications.confidence.text)]

def SupportingEvidenceExcerpt.document (evidence : SupportingEvidenceExcerpt) : Json :=
  .object [("evidence_id", .text evidence.evidenceId), ("excerpt", .text evidence.excerpt)]

def StrategyCurationResponse.document (curation : StrategyCurationResponse) : Json :=
  .object [("schema_version", .text "v1"), ("status", .text "CURATED_REVIEW_REQUIRED"),
    ("curation_status", .text "MODEL_CURATED"), ("automation_state", .text "OFF"),
    ("execution_eligible", .bool false), ("paper_trading_only", .bool true),
    ("options_required", .bool true), ("defined_risk_required", .bool true),
    ("intake", curation.intake.document),
    ("protocol_fields", curation.protocolFields.document),
    ("classifications", curation.classifications.document),
    ("blocking_questions",
      .array (curation.blockingQuestions.map fun question => .text question.text)),
    ("supporting_evidence",
      .array (curation.supportingEvidence.map SupportingEvidenceExcerpt.document))]

/-! ## Valid requests -/

/-- A text with a number of characters between two bounds, not all of them white space. -/
def isTextOf (least most : Nat) (text : String) : Bool :=
  decide (least ≤ text.length ∧ text.length ≤ most) && text.toList.any fun c => !isSpace c

/-- A letter that is lowered to a small one. The Kelvin sign is lowered to a plain letter. -/
def lowersTo (expected c : Char) : Bool :=
  c.toLower == expected || (c.toNat == 0x212A && expected == 'k')

/-- A text that ends so once it is lowered. -/
def hasSuffix (suffix text : String) : Bool :=
  decide (suffix.length ≤ text.length) &&
    (List.zipWith lowersTo suffix.toList.reverse text.toList.reverse).all id

/-- The checks of a source: a file has a name that fits its kind. -/
def StrategyBriefSource.isValid (source : StrategyBriefSource) : Bool :=
  isTextOf 20 20000 source.content &&
    source.filename.all (fun name => decide (1 ≤ name.length ∧ name.length ≤ 255)) &&
    match source.kind, source.filename with
    | .pastedText, filename => filename.isNone
    | .textFile, some name => hasSuffix ".txt" name
    | .markdownFile, some name => hasSuffix ".md" name || hasSuffix ".markdown" name
    | _, none => false

/-- Up to twelve texts, none of them blank. -/
def areTexts (most : Nat) (texts : List String) : Bool :=
  decide (texts.length ≤ 12) && texts.all (isTextOf 1 most)

/-- The checks of a brief. -/
def StrategyBriefRequest.Valid (request : StrategyBriefRequest) : Prop :=
  request.source.isValid = true ∧ request.marketScope.all (isTextOf 1 120) = true ∧
    request.horizon.all (isTextOf 1 240) = true ∧ areTexts 1000 request.evidence = true ∧
    areTexts 1000 request.invalidation = true ∧
    (∀ budget ∈ request.riskBudget, budget.Valid) ∧ request.notes.all (isTextOf 1 4000) = true

instance (request : StrategyBriefRequest) : Decidable request.Valid :=
  inferInstanceAs (Decidable (_ ∧ _))

/-- The checks of the rules of a curation. -/
def StrategyProtocolFields.isValid (fields : StrategyProtocolFields) : Bool :=
  [fields.entryRule, fields.noTradeRule, fields.profitExitRule, fields.lossExitRule,
    fields.timeExitRule].all (fun rule => rule.all (isTextOf 1 2000)) &&
    areTexts 2000 fields.invalidationRules

def evidenceName (index : Nat) : String :=
  "evidence-" ++ intText index

/-- The checks of an excerpt. -/
def SupportingEvidenceExcerpt.isValid (evidence : SupportingEvidenceExcerpt) : Bool :=
  ((List.range' 1 12).map evidenceName).contains evidence.evidenceId &&
    isTextOf 1 1000 evidence.excerpt

/-- The checks of a curation. -/
def StrategyCurationResponse.Valid (curation : StrategyCurationResponse) : Prop :=
  curation.intake.Valid ∧ curation.protocolFields.isValid = true ∧
    curation.blockingQuestions.length ≤ 12 ∧ curation.supportingEvidence.length ≤ 12 ∧
    curation.supportingEvidence.all SupportingEvidenceExcerpt.isValid = true

instance (curation : StrategyCurationResponse) : Decidable curation.Valid :=
  inferInstanceAs (Decidable (_ ∧ _))

/-- The checks of a mapped rule. -/
def MachineRule.Valid (rule : MachineRule) : Prop :=
  isTextOf 1 2000 rule.sourceText = true ∧
    (1 ≤ rule.predicates.length ∧ rule.predicates.length ≤ 12) ∧
    ∀ predicate ∈ rule.predicates, predicate.Valid

instance (rule : MachineRule) : Decidable rule.Valid :=
  inferInstanceAs (Decidable (_ ∧ _))

/-- The mapped rules one after another. -/
def ReviewedProtocolRules.rules (rules : ReviewedProtocolRules) : List MachineRule :=
  rules.entryRule :: rules.noTradeRule :: rules.profitExitRule :: rules.lossExitRule ::
    rules.timeExitRule :: rules.invalidationRules

/-- The checks of the mapped rules. -/
def ReviewedProtocolRules.Valid (rules : ReviewedProtocolRules) : Prop :=
  (∀ rule ∈ rules.rules, rule.Valid) ∧
    (1 ≤ rules.invalidationRules.length ∧ rules.invalidationRules.length ≤ 12)

instance (rules : ReviewedProtocolRules) : Decidable rules.Valid :=
  inferInstanceAs (Decidable (_ ∧ _))

/-- The checks of a request. -/
def ReviewedExecutableProtocolRequest.Valid (request : ReviewedExecutableProtocolRequest) :
    Prop :=
  request.curation.Valid ∧ (∀ definition ∈ request.definition, definition.Valid) ∧
    request.rules.Valid

instance (request : ReviewedExecutableProtocolRequest) : Decidable request.Valid :=
  inferInstanceAs (Decidable (_ ∧ _))

end AlphaDecay.StrategyBriefs
