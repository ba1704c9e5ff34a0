import AlphaDecay.AgentCodec.Codec

/-!
# The registered classes

The classes that the codec finds in its modules: enumerations by the texts of their members,
dataclasses and models by their fields in the order of declaration, with their defaults.
-/

namespace AlphaDecay.AgentCodec

/-- Fields without a default. -/
def needed (names : List String) : List Field :=
  names.map fun name => ⟨name, none⟩

/-- The gates as they are without any finding. -/
def defaultHardGates : Value :=
  .record .dataclass "backend.app.policy.evaluation.HardGateInput" [
    ("verified_invalidation", .bool false), ("price_confirmation_broken", .bool false),
    ("short_dte", .none), ("short_call_ex_dividend_boundary", .bool false),
    ("bounded_as_approved", .bool true), ("risk_cap_exceeded", .bool false),
    ("weekend_gate_failed", .bool false), ("contest_end_window", .bool false),
    ("strategy_close_reason", .none)]

def contractClasses : List Class := [
  ⟨"backend.app.contracts.v1.models.ContractModel", .record .model ([
      ⟨"schema_version", some (.text "v1")⟩])⟩,
  ⟨"backend.app.contracts.v1.models.AccountRole", .enum [
      "SUBMISSION", "DEVELOPMENT", "REPLAY"]⟩,
  ⟨"backend.app.contracts.v1.models.ReplayScenario", .enum [
      "THESIS_INTACT", "THETA_TAKEOVER", "CATALYST_BROKEN", "STALE_QUOTE"]⟩,
  ⟨"backend.app.contracts.v1.models.DataQuality", .enum [
      "COMPLETE", "MISSING", "STALE", "UNKNOWN"]⟩,
  ⟨"backend.app.contracts.v1.models.MeasurementStatus", .enum [
      "COMPLETE", "MISSING", "UNKNOWN"]⟩,
  ⟨"backend.app.contracts.v1.models.BaselineStatus", .enum [
      "BASELINE_NOT_CAPTURED", "BASELINE_UNKNOWN", "BASELINE_CLEAN", "BASELINE_CONTAMINATED"]⟩,
  ⟨"backend.app.contracts.v1.models.PerformanceFailureCode", .enum [
      "CAPTURE_NOT_STARTED", "PROVIDER_UNAVAILABLE", "ACCOUNT_STATE_INCOMPLETE",
      "BASELINE_UNAVAILABLE", "SCHEMA_INVALID"]⟩,
  ⟨"backend.app.contracts.v1.models.Action", .enum [
      "HOLD", "CLOSE", "ROLL", "NO_ACTION"]⟩,
  ⟨"backend.app.contracts.v1.models.RunState", .enum [
      "QUEUED", "OBSERVING", "VALIDATING_DATA", "EXTRACTING_EVIDENCE", "COMPUTING_EXPOSURE",
      "DECIDING", "POLICY_CHECKING", "EXECUTING", "RECONCILING", "TERMINAL"]⟩,
  ⟨"backend.app.contracts.v1.models.OptionRight", .enum [
      "CALL", "PUT"]⟩,
  ⟨"backend.app.contracts.v1.models.PositionIntent", .enum [
      "BUY_TO_OPEN", "SELL_TO_OPEN", "BUY_TO_CLOSE", "SELL_TO_CLOSE"]⟩,
  ⟨"backend.app.contracts.v1.models.EvidenceRelation", .enum [
      "SUPPORTS", "CONTRADICTS", "NEUTRAL"]⟩,
  ⟨"backend.app.contracts.v1.models.EvidenceTier", .enum [
      "PRIMARY", "ORIGINAL_REPORTING", "SECONDARY"]⟩,
  ⟨"backend.app.contracts.v1.models.ThesisStatus", .enum [
      "INTACT", "WEAKENING", "BROKEN", "UNKNOWN"]⟩,
  ⟨"backend.app.contracts.v1.models.EvidenceState", .enum [
      "ASSESSED", "NO_CHANGE", "UNKNOWN"]⟩,
  ⟨"backend.app.contracts.v1.models.ExecutionDecision", .enum [
      "NO_ACTION", "HOLD_CERTIFIED", "CLOSE_APPROVED", "CLOSE_RISK_ONLY", "ROLL_APPROVED"]⟩,
  ⟨"backend.app.contracts.v1.models.OwnerModelProvider", .enum [
      "GEMINI", "OPENAI_COMPATIBLE"]⟩,
  ⟨"backend.app.contracts.v1.models.HealthResponse", .record .model ([
      ⟨"schema_version", some (.text "v1")⟩, ⟨"status", some (.text "ok")⟩] ++ needed [
      "build", "runtime_mode"])⟩,
  ⟨"backend.app.contracts.v1.models.ErrorDetail", .record .model ([
      ⟨"schema_version", some (.text "v1")⟩] ++ needed [
      "code"] ++ [
      ⟨"field", some .none⟩])⟩,
  ⟨"backend.app.contracts.v1.models.ErrorResponse", .record .model ([
      ⟨"schema_version", some (.text "v1")⟩] ++ needed [
      "error", "request_id"])⟩,
  ⟨"backend.app.contracts.v1.models.SessionCreateRequest", .record .model ([
      ⟨"schema_version", some (.text "v1")⟩] ++ needed [
      "access_code"])⟩,
  ⟨"backend.app.contracts.v1.models.SessionResponse", .record .model ([
      ⟨"schema_version", some (.text "v1")⟩] ++ needed [
      "authenticated"] ++ [
      ⟨"expires_at", some .none⟩])⟩,
  ⟨"backend.app.contracts.v1.models.ProviderSettingsUpdateRequest", .record .model ([
      ⟨"schema_version", some (.text "v1")⟩] ++ needed [
      "provider", "model", "api_key"] ++ [
      ⟨"endpoint", some .none⟩])⟩,
  ⟨"backend.app.contracts.v1.models.ProviderSettingsResponse", .record .model ([
      ⟨"schema_version", some (.text "v1")⟩] ++ needed [
      "configured"] ++ [
      ⟨"provider", some .none⟩, ⟨"endpoint", some .none⟩, ⟨"model", some .none⟩,
      ⟨"generation", some .none⟩])⟩,
  ⟨"backend.app.contracts.v1.models.AccountResponse", .record .model ([
      ⟨"schema_version", some (.text "v1")⟩] ++ needed [
      "role"] ++ [
      ⟨"paper", some (.bool true)⟩] ++ needed [
      "equity", "buying_power", "baseline_status", "autonomous_enabled"])⟩,
  ⟨"backend.app.contracts.v1.models.OptionLeg", .record .model ([
      ⟨"schema_version", some (.text "v1")⟩] ++ needed [
      "symbol", "underlying", "expiry", "strike", "right", "intent", "ratio", "quantity"] ++ [
      ⟨"multiplier", some (.int 100)⟩])⟩,
  ⟨"backend.app.contracts.v1.models.GreekExposure", .record .model ([
      ⟨"schema_version", some (.text "v1")⟩] ++ needed [
      "delta", "gamma", "theta_per_day", "vega_per_iv_point"])⟩,
  ⟨"backend.app.contracts.v1.models.PositionResponse", .record .model ([
      ⟨"schema_version", some (.text "v1")⟩] ++ needed [
      "position_id", "role", "underlying", "legs", "current_exposure", "quality", "fingerprint"])⟩,
  ⟨"backend.app.contracts.v1.models.PositionListResponse", .record .model ([
      ⟨"schema_version", some (.text "v1")⟩] ++ needed [
      "positions"])⟩,
  ⟨"backend.app.contracts.v1.models.ThesisCreateRequest", .record .model ([
      ⟨"schema_version", some (.text "v1")⟩] ++ needed [
      "underlying", "thesis_code", "invalidation_codes", "intended_exposure",
        "source_policy_hash"])⟩,
  ⟨"backend.app.contracts.v1.models.ThesisResponse", .record .model ([
      ⟨"schema_version", some (.text "v1")⟩] ++ needed [
      "thesis_id", "version", "frozen", "thesis_hash", "thesis"])⟩,
  ⟨"backend.app.contracts.v1.models.ThesisFreezeResponse", .record .model ([
      ⟨"schema_version", some (.text "v1")⟩] ++ needed [
      "thesis_id", "version", "thesis_hash", "frozen_at"])⟩,
  ⟨"backend.app.contracts.v1.models.RunCreateRequest", .record .model ([
      ⟨"schema_version", some (.text "v1")⟩] ++ needed [
      "thesis_id", "position_id"])⟩,
  ⟨"backend.app.contracts.v1.models.RunEvent", .record .model ([
      ⟨"schema_version", some (.text "v1")⟩] ++ needed [
      "sequence", "state", "code", "occurred_at"])⟩,
  ⟨"backend.app.contracts.v1.models.RunResponse", .record .model ([
      ⟨"schema_version", some (.text "v1")⟩] ++ needed [
      "run_id", "state"] ++ [
      ⟨"terminal_code", some .none⟩])⟩,
  ⟨"backend.app.contracts.v1.models.SourceCluster", .record .model ([
      ⟨"schema_version", some (.text "v1")⟩] ++ needed [
      "cluster_id", "source_ids", "headline", "observed_at", "source_tier"] ++ [
      ⟨"independent_reporting_group", some .none⟩])⟩,
  ⟨"backend.app.contracts.v1.models.EvidenceClassification", .record .model ([
      ⟨"schema_version", some (.text "v1")⟩] ++ needed [
      "cluster_id", "source_ids", "event_code", "relation", "materiality", "relevance",
      "confidence", "source_tier"] ++ [
      ⟨"invalidates", some (.bool false)⟩, ⟨"independent_reporting_group", some .none⟩,
      ⟨"invalidation_condition_id", some .none⟩])⟩,
  ⟨"backend.app.contracts.v1.models.Alternative", .record .model ([
      ⟨"schema_version", some (.text "v1")⟩] ++ needed [
      "action", "eligible", "rationale_code"] ++ [
      ⟨"expected_exposure", some .none⟩])⟩,
  ⟨"backend.app.contracts.v1.models.DriftComponents", .record .model ([
      ⟨"schema_version", some (.text "v1")⟩] ++ needed [
      "evidence_drift", "exposure_mismatch", "time_pressure", "volatility_mismatch",
      "risk_utilization", "unrounded_score", "display_score", "dominant_non_evidence_component"])⟩,
  ⟨"backend.app.contracts.v1.models.AssessmentResponse", .record .model ([
      ⟨"schema_version", some (.text "v1")⟩] ++ needed [
      "assessment_id", "run_id", "action", "rationale_code", "quality", "thesis_status",
      "evidence_state", "execution_decision", "actual_exposure", "drift_score", "components",
      "alternatives", "evidence", "policy_hash"])⟩,
  ⟨"backend.app.contracts.v1.models.ExecutionClaimResponse", .record .model ([
      ⟨"schema_version", some (.text "v1")⟩] ++ needed [
      "execution_id", "state", "intent_digest"])⟩,
  ⟨"backend.app.contracts.v1.models.ExecutionAttempt", .record .model ([
      ⟨"schema_version", some (.text "v1")⟩] ++ needed [
      "ordinal", "client_order_id_hash", "state"])⟩,
  ⟨"backend.app.contracts.v1.models.CertificateResponse", .record .model ([
      ⟨"schema_version", some (.text "v1")⟩] ++ needed [
      "certificate_id", "account_role", "thesis", "assessment", "expected_after_exposure",
      "actual_after_exposure", "attempts", "execution_state", "lineage_hash"] ++ [
      ⟨"published", some (.bool false)⟩])⟩,
  ⟨"backend.app.contracts.v1.models.PerformancePoint", .record .model ([
      ⟨"schema_version", some (.text "v1")⟩] ++ needed [
      "scheduled_for", "attempted_at", "measured_at", "status", "failure_code",
      "current_equity_usd", "account_equity_change_usd", "account_equity_return_pct",
      "reconciled_lifecycle_cashflow_usd", "open_position_liquidation_pnl_usd",
      "simulator_limitations_code"])⟩,
  ⟨"backend.app.contracts.v1.models.CompetitionPerformanceProofResponse", .record .model ([
      ⟨"schema_version", some (.text "v1")⟩] ++ needed [
      "publication_status", "baseline_status", "published_at", "point", "linked_certificate_ids",
      "publication_hash", "predecessor_hash"])⟩,
  ⟨"backend.app.contracts.v1.models.CompetitionSpreadProjection", .record .model (needed [
      "structure", "underlying", "option_type", "expiration", "long_strike", "short_strike",
      "quantity"])⟩,
  ⟨"backend.app.contracts.v1.models.CompetitionExposureProjection", .record .model ([
      ⟨"delta", some .none⟩, ⟨"gamma", some .none⟩, ⟨"theta_per_day", some .none⟩,
      ⟨"vega_per_iv_point", some .none⟩])⟩,
  ⟨"backend.app.contracts.v1.models.CompetitionThesisProjection", .record .model (needed [
      "direction", "volatility_view", "target_at"])⟩,
  ⟨"backend.app.contracts.v1.models.CompetitionExecutionEvent", .record .model (needed [
      "event_kind", "action", "occurred_at", "reason_category", "cashflow_usd", "execution_status",
      "resulting_state", "spread_after"])⟩,
  ⟨"backend.app.contracts.v1.models.CompetitionAssessmentEvent", .record .model (needed [
      "event_kind", "action", "occurred_at", "reason_category"])⟩,
  ⟨"backend.app.contracts.v1.models.CompetitionNoTradeProjection", .record .model (needed [
      "schema_version", "record_kind", "public_record_id", "status", "reason_category",
      "decided_at", "observed_at", "paper_trading"])⟩,
  ⟨"backend.app.contracts.v1.models.CompetitionPositionProjection", .record .model (needed [
      "schema_version", "record_kind", "public_record_id", "state", "underlying", "opening_spread",
      "current_spread", "opened_at", "as_of", "closed_at", "thesis", "events", "current_exposure",
      "execution_status", "paper_trading"])⟩,
  ⟨"backend.app.contracts.v1.models.CompetitionRecordItem", .record .model ([
      ⟨"schema_version", some (.text "v1")⟩] ++ needed [
      "kind", "public_record_id", "occurred_at", "published_at", "payload", "projection_hash",
      "publication_hash"] ++ [
      ⟨"predecessor_hash", some .none⟩])⟩,
  ⟨"backend.app.contracts.v1.models.CompetitionRecordResponse", .record .model ([
      ⟨"schema_version", some (.text "v1")⟩] ++ needed [
      "publication_status", "records"])⟩,
  ⟨"backend.app.contracts.v1.models.ReplayOpeningPresentation", .record .model ([
      ⟨"schema_version", some (.text "v1")⟩] ++ needed [
      "underlying", "reference_spot", "spread_kind", "long_strike", "short_strike",
      "expiration_date", "quantity", "contract_multiplier", "entry_net_debit_per_share_usd",
      "maximum_loss", "approved_risk_cap", "delta_low", "delta_high", "vega_low", "vega_high",
      "maximum_daily_theta", "minimum_dte", "maximum_dte", "selection_state"])⟩,
  ⟨"backend.app.contracts.v1.models.ReplayMarketPresentation", .record .model ([
      ⟨"schema_version", some (.text "v1")⟩] ++ needed [
      "assessed_at", "review_by", "urgency", "quote_status", "quote_age_seconds", "dte", "mark",
      "bid", "ask", "liquidation_value", "open_pnl", "implied_volatility", "iv_change_points"])⟩,
  ⟨"backend.app.contracts.v1.models.ReplayClassificationPresentation", .record .model ([
      ⟨"schema_version", some (.text "v1")⟩] ++ needed [
      "source_id", "headline", "observed_at", "event_code", "relation", "materiality", "relevance",
      "confidence", "source_tier"] ++ [
      ⟨"invalidates", some (.bool false)⟩])⟩,
  ⟨"backend.app.contracts.v1.models.ReplayEvidencePresentation", .record .model ([
      ⟨"schema_version", some (.text "v1")⟩] ++ needed [
      "status", "classifications"])⟩,
  ⟨"backend.app.contracts.v1.models.ReplayRollPresentation", .record .model ([
      ⟨"schema_version", some (.text "v1")⟩] ++ needed [
      "expiration_date", "long_strike", "short_strike", "quantity", "contract_multiplier",
      "estimated_net_debit_per_share_usd", "resulting_maximum_loss"])⟩,
  ⟨"backend.app.contracts.v1.models.ReplayIntegrationPresentation", .record .model ([
      ⟨"schema_version", some (.text "v1")⟩] ++ needed [
      "fixture_validation", "deterministic_policy", "trading_api", "mcp", "model", "cli",
      "order_entry"])⟩,
  ⟨"backend.app.contracts.v1.models.ReplayPresentation", .record .model ([
      ⟨"schema_version", some (.text "v1")⟩] ++ needed [
      "opening", "market", "evidence", "integration"] ++ [
      ⟨"roll", some .none⟩])⟩,
  ⟨"backend.app.contracts.v1.models.ReplayResponse", .record .model ([
      ⟨"schema_version", some (.text "v1")⟩] ++ needed [
      "scenario"] ++ [
      ⟨"provenance_label", some (.text "REPLAY / FIXTURE DATA")⟩] ++ needed [
      "input_hash", "assessment_hash", "assessment", "certificate", "presentation"] ++ [
      ⟨"execution_enabled", some (.bool false)⟩])⟩,
  ⟨"backend.app.contracts.v1.models.SchedulerTickResponse", .record .model ([
      ⟨"schema_version", some (.text "v1")⟩] ++ needed [
      "tick_id", "accepted", "code"])⟩,
  ⟨"backend.app.contracts.v1.models.AutonomyStatusResponse", .record .model ([
      ⟨"schema_version", some (.text "v1")⟩] ++ needed [
      "role", "server_enabled", "account_enabled", "effective"])⟩,
  ⟨"backend.app.contracts.v1.models.SubmissionBaseline", .record .model ([
      ⟨"schema_version", some (.text "v1")⟩] ++ needed [
      "role", "equity", "captured_at", "account_fingerprint", "positions_hash", "orders_hash",
      "activities_hash", "clean"])⟩,
  ⟨"backend.app.contracts.v1.models.EntryApproval", .record .model ([
      ⟨"schema_version", some (.text "v1")⟩] ++ needed [
      "approval_id", "account_role", "decision_boundary", "book_fingerprint", "policy_hash",
      "selector_policy_hash", "max_loss", "quantity", "envelope_hash", "expires_at"])⟩,
  ⟨"backend.app.contracts.v1.models.FixtureEnvelope", .record .model ([
      ⟨"schema_version", some (.text "v1")⟩] ++ needed [
      "scenario", "provenance", "input_hash", "expected_hash", "payload"])⟩]

def lineageClasses : List Class := [
  ⟨"backend.app.experiment_lineage.ExperimentExecutionLineage", .record .dataclass (needed [
      "experiment_id", "source_definition_hash", "protocol_hash"])⟩]

/-- The classes of the assessment policy. -/
def evaluationClasses : List Class := [
  ⟨"backend.app.policy.evaluation.EvidenceClaim", .record .dataclass (needed [
      "cluster_id", "relation", "materiality", "relevance", "confidence", "source_tier"] ++ [
      ⟨"invalidates", some (.bool false)⟩, ⟨"independent_reporting_group", some .none⟩])⟩,
  ⟨"backend.app.policy.evaluation.EvidenceResult", .record .dataclass (needed [
      "state", "net_evidence", "evidence_drift", "thesis_status"])⟩,
  ⟨"backend.app.policy.evaluation.VolatilityView", .enum [
      "LONG", "SHORT", "NEUTRAL"]⟩,
  ⟨"backend.app.policy.evaluation.FreshnessKind", .enum [
      "ACCOUNT", "POSITIONS", "OPEN_ORDERS", "UNDERLYING_QUOTE", "COMPLETED_BAR",
      "OPTION_SNAPSHOT", "NEWS"]⟩,
  ⟨"backend.app.policy.evaluation.FreshnessInput", .record .dataclass (needed [
      "kind", "observed_at"] ++ [
      ⟨"retrieval_time_only", some (.bool false)⟩])⟩,
  ⟨"backend.app.policy.evaluation.FreshnessResult", .record .dataclass (needed [
      "complete", "failures"])⟩,
  ⟨"backend.app.policy.evaluation.ScoreInput", .record .dataclass (needed [
      "evidence_drift", "delta", "delta_low", "delta_high", "vega", "vega_low", "vega_high",
      "theta_per_day", "max_daily_theta", "dte", "minimum_dte", "maximum_dte", "horizon_fraction",
      "volatility_view", "entry_atm_iv", "current_atm_iv", "liquidation_pnl",
        "approved_max_loss"])⟩,
  ⟨"backend.app.policy.evaluation.ScoreResult", .record .dataclass (needed [
      "evidence_drift", "exposure_mismatch", "time_pressure", "volatility_mismatch",
      "risk_utilization", "unrounded_score", "display_score", "dominant_non_evidence_component"])⟩,
  ⟨"backend.app.policy.evaluation.RollCandidate", .record .dataclass (needed [
      "valid", "drift_reduction", "expiry_extension_days", "relative_spread",
      "maximum_relative_spread", "incremental_debit", "maximum_incremental_debit"] ++ [
      ⟨"within_loss_budget", some (.bool true)⟩, ⟨"covered_verticals", some (.bool true)⟩,
      ⟨"no_prior_roll_today", some (.bool true)⟩, ⟨"expected_after_exposure", some .none⟩])⟩,
  ⟨"backend.app.policy.evaluation.HardGateInput", .record .dataclass ([
      ⟨"verified_invalidation", some (.bool false)⟩,
      ⟨"price_confirmation_broken", some (.bool false)⟩, ⟨"short_dte", some .none⟩,
      ⟨"short_call_ex_dividend_boundary", some (.bool false)⟩,
      ⟨"bounded_as_approved", some (.bool true)⟩, ⟨"risk_cap_exceeded", some (.bool false)⟩,
      ⟨"weekend_gate_failed", some (.bool false)⟩, ⟨"contest_end_window", some (.bool false)⟩,
      ⟨"strategy_close_reason", some .none⟩])⟩,
  ⟨"backend.app.policy.evaluation.AssessmentInput", .record .dataclass (needed [
      "assessment_id", "run_id", "policy_hash", "quality", "actual_exposure", "thesis_status",
      "evidence_state", "scores"] ++ [
      ⟨"execution_failures", some (.tuple [])⟩, ⟨"hard_gates", some (defaultHardGates)⟩,
      ⟨"roll_candidate", some .none⟩, ⟨"acquisition_manifest_id", some .none⟩,
      ⟨"acquisition_manifest_hash", some .none⟩])⟩,
  ⟨"backend.app.policy.evaluation.PolicyResult", .record .dataclass (needed [
      "response", "execution_decision", "components"])⟩]

def opportunityClasses : List Class := [
  ⟨"backend.app.policy.opportunity.OpportunityOutcome", .enum [
      "ENTRY_APPROVED", "NO_TRADE"]⟩,
  ⟨"backend.app.policy.opportunity.OpportunityReason", .enum [
      "ENTRY_APPROVED", "DECISION_BOUNDARY_INCOMPLETE", "DECISION_BOUNDARY_MISMATCH",
      "DECISION_BOUNDARY_NOT_REACHED", "DECISION_BOUNDARY_STALE", "DATA_QUALITY_INCOMPLETE",
      "NORMALIZED_INPUT_INVALID", "CATALYST_CONTRADICTED", "CATALYST_DATA_MISSING",
      "CATALYST_DATA_STALE", "CATALYST_SCORE_BELOW_MINIMUM", "MARKET_CLOSED",
      "TRADING_HALT_STATUS_UNKNOWN", "TRADING_HALTED", "UNDERLYING_DATA_STALE",
      "BETA_OUT_OF_BOUNDS", "FIRST_REACTION_OUT_OF_SUPPORT", "OPTION_CANDIDATE_MISSING",
      "OPTION_CANDIDATE_INVALID", "OPTION_ONLY_REQUIRED", "VERTICAL_STRUCTURE_INVALID",
      "OPTION_FEED_NOT_INDICATIVE", "OPTION_QUOTE_STALE", "OPTION_QUOTES_UNSYNCHRONIZED",
      "OPTION_QUOTE_INVALID", "OPTION_QUOTE_TOO_WIDE", "OPTION_GREEKS_MISSING",
      "OPTION_DTE_OUT_OF_RANGE", "OPTION_DTE_MISMATCH", "OPTION_CONTRACT_INELIGIBLE",
      "OPTION_PAYOFF_INVALID", "CANDIDATE_SCORE_BELOW_MINIMUM", "CANDIDATE_FALLBACK_FORBIDDEN",
      "BUYING_POWER_INSUFFICIENT", "QUANTITY_OUT_OF_BOUNDS", "ACCOUNT_ROLE_NOT_EXECUTABLE",
      "BASELINE_NOT_CLEAN", "EQUITY_FLOOR_REACHED", "ACCOUNT_NOT_FLAT", "OPEN_ORDER_EXISTS",
      "LIFETIME_ENTRY_LIMIT_REACHED", "LIFETIME_RISK_LIMIT_REACHED", "EVENT_ALREADY_ATTEMPTED",
      "POSITION_RISK_LIMIT_EXCEEDED", "ENTRY_WINDOW_CLOSED", "POLICY_SCOPE_MISMATCH",
      "BOOK_FINGERPRINT_INVALID", "ACCOUNT_STATE_INVALID", "ENTRY_RESERVATION_ACTIVE",
      "PRIOR_DECISION_BINDING", "DIRECTION_NOT_CONFIRMED", "VERTICAL_DIRECTION_MISMATCH"]⟩,
  ⟨"backend.app.policy.opportunity.OpportunityDirection", .enum [
      "BULLISH", "BEARISH"]⟩,
  ⟨"backend.app.policy.opportunity.TradingHaltState", .enum [
      "HALTED", "NOT_HALTED", "UNKNOWN"]⟩,
  ⟨"backend.app.policy.opportunity.CatalystQuality", .enum [
      "CLEAR", "UNRESOLVED_RISK", "AUTHORITATIVE_CONTRADICTION", "MISSING"]⟩,
  ⟨"backend.app.policy.opportunity.InstrumentKind", .enum [
      "OPTION", "EQUITY"]⟩,
  ⟨"backend.app.policy.opportunity.OptionFeed", .enum [
      "INDICATIVE_MODIFIED", "OPRA", "OTHER"]⟩,
  ⟨"backend.app.policy.opportunity.VerticalStrategy", .enum [
      "BULL_CALL_DEBIT", "BULL_PUT_CREDIT", "BEAR_PUT_DEBIT", "BEAR_CALL_CREDIT"]⟩,
  ⟨"backend.app.policy.opportunity.StructuralBullishPilotProfile", .record .dataclass ([
      ⟨"direction", some (.enum "backend.app.policy.opportunity.OpportunityDirection" "BULLISH")⟩,
      ⟨"target_dte", some (.int 38)⟩, ⟨"minimum_dte", some (.int 30)⟩,
      ⟨"maximum_dte", some (.int 45)⟩, ⟨"width", some (.decimal ⟨false, 4, 0⟩)⟩,
      ⟨"minimum_long_delta", some (.decimal ⟨false, 55, -2⟩)⟩,
      ⟨"maximum_long_delta", some (.decimal ⟨false, 65, -2⟩)⟩, ⟨"quantity", some (.int 5)⟩,
      ⟨"maximum_debit", some (.decimal ⟨false, 225, -2⟩)⟩,
      ⟨"minimum_reward_to_risk", some (.decimal ⟨false, 75, -2⟩)⟩,
      ⟨"maximum_relative_spread", some (.decimal ⟨false, 5, -2⟩)⟩,
      ⟨"maximum_quote_age", some (.timedelta ⟨20000000, by decide⟩)⟩,
      ⟨"maximum_quote_skew", some (.timedelta ⟨3000000, by decide⟩)⟩])⟩,
  ⟨"backend.app.policy.opportunity.OpportunityPolicy", .record .dataclass (needed [
      "version", "opportunity_key", "underlying", "selected_decision_boundary",
      "last_entry_boundary", "maximum_decision_delay", "maximum_underlying_age",
      "maximum_catalyst_age", "maximum_option_quote_age", "maximum_leg_quote_skew",
      "minimum_vwap_distance", "maximum_vwap_distance", "minimum_relative_return", "minimum_beta",
      "maximum_beta", "required_trend_hits", "maximum_first_reaction", "minimum_catalyst_score",
      "minimum_candidate_score", "minimum_dte", "maximum_dte", "maximum_relative_spread",
      "minimum_debit_width_fraction", "maximum_debit_width_fraction",
      "minimum_credit_width_fraction", "maximum_position_loss", "maximum_equity_risk_fraction",
      "maximum_lifetime_entries", "maximum_lifetime_risk", "equity_floor", "maximum_quantity"])⟩,
  ⟨"backend.app.policy.opportunity.OptionLeg", .record .dataclass (needed [
      "instrument_kind", "symbol", "underlying", "right", "strike", "expiry", "intent", "ratio",
      "multiplier", "active", "tradable", "bid", "ask", "bid_size", "ask_size", "quote_at", "feed",
      "greeks_complete", "greek_units_verified"])⟩,
  ⟨"backend.app.policy.opportunity.VerticalCandidate", .record .dataclass (needed [
      "strategy", "legs", "quantity", "dte", "approved_limit", "candidate_score", "selection_rank",
      "buying_power_sufficient"] ++ [
      ⟨"maximum_limit", some .none⟩])⟩,
  ⟨"backend.app.policy.opportunity.AccountOpportunityState", .record .dataclass (needed [
      "account_role", "book_fingerprint", "baseline_clean", "clean_equity", "open_position_count",
      "open_order_count", "filled_entry_count", "lifetime_approved_risk",
      "entry_reservation_active", "reserved_approved_risk", "event_already_attempted"])⟩,
  ⟨"backend.app.policy.opportunity.OpportunityInput", .record .dataclass (needed [
      "opportunity_key", "underlying", "observed_decision_boundary", "evaluated_at",
      "completed_bar_at", "decision_boundary_complete", "prior_decision_outcome", "data_quality",
      "market_open", "trading_halted", "underlying_observed_at", "catalyst_observed_at",
      "catalyst_quality", "catalyst_score", "vwap_distance", "relative_return", "beta",
      "bull_trend_hits", "bear_trend_hits", "absolute_first_reaction", "candidate", "account"])⟩,
  ⟨"backend.app.policy.opportunity.OpportunityDecisionRecord", .record .dataclass (needed [
      "outcome", "reason_codes", "opportunity_key", "decision_boundary", "direction", "strategy",
      "quantity", "approved_max_loss", "book_fingerprint", "candidate_hash", "input_hash",
      "policy_hash", "result_hash"])⟩]

def acquisitionClasses : List Class := [
  ⟨"backend.app.services.acquisition.ObservedPaperAccountAuthority", .record .dataclass (needed [
      "role", "account_fingerprint", "paper", "persistent_autonomy_enabled"])⟩,
  ⟨"backend.app.services.acquisition.CalibrationBinding", .record .dataclass (needed [
      "account_role", "account_fingerprint", "decision_code", "machine_binding_hash",
      "calibration_hash", "decision_boundary", "sealed_at"])⟩,
  ⟨"backend.app.services.acquisition.PermanentAccountLatch", .record .dataclass (needed [
      "latched"] ++ [
      ⟨"reason", some .none⟩])⟩,
  ⟨"backend.app.services.acquisition.AuthorizationIntentProposal", .record .dataclass (needed [
      "authorization", "intent"])⟩,
  ⟨"backend.app.services.acquisition.OpportunityAcquisition", .record .dataclass (needed [
      "policy", "values", "thesis_version_id"] ++ [
      ⟨"proposal", some .none⟩, ⟨"launch_authority", some .none⟩])⟩,
  ⟨"backend.app.services.acquisition.OpportunityNoTradeAcquisition", .record .dataclass (needed [
      "policy", "values", "decision"])⟩,
  ⟨"backend.app.services.acquisition.LifecycleAcquisition", .record .dataclass (needed [
      "values", "thesis_version_id"] ++ [
      ⟨"proposal", some .none⟩])⟩,
  ⟨"backend.app.services.acquisition.AcquisitionKind", .enum [
      "OPPORTUNITY", "LIFECYCLE"]⟩,
  ⟨"backend.app.services.acquisition.RetainedOptionPosition", .record .dataclass (needed [
      "symbol", "signed_quantity", "multiplier"])⟩,
  ⟨"backend.app.services.acquisition.GreekAuthorityEvidence", .record .dataclass (needed [
      "authority_id", "version", "effective_at", "timestamp_contract_hash", "units_source_hash"])⟩,
  ⟨"backend.app.services.acquisition.RetainedLifecycleTransition", .record .dataclass (needed [
      "action", "occurred_at", "market_session_id", "cashflow", "activity_hashes"])⟩,
  ⟨"backend.app.services.acquisition.RetainedLifecycleContext", .record .dataclass (needed [
      "thesis_version_id", "account_role", "account_fingerprint", "policy_hash", "thesis",
      "thesis_frozen_at", "lifecycle_origin_at", "lifecycle_transitions", "target_at",
      "position_fingerprint", "expected_positions", "account_expected_positions",
      "account_activity_hashes", "account_lifecycle_origin_at", "delta_low", "delta_high",
      "vega_low", "vega_high", "maximum_daily_theta", "minimum_dte", "maximum_dte",
      "maximum_relative_spread", "liquidity_authority_hash", "volatility_view", "entry_atm_iv",
      "approved_max_loss", "portfolio_risk_cap", "greek_authority", "managed_position_id",
      "current_snapshot_id", "launch_authority"])⟩,
  ⟨"backend.app.services.acquisition.LifecycleOptionObservation", .record .dataclass (needed [
      "symbol", "signed_quantity", "multiplier", "active", "tradable", "feed", "bid_price",
      "ask_price", "delta", "gamma", "theta_per_day", "vega_per_iv_point", "quote_observed_at",
      "greek_observed_at", "retrieved_at", "greek_authority_id", "greek_timestamp_source_hash",
      "greek_units_source_hash", "source_hash"])⟩,
  ⟨"backend.app.services.acquisition.AtmIvObservation", .record .dataclass (needed [
      "underlying", "value", "feed", "observed_at", "retrieved_at", "source_hash", "request_hash",
      "call_source_hash", "put_source_hash"])⟩,
  ⟨"backend.app.services.acquisition.PriceConfirmationPoint", .record .dataclass (needed [
      "completed_bar_at", "vwap_side", "relative_return_side", "source_hash",
      "underlying_bar_source_hash", "benchmark_bar_source_hash"])⟩,
  ⟨"backend.app.services.acquisition.UnderlyingMarketObservation", .record .dataclass (needed [
      "underlying", "bid_price", "ask_price", "quote_observed_at", "quote_retrieved_at",
      "quote_source_hash", "completed_bar_at", "completed_bar_source_hash", "request_hash",
      "benchmark_symbol", "benchmark_completed_bar_at", "benchmark_completed_bar_source_hash"])⟩,
  ⟨"backend.app.services.acquisition.AlpacaMarketSession", .record .dataclass (needed [
      "market_session_id", "session_date", "open_at", "close_at", "source_hash", "request_hash",
      "retrieved_at"])⟩,
  ⟨"backend.app.services.acquisition.LifecycleBoundaryObservation", .record .dataclass (needed [
      "market_session", "observed_at", "source_hash", "price_confirmation", "short_call_close_at",
      "weekend_close_at", "contest_end_at"])⟩,
  ⟨"backend.app.services.acquisition.LifecycleRollObservation", .record .dataclass (needed [
      "positions", "options"])⟩,
  ⟨"backend.app.services.acquisition.LifecycleProviderObservation", .record .dataclass (needed [
      "sweep", "underlying", "options", "atm_iv", "boundaries"] ++ [
      ⟨"roll", some .none⟩, ⟨"roll_candidates", some (.tuple [])⟩])⟩,
  ⟨"backend.app.services.acquisition._ParsedOption", .record .dataclass (needed [
      "symbol", "root", "expiry", "right", "strike"])⟩,
  ⟨"backend.app.services.acquisition._ValidatedObservation", .record .dataclass (needed [
      "options", "dte", "liquidation_pnl"])⟩,
  ⟨"backend.app.services.acquisition._RollSelection", .record .dataclass (needed [
      "candidate", "observation"])⟩]

def agentClasses : List Class := [
  ⟨"backend.app.services.agent.AgentDecision", .record .dataclass (needed [
      "code", "decided_at"] ++ [
      ⟨"thesis_version_id", some .none⟩, ⟨"calibration", some .none⟩,
      ⟨"submission_authority", some .none⟩, ⟨"opportunity", some .none⟩, ⟨"lifecycle", some .none⟩,
      ⟨"provider_failure_code", some .none⟩, ⟨"provider_failure_kind", some .none⟩,
      ⟨"normalized_input", some .none⟩, ⟨"experiment_lineage", some .none⟩])⟩,
  ⟨"backend.app.services.agent.AgentTick", .record .dataclass (needed [
      "tick_id", "reservation_token", "authority", "actor", "trusted_at"])⟩,
  ⟨"backend.app.services.agent.PersistedAgentDecision", .record .dataclass (needed [
      "decision", "approved_intent"])⟩,
  ⟨"backend.app.services.agent.SubmissionOrderPreview", .record .dataclass (needed [
      "intent_id", "thesis_version_id", "thesis_code", "strategy", "reason_codes", "risk_cap",
      "legs", "quantity", "limit_price", "maximum_loss", "account_role", "decision_id",
      "approval_id", "account_fingerprint", "book_fingerprint", "policy_hash", "envelope_hash",
      "decision_result_hash", "intent_digest", "created_at", "experiment_lineage"])⟩,
  ⟨"backend.app.services.agent.AgentRunResult", .record .dataclass (needed [
      "tick_id", "terminal_code", "decision", "approved_intent_id", "execution_certificate_id",
      "proof_hash"])⟩]

/-- Every class that the codec finds. -/
def registry : List Class :=
  contractClasses ++ lineageClasses ++ evaluationClasses ++ opportunityClasses ++
    acquisitionClasses ++ agentClasses

end AlphaDecay.AgentCodec
