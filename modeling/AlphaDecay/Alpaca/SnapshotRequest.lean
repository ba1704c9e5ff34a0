import AlphaDecay.Selection.Snapshot

/-!
# Requests of market snapshots

A request of a snapshot names the account, the underlying and its benchmark, the boundary of the
decision and the window of expiries and strikes whose options are read. Its constructor checks its
fields, and its digest is the request hash of the snapshot that answers it.
-/

namespace AlphaDecay.Alpaca

open Foundation Policy Selection

/-- How many contracts a snapshot has at most. -/
def maxOpportunityContracts : Int := 128

/-- How many days its expiries are apart at most. -/
def maxExpiryWindowDays : Int := 45

/-- How far its strikes are apart at most. -/
def maxStrikeWindow : Decimal := .ofInt 1000

/-- The role that a request reads, unless it names another. -/
def defaultAccountRole : AccountRole := .development

structure OpportunitySnapshotRequest where
  expectedAccountFingerprint : String
  underlying : String
  benchmark : String
  decisionBoundary : Int
  minimumExpiry : Calendar.Date
  maximumExpiry : Calendar.Date
  minimumStrike : Decimal
  maximumStrike : Decimal
  accountRole : AccountRole := defaultAccountRole
  maximumContracts : Int := 64
  maximumQuoteAge : Int := Calendar.seconds 30
  maximumQuoteSkew : Int := Calendar.seconds 5

/-- A symbol of a request: a capital letter and up to nine capital letters, digits and points. -/
def isRequestSymbol (text : String) : Bool :=
  match text.toList with
  | [] => false
  | first :: rest => isUpper first && decide (rest.length ≤ 9)
      && rest.all fun c => isUpper c || Decimal.isDigit c || c == '.'

/-- The fields of a request are in range. -/
def OpportunitySnapshotRequest.Bounded (request : OpportunitySnapshotRequest) : Prop :=
  request.accountRole ≠ .replay
  ∧ isHash request.expectedAccountFingerprint = true
  ∧ isRequestSymbol request.underlying = true
  ∧ isRequestSymbol request.benchmark = true
  ∧ request.underlying ≠ request.benchmark
  ∧ request.decisionBoundary / 1000000 % 60 = 0
  ∧ request.decisionBoundary % 1000000 = 0
  ∧ request.decisionBoundary / 60000000 % 60 % 5 = 0
  ∧ 0 ≤ daysUntil request.decisionBoundary request.minimumExpiry
  ∧ Calendar.dayOfDate request.minimumExpiry ≤ Calendar.dayOfDate request.maximumExpiry
  ∧ (Calendar.dayOfDate request.maximumExpiry : Int) - Calendar.dayOfDate request.minimumExpiry
    ≤ maxExpiryWindowDays
  ∧ Decimal.ofInt 0 < request.minimumStrike
  ∧ request.minimumStrike ≤ request.maximumStrike
  ∧ request.maximumStrike - request.minimumStrike ≤ maxStrikeWindow
  ∧ (1 ≤ request.maximumContracts ∧ request.maximumContracts ≤ maxOpportunityContracts)
  ∧ (0 < request.maximumQuoteAge ∧ request.maximumQuoteAge ≤ Calendar.seconds 120)
  ∧ (0 < request.maximumQuoteSkew ∧ request.maximumQuoteSkew ≤ Calendar.seconds 30)

instance (request : OpportunitySnapshotRequest) : Decidable request.Bounded :=
  inferInstanceAs (Decidable (_ ∧ _))

/-- The check of a request when it is made. -/
def OpportunitySnapshotRequest.postInit (request : OpportunitySnapshotRequest) :
    Except Failure Unit :=
  raiseIf (!decide request.Bounded) (.value "OPPORTUNITY_REQUEST_INVALID")

/-- What the digest of a request covers. Its durations, which are floats of seconds, are held as
their microseconds. -/
def OpportunitySnapshotRequest.material (request : OpportunitySnapshotRequest) : Json :=
  .object [
    ("account_role", .text request.accountRole.text),
    ("account_fingerprint", .text request.expectedAccountFingerprint),
    ("underlying", .text request.underlying),
    ("benchmark", .text request.benchmark),
    ("decision_boundary", isoInstant request.decisionBoundary),
    ("minimum_expiry", policyDate request.minimumExpiry),
    ("maximum_expiry", policyDate request.maximumExpiry),
    ("minimum_strike", Selection.decimalText request.minimumStrike),
    ("maximum_strike", Selection.decimalText request.maximumStrike),
    ("maximum_contracts", .number request.maximumContracts),
    ("maximum_quote_age_seconds", .number request.maximumQuoteAge),
    ("maximum_quote_skew_seconds", .number request.maximumQuoteSkew)]

end AlphaDecay.Alpaca
