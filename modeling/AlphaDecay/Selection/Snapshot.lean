import AlphaDecay.Policy.CandidateChecks

/-!
# Market snapshots of an opportunity

The snapshot from which a vertical candidate is selected: the account book, the market session, the
bars of the underlying and of the benchmark, and the quoted options. A snapshot is valid when its
times and bars are those of the decision boundary, its hashes are those of its parts, and every
option is one standard contract that no other option repeats.
-/

namespace AlphaDecay.Selection

open Foundation Policy

/-! ## Values -/

structure AccountResponse where
  role : AccountRole
  paper : Bool
  equity : Decimal
  buyingPower : Decimal
  baselineStatus : DataQuality
  autonomousEnabled : Bool

/-- The account book of a snapshot. Positions and orders are held as their documents. -/
structure OpportunityAccountBook where
  account : AccountResponse
  positions : Json
  openOrders : List Json
  accountFingerprint : String
  sourceHash : String

structure OpportunityMarketSession where
  sessionDate : Calendar.Date
  openAt : Int
  closeAt : Int
  clockAt : Int
  marketOpen : Bool
  nextOpenAt : Int
  nextCloseAt : Int
  sourceHash : String

structure OpportunityBar where
  symbol : String
  startedAt : Int
  completedAt : Int
  openPrice : Decimal
  high : Decimal
  low : Decimal
  closePrice : Decimal
  volume : Decimal
  vwap : Decimal
  sourceHash : String

structure OpportunityOption where
  symbol : String
  underlying : String
  expiry : Calendar.Date
  right : String
  strike : Decimal
  bid : Decimal
  ask : Decimal
  bidSize : Int
  askSize : Int
  quoteAt : Int
  retrievedAt : Int
  impliedVolatility : Decimal
  delta : Decimal
  gamma : Decimal
  thetaPerDay : Decimal
  vegaPerIvPoint : Decimal
  sourceHash : String

structure OpportunityMarketSnapshot where
  trustedAt : Int
  accountBook : OpportunityAccountBook
  session : OpportunityMarketSession
  underlyingBar : OpportunityBar
  benchmarkBar : OpportunityBar
  options : List OpportunityOption
  requestHash : String
  sourceHash : String

/-! ## Option contract symbols -/

structure OptionContractSymbol where
  symbol : String
  rootSymbol : String
  expirationDate : Calendar.Date
  right : String
  strikePrice : Decimal
  isAdjusted : Bool

/-- An upper-case letter of a symbol. -/
def isUpper (c : Char) : Bool :=
  decide ('A'.toNat ≤ c.toNat ∧ c.toNat ≤ 'Z'.toNat)

/-- The root of a symbol: one to six letters, or one to five with a digit behind or in front. -/
def isRoot (root : List Char) : Bool :=
  let letters := fun (text : List Char) (most : Nat) =>
    decide (1 ≤ text.length ∧ text.length ≤ most) && text.all isUpper
  letters root 6
    || (letters root.dropLast 5 && root.getLast?.any Decimal.isDigit)
    || (letters root.tail 5 && root.head?.any Decimal.isDigit)

/-- The date of six digits. Two digits of a year from sixty-nine on are of the twentieth
century. -/
def readExpiration (digits : List Char) : Option Calendar.Date := do
  let year ← Text.readDigits 10 (digits.take 2)
  let month ← Text.readDigits 10 ((digits.drop 2).take 2)
  let day ← Text.readDigits 10 (digits.drop 4)
  let date : Calendar.Date := ⟨if year < 69 then 2000 + year else 1900 + year, month, day⟩
  if date.isValid then some date else none

/-- Read an option contract symbol: a root, six digits of a date, the right, and eight digits of
the strike in thousandths. -/
def parseOptionContractSymbol (symbol : String) : Except Failure OptionContractSymbol := do
  let text := symbol.toList
  let root := text.take (text.length - 15)
  let rest := text.drop (text.length - 15)
  let expiration := rest.take 6
  let right := (rest.drop 6).take 1
  let strike := rest.drop 7
  raiseIf (!(isRoot root && decide (rest.length = 15) && expiration.all Decimal.isDigit
    && (right == ['C'] || right == ['P']) && strike.all Decimal.isDigit))
    (.value "OPTION_CONTRACT_SYMBOL_MALFORMED")
  let expirationDate ← require (readExpiration expiration)
    (.value "OPTION_CONTRACT_SYMBOL_MALFORMED")
  let thousandths ← require (Text.readDigits 10 strike)
    (.value "OPTION_CONTRACT_SYMBOL_MALFORMED")
  let strikePrice ← divide ⟨false, thousandths, 0⟩ (.ofInt 1000)
  return {
    symbol := symbol
    rootSymbol := String.ofList root
    expirationDate := expirationDate
    right := String.ofList right
    strikePrice := strikePrice
    isAdjusted := root.head?.any Decimal.isDigit || root.getLast?.any Decimal.isDigit }

def parseStandardOptionContractSymbol (symbol underlyingSymbol : String) :
    Except Failure OptionContractSymbol := do
  let parsed ← parseOptionContractSymbol symbol
  raiseIf parsed.isAdjusted (.value "NON_STANDARD_CONTRACT_UNSUPPORTED")
  raiseIf (parsed.rootSymbol != underlyingSymbol) (.value "OPTION_CONTRACT_SYMBOL_MALFORMED")
  return parsed

/-- Whether the symbol of an option is that of its terms. -/
def occMatches (option : OpportunityOption) : Bool :=
  match parseStandardOptionContractSymbol option.symbol option.underlying with
  | .ok parsed => decide (parsed.expirationDate = option.expiry)
      && decide (parsed.right = option.right) && (parsed.strikePrice == option.strike)
  | .error _ => false

/-! ## Hashes -/

/-- A text of a decimal as it is written, as a document. -/
def decimalText (value : Decimal) : Json :=
  .ofChars value.toText

/-- An instant in ISO form, as a document. -/
def isoInstant (instant : Int) : Json :=
  .text (Calendar.isoformat instant)

def AccountResponse.document (account : AccountResponse) : Json :=
  .object [
    ("schema_version", .text "v1"),
    ("role", .text account.role.text),
    ("paper", .bool account.paper),
    ("equity", policyNumber account.equity),
    ("buying_power", policyNumber account.buyingPower),
    ("baseline_status", .text account.baselineStatus.text),
    ("autonomous_enabled", .bool account.autonomousEnabled)]

/-- What the hash of an account book covers. -/
def OpportunityAccountBook.material (book : OpportunityAccountBook) : Json :=
  .object [
    ("account", book.account.document),
    ("positions", book.positions),
    ("orders", .array book.openOrders),
    ("account_fingerprint", .text book.accountFingerprint)]

/-- What the hash of a session covers. -/
def OpportunityMarketSession.material (session : OpportunityMarketSession) : Json :=
  .object [
    ("date", policyDate session.sessionDate),
    ("open", isoInstant session.openAt),
    ("close", isoInstant session.closeAt),
    ("clock", isoInstant session.clockAt),
    ("market_open", .bool session.marketOpen),
    ("next_open", isoInstant session.nextOpenAt),
    ("next_close", isoInstant session.nextCloseAt)]

/-- What the hash of a bar covers. -/
def OpportunityBar.material (bar : OpportunityBar) : Json :=
  .object [
    ("symbol", .text bar.symbol),
    ("started_at", isoInstant bar.startedAt),
    ("completed_at", isoInstant bar.completedAt),
    ("open", decimalText bar.openPrice),
    ("high", decimalText bar.high),
    ("low", decimalText bar.low),
    ("close", decimalText bar.closePrice),
    ("volume", decimalText bar.volume),
    ("vwap", decimalText bar.vwap)]

/-- What the hash of an option covers. -/
def OpportunityOption.material (option : OpportunityOption) : Json :=
  .object [
    ("symbol", .text option.symbol),
    ("expiry", policyDate option.expiry),
    ("right", .text option.right),
    ("strike", decimalText option.strike),
    ("bid", decimalText option.bid),
    ("ask", decimalText option.ask),
    ("bid_size", .number option.bidSize),
    ("ask_size", .number option.askSize),
    ("quote_at", isoInstant option.quoteAt),
    ("retrieved_at", isoInstant option.retrievedAt),
    ("implied_volatility", decimalText option.impliedVolatility),
    ("delta", decimalText option.delta),
    ("gamma", decimalText option.gamma),
    ("theta", decimalText option.thetaPerDay),
    ("vega", decimalText option.vegaPerIvPoint)]

/-- What the hash of a snapshot covers. -/
def OpportunityMarketSnapshot.material (snapshot : OpportunityMarketSnapshot) : Json :=
  .object [
    ("request", .text snapshot.requestHash),
    ("book", .text snapshot.accountBook.sourceHash),
    ("session", .text snapshot.session.sourceHash),
    ("underlying_bar", .text snapshot.underlyingBar.sourceHash),
    ("benchmark_bar", .text snapshot.benchmarkBar.sourceHash),
    ("options", .array (snapshot.options.map fun option => .text option.sourceHash))]

/-- Whether every hash of a snapshot is that of what it covers. -/
def snapshotHashesValid [Digest] (snapshot : OpportunityMarketSnapshot) : Bool :=
  ([snapshot.requestHash, snapshot.sourceHash, snapshot.accountBook.accountFingerprint,
      snapshot.accountBook.sourceHash, snapshot.session.sourceHash,
      snapshot.underlyingBar.sourceHash, snapshot.benchmarkBar.sourceHash]
    ++ snapshot.options.map (·.sourceHash)).all isHash
  && decide (snapshot.accountBook.sourceHash = Digest.authorityHash snapshot.accountBook.material)
  && decide (snapshot.session.sourceHash = Digest.authorityHash snapshot.session.material)
  && [snapshot.underlyingBar, snapshot.benchmarkBar].all (fun bar =>
    decide (bar.sourceHash = Digest.authorityHash bar.material))
  && snapshot.options.all (fun option =>
    decide (option.sourceHash = Digest.authorityHash option.material))
  && decide (snapshot.sourceHash = Digest.authorityHash snapshot.material)

/-! ## Validity -/

/-- How far a retrieval may lie ahead of the trusted time. -/
def retrievalSkewTolerance : Int := Calendar.seconds 30

/-- The spread of an option over its midpoint. -/
def relativeSpread (option : OpportunityOption) : Except Failure Decimal := do
  let midpoint ← divide (option.ask + option.bid) (.ofInt 2)
  divide (option.ask - option.bid) midpoint

/-- Whether the terms and the quote of an option are in range, whatever the policy. -/
def OptionQuoted (option : OpportunityOption) (snapshot : OpportunityMarketSnapshot)
    (policy : OpportunityPolicyFields) : Prop :=
  option.underlying = policy.underlying
  ∧ (option.right = "C" ∨ option.right = "P")
  ∧ occMatches option = true
  ∧ Decimal.ofInt 0 < option.strike
  ∧ (Decimal.ofInt 0 < option.bid ∧ option.bid ≤ option.ask)
  ∧ 0 < option.bidSize
  ∧ 0 < option.askSize
  ∧ Decimal.ofInt 0 < option.impliedVolatility
  ∧ (Decimal.ofInt (-1) ≤ option.delta ∧ option.delta ≤ Decimal.ofInt 1)
  ∧ (Decimal.ofInt 0 ≤ option.gamma ∧ option.gamma ≤ Decimal.ofInt 10)
  ∧ option.thetaPerDay.abs ≤ Decimal.ofInt 1000
  ∧ (Decimal.ofInt 0 ≤ option.vegaPerIvPoint ∧ option.vegaPerIvPoint ≤ Decimal.ofInt 1000)
  ∧ option.quoteAt ≤ option.retrievedAt
  ∧ option.retrievedAt - snapshot.trustedAt ≤ retrievalSkewTolerance
  ∧ -retrievalSkewTolerance ≤ snapshot.trustedAt - option.quoteAt

instance (option : OpportunityOption) (snapshot : OpportunityMarketSnapshot)
    (policy : OpportunityPolicyFields) : Decidable (OptionQuoted option snapshot policy) :=
  inferInstanceAs (Decidable (_ ∧ _))

/-- Whether an option is within the age, the days to expiry and the spread of the policy. -/
def policyEligible (option : OpportunityOption) (snapshot : OpportunityMarketSnapshot)
    (policy : OpportunityPolicyFields) : Except Failure Bool := do
  let days := daysUntil policy.selectedDecisionBoundary option.expiry
  if snapshot.trustedAt - option.quoteAt ≤ policy.maximumOptionQuoteAge ∧
      policy.minimumDte ≤ days ∧ days ≤ policy.maximumDte then
    let spread ← relativeSpread option
    return decide (spread ≤ policy.maximumRelativeSpread)
  else return false

/-- Whether an option is eligible, where the policy is enforced. -/
def enforcedEligible (option : OpportunityOption) (snapshot : OpportunityMarketSnapshot)
    (policy : OpportunityPolicyFields) (enforcePolicyEligibility : Bool) : Except Failure Bool :=
  if enforcePolicyEligibility then policyEligible option snapshot policy else .ok true

def optionValid (option : OpportunityOption) (snapshot : OpportunityMarketSnapshot)
    (policy : OpportunityPolicyFields) (enforcePolicyEligibility : Bool) :
    Except Failure Bool := do
  if OptionQuoted option snapshot policy then
    let eligible ← enforcedEligible option snapshot policy enforcePolicyEligibility
    return eligible && isHash option.sourceHash
  else return false

/-- Whether two options are the same contract. -/
def sameContract (first second : OpportunityOption) : Bool :=
  decide (first.symbol = second.symbol)
    || (decide (first.underlying = second.underlying) && decide (first.right = second.right)
      && decide (first.expiry = second.expiry) && (first.strike == second.strike))

/-- Whether the options of a snapshot are valid and distinct, read after the ones before them. -/
def optionsValid (snapshot : OpportunityMarketSnapshot) (policy : OpportunityPolicyFields)
    (enforcePolicyEligibility : Bool) :
    List OpportunityOption → List OpportunityOption → Except Failure Bool
  | _, [] => .ok true
  | seen, option :: rest => do
      if seen.any (sameContract option) then return false
      else
        let valid ← optionValid option snapshot policy enforcePolicyEligibility
        if valid then
          optionsValid snapshot policy enforcePolicyEligibility (option :: seen) rest
        else return false

/-- The span of the quote times of options. -/
def optionSkew : List OpportunityOption → Int
  | [] => 0
  | first :: rest =>
      (rest.map (·.quoteAt)).foldl max first.quoteAt - (rest.map (·.quoteAt)).foldl min
        first.quoteAt

def barLength : Int := Calendar.seconds 300

/-- Whether the bars, the session and the account of a snapshot are those of the boundary. -/
def SnapshotFramed (snapshot : OpportunityMarketSnapshot) (policy : OpportunityPolicyFields) :
    Prop :=
  snapshot.underlyingBar.symbol = policy.underlying
  ∧ snapshot.underlyingBar.completedAt = policy.selectedDecisionBoundary
  ∧ snapshot.benchmarkBar.symbol ≠ policy.underlying
  ∧ snapshot.benchmarkBar.completedAt = policy.selectedDecisionBoundary
  ∧ snapshot.underlyingBar.startedAt = policy.selectedDecisionBoundary - barLength
  ∧ snapshot.benchmarkBar.startedAt = policy.selectedDecisionBoundary - barLength
  ∧ policy.selectedDecisionBoundary ≤ snapshot.trustedAt
  ∧ snapshot.trustedAt - policy.selectedDecisionBoundary ≤ policy.maximumDecisionDelay
  ∧ snapshot.session.marketOpen = true
  ∧ snapshot.session.clockAt - snapshot.trustedAt ≤ retrievalSkewTolerance
  ∧ (snapshot.session.openAt ≤ snapshot.session.clockAt
    ∧ snapshot.session.clockAt < snapshot.session.closeAt)
  ∧ (snapshot.session.openAt < policy.selectedDecisionBoundary
    ∧ policy.selectedDecisionBoundary ≤ snapshot.session.closeAt)
  ∧ snapshot.session.clockAt < snapshot.session.nextOpenAt
  ∧ snapshot.session.clockAt < snapshot.session.nextCloseAt
  ∧ snapshot.accountBook.account.role ≠ .replay
  ∧ snapshot.accountBook.account.paper = true
  ∧ snapshot.accountBook.openOrders.isEmpty = true

instance (snapshot : OpportunityMarketSnapshot) (policy : OpportunityPolicyFields) :
    Decidable (SnapshotFramed snapshot policy) :=
  inferInstanceAs (Decidable (_ ∧ _))

/-- Whether a snapshot is valid for a policy. -/
def snapshotValid [Digest] (snapshot : OpportunityMarketSnapshot)
    (policy : OpportunityPolicyFields) (enforcePolicyEligibility : Bool) :
    Except Failure Bool := do
  if SnapshotFramed snapshot policy ∧ snapshotHashesValid snapshot = true ∧
      snapshot.options.isEmpty = false then
    let valid ← optionsValid snapshot policy enforcePolicyEligibility [] snapshot.options
    return valid && (!enforcePolicyEligibility
      || decide (optionSkew snapshot.options ≤ policy.maximumLegQuoteSkew))
  else return false

end AlphaDecay.Selection
