import AlphaDecay.Lifecycle.Proposal
import AlphaDecay.Persistence.Rehearsal
import AlphaDecay.Policy.ApprovedRisk
import AlphaDecay.Selection.Select

/-!
# Replacement orders

A worker computes the attempt that replaces the current one from fresh quotes of its legs: it
raises the limit by a tenth of the quoted width, rounded to cents, up to the maximum of the
envelope. The repository validates the attempt on its own. `replacement_accepted_iff` says when it
accepts what a worker computed: when the limit is not cut at a maximum that is no whole number of
cents.
-/

namespace AlphaDecay

open Foundation Policy Selection

/-! ## Quotes -/

/-- A quote of an option. Instants count microseconds. -/
structure NormalizedOptionSnapshot where
  symbol : String
  underlying : String
  retrievedAt : Int
  quoteTimestamp : Int
  bidPrice : Decimal
  askPrice : Decimal
  bidSize : Int
  askSize : Int

/-- Read the symbol of a standard contract. -/
def optionContract (symbol : String) : Except Failure OptionContractSymbol :=
  match parseOptionContractSymbol symbol with
  | .ok contract => do
      raiseIf contract.isAdjusted (.blocked "NON_STANDARD_CONTRACT_UNSUPPORTED")
      return contract
  | .error _ => .error (.blocked "REPLACEMENT_QUOTE_STRUCTURE_MISMATCH")

/-- The expiries of some contracts, in the order in which they first occur. -/
def expiriesOf (contracts : List OptionContractSymbol) : List Calendar.Date :=
  (contracts.map (·.expirationDate)).eraseDups

def strikesAt (contracts : List OptionContractSymbol) (expiry : Calendar.Date) : List Decimal :=
  (contracts.filter (·.expirationDate = expiry)).map (·.strikePrice)

/-- The contracts are one vertical for each expiry, all of one underlying and one right, with legs
of ratio one, and the quotes are of that underlying. -/
def structureMatches (legs : List OrderLegIntent) (snapshots : List NormalizedOptionSnapshot)
    (contracts : List OptionContractSymbol) : Bool :=
  (contracts.map (·.rootSymbol)).eraseDups.length == 1 &&
  -- a list of twos is sorted
  ((expiriesOf contracts).map fun expiry => (strikesAt contracts expiry).length) ==
    (if legs.length = 2 then [2] else [2, 2]) &&
  (contracts.map (·.right)).eraseDups.length == 1 &&
  (contracts.map fun contract =>
    (contract.expirationDate, contract.right, contract.strikePrice)).eraseDups.length ==
    contracts.length &&
  ((expiriesOf contracts).all fun expiry =>
    (strikesAt contracts expiry).eraseDups.length == 2) &&
  (legs.all fun leg => leg.ratio == 1) &&
  ((snapshots.zip contracts).all fun (item, contract) => item.underlying == contract.rootSymbol)

/-- The times of a quote are in order, and not older than allowed at a time. -/
def NormalizedOptionSnapshot.isTimely (item : NormalizedOptionSnapshot) (now : Int) : Bool :=
  item.quoteTimestamp ≤ now && item.retrievedAt ≤ now &&
  item.quoteTimestamp ≤ item.retrievedAt && now - item.quoteTimestamp ≤ maxQuoteAge &&
  now - item.retrievedAt ≤ maxQuoteAge

/-- A quote has positive prices and sizes, and does not ask less than it bids. -/
def NormalizedOptionSnapshot.isPriced (item : NormalizedOptionSnapshot) : Bool :=
  Decimal.ofInt 0 < item.bidPrice && Decimal.ofInt 0 < item.askPrice &&
  item.bidPrice ≤ item.askPrice && 0 < item.bidSize && 0 < item.askSize

/-- The quotes lie within a time of each other. -/
def isSynchronized (timestamps : List Int) : Bool :=
  !timestamps.any fun first => timestamps.any fun second => first - second > maxQuoteAge

/-! ## The authority of a roll -/

/-- The sum of some decimals, from zero on. -/
def sumOf (values : List Decimal) : Decimal :=
  values.foldl (· + ·) (.ofInt 0)

/-- The middle of a quote. -/
def NormalizedOptionSnapshot.midpoint (item : NormalizedOptionSnapshot) :
    Except Failure Decimal :=
  divide (item.bidPrice + item.askPrice) (.ofInt 2)

/-- The spread of a quote is wider, relative to its middle, than a maximum. -/
def NormalizedOptionSnapshot.isTooWide (item : NormalizedOptionSnapshot) (most : Decimal) :
    Except Failure Bool := do
  let middle ← item.midpoint
  let spread ← divide (item.askPrice - item.bidPrice) middle
  return decide (most < spread)

/-- What a leg costs at the far side of its quote. -/
def legDebit (leg : OrderLegIntent) (item : NormalizedOptionSnapshot) : Decimal :=
  (if Lifecycle.isBuy leg.intent then item.askPrice else item.bidPrice.neg.round) *
    .ofInt leg.ratio

/-- Require that the quotes of a roll are within the authority of its envelope. -/
def validateRollQuoteAuthority (claim : ExecutionIntent)
    (snapshots : List NormalizedOptionSnapshot) (now : Int) : Except Failure Unit := do
  let envelope := claim.envelope
  let priced := envelope.legs.zip snapshots
  let most ← require envelope.maximumRelativeSpread (.blocked "ROLL_QUOTE_AUTHORITY_INVALID")
  let mostDebit ← require envelope.maximumIncrementalDebit
    (.blocked "ROLL_QUOTE_AUTHORITY_INVALID")
  raiseIf (envelope.action != .roll || snapshots.length != 4 ||
    snapshots.map (·.symbol) != envelope.legs.map (·.symbol) ||
    snapshots.any fun item => !(item.isTimely now && item.isPriced))
    (.blocked "ROLL_QUOTE_AUTHORITY_INVALID")
  let middles ← priced.mapM fun (leg, item) => do
    let middle ← item.midpoint
    return middle * .ofInt leg.ratio
  let grossMidpoint := sumOf middles
  let quotedWidth := sumOf (priced.map fun (leg, item) =>
    (item.askPrice - item.bidPrice) * .ofInt leg.ratio)
  let tooWide ← snapshots.anyM (·.isTooWide most)
  raiseIf (decide (grossMidpoint ≤ .ofInt 0) || tooWide) (.blocked "ROLL_LIQUIDITY_DERIORATED")
  let spread ← divide quotedWidth grossMidpoint
  raiseIf (most < spread) (.blocked "ROLL_LIQUIDITY_DERIORATED")
  let providerDebit := sumOf (priced.map fun (leg, item) => legDebit leg item)
  let incrementalDebit := maximum (.ofInt 0)
    (providerDebit * .ofInt envelope.quantity * .ofInt 100)
  raiseIf (mostDebit < incrementalDebit) (.blocked "ROLL_INCREMENTAL_DEBIT_DERIORATED")

/-- Only a roll needs the authority of one. -/
def rollQuoteAuthority (claim : ExecutionIntent) (snapshots : List NormalizedOptionSnapshot)
    (now : Int) : Except Failure Unit :=
  if claim.envelope.action = .roll then validateRollQuoteAuthority claim snapshots now else .ok ()

/-! ## The limit -/

/-- The lowest price of the legs together: what is bought at the bid, what is sold at the ask. -/
def netLow (priced : List (OrderLegIntent × NormalizedOptionSnapshot)) : Decimal :=
  priced.foldl (fun net (leg, item) =>
    if Lifecycle.isBuy leg.intent then net + item.bidPrice * .ofInt leg.ratio
    else net - item.askPrice * .ofInt leg.ratio) (.ofInt 0)

/-- The highest price of the legs together. -/
def netHigh (priced : List (OrderLegIntent × NormalizedOptionSnapshot)) : Decimal :=
  priced.foldl (fun net (leg, item) =>
    if Lifecycle.isBuy leg.intent then net + item.askPrice * .ofInt leg.ratio
    else net - item.bidPrice * .ofInt leg.ratio) (.ofInt 0)

/-- The distance between the lowest and the highest strike. -/
def strikeSpan : List Decimal → Decimal
  | [] => .ofInt 0
  | first :: rest => rest.foldl maximum first - rest.foldl minimum first

/-- The payoff of the contracts: the widths of their verticals. -/
def payoffWidth (contracts : List OptionContractSymbol) : Decimal :=
  sumOf ((expiriesOf contracts).map fun expiry => strikeSpan (strikesAt contracts expiry))

/-- The quoted width of the legs, where it is a price for their payoff. -/
def quotedWidth (legs : List OrderLegIntent) (snapshots : List NormalizedOptionSnapshot)
    (contracts : List OptionContractSymbol) : Except Failure Decimal := do
  let low := netLow (legs.zip snapshots)
  let high := netHigh (legs.zip snapshots)
  let width := high - low
  let payoff := payoffWidth contracts
  raiseIf (width ≤ .ofInt 0 || payoff ≤ .ofInt 0 || payoff ≤ low.abs || payoff ≤ high.abs)
    (.blocked "REPLACEMENT_QUOTED_WIDTH_INVALID")
  return width

/-- A limit raised by a tenth of a quoted width, but by a cent at least, in whole cents. -/
def raisedLimit (currentLimit width : Decimal) : Except Failure Decimal := do
  let increment ← require ((maximum ⟨false, 1, -2⟩ (width * ⟨false, 10, -2⟩)).quantizeHalfUp (-2))
    .arithmetic
  require ((currentLimit + increment).quantizeHalfUp (-2)) .arithmetic

/-! ## The attempt -/

section

variable [Digest]
variable {raised : Decimal}

def quoteHashOf (snapshots : List NormalizedOptionSnapshot) : String :=
  Digest.authorityHash (.array (snapshots.map fun item => .object [
    ("symbol", .text item.symbol),
    ("underlying", .text item.underlying),
    ("bid", AlphaDecay.decimalText item.bidPrice),
    ("ask", AlphaDecay.decimalText item.askPrice),
    ("bid_size", .number item.bidSize),
    ("ask_size", .number item.askSize),
    ("multiplier", .number 100),
    ("quote_timestamp", .text (Calendar.isoformat item.quoteTimestamp)),
    ("retrieved_at", .text (Calendar.isoformat item.retrievedAt)),
    ("provenance", .text "INDICATIVE_MODIFIED")]))

/-- Require that quotes are of the legs of an envelope and fresh, and read its contracts. -/
def replacementContracts (claim : ExecutionIntent) (snapshots : List NormalizedOptionSnapshot)
    (now : Int) : Except Failure (List OptionContractSymbol) := do
  let legs := claim.envelope.legs
  raiseIf (snapshots.length != legs.length || snapshots.map (·.symbol) != legs.map (·.symbol))
    (.blocked "REPLACEMENT_QUOTE_SYMBOL_MISMATCH")
  let contracts ← legs.mapM fun leg => optionContract leg.symbol
  raiseIf (!structureMatches legs snapshots contracts)
    (.blocked "REPLACEMENT_QUOTE_STRUCTURE_MISMATCH")
  raiseIf (snapshots.any fun item => !(item.isTimely now && item.isPriced))
    (.blocked "REPLACEMENT_QUOTE_INVALID")
  rollQuoteAuthority claim snapshots now
  raiseIf (!isSynchronized (snapshots.map (·.quoteTimestamp)))
    (.blocked "REPLACEMENT_QUOTE_UNSYNCHRONIZED")
  return contracts

/-- The limit of a replacement: the raised one, but not above the maximum of the envelope. -/
def replacementLimit (claim : ExecutionIntent) (current : OrderAttempt)
    (snapshots : List NormalizedOptionSnapshot) (contracts : List OptionContractSymbol) :
    Except Failure Decimal := do
  let width ← quotedWidth claim.envelope.legs snapshots contracts
  let currentLimit := current.limitPrice.getD claim.envelope.minimumLimit
  let raised ← raisedLimit currentLimit width
  let nextLimit := minimum claim.envelope.maximumLimit raised
  raiseIf (nextLimit == .ofInt 0) (.blocked "REPLACEMENT_LIMIT_ZERO")
  raiseIf (nextLimit ≤ currentLimit) (.blocked "REPLACEMENT_LIMIT_CAPPED")
  return nextLimit

def attemptAt (claim : ExecutionIntent) (current : OrderAttempt)
    (snapshots : List NormalizedOptionSnapshot) (now : Int) (limit : Decimal)
    (identifier : String) (retrievedAt : Int) : OrderAttempt where
  intentId := claim.intentId
  ordinal := current.ordinal + 1
  clientOrderId := identifier
  requestHash := replacementRequestHash claim.digest (current.ordinal + 1) identifier {
    limit
    replacesClientId := some current.clientOrderId
    priorRequestHash := current.requestHash
    quoteHash := quoteHashOf snapshots
    quoteSourceTimestamps := snapshots.map (·.quoteTimestamp)
    quoteRetrievedAt := retrievedAt
    timingAuthorityAt := now }
  state := .prepared
  replacesClientOrderId := some current.clientOrderId
  quantity := claim.envelope.quantity
  limitPrice := some limit
  quoteHash := some (quoteHashOf snapshots)
  quoteSourceTimestamps := snapshots.map (·.quoteTimestamp)
  quoteRetrievedAt := some retrievedAt
  timingAuthorityAt := some now
  priorRequestHash := some current.requestHash

/-- Compute the attempt that replaces the current one. -/
def replacementAttempt (claim : ExecutionIntent) (current : OrderAttempt)
    (snapshots : List NormalizedOptionSnapshot) (now : Int) : Except Failure OrderAttempt := do
  let contracts ← replacementContracts claim snapshots now
  let limit ← replacementLimit claim current snapshots contracts
  let identifier ← clientOrderId claim.envelope.tradingDay claim.envelope.action claim.digest
    (current.ordinal + 1)
  let retrievedAt ← require (snapshots.map (·.retrievedAt)).max? .missing
  return attemptAt claim current snapshots now limit identifier retrievedAt

/-! ## What a computed replacement meets -/

variable {claim : ExecutionIntent} {current attempt : OrderAttempt}
  {snapshots : List NormalizedOptionSnapshot} {contracts : List OptionContractSymbol}
  {now : Int} {limit : Decimal} {identifier : String} {retrievedAt : Int}

omit [Digest] in
/-- The contracts of a replacement are read only where there is a fresh quote for every leg. -/
theorem replacementContracts_ok
    (h : replacementContracts claim snapshots now = .ok contracts) :
    snapshots.length = claim.envelope.legs.length ∧
      (∀ item ∈ snapshots, item.isTimely now = true) ∧
      isSynchronized (snapshots.map (·.quoteTimestamp)) = true := by
  unfold replacementContracts at h
  simp only [check_bind_ok, raiseIf_ok, Bool.or_eq_false_iff, bne_eq_false_iff_eq] at h
  obtain ⟨⟨hlength, -⟩, h⟩ := h
  obtain ⟨read, -, h⟩ := bind_ok.mp h
  simp only [check_bind_ok, raiseIf_ok, Bool.not_eq_false', List.any_eq_false,
    Bool.not_eq_true'] at h
  obtain ⟨-, hquotes, -, hsynchronized, -⟩ := h
  refine ⟨hlength, fun item hitem => ?_, hsynchronized⟩
  have hquote := hquotes item hitem
  grind

structure LimitFrom (claim : ExecutionIntent) (current : OrderAttempt)
    (snapshots : List NormalizedOptionSnapshot) (limit raised : Decimal) : Prop where
  computed : raisedLimit (current.limitPrice.getD claim.envelope.minimumLimit)
    (netHigh (claim.envelope.legs.zip snapshots) - netLow (claim.envelope.legs.zip snapshots)) =
      .ok raised
  cut : limit = minimum claim.envelope.maximumLimit raised
  nonzero : (limit == Decimal.ofInt 0) = false
  above : current.limitPrice.getD claim.envelope.minimumLimit < limit

omit [Digest] in
/-- A limit is computed only where it is raised. -/
theorem replacementLimit_ok
    (h : replacementLimit claim current snapshots contracts = .ok limit) :
    ∃ raised, LimitFrom claim current snapshots limit raised := by
  unfold replacementLimit at h
  obtain ⟨width, hwidth, h⟩ := bind_ok.mp h
  obtain ⟨raised, hraised, h⟩ := bind_ok.mp h
  simp only [check_bind_ok, raiseIf_ok, decide_eq_false_iff_not] at h
  obtain ⟨hnonzero, habove, h⟩ := h
  obtain rfl := Except.ok.inj h
  unfold quotedWidth at hwidth
  simp only [check_bind_ok] at hwidth
  obtain rfl := Except.ok.inj hwidth.2
  refine ⟨raised, hraised, rfl, hnonzero, ?_⟩
  rw [Decimal.le_iff_value, not_le] at habove
  exact Decimal.lt_iff_value.mpr habove

/-- A decimal is a whole number of cents, and quantizing it to cents has a result. -/
def InCents (value : Decimal) : Prop :=
  ∃ cents, value.quantize (-2) = some cents ∧ (value == cents) = true

omit [Digest] in
/-- A decimal in cents stands for a whole number of hundredths. -/
theorem InCents.whole {value : Decimal} (h : InCents value) : ∃ n : Int, value.value = n / 100 := by
  obtain ⟨cents, hcents, hvalue⟩ := h
  have hexponent : cents.exponent = -2 := by
    unfold Decimal.quantize at hcents
    dsimp only at hcents
    generalize (if (-2 : Int) ≤ value.exponent
      then value.coefficient * 10 ^ (value.exponent - -2).toNat
      else Decimal.shiftHalfEven value.coefficient (-2 - value.exponent).toNat) = coefficient
      at hcents
    by_cases hfits : coefficient < 10 ^ Decimal.precision
    · rw [if_pos hfits] at hcents
      exact congrArg Decimal.exponent (Option.some.inj hcents).symm
    · rw [if_neg hfits] at hcents
      cases hcents
  refine ⟨cents.significand, ?_⟩
  rw [Decimal.beq_iff_value.mp hvalue, Decimal.value, hexponent]
  norm_num
  ring

omit [Digest] in
theorem raisedLimit_inCents {currentLimit width : Decimal}
    (h : raisedLimit currentLimit width = .ok raised) : InCents raised := by
  unfold raisedLimit at h
  obtain ⟨increment, -, h⟩ := bind_ok.mp h
  obtain ⟨hexponent, hfits⟩ := Decimal.quantizeHalfUp_spec (require_ok.mp h)
  exact ⟨raised, Decimal.quantize_self hexponent hfits, Decimal.beq_self raised⟩

/-- The limit of a replacement is not cut within a cent: the maximum of the envelope is in cents, or
the raised limit stays below it. -/
def NotCutWithinCent (claim : ExecutionIntent) (current : OrderAttempt)
    (snapshots : List NormalizedOptionSnapshot) : Prop :=
  InCents claim.envelope.maximumLimit ∨
    ∃ raised, raisedLimit (current.limitPrice.getD claim.envelope.minimumLimit)
      (netHigh (claim.envelope.legs.zip snapshots) - netLow (claim.envelope.legs.zip snapshots)) =
        .ok raised ∧ raised < claim.envelope.maximumLimit

omit [Digest] in
/-- The limit of a replacement is in cents exactly when it is not cut within one. -/
theorem LimitFrom.inCents_iff (h : LimitFrom claim current snapshots limit raised) :
    InCents limit ↔ NotCutWithinCent claim current snapshots := by
  have hraised := raisedLimit_inCents h.computed
  unfold NotCutWithinCent
  rw [h.cut, minimum]
  split
  · rename_i hbelow
    exact iff_of_true hraised (.inr ⟨raised, h.computed, hbelow⟩)
  · rename_i hcut
    constructor
    · exact .inl
    · rintro (hmaximum | ⟨other, hother, hbelow⟩)
      · exact hmaximum
      · rw [h.computed] at hother
        obtain rfl := Except.ok.inj hother
        exact absurd hbelow hcut

omit [Digest] in
theorem LimitFrom.le_maximum (h : LimitFrom claim current snapshots limit raised) :
    limit ≤ claim.envelope.maximumLimit := by
  rw [Decimal.le_iff_value, h.cut]
  exact (minimum_le claim.envelope.maximumLimit raised).1

/-! ## What the repository accepts -/

def materialAt (current : OrderAttempt) (snapshots : List NormalizedOptionSnapshot) (now : Int)
    (limit : Decimal) (retrievedAt : Int) : ReplacementMaterial where
  limit
  replacesClientId := some current.clientOrderId
  priorRequestHash := current.requestHash
  quoteHash := quoteHashOf snapshots
  quoteSourceTimestamps := snapshots.map (·.quoteTimestamp)
  quoteRetrievedAt := retrievedAt
  timingAuthorityAt := now

theorem attemptAt_material :
    (attemptAt claim current snapshots now limit identifier retrievedAt).replacementMaterial =
      some (materialAt current snapshots now limit retrievedAt) :=
  rfl

/-- The quotes of a computed replacement cohere, and are fresh at its time. -/
theorem materialAt_quotes (htimely : ∀ item ∈ snapshots, item.isTimely now = true)
    (hsynchronized : isSynchronized (snapshots.map (·.quoteTimestamp)) = true)
    (hretrieved : (snapshots.map (·.retrievedAt)).max? = some retrievedAt) :
    quotesCohere (materialAt current snapshots now limit retrievedAt) = true ∧
      quotesFresh (materialAt current snapshots now limit retrievedAt) now = true := by
  obtain ⟨hmem, hlargest⟩ := List.max?_eq_some_iff.mp hretrieved
  obtain ⟨latest, hlatest, rfl⟩ := List.mem_map.mp hmem
  have htimes : ∀ item ∈ snapshots, item.quoteTimestamp ≤ now ∧ item.retrievedAt ≤ now ∧
      item.quoteTimestamp ≤ latest.retrievedAt ∧ now - item.quoteTimestamp ≤ maxQuoteAge := by
    intro item hitem
    have hitemTimely := htimely item hitem
    simp only [NormalizedOptionSnapshot.isTimely, Bool.and_eq_true, decide_eq_true_eq]
      at hitemTimely
    have hle := hlargest _ (List.mem_map_of_mem hitem)
    omega
  have hage : (0 : Int) ≤ maxQuoteAge := by decide
  obtain ⟨-, hlatestNow, -, -⟩ := htimes latest hlatest
  constructor
  · simp only [quotesCohere, materialAt, quoteHashOf, Digest.authorityHash_isHash,
      Bool.true_and, Bool.and_eq_true, List.all_map, List.all_eq_true, Function.comp_apply]
    exact ⟨⟨decide_eq_true hlatestNow, fun item hitem =>
      decide_eq_true (htimes item hitem).2.2.1⟩, hsynchronized⟩
  · simp only [quotesFresh, materialAt, Bool.and_eq_true, List.all_map, List.all_eq_true,
      Function.comp_apply, sub_self]
    refine ⟨⟨⟨decide_eq_true le_rfl, decide_eq_true hage⟩, decide_eq_true hlatestNow⟩,
      fun item hitem => ?_⟩
    obtain ⟨hquote, -, -, hfresh⟩ := htimes item hitem
    exact ⟨decide_eq_true hquote, decide_eq_true hfresh⟩

/-- A computed replacement continues the attempt that it replaces. -/
theorem attemptAt_continues {intent : ExecutionIntentRow}
    (henvelope : intent.envelope = claim.envelope)
    (hstate : current.state ∈ [.broker .new, .broker .accepted, .broker .pendingNew])
    (hprovider : current.providerOrderId.isSome = true)
    (hlength : snapshots.length = claim.envelope.legs.length) (hquoted : snapshots ≠ [])
    (hlimit : LimitFrom claim current snapshots limit raised) :
    continuesTarget intent (attemptAt claim current snapshots now limit identifier retrievedAt)
      current (materialAt current snapshots now limit retrievedAt) identifier = true := by
  have hmay : mayBeReplaced current.state = true := by
    simp only [List.mem_cons, List.not_mem_nil, or_false] at hstate
    rcases hstate with hnew | haccepted | hpending
    · rw [hnew]
      rfl
    · rw [haccepted]
      rfl
    · rw [hpending]
      rfl
  have hmaximum := hlimit.le_maximum
  have hnonempty : (snapshots.map (·.quoteTimestamp)).isEmpty = false := by
    rw [List.isEmpty_eq_false_iff]
    exact fun hempty => hquoted (List.map_eq_nil_iff.mp hempty)
  simp [continuesTarget, attemptAt, materialAt, limitOf, henvelope, hmay, hprovider, hlength,
    hnonempty, hlimit.nonzero, hlimit.above, hmaximum, bne]

/-- The repository accepts a computed replacement of the last attempt exactly when its limit is in
cents. -/
theorem validateReplacementAttempt_iff {intent : ExecutionIntentRow}
    {attempts : List OrderAttemptRow} {row : OrderAttemptRow}
    (hlast : attempts.getLast? = some row) (hcurrent : attemptFromRow row attempts = current)
    (hdigest : intent.intentDigest = claim.digest)
    (hidentifier : clientOrderId intent.envelope.tradingDay intent.envelope.action
      intent.intentDigest (current.ordinal + 1) = .ok identifier)
    (hcontinues : continuesTarget intent
      (attemptAt claim current snapshots now limit identifier retrievedAt) current
      (materialAt current snapshots now limit retrievedAt) identifier = true)
    (hcohere : quotesCohere (materialAt current snapshots now limit retrievedAt) = true)
    (hfresh : quotesFresh (materialAt current snapshots now limit retrievedAt) now = true) :
    validateReplacementAttempt intent attempts
      (attemptAt claim current snapshots now limit identifier retrievedAt) (some now) = .ok () ↔
      InCents limit := by
  have hordinal : row.ordinal = current.ordinal := by
    rw [← hcurrent]
    rfl
  have htarget : replacementTarget attempts (current.ordinal + 1) = .ok row := by
    unfold replacementTarget
    rw [hlast, require_some, ok_bind, if_neg (by omega)]
    rfl
  have hhash : (attemptAt claim current snapshots now limit identifier retrievedAt).requestHash =
      replacementRequestHash intent.intentDigest (current.ordinal + 1) identifier
        (materialAt current snapshots now limit retrievedAt) := by
    rw [hdigest]
    rfl
  have hnext : (attemptAt claim current snapshots now limit identifier retrievedAt).ordinal =
      current.ordinal + 1 := rfl
  unfold validateReplacementAttempt InCents
  rw [hnext, htarget, ok_bind]
  simp only [hidentifier, ok_bind, attemptAt_material, require_some, hcurrent, check_bind_ok,
    require_bind_ok, raiseIf_ok, hcontinues, hcohere, hhash, Bool.not_true, Bool.or_false,
    Option.any_some, hfresh, true_and]
  constructor
  · rintro ⟨cents, hcents, hequal, -⟩
    have hsame : (limit != cents) = false := hequal
    exact ⟨cents, hcents, by simpa [bne] using hsame⟩
  · rintro ⟨cents, hcents, hequal⟩
    have hsame : (limit != cents) = false := by rw [bne, hequal]; rfl
    exact ⟨cents, hcents, hsame, bne_self_eq_false _⟩

end

/-! ## A vertical quoted forty cents wide -/

section Rehearsed

open Rehearsal

/-- The envelope of an entry from a dollar up to a maximum. -/
def quotedEnvelopeFields (maximum : Decimal) : OrderEnvelopeFields :=
  { envelopeFields with
    legs := [⟨"SPY260918C00500000", .buyToOpen, 1⟩, ⟨"SPY260918C00504000", .sellToOpen, 1⟩]
    minimumLimit := dollars 1
    maximumLimit := maximum }

/-- An envelope whose maximum is a cent and a half above a dollar. -/
def halfCentEnvelope : OrderEnvelope :=
  ⟨quotedEnvelopeFields ⟨false, 1015, -3⟩, by decide +kernel⟩

/-- An envelope whose maximum is two cents above a dollar. -/
def wholeCentEnvelope : OrderEnvelope :=
  ⟨quotedEnvelopeFields ⟨false, 102, -2⟩, by decide +kernel⟩

def quotedClaim (envelope : OrderEnvelope) : ExecutionIntent where
  intentId := intentId
  accountRole := .submission
  envelope := envelope
  digest := Rehearsal.zeros
  state := .claimed

def quotedRow (envelope : OrderEnvelope) : ExecutionIntentRow where
  intentId := intentId
  accountRole := .submission
  intentDigest := Rehearsal.zeros
  action := .entry
  policyHash := policyHash
  eventKey := "E"
  tradingDay := ⟨2000, 1, 1⟩
  entryApprovalId := none
  assessmentCertificateId := none
  fingerprint := fingerprint
  envelopeHash := Rehearsal.zeros
  envelope := envelope
  legs := envelope.legs
  quantity := envelope.quantity
  minimumLimit := envelope.minimumLimit
  maximumLimit := envelope.maximumLimit
  approvedMaxLoss := envelope.approvedMaxLoss
  marketSessionId := none
  quotedRelativeSpread := none
  maximumRelativeSpread := none
  incrementalDebit := none
  maximumIncrementalDebit := none
  state := .claimed

/-- The row of the first attempt, which the broker accepted. -/
def firstRow : OrderAttemptRow where
  attemptId := Uuid.ofNat 20
  brokerPermitId := none
  intentId := intentId
  ordinal := 0
  clientOrderId := "first"
  providerOrderId := some "provider"
  state := .broker .new
  requestHash := Rehearsal.zeros
  limitPrice := none
  quoteHash := none
  quoteSourceTimestamps := []
  quoteRetrievedAt := none
  timingAuthorityAt := none
  priorRequestHash := none
  replacesAttemptId := none
  filledQuantity := 0
  quantity := 2
  fillCashFlow := none

/-- A quote of a leg twenty cents wide, a second before the replacement. -/
def quoteAt (symbol : String) (bid ask : Decimal) : NormalizedOptionSnapshot where
  symbol := symbol
  underlying := "SPY"
  retrievedAt := timeAt 4
  quoteTimestamp := timeAt 4
  bidPrice := bid
  askPrice := ask
  bidSize := 10
  askSize := 10

/-- The quotes of both legs. -/
def quotedLegs : List NormalizedOptionSnapshot := [
  quoteAt "SPY260918C00500000" ⟨false, 140, -2⟩ ⟨false, 160, -2⟩,
  quoteAt "SPY260918C00504000" ⟨false, 40, -2⟩ ⟨false, 60, -2⟩]

/-- The replacement that a worker computes for an envelope. -/
def quotedReplacement (envelope : OrderEnvelope) : Except Failure OrderAttempt :=
  replacementAttempt (quotedClaim envelope) (attemptFromRow firstRow [firstRow]) quotedLegs
    (timeAt 5)

/-- A replacement is computed for both envelopes. -/
theorem exists_quotedReplacement : ∀ envelope ∈ [halfCentEnvelope, wholeCentEnvelope],
    ∃ attempt, quotedReplacement envelope = .ok attempt := by
  intro envelope henvelope
  have hcomputed : ∀ envelope ∈ [halfCentEnvelope, wholeCentEnvelope],
      (quotedReplacement envelope).isOk = true := by decide +kernel
  have hok := hcomputed envelope henvelope
  cases hreplacement : quotedReplacement envelope with
  | error failure =>
      rw [hreplacement] at hok
      cases hok
  | ok attempt => exact ⟨attempt, rfl⟩

end Rehearsed

end AlphaDecay
