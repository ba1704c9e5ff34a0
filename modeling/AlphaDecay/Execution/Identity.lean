import AlphaDecay.Execution.Models

/-!
# Identities of orders

The documents whose digests identify an intent, its envelope and each of its attempts, and the
client order id by which the broker knows an attempt.
-/

namespace AlphaDecay

open Foundation

/-- A decimal as its text, which keeps the exponent. -/
def decimalText (value : Decimal) : Json :=
  Json.ofChars value.toText

def dateText (date : Calendar.Date) : String :=
  String.ofList (Text.fixedDigits 10 4 date.year ++ '-' :: (Text.fixedDigits 10 2 date.month ++
    '-' :: Text.fixedDigits 10 2 date.day))

/-- The legs of an order as a document. -/
def legsToJson (legs : List OrderLegIntent) : Json :=
  .array (legs.map fun leg => .object [
    ("symbol", .text leg.symbol), ("intent", .text leg.intent.text), ("ratio", .number leg.ratio)])

/-- The members that only the documents of a roll have. -/
def rollAuthorityPayload (envelope : OrderEnvelope) : List (String × Json) :=
  if envelope.action = .roll then [
    ("market_session_id", Json.ofOptional (fun id => .text (Uuid.toText id))
      envelope.marketSessionId),
    ("quoted_relative_spread", Json.ofOptional decimalText envelope.quotedRelativeSpread),
    ("maximum_relative_spread", Json.ofOptional decimalText envelope.maximumRelativeSpread),
    ("incremental_debit", Json.ofOptional decimalText envelope.incrementalDebit),
    ("maximum_incremental_debit", Json.ofOptional decimalText envelope.maximumIncrementalDebit)]
  else []

variable [Digest]

def intentDigest (envelope : OrderEnvelope) : String :=
  Digest.authorityHash (.object ([
    ("account_fingerprint", .text envelope.accountFingerprint),
    ("policy_hash", .text envelope.policyHash),
    ("authorization_certificate_id", .text envelope.authorizationCertificateId.toText),
    ("action", .text envelope.action.text),
    ("legs", legsToJson envelope.legs),
    ("quantity", .number envelope.quantity),
    ("minimum_limit", decimalText envelope.minimumLimit),
    ("maximum_limit", decimalText envelope.maximumLimit),
    ("position_or_book_fingerprint", .text envelope.positionOrBookFingerprint)]
    ++ rollAuthorityPayload envelope))

def orderEnvelopeHash (envelope : OrderEnvelope) : String :=
  Digest.authorityHash (.object ([
    ("action", .text envelope.action.text),
    ("legs", legsToJson envelope.legs),
    ("quantity", .number envelope.quantity),
    ("minimum_limit", decimalText envelope.minimumLimit),
    ("maximum_limit", decimalText envelope.maximumLimit),
    ("approved_max_loss", decimalText envelope.approvedMaxLoss),
    ("event_key", .text envelope.eventKey),
    ("trading_day", .text (dateText envelope.tradingDay))]
    ++ rollAuthorityPayload envelope))

/-- The letter of an action in a client order id. -/
def actionCode : ExecutionAction → String
  | .entry => "e"
  | .close => "c"
  | .roll => "r"

def clientOrderId (tradingDay : Calendar.Date) (action : ExecutionAction) (digest : String)
    (attempt : Int) : Except Failure String := do
  raiseIf (digest.toList.length != 64 || !decide (0 ≤ attempt ∧ attempt < 4))
    (.value "INVALID_CLIENT_ORDER_ID_INPUT")
  let day := String.ofList (Text.fixedDigits 10 4 tradingDay.year ++
    Text.fixedDigits 10 2 tradingDay.month ++ Text.fixedDigits 10 2 tradingDay.day)
  return "ad-" ++ day ++ "-" ++ actionCode action ++ "-" ++
    String.ofList (digest.toList.take 24) ++ "-a" ++ intText attempt.toNat

/-- The request hash of a first attempt. -/
def attemptRequestHash (digest : String) (ordinal : Int) (clientId : String) (limit : Decimal)
    (replacesClientId : Option String) : Except Failure String := do
  raiseIf (digest.toList.length != 64 || !decide (0 ≤ ordinal ∧ ordinal < 4) ||
    decide (clientId.toList.length > 64)) (.value "INVALID_ATTEMPT_HASH_INPUT")
  return Digest.authorityHash (.object [
    ("intent_digest", .text digest),
    ("ordinal", .number ordinal),
    ("client_order_id", .text clientId),
    ("limit", decimalText limit),
    ("replaces_client_order_id", Json.ofOptional .text replacesClientId)])

structure ReplacementMaterial where
  limit : Decimal
  replacesClientId : Option String
  priorRequestHash : String
  quoteHash : String
  quoteSourceTimestamps : List Int
  quoteRetrievedAt : Int
  timingAuthorityAt : Int

def replacementRequestHash (digest : String) (ordinal : Int) (clientId : String)
    (material : ReplacementMaterial) : String :=
  Digest.authorityHash (.object [
    ("domain", .text "alphadecay.quote-replacement-request.v1"),
    ("intent_digest", .text digest),
    ("ordinal", .number ordinal),
    ("client_order_id", .text clientId),
    ("limit", Json.ofChars material.limit.normalize.toFixed),
    ("replaces_client_order_id", Json.ofOptional .text material.replacesClientId),
    ("prior_request_hash", .text material.priorRequestHash),
    ("quote_hash", .text material.quoteHash),
    ("quote_source_timestamps",
      .array (material.quoteSourceTimestamps.map fun t => .text (Calendar.isoformat t))),
    ("quote_retrieved_at", .text (Calendar.isoformat material.quoteRetrievedAt)),
    ("timing_authority_at", .text (Calendar.isoformat material.timingAuthorityAt))])

end AlphaDecay
