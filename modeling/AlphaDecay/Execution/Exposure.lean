import AlphaDecay.Execution.Reconciliation

/-!
# Actual exposure

The Greeks of the positions that an account really holds, from one observation for each position.
-/

namespace AlphaDecay

open Foundation

structure PositionGreekFields where
  symbol : String
  signedQuantity : Decimal
  multiplier : Int
  delta : Decimal
  gamma : Decimal
  thetaPerDay : Decimal
  vegaPerIvPoint : Decimal
  feed : String
  sourceTimestamp : Int
  retrievedAt : Int
  sourceHash : String

/-- The check made when the Greeks of a position are built. -/
def PositionGreekFields.postInit (item : PositionGreekFields) : Except Failure Unit := do
  raiseIf (item.symbol.isEmpty || item.symbol.toList.length > 64 ||
    item.symbol.toList.any isSpace || item.signedQuantity == Decimal.ofInt 0 ||
    item.multiplier != 100) (.value "POSITION_GREEK_OBSERVATION_INVALID")
  raiseIf (item.feed != "indicative") (.value "POSITION_GREEK_FEED_INVALID")
  raiseIf (item.sourceTimestamp > item.retrievedAt) (.value "POSITION_GREEK_TIMESTAMP_INVALID")
  raiseIf (!isHash item.sourceHash) (.value "POSITION_GREEK_SOURCE_HASH_INVALID")

structure PositionGreekObservation extends PositionGreekFields where
  valid : toPositionGreekFields.postInit = .ok ()

/-- The value of a field over the whole position. -/
def totalExposure (field : PositionGreekObservation → Decimal)
    (observations : List PositionGreekObservation) : Decimal :=
  observations.foldl
    (fun sum item => sum + item.signedQuantity * Decimal.ofInt item.multiplier * field item)
    (Decimal.ofInt 0)

/-- The observed Greeks are those of the held options: the same symbols, each with its quantity
and multiplier. -/
def matchesPositions (positions : List InventoryItem)
    (observations : List PositionGreekObservation) : Bool :=
  (observations.all fun item =>
    (lastByKey (fun position : InventoryItem => position.symbol) positions item.symbol).any
      fun position => position.signedQuantity == item.signedQuantity &&
        position.multiplier == item.multiplier) &&
  positions.all fun position => observations.any fun item => item.symbol == position.symbol

/-- The exposure of the positions an account holds. -/
def reconcileActualExposure (positions : List InventoryItem)
    (observations : List PositionGreekObservation) (acceptedAt : Int) :
    Except Failure (Option GreekExposure) := do
  raiseIf (positions.any fun position => position.kind == .equity)
    (.blocked "ASSIGNMENT_SUSPECTED")
  raiseIf (!decide ((observations.map fun item => item.symbol).Pairwise (· < ·)))
    (.blocked "POSITION_GREEK_EVIDENCE_NOT_CANONICAL")
  raiseIf (!matchesPositions positions observations) (.blocked "POSITION_GREEK_EVIDENCE_MISMATCH")
  match observations with
  | [] => return none
  | first :: rest =>
      raiseIf ((rest.any fun item => item.retrievedAt != first.retrievedAt) ||
        observations.any fun a => observations.any fun b =>
          a.sourceTimestamp - b.sourceTimestamp > Calendar.seconds 1)
        (.blocked "POSITION_GREEK_EVIDENCE_UNSYNCHRONIZED")
      raiseIf (first.retrievedAt > acceptedAt ||
        acceptedAt - first.retrievedAt > Calendar.seconds 15 ||
        observations.any fun item => item.retrievedAt - item.sourceTimestamp > Calendar.seconds 15)
        (.blocked "POSITION_GREEK_EVIDENCE_STALE")
      return some {
        delta := totalExposure (fun item => item.delta) observations
        gamma := totalExposure (fun item => item.gamma) observations
        thetaPerDay := totalExposure (fun item => item.thetaPerDay) observations
        vegaPerIvPoint := totalExposure (fun item => item.vegaPerIvPoint) observations }

end AlphaDecay
