import AlphaDecay.Persistence.Rehearsal

/-!
# A rehearsal of finalizations

The entry of the rehearsal is carried on to its end: the broker fills the order or rejects it, and
the execution is finalized with a sweep of the account. In both cases the account was funded before
the window of its activities begins.
-/

namespace AlphaDecay

open Foundation Table

namespace Rehearsal

/-! ## Evidence -/

/-- A posting of the money with which the account was funded, three days before its baseline. -/
def earlyFundingFields : ActivityItemFields :=
  { fundingFields with occurredAt := fundedAt - Calendar.seconds (86400 * 3) }

theorem earlyFundingFields_ok : earlyFundingFields.postInit = .ok () := by decide +kernel

/-- A posting of the money with which the account was funded, three days before its baseline. -/
def earlyFunding : ActivityItem := ⟨earlyFundingFields, earlyFundingFields_ok⟩

/-- Sixty-four times the same hexadecimal digit. -/
def hashOf (digit : Char) : String := String.ofList (List.replicate 64 digit)

/-- The trade of a leg in the fill of the entry. -/
def tradeOf (digit : Char) (symbol : String) (quantity : Int) (clientOrderId : String) :
    Except Failure ActivityItem :=
  ActivityItem.make {
    activityIdHash := hashOf digit
    activityType := .fill
    occurredAt := timeAt 3
    symbol := some symbol
    signedQuantity := some (Decimal.ofInt quantity)
    providerOrderId := some "P0"
    clientOrderId := some clientOrderId }

/-- The position of a leg of the entry. -/
def positionItem (symbol : String) (quantity : Int) : Except Failure InventoryItem :=
  InventoryItem.make
    { kind := .option, symbol, signedQuantity := Decimal.ofInt quantity, multiplier := 100 }

/-- The Greeks of a position, all zero. -/
def greeksOf (symbol : String) (quantity : Int) (time : Int) :
    Except Failure PositionGreekObservation :=
  build PositionGreekFields.postInit (fun fields valid => { fields with valid }) {
    symbol
    signedQuantity := Decimal.ofInt quantity
    multiplier := 100
    delta := dollars 0
    gamma := dollars 0
    thetaPerDay := dollars 0
    vegaPerIvPoint := dollars 0
    feed := "indicative"
    sourceTimestamp := time
    retrievedAt := time
    sourceHash := zeros }

/-! ## Workers -/

/-- Open the chain of states with a sweep that shows some activities. -/
def initializeShowing (activities : List ActivityItem) : Worker := fun _ => do
  let sweep ← sweepOf (timeAt 0) (dollars 100000) (dollars 100000) [] [] activities
  return callAt (.initializeReconciliationState sweep) (timeAt 0) 0

/-- Prepare the submission with a sweep that shows some activities. -/
def submitShowing (activities : List ActivityItem) (time : Int) : Worker := fun db => do
  let claim ← claimOf db
  let plan ← planBrokerMutation db claim .submit none time
  let sweep ← sweepOf time (dollars 100000) plan.expectation.expectedCash [] [] activities
  let reconciliation ← WholeAccountReconciliation.evaluate sweep plan.expectation time
  return callAt (.prepareBrokerMutation reconciliation plan.attempt claim) time 0

def certificateOf (db : Database) (claim : ExecutionIntent) (status : String) (time : Int) :
    Except Failure ExecutionCertificate :=
  ExecutionCertificate.make {
    certificateId := Digest.uuid5 ("alphadecay:execution:" ++ claim.digest)
    intentId
    entryApprovalId := some envelope.authorizationCertificateId
    assessmentCertificateId := none
    executionStatus := status
    attemptIds := (db.attemptsOf intentId).map fun row => row.clientOrderId
    actualExposure := none
    reconciliationChecks
    createdAt := time }

/-- What the account shows when the execution is finalized. -/
structure FinalShow where
  cash : Decimal
  positions : List InventoryItem
  activities : List ActivityItem
  greeks : List PositionGreekObservation

/-- Finalize the execution with a status and a sweep. -/
def finalize (status : String) (display : Database → Except Failure FinalShow) (time : Int) :
    Worker := fun db => do
  let claim ← claimOf db
  let shown ← display db
  let sweep ← sweepOf time (dollars 100000) shown.cash [] shown.positions shown.activities
  let certificate ← certificateOf db claim status time
  return callAt (.finalizeExecutionAuthorized certificate sweep status claim shown.greeks) time 40

/-- The account of a filled entry: both legs are held, the cash of the fill is paid, and the trades
are posted next to the funding. -/
def showFilled (time : Int) (db : Database) : Except Failure FinalShow := do
  let row ← require (db.attempt intentId 0) .key
  let positions ← [("AAA", 2), ("BBB", -2)].mapM fun (symbol, quantity) =>
    positionItem symbol quantity
  let greeks ← [("AAA", 2), ("BBB", -2)].mapM fun (symbol, quantity) =>
    greeksOf symbol quantity time
  let bought ← tradeOf 'c' "AAA" 2 row.clientOrderId
  let sold ← tradeOf 'd' "BBB" (-2) row.clientOrderId
  return {
    cash := dollars 99800
    positions
    activities := [funding, bought, sold]
    greeks }

/-- The account of a rejected entry: nothing has changed, and the funding is too old to be seen. -/
def showRejected (_ : Database) : Except Failure FinalShow :=
  .ok { cash := dollars 100000, positions := [], activities := [], greeks := [] }

/-! ## Plays -/

/-- The entry is submitted, filled and finalized. -/
def filledPlay : List Worker :=
  drafting ++ [acquire (timeAt 2) 30,
    observe 0 0 .filled 2 (some (dollars (-200))) .dispatchOutcome (some (Uuid.ofNat 30))
      (timeAt 3),
    finalize "FILLED" (showFilled (timeAt 5)) (timeAt 5)]

/-- The account was funded early, and the entry is submitted and rejected. -/
def rejectedPlay : List Worker :=
  (opening.set 3 (initializeShowing [earlyFunding])) ++ [submitShowing [] (timeAt 1),
    acquire (timeAt 2) 30,
    observe 0 0 .rejected 0 none .dispatchOutcome (some (Uuid.ofNat 30)) (timeAt 3)]

/-- The execution of the rejected entry is finalized. -/
def rejectedFinal : Worker := finalize "REJECTED" showRejected (timeAt 5)

/-! ## Plays that meet a condition -/

/-- Play the transactions of workers, as long as each meets a condition. -/
def playMeeting (condition : World → Transaction → Bool) : List Worker → World →
    Except Failure World
  | [], world => .ok world
  | worker :: rest, world => do
      let transaction ← worker world.db
      raiseIf (!condition world transaction) (.value "CONDITION_INVALID")
      let next ← play settings [fun _ => .ok transaction] world
      playMeeting condition rest next

theorem run_of_playMeeting {condition : World → Transaction → Bool} {workers : List Worker}
    {world last : World} (h : playMeeting condition workers world = .ok last) :
    ∃ transactions, ((repository settings).restrict fun world transaction =>
      condition world transaction = true).Run world transactions last := by
  induction workers generalizing world with
  | nil =>
      cases h
      exact ⟨[], System.Run.refl _⟩
  | cons worker rest ih =>
      simp only [playMeeting] at h
      obtain ⟨transaction, -, h⟩ := bind_ok.mp h
      obtain ⟨hmeets, h⟩ := check_bind_ok.mp h
      obtain ⟨next, hplayed, h⟩ := bind_ok.mp h
      obtain ⟨transactions, hrest⟩ := ih h
      obtain ⟨same, hsame, hstep⟩ := step_of_play hplayed
      cases hsame
      rw [raiseIf_ok, Bool.not_eq_false'] at hmeets
      exact ⟨transaction :: transactions, System.Run.cons ⟨hmeets, hstep⟩ hrest⟩

/-- A play on the empty repository that ends in a world with some property. -/
def endsAs (workers : List Worker) (property : World → Bool) : Bool :=
  match play settings workers { db := {}, clock := 0 } with
  | .ok last => property last
  | .error _ => false

/-- A play that ends in a world with some property reaches such a world. -/
theorem exists_play {workers : List Worker} {property : World → Bool}
    (h : endsAs workers property = true) :
    ∃ last, play settings workers { db := {}, clock := 0 } = .ok last ∧ property last = true := by
  unfold endsAs at h
  split at h
  · rename_i last hplayed
    exact ⟨last, hplayed, h⟩
  · cases h

end Rehearsal

end AlphaDecay
