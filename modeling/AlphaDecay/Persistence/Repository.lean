import AlphaDecay.Foundation.Transition
import AlphaDecay.Persistence.Finalization
import AlphaDecay.Persistence.Intents
import AlphaDecay.Persistence.Schedule

/-!
# The repository as a system

Callers run transactions in any order. Each is atomic: it commits as a whole, or raises and leaves
the database as it was. A transaction reads a trusted clock that never runs backwards, some of them
twice, and draws a fresh identifier where it needs one. Other services change the origins of
authorizations and add intents that are approved.
-/

namespace AlphaDecay

open Foundation Table

/-- A call of a transaction of the repository, with its arguments. -/
inductive Call where
  | registerAccount (role : AccountRole) (fingerprint : String) (equity : Decimal)
  | setAutonomousEnabled (role : AccountRole) (enabled : Bool) (actor : Actor)
  | captureBaseline (role : AccountRole) (baseline : SubmissionBaseline)
  | observeAccountAdjustment (role : AccountRole) (activity : String)
  | initializeReconciliationState (sweep : SweepObservation)
  | approveIntent (intentId : Uuid) (role : AccountRole) (envelope : OrderEnvelope)
  | claimIntent (intentId : Uuid) (actor : Actor) (role : AccountRole) (fingerprint : String)
  | releaseUnsubmittedClaim (intentId : Uuid)
  | expireUnsubmittedClaims (role : AccountRole)
  | recoverEntryReservations
  | prepareBrokerMutation (reconciliation : WholeAccountReconciliation) (attempt : OrderAttempt)
      (claim : ExecutionIntent)
  | acquireBrokerDispatch (permitId : Uuid) (claim : ExecutionIntent)
  | markBrokerDispatchAmbiguous (permitId : Uuid) (nonce : Uuid) (claim : ExecutionIntent)
  | recordAttemptObservation (permitId : Uuid) (observed : OrderAttempt)
      (source : AttemptObservationSource) (claim : ExecutionIntent) (nonce : Option Uuid)
  | recordAttemptLookupFailure (permitId : Uuid) (claim : ExecutionIntent)
  | recordAttemptAbsence (permitId : Uuid) (source : AttemptObservationSource)
      (claim : ExecutionIntent)
  | targetedLookupAuthority (claim : ExecutionIntent)
  | finalizeExecutionAuthorized (certificate : ExecutionCertificate) (sweep : SweepObservation)
      (requestedStatus : String) (claim : ExecutionIntent)
      (positionGreeks : List PositionGreekObservation)
  | changeOrigins (origins : Origins)
  | addAuthorizedIntent (intentId : Uuid) (role : AccountRole) (envelope : OrderEnvelope)

/-- A transaction: a call, the times its clock shows first and last, and the identifier it draws. -/
structure Transaction where
  call : Call
  start : Int
  now : Int
  fresh : Uuid

variable [Digest] (settings : RepositorySettings)

/-- Run a transaction, or say what it raises. -/
def run (transaction : Transaction) (db : Database) : Except Failure Database :=
  let { call, start, now, fresh } := transaction
  match call with
  | .registerAccount role fingerprint equity => registerAccount db role fingerprint equity
  | .setAutonomousEnabled role enabled actor => setAutonomousEnabled db role enabled actor
  | .captureBaseline role baseline => captureBaseline db role baseline
  | .observeAccountAdjustment role activity => observeAccountAdjustment db role activity
  | .initializeReconciliationState sweep =>
      Prod.fst <$> initializeReconciliationState db sweep now
  | .approveIntent intentId role envelope => Prod.fst <$> approveIntent db intentId role envelope
  | .claimIntent intentId actor role fingerprint =>
      Prod.fst <$> claimIntent settings db intentId actor role fingerprint now fresh
  | .releaseUnsubmittedClaim intentId => releaseUnsubmittedClaim db intentId
  | .expireUnsubmittedClaims role => Prod.fst <$> expireUnsubmittedClaims db role now
  | .recoverEntryReservations => recoverEntryReservations db
  | .prepareBrokerMutation reconciliation attempt claim =>
      Prod.fst <$> prepareBrokerMutation settings db reconciliation attempt claim start now fresh
  | .acquireBrokerDispatch permitId claim =>
      Prod.fst <$> acquireBrokerDispatch db permitId claim start now fresh
  | .markBrokerDispatchAmbiguous permitId nonce claim =>
      Prod.fst <$> markBrokerDispatchAmbiguous db permitId nonce claim
  | .recordAttemptObservation permitId observed source claim nonce =>
      Prod.fst <$> recordAttemptObservation settings db permitId observed source claim nonce now
  | .recordAttemptLookupFailure permitId claim =>
      Prod.fst <$> recordAttemptLookupFailure db permitId claim now
  | .recordAttemptAbsence permitId source claim =>
      Prod.fst <$> recordAttemptAbsence settings db permitId source claim now fresh
  | .targetedLookupAuthority claim =>
      Prod.fst <$> targetedLookupAuthority settings db claim now fresh
  | .finalizeExecutionAuthorized certificate sweep requestedStatus claim positionGreeks =>
      Prod.fst <$> finalizeExecutionAuthorized settings db certificate sweep requestedStatus claim
        positionGreeks now fresh
  | .changeOrigins origins => .ok { db with origins }
  | .addAuthorizedIntent intentId role envelope =>
      db.addIntent (approvedRow intentId role envelope)

/-- The database after a transaction: what it raises leaves the database as it was. -/
def execute (transaction : Transaction) (db : Database) : Database :=
  match run settings transaction db with
  | .ok after => after
  | .error _ => db

/-- The database and the time that the trusted clock has reached. -/
structure World where
  db : Database
  clock : Int

/-- A transaction reads a clock that does not run backwards. -/
structure Transaction.Timed (transaction : Transaction) (clock : Int) : Prop where
  start_ge : clock ≤ transaction.start
  now_ge : transaction.start ≤ transaction.now

/-- The repository: it starts without rows, and its steps are transactions. -/
def repository : System World Transaction where
  initial world := world.db = {}
  step world transaction next :=
    transaction.Timed world.clock ∧
      next = { db := execute settings transaction world.db, clock := transaction.now }

end AlphaDecay
