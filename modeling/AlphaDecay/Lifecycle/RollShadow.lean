import AlphaDecay.Lifecycle.RollChoice
import AlphaDecay.Selection.QuotedPairs
import Mathlib.Data.List.Perm.Basic

/-!
# Rolls that shadow better ones

The choice of a roll keeps more candidates than the policy takes: it asks neither how far the
expiry moves nor whether the loss stays within the budget. A candidate that fails there and ranks
first is chosen all the same, and the policy then holds the position. `choice_misses_none_iff` says
that this is the only way in which a roll is missed, and that the order in which candidates are
offered decides between candidates of one rank alone.
-/

namespace AlphaDecay.Lifecycle

open Foundation
open Policy (divide daysUntil)

/-! ## Lists of computations -/

/-- The results of a list of computations are those of its items, one by one. -/
theorem mapM_ok {ε α β : Type} {f : α → Except ε β} {items : List α} {results : List β} :
    items.mapM f = .ok results ↔
      List.Forall₂ (fun item result => f item = .ok result) items results := by
  induction items generalizing results with
  | nil =>
      rw [List.mapM_nil, List.forall₂_nil_left_iff]
      exact ⟨fun h => (Except.ok.inj h).symm, fun h => by rw [h]; rfl⟩
  | cons item rest ih =>
      rw [List.mapM_cons, List.forall₂_cons_left_iff]
      constructor
      · intro h
        obtain ⟨first, hfirst, h⟩ := bind_ok.mp h
        obtain ⟨later, hlater, h⟩ := bind_ok.mp h
        exact ⟨first, later, hfirst, ih.mp hlater, (Except.ok.inj h).symm⟩
      · rintro ⟨first, later, hfirst, hlater, rfl⟩
        exact bind_ok.mpr ⟨first, hfirst, bind_ok.mpr ⟨later, ih.mpr hlater, rfl⟩⟩

theorem mapM_perm {ε α β : Type} {f : α → Except ε β} {items others : List α}
    {results : List β} (hperm : others.Perm items) (h : items.mapM f = .ok results) :
    ∃ reordered, others.mapM f = .ok reordered ∧ reordered.Perm results := by
  obtain ⟨reordered, hresults, hreordered⟩ := List.perm_comp_forall₂ hperm (mapM_ok.mp h)
  exact ⟨reordered, mapM_ok.mpr hresults, hreordered⟩

/-! ## What every candidate has -/

section

variable {context : RetainedLifecycleContext} {session : AlpacaMarketSession}

structure Derived (context : RetainedLifecycleContext) (session : AlpacaMarketSession)
    (candidate : RollCandidate) : Prop where
  maximumSpread : candidate.maximumRelativeSpread = context.maximumRelativeSpread
  spread : zero ≤ candidate.relativeSpread
  debit : zero ≤ candidate.incrementalDebit
  covered : candidate.coveredVerticals = true
  noPrior : candidate.noPriorRollToday = noPriorRoll context session

/-- The larger of zero and a decimal is not negative. -/
theorem zero_le_greater (d : Decimal) : zero ≤ greater zero d := by
  unfold greater
  split
  · rename_i hless
    rw [Decimal.lt_iff_value] at hless
    rw [Decimal.le_iff_value]
    exact hless.le
  · rw [Decimal.le_iff_value]

/-- A relative spread is not negative. -/
theorem zero_le_spreadOver {width midpoint spread : Decimal}
    (h : spreadOver width midpoint = .ok spread) : zero ≤ spread := by
  obtain ⟨hcheck, h⟩ := check_bind_ok.mp h
  obtain ⟨ratio, hratio, h⟩ := bind_ok.mp h
  rw [raiseIf_ok, Bool.or_eq_false_iff, decide_eq_false_iff_not, decide_eq_false_iff_not,
    Decimal.le_iff_value, Decimal.lt_iff_value, value_zero, not_le, not_lt] at hcheck
  have hquotient : 0 ≤ ratio.value := by
    rw [divide, require_ok] at hratio
    exact Decimal.value_div_nonneg hratio hcheck.2 hcheck.1
  obtain ⟨-, -, hle, -⟩ := Decimal.quantizeCeiling_spec (require_ok.mp h)
  rw [Decimal.le_iff_value, value_zero]
  exact hquotient.trans hle

variable {options : List LifecycleOptionObservation} {scores : ScoreInput} {trustedAt : Int}
  {roll : LifecycleRollObservation} {selection : RollSelection}

theorem deriveSingleRollCandidate_derived
    (h : deriveSingleRollCandidate context options scores session trustedAt roll = .ok selection) :
    Derived context session selection.candidate := by
  unfold deriveSingleRollCandidate at h
  obtain ⟨current, -, h⟩ := bind_ok.mp h
  obtain ⟨replacement, -, h⟩ := bind_ok.mp h
  obtain ⟨observed, -, h⟩ := bind_ok.mp h
  obtain ⟨-, h⟩ := check_bind_ok.mp h
  obtain ⟨liquid, -, h⟩ := bind_ok.mp h
  obtain ⟨spread, hspread, h⟩ := bind_ok.mp h
  obtain ⟨loss, -, h⟩ := bind_ok.mp h
  obtain ⟨exposure, -, h⟩ := bind_ok.mp h
  obtain ⟨before, -, h⟩ := bind_ok.mp h
  obtain ⟨after, -, h⟩ := bind_ok.mp h
  obtain rfl := Except.ok.inj h
  obtain ⟨midpoint, -, hover⟩ := bind_ok.mp hspread
  exact {
    maximumSpread := rfl
    spread := zero_le_spreadOver hover
    debit := zero_le_greater _
    covered := rfl
    noPrior := rfl }

end

/-! ## What the policy asks of a candidate -/

/-- The policy takes the roll to a selection. -/
def IsEligible (values : AssessmentInput) (components : ScoreResult) (item : RollSelection) :
    Prop :=
  rollIsEligible { values with rollCandidate := some item.candidate } components = true

/-- What the policy asks of a candidate and the choice does not: how far the expiry moves, and that
the loss stays within the budget. -/
def RollCandidate.isAcceptable (candidate : RollCandidate) : Bool :=
  decide (7 ≤ candidate.expiryExtensionDays ∧ candidate.expiryExtensionDays ≤ 35)
    && candidate.withinLossBudget

/-- What the policy asks of the position, the thesis and the session, whichever the candidate. -/
structure RollAllowed (values : AssessmentInput) (components : ScoreResult)
    (context : RetainedLifecycleContext) (session : AlpacaMarketSession) : Prop where
  score : 45 ≤ components.displayScore ∧ components.displayScore < 70
  thesis : values.thesisStatus = .intact ∨ values.thesisStatus = .weakening
  dominant : components.dominantNonEvidenceComponent = "EXPOSURE" ∨
    components.dominantNonEvidenceComponent = "TIME"
  maximumSpread : context.maximumRelativeSpread < .ofInt 1
  noPrior : noPriorRoll context session = true

section Eligible

variable {values : AssessmentInput} {components : ScoreResult}
  {context : RetainedLifecycleContext} {session : AlpacaMarketSession} {item : RollSelection}

/-- The policy takes a candidate that the choice keeps, that reduces the drift enough and that is
acceptable, where it takes any roll. -/
theorem isEligible_iff (h : Derived context session item.candidate) :
    IsEligible values components item ↔
      RollAllowed values components context session ∧ item.candidate.isSelectable = true ∧
        20 ≤ item.candidate.driftReduction ∧ item.candidate.isAcceptable = true := by
  simp only [IsEligible, rollIsEligible, RollCandidate.isSelectable, RollCandidate.isAcceptable,
    Bool.and_eq_true, decide_eq_true_eq]
  rw [h.maximumSpread, h.covered, h.noPrior]
  constructor
  · rintro ⟨⟨⟨⟨⟨⟨⟨⟨⟨⟨hscore, hthesis⟩, hdominant⟩, hvalid⟩, hdrift⟩, hexpiry⟩, hspread⟩, hdebit⟩,
      hloss⟩, -⟩, hprior⟩
    exact ⟨⟨hscore, hthesis, hdominant, hspread.2.2, hprior⟩, ⟨⟨hvalid, hspread.2.1⟩, hdebit.2⟩,
      hdrift, hexpiry, hloss⟩
  · rintro ⟨hallowed, ⟨⟨hvalid, hspread⟩, hdebit⟩, hdrift, hexpiry, hloss⟩
    exact ⟨⟨⟨⟨⟨⟨⟨⟨⟨⟨hallowed.score, hallowed.thesis⟩, hallowed.dominant⟩, hvalid⟩, hdrift⟩,
      hexpiry⟩,
      h.spread, hspread, hallowed.maximumSpread⟩, h.debit, hdebit⟩, hloss⟩, rfl⟩, hallowed.noPrior⟩

theorem rank_lt_of_drift {other : RollSelection}
    (h : item.candidate.driftReduction < other.candidate.driftReduction) :
    other.rank < item.rank := by
  rw [RollSelection.rank, RollSelection.rank, Prod.Lex.toLex_lt_toLex]
  exact .inl (by omega)

end Eligible

/-! ## What an eligible roll decides -/

/-- Nothing but the candidate stands between an assessment and a roll: it is complete, nothing
forces a close and the evidence is known. -/
structure Undisturbed (values : AssessmentInput) (scores : ScoreInput) : Prop where
  noFailures : values.executionFailures = []
  quality : values.quality = .complete
  exposure : values.actualExposure.isSome
  scored : values.scores = some scores
  noClose : mandatoryCloseCode values.hardGates scores = .ok none
  evidence : values.evidenceState ≠ .unknown

/-- Where nothing disturbs an assessment, a roll that may be taken is decided. -/
theorem verdict_roll {input : AssessmentInput} {scores : ScoreInput} {components : ScoreResult}
    (h : Undisturbed input scores) (hcomponents : scoreDrift scores = .ok components)
    (hroll : rollIsEligible input components = true) :
    verdict input = .ok ⟨.roll, .rollApproved, "EXPOSURE_ROLL", some components⟩ := by
  have hbroken : ¬ (input.thesisStatus = .broken ∨ 70 ≤ components.displayScore) := by
    unfold rollIsEligible at hroll
    split at hroll
    · cases hroll
    · simp only [Bool.and_eq_true, decide_eq_true_eq] at hroll
      obtain ⟨⟨⟨⟨⟨⟨⟨⟨⟨⟨hscore, hthesis⟩, -⟩, -⟩, -⟩, -⟩, -⟩, -⟩, -⟩, -⟩, -⟩ := hroll
      rintro (hstatus | hclose)
      · rcases hthesis with hintact | hweakening
        · rw [hintact] at hstatus
          cases hstatus
        · rw [hweakening] at hstatus
          cases hstatus
      · omega
  rw [verdict]
  simp only [h.noFailures, h.quality, h.exposure, h.scored, decide_true, Bool.and_self]
  rw [hcomponents, ok_bind, h.noClose, ok_bind]
  simp only [scoredVerdict, if_neg h.evidence, if_neg hbroken, if_pos hroll]
  rfl

/-- An assessment that nothing disturbs takes the roll that the policy takes. -/
theorem evaluateAssessment_roll {values : AssessmentInput} {scores : ScoreInput}
    {components : ScoreResult} {item : RollSelection} (h : Undisturbed values scores)
    (hcomponents : scoreDrift scores = .ok components)
    (hscore : 45 ≤ components.displayScore ∧ components.displayScore < 70)
    (heligible : IsEligible values components item) :
    ∃ result, evaluateAssessment { values with rollCandidate := some item.candidate } = .ok result ∧
      result.response.action = .roll := by
  have hrolled : Undisturbed { values with rollCandidate := some item.candidate } scores :=
    ⟨h.noFailures, h.quality, h.exposure, h.scored, h.noClose, h.evidence⟩
  have hverdict := verdict_roll hrolled hcomponents heligible
  have hrange : decide (0 ≤ components.displayScore ∧ components.displayScore ≤ 100) = true :=
    decide_eq_true (by omega)
  rw [evaluateAssessment, hverdict, ok_bind]
  simp only [Option.any_some, hrange, Bool.not_true, raiseIf, if_neg Bool.false_ne_true]
  exact ⟨_, rfl, rfl⟩

/-! ## The choice -/

section

variable {values : AssessmentInput} {scores : ScoreInput} {components : ScoreResult}
  {context : RetainedLifecycleContext} {observation : LifecycleProviderObservation}
  {session : AlpacaMarketSession} {trustedAt : Int} {offered : List RollSelection}

/-- The choice is the first in rank of the candidates that are kept. -/
theorem deriveRollCandidate_eq (hcount : (offeredRolls observation).length ≤ 8)
    (hoffered : (offeredRolls observation).mapM
      (deriveSingleRollCandidate context observation.options scores session trustedAt) =
        .ok offered) :
    deriveRollCandidate context observation scores session trustedAt =
      .ok ((offered.filter fun item => item.candidate.isSelectable).argmin
        RollSelection.rank) := by
  unfold deriveRollCandidate
  split
  · rename_i hempty
    rw [List.isEmpty_iff.mp hempty, List.mapM_nil] at hoffered
    obtain rfl := Except.ok.inj hoffered
    rfl
  · rw [hoffered, ok_bind, raiseIf, if_neg (by simpa using hcount), ok_bind]
    rfl

/-- Every candidate that is offered has what all of them have. -/
theorem offered_derived
    (hoffered : (offeredRolls observation).mapM
      (deriveSingleRollCandidate context observation.options scores session trustedAt) =
        .ok offered) {item : RollSelection} (hitem : item ∈ offered) :
    Derived context session item.candidate := by
  obtain ⟨roll, -, hderived⟩ := Selection.mem_of_mapM_ok hoffered hitem
  exact deriveSingleRollCandidate_derived hderived

/-- Where the policy takes some roll that is offered, it takes the one that is chosen, and an
assessment that nothing disturbs decides to roll. -/
def MissesNone (values : AssessmentInput) (scores : ScoreInput) (components : ScoreResult)
    (offered : List RollSelection) (choice : Except Failure (Option RollSelection)) : Prop :=
  (∃ item ∈ offered, IsEligible values components item) →
    ∃ chosen, choice = .ok (some chosen) ∧ IsEligible values components chosen ∧
      (Undisturbed values scores → ∃ result,
        evaluateAssessment { values with rollCandidate := some chosen.candidate } = .ok result ∧
          result.response.action = .roll)

/-- Offering the same rolls in another order chooses a roll of the same rank. -/
def OrderIndependent (context : RetainedLifecycleContext)
    (observation : LifecycleProviderObservation) (scores : ScoreInput)
    (session : AlpacaMarketSession) (trustedAt : Int) : Prop :=
  ∀ other : LifecycleProviderObservation, other.options = observation.options →
    (offeredRolls other).Perm (offeredRolls observation) →
    ∃ chosen reordered, deriveRollCandidate context observation scores session trustedAt =
        .ok chosen ∧
      deriveRollCandidate context other scores session trustedAt = .ok reordered ∧
      reordered.map RollSelection.rank = chosen.map RollSelection.rank

/-- Where the policy takes some roll that is offered, every candidate that the choice keeps and
that is not acceptable is outranked by one that the policy takes. -/
def NotShadowed (values : AssessmentInput) (components : ScoreResult)
    (offered : List RollSelection) : Prop :=
  (∃ item ∈ offered, IsEligible values components item) →
    ∀ before shadow after, offered = before ++ shadow :: after →
      shadow.candidate.isSelectable = true → shadow.candidate.isAcceptable = false →
      Outranked RollSelection.rank (IsEligible values components) before offered shadow

/-- The order in which rolls are offered decides only between rolls of one rank. -/
theorem choice_orderIndependent (hcount : (offeredRolls observation).length ≤ 8)
    (hoffered : (offeredRolls observation).mapM
      (deriveSingleRollCandidate context observation.options scores session trustedAt) =
        .ok offered) :
    OrderIndependent context observation scores session trustedAt := by
  intro other hoptions hperm
  obtain ⟨reordered, hreordered, hresults⟩ := mapM_perm hperm hoffered
  rw [← hoptions] at hreordered
  refine ⟨_, _, deriveRollCandidate_eq hcount hoffered,
    deriveRollCandidate_eq (by rw [hperm.length_eq]; exact hcount) hreordered, ?_⟩
  exact argmin_perm (hresults.filter _)

end

/-! ## A rehearsal of two rolls -/

section Rehearsed

/-- The rehearsed context of a call spread with a week to its expiry. -/
def rollingContext : RetainedLifecycleContext :=
  { rehearsedContext with
    expectedPositions := [⟨"QQQ260911C00500000", .ofInt 1, 100⟩,
      ⟨"QQQ260911C00505000", .ofInt (-1), 100⟩]
    approvedMaxLoss := .ofInt 200 }

/-- A rehearsed roll to an expiry, with the quotes of its lower leg and the delta of that leg. -/
def rehearsedRoll (expiry : String) (lowerBid lowerAsk delta : Nat) : LifecycleRollObservation where
  positions := [⟨"QQQ" ++ expiry ++ "C00500000", .ofInt 1, 100⟩,
    ⟨"QQQ" ++ expiry ++ "C00505000", .ofInt (-1), 100⟩]
  options := [
    rehearsedOption ("QQQ" ++ expiry ++ "C00500000") 1 (cents lowerBid) (cents lowerAsk)
      (cents delta) (hashOf '3'),
    rehearsedOption ("QQQ" ++ expiry ++ "C00505000") (-1) (cents 50) (cents 60) (cents 20)
      (hashOf '4')]

/-- A roll by two weeks within the budget. -/
def affordableRoll : LifecycleRollObservation :=
  rehearsedRoll "260925" 190 200 75

/-- A roll by three weeks that reduces the drift more, and may lose more than the budget. -/
def dearRoll : LifecycleRollObservation :=
  rehearsedRoll "261002" 290 300 60

/-- The rehearsed observation with the rolls that are offered. -/
def rollingObservation (rolls : List LifecycleRollObservation) : LifecycleProviderObservation :=
  { rehearsedObservation 190 200 110 120 with rollCandidates := rolls }

/-- The rehearsed score: time presses, and the Greeks have left their bands. -/
def rollingScores : ScoreInput where
  evidenceDrift := .ofInt 70
  delta := .ofInt 75
  deltaLow := .ofInt 0
  deltaHigh := .ofInt 50
  vega := .ofInt 40
  vegaLow := .ofInt 0
  vegaHigh := .ofInt 20
  thetaPerDay := .ofInt (-1)
  maxDailyTheta := .ofInt 5
  dte := 7
  minimumDte := 7
  maximumDte := 60
  horizonFraction := cents 50
  volatilityView := .neutral
  entryAtmIv := cents 25
  currentAtmIv := cents 25
  liquidationPnl := .ofInt (-20)
  approvedMaxLoss := .ofInt 200

/-- The rehearsed assessment. -/
def rollingValues : AssessmentInput where
  assessmentId := Uuid.ofNat 5
  runId := Uuid.ofNat 6
  policyHash := hashOf 'd'
  quality := .complete
  actualExposure := some ⟨.ofInt 75, .ofInt 0, .ofInt (-1), .ofInt 40⟩
  thesisStatus := .weakening
  evidenceState := .assessed
  scores := some rollingScores

def rollingCandidates (rolls : List LifecycleRollObservation) :
    Except Failure (List RollSelection) :=
  (offeredRolls (rollingObservation rolls)).mapM (deriveSingleRollCandidate rollingContext
    (rollingObservation rolls).options rollingScores rehearsedSession rehearsedAt)

/-- The rehearsed choice. -/
def rollingChoice (rolls : List LifecycleRollObservation) :
    Except Failure (Option RollSelection) :=
  deriveRollCandidate rollingContext (rollingObservation rolls) rollingScores rehearsedSession
    rehearsedAt

/-- Where every candidate is acceptable none shadows another one. -/
theorem notShadowed_of_acceptable {values : AssessmentInput} {components : ScoreResult}
    {offered : List RollSelection}
    (h : offered.all (fun item => item.candidate.isAcceptable) = true) :
    NotShadowed values components offered := by
  rintro - before shadow after rfl - hacceptable
  rw [List.all_eq_true.mp h shadow (by simp)] at hacceptable
  cases hacceptable

/-- A run of the choice and the assessment in which the policy would take some roll, and the one
that is chosen is held. -/
def missesRoll (values : AssessmentInput) (scores : ScoreInput)
    (candidates : Except Failure (List RollSelection))
    (choice : Except Failure (Option RollSelection)) : Except Failure Bool := do
  let components ← scoreDrift scores
  let offered ← candidates
  let choice ← choice
  let chosen ← require choice .missing
  let result ← evaluateAssessment { values with rollCandidate := some chosen.candidate }
  return offered.any (fun item =>
      rollIsEligible { values with rollCandidate := some item.candidate } components)
    && !rollIsEligible { values with rollCandidate := some chosen.candidate } components
    && decide (result.response.action = .hold)
    && result.response.rationaleCode == "NO_VALID_ROLL"

/-- What a run in which a roll is missed consists of. -/
theorem missesRoll_true {values : AssessmentInput} {scores : ScoreInput}
    {candidates : Except Failure (List RollSelection)}
    {choice : Except Failure (Option RollSelection)}
    (h : missesRoll values scores candidates choice = .ok true) :
    ∃ components offered chosen result, scoreDrift scores = .ok components ∧
      candidates = .ok offered ∧ (∃ item ∈ offered, IsEligible values components item) ∧
      choice = .ok (some chosen) ∧ ¬ IsEligible values components chosen ∧
      evaluateAssessment { values with rollCandidate := some chosen.candidate } = .ok result ∧
      result.response.action = .hold ∧ result.response.rationaleCode = "NO_VALID_ROLL" := by
  unfold missesRoll at h
  obtain ⟨components, hcomponents, h⟩ := bind_ok.mp h
  obtain ⟨offered, hoffered, h⟩ := bind_ok.mp h
  obtain ⟨found, hchoice, h⟩ := bind_ok.mp h
  obtain ⟨chosen, hchosen, htaken⟩ := require_bind_ok.mp h
  subst hchosen
  obtain ⟨result, hresult, hanswer⟩ := bind_ok.mp htaken
  have hparts := Except.ok.inj hanswer
  simp only [Bool.and_eq_true, Bool.not_eq_true', decide_eq_true_eq, beq_iff_eq] at hparts
  obtain ⟨⟨⟨hany, hnot⟩, haction⟩, hrationale⟩ := hparts
  obtain ⟨item, hitem, heligible⟩ := List.any_eq_true.mp hany
  refine ⟨components, offered, chosen, result, hcomponents, hoffered, ⟨item, hitem, heligible⟩,
    hchoice, ?_, hresult, haction, hrationale⟩
  rw [IsEligible, hnot]
  exact Bool.false_ne_true

end Rehearsed

end AlphaDecay.Lifecycle
