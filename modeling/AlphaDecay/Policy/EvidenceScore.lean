import AlphaDecay.Evidence.Repository
import AlphaDecay.Foundation.RelatedLists
import AlphaDecay.Lifecycle.RollShadow

/-!
# The score of evidence

The claims of an assessment are folded to one of each cluster, the first of its best tier. Claims
that invalidate the thesis with authority decide the score. Otherwise the claims that are relevant
and confident enough are weighed against each other, and the net evidence, between minus one and
one, gives the drift and the status of the thesis. The score is defined for any arithmetic: the
decimals of the code, and exact numbers.
-/

namespace AlphaDecay.EvidenceScore

open Foundation Evidence Lifecycle

/-- What a score raises: the code of a `ValueError`, and a failure of the decimal context. -/
inductive ScoreFailure where
  | invalidMateriality
  | arithmetic
deriving DecidableEq, Repr

/-- The arithmetic that a score is computed in. -/
structure Arithmetic (α : Type) where
  number : Decimal → α
  add : α → α → α
  sub : α → α → α
  mul : α → α → α
  div : α → α → Option α
  le : α → α → Bool

/-- The arithmetic of the decimal context. -/
def contextual : Arithmetic Decimal where
  number d := d
  add a b := a + b
  sub a b := a - b
  mul a b := a * b
  div := Decimal.div
  le a b := decide (a ≤ b)

/-- The arithmetic of rational numbers. -/
def exact : Arithmetic ℚ where
  number := Decimal.value
  add a b := a + b
  sub a b := a - b
  mul a b := a * b
  div a b := if b = 0 then none else some (a / b)
  le a b := decide (a ≤ b)

structure EvidenceClaim where
  clusterId : String
  relation : EvidenceRelation
  materiality : Int
  relevance : Decimal
  confidence : Decimal
  sourceTier : EvidenceTier
  invalidates : Bool := false
  independentReportingGroup : Option String := none

structure EvidenceResult (α : Type) where
  state : EvidenceState
  netEvidence : Option α
  evidenceDrift : Option α
  thesisStatus : ThesisStatus
deriving DecidableEq

def sourceWeights : EvidenceTier → Decimal
  | .primary => ⟨false, 10, -1⟩
  | .originalReporting => ⟨false, 8, -1⟩
  | .secondary => ⟨false, 5, -1⟩

/-- Take a claim for its cluster unless one of a tier as good stands for it. -/
def represent (clusters : Dict String EvidenceClaim) (claim : EvidenceClaim) :
    Dict String EvidenceClaim :=
  match clusters.get claim.clusterId with
  | none => clusters.set claim.clusterId claim
  | some current =>
      if sourceWeights current.sourceTier < sourceWeights claim.sourceTier then
        clusters.set claim.clusterId claim
      else clusters

/-- The claim that stands for each cluster. -/
def representatives (claims : List EvidenceClaim) : Dict String EvidenceClaim :=
  claims.foldl represent Dict.empty

/-- The groups behind invalidations that are original reporting. -/
def reportingInvalidations (clusters : List EvidenceClaim) : Finset String :=
  (clusters.filterMap fun claim =>
    if claim.invalidates = true ∧ claim.sourceTier = .originalReporting then
      claim.independentReportingGroup.filter (· ≠ "")
    else none).toFinset

/-- A primary source, or two groups of reporters, invalidate the thesis. -/
def Invalidated (clusters : List EvidenceClaim) : Prop :=
  (clusters.any fun claim => claim.invalidates && decide (claim.sourceTier = .primary)) = true ∨
    2 ≤ (reportingInvalidations clusters).card

instance (clusters : List EvidenceClaim) : Decidable (Invalidated clusters) :=
  inferInstanceAs (Decidable (_ ∨ _))

/-- A claim is weighed: it is relevant and confident enough and takes a side. -/
def Counts (claim : EvidenceClaim) : Prop :=
  ¬(claim.relevance < ⟨false, 60, -2⟩ ∨ claim.confidence < ⟨false, 60, -2⟩ ∨
    claim.relation = .neutral)

instance (claim : EvidenceClaim) : Decidable (Counts claim) :=
  inferInstanceAs (Decidable (¬_))

def side (claim : EvidenceClaim) : Decimal :=
  if claim.relation = .supports then .ofInt 1 else .ofInt (-1)

section Score

variable {α : Type} (A : Arithmetic α)

/-- The weight of a claim with its side. -/
def weigh (claim : EvidenceClaim) : Except ScoreFailure (α × Decimal) := do
  raiseIf (!decide (1 ≤ claim.materiality ∧ claim.materiality ≤ 3)) .invalidMateriality
  let thirds ← require (A.div (A.number (.ofInt claim.materiality)) (A.number (.ofInt 3)))
    .arithmetic
  return (A.mul (A.mul (A.mul thirds (A.number claim.relevance)) (A.number claim.confidence))
    (A.number (sourceWeights claim.sourceTier)), side claim)

def sum (terms : List α) : α :=
  terms.foldl A.add (A.number (.ofInt 0))

/-- A number held between zero and one hundred. -/
def clamped (value : α) : α :=
  let lifted := if A.le value (A.number (.ofInt 0)) then A.number (.ofInt 0) else value
  if A.le (A.number (.ofInt 100)) lifted then A.number (.ofInt 100) else lifted

def scoreOf (net : α) : EvidenceResult α where
  state := .assessed
  netEvidence := some net
  evidenceDrift := some (clamped A
    (A.sub (A.number (.ofInt 50)) (A.mul (A.number (.ofInt 50)) net)))
  thesisStatus :=
    if A.le (A.number ⟨false, 25, -2⟩) net then .intact
    else if A.le net (A.number ⟨true, 25, -2⟩) then .broken
    else .weakening

def scoreClusters (clusters : List EvidenceClaim) : Except ScoreFailure (EvidenceResult α) :=
  if Invalidated clusters then
    .ok ⟨.assessed, some (A.number (.ofInt (-1))), some (A.number (.ofInt 100)), .broken⟩
  else do
    let weighted ← (clusters.filter fun claim => decide (Counts claim)).mapM (weigh A)
    if weighted.isEmpty then
      return ⟨.noChange, none, some (A.number (.ofInt 0)), .intact⟩
    let total := sum A (weighted.map Prod.fst)
    let net ← require (A.div (sum A (weighted.map fun entry =>
      A.mul entry.1 (A.number entry.2))) total) .arithmetic
    return scoreOf A net

def scoreEvidence (state : EvidenceState) (claims : List EvidenceClaim) :
    Except ScoreFailure (EvidenceResult α) :=
  match state with
  | .unknown => .ok ⟨.unknown, none, none, .unknown⟩
  | .noChange => .ok ⟨.noChange, none, some (A.number (.ofInt 0)), .intact⟩
  | .assessed => scoreClusters A (representatives claims).values

end Score

/-! ## Who stands for a cluster -/

section

variable {claims claims' : List EvidenceClaim} {claim : EvidenceClaim}

/-- No claim of the cluster has a better tier. -/
def Best (claims : List EvidenceClaim) (claim : EvidenceClaim) : Prop :=
  ∀ other ∈ claims, other.clusterId = claim.clusterId →
    ¬sourceWeights claim.sourceTier < sourceWeights other.sourceTier

theorem tier_of_weights (a b : EvidenceTier) (h : ¬sourceWeights a < sourceWeights b)
    (h' : ¬sourceWeights b < sourceWeights a) : a = b := by
  revert h h'
  cases a <;> cases b <;> decide

theorem weights_replaced (a b c : EvidenceTier) (h : ¬sourceWeights a < sourceWeights b)
    (hbetter : sourceWeights a < sourceWeights c) : ¬sourceWeights c < sourceWeights b := by
  rw [Decimal.lt_iff_value] at *
  exact fun hlt => h (hbetter.trans hlt)

/-- What stands for a cluster: the only claim of the cluster so far, or one of its best tier. -/
def Stands (claims : List EvidenceClaim) (id : String) : Option EvidenceClaim → Prop
  | none => ∀ claim ∈ claims, claim.clusterId ≠ id
  | some claim => claim ∈ claims ∧ claim.clusterId = id ∧ Best claims claim

/-- A claim is taken for its cluster when what stands for it has a lesser tier. -/
theorem get_represent (clusters : Dict String EvidenceClaim) (claim : EvidenceClaim) (id : String) :
    (represent clusters claim).get id =
      if claim.clusterId = id ∧ ∀ current ∈ clusters.get id,
        sourceWeights current.sourceTier < sourceWeights claim.sourceTier then some claim
      else clusters.get id := by
  by_cases hid : claim.clusterId = id
  · subst hid
    rw [represent]
    cases hget : clusters.get claim.clusterId with
    | none => simp
    | some current =>
        simp only [Option.mem_def, Option.some.injEq, forall_eq', true_and]
        split
        · rw [Dict.get_set, if_pos rfl]
        · exact hget
  · rw [if_neg fun h => hid h.1, represent]
    split
    · rw [Dict.get_set, if_neg hid]
    · split
      · rw [Dict.get_set, if_neg hid]
      · rfl

/-- A claim of the best tier stands for each cluster that has claims. -/
theorem representatives_stand (claims : List EvidenceClaim) (id : String) :
    Stands claims id ((representatives claims).get id) := by
  induction claims using List.reverseRecOn with
  | nil =>
      intro claim h
      cases h
  | append_singleton claims last ih =>
      have hstep : representatives (claims ++ [last]) =
          represent (representatives claims) last := by
        rw [representatives, List.foldl_append]
        rfl
      rw [hstep, get_represent]
      generalize (representatives claims).get id = current at ih ⊢
      split
      · rename_i htaken
        obtain ⟨rfl, hbetter⟩ := htaken
        refine ⟨List.mem_append_right _ (List.mem_singleton_self _), rfl, ?_⟩
        refine List.forall_mem_append.mpr ⟨fun other hother hsame => ?_, ?_⟩
        · cases current with
          | none => exact absurd hsame (ih other hother)
          | some current =>
              obtain ⟨-, hcluster, hbest⟩ := ih
              exact weights_replaced _ _ _ (hbest other hother (hsame.trans hcluster.symm))
                (hbetter current rfl)
        · rw [List.forall_mem_singleton, Decimal.lt_iff_value]
          exact fun _ => lt_irrefl _
      · rename_i hkept
        cases current with
        | none =>
            refine List.forall_mem_append.mpr ⟨ih, List.forall_mem_singleton.mpr fun hid => ?_⟩
            exact hkept ⟨hid, by simp⟩
        | some current =>
            obtain ⟨hmem, hcluster, hbest⟩ := ih
            refine ⟨List.mem_append_left _ hmem, hcluster, List.forall_mem_append.mpr ⟨hbest,
              List.forall_mem_singleton.mpr fun hsame hbetter => hkept ⟨hsame.trans hcluster, ?_⟩⟩⟩
            simpa using hbetter

/-- The claims of a cluster at its best tier are all one. -/
def Agreeing (claims : List EvidenceClaim) : Prop :=
  ∀ first ∈ claims, ∀ second ∈ claims, first.clusterId = second.clusterId →
    first.sourceTier = second.sourceTier → Best claims first → first = second

/-- The order of agreeing claims does not matter for who stands for a cluster. -/
theorem representatives_perm (h : Agreeing claims) (hperm : claims.Perm claims') :
    (representatives claims).values.Perm (representatives claims').values := by
  have hget : ∀ id, (representatives claims).get id = (representatives claims').get id := by
    intro id
    have hstands := representatives_stand claims id
    have hstands' := representatives_stand claims' id
    generalize (representatives claims).get id = first at hstands ⊢
    generalize (representatives claims').get id = second at hstands' ⊢
    cases first with
    | none =>
        cases second with
        | none => rfl
        | some second => exact absurd hstands'.2.1 (hstands second (hperm.mem_iff.mpr hstands'.1))
    | some first =>
        obtain ⟨hfirst, hid, hbest⟩ := hstands
        cases second with
        | none => exact absurd hid (hstands' first (hperm.mem_iff.mp hfirst))
        | some second =>
            obtain ⟨hsecond, hid', hbest'⟩ := hstands'
            have hsecond' := hperm.mem_iff.mpr hsecond
            have hsame := hid.trans hid'.symm
            have htier := tier_of_weights _ _ (hbest second hsecond' hsame.symm)
              (hbest' first (hperm.mem_iff.mp hfirst) hsame)
            rw [h first hfirst second hsecond' hsame htier hbest]
  refine List.Perm.map _ ((List.perm_ext_iff_of_nodup ?_ ?_).mpr fun entry => ?_)
  · exact List.Nodup.of_map _ (representatives claims).distinct
  · exact List.Nodup.of_map _ (representatives claims').distinct
  · rw [Dict.mem_entries, Dict.mem_entries, hget]

/-- Each claim of different clusters stands for its own. -/
theorem representatives_distinct (h : (claims.map EvidenceClaim.clusterId).Nodup) :
    (representatives claims).values = claims := by
  induction claims using List.reverseRecOn with
  | nil => rfl
  | append_singleton claims last ih =>
      rw [List.map_append, List.nodup_append] at h
      obtain ⟨hold, -, hnew⟩ := h
      have hnone : (representatives claims).get last.clusterId = none := by
        have hstands := representatives_stand claims last.clusterId
        cases hget : (representatives claims).get last.clusterId with
        | none => rfl
        | some current =>
            rw [hget] at hstands
            exact absurd hstands.2.1 (hnew _ (List.mem_map_of_mem hstands.1) _
              (List.mem_singleton_self _))
      rw [representatives, List.foldl_append]
      change (represent (representatives claims) last).values = _
      rw [represent, hnone]
      dsimp only
      rw [Dict.values_set_of_new hnone, ih hold]

end

/-! ## Exact scores -/

section

variable {clusters clusters' : List EvidenceClaim} {claim : EvidenceClaim}
  {result : EvidenceResult ℚ}

variable {weighted : List (ℚ × Decimal)}

/-- An entry of the weighing: a positive weight on a side. -/
def Weighed (entry : ℚ × Decimal) : Prop :=
  0 < entry.1 ∧ (entry.2 = .ofInt 1 ∨ entry.2 = .ofInt (-1))

/-- A claim that counts and is weighed has a positive weight. -/
theorem weigh_sound {entry : ℚ × Decimal} (hcounts : Counts claim)
    (h : weigh exact claim = .ok entry) : Weighed entry ∧ entry.2 = side claim := by
  rw [Counts, not_or, not_or, Decimal.lt_iff_value, Decimal.lt_iff_value, not_lt, not_lt] at hcounts
  obtain ⟨hrelevance, hconfidence, -⟩ := hcounts
  have hsixty : (0 : ℚ) < (⟨false, 60, -2⟩ : Decimal).value := by
    norm_num [Decimal.value, Decimal.significand]
  obtain ⟨⟨⟩, hmaterial, h⟩ := bind_ok.mp h
  rw [raiseIf_ok, Bool.not_eq_false', decide_eq_true_eq] at hmaterial
  obtain ⟨thirds, hthirds, h⟩ := bind_ok.mp h
  cases h
  have hthirds' : 0 < thirds := by
    rw [require_ok] at hthirds
    simp only [exact, Decimal.value_ofInt] at hthirds
    rw [if_neg (by norm_num), Option.some.injEq] at hthirds
    rw [← hthirds]
    have hpositive : (0 : ℚ) < claim.materiality := by exact_mod_cast hmaterial.1
    positivity
  have htier : 0 < (sourceWeights claim.sourceTier).value := by
    cases claim.sourceTier <;> norm_num [sourceWeights, Decimal.value, Decimal.significand]
  refine ⟨⟨mul_pos (mul_pos (mul_pos hthirds' (hsixty.trans_le hrelevance))
    (hsixty.trans_le hconfidence)) htier, ?_⟩, rfl⟩
  rw [side]
  split
  · exact .inl rfl
  · exact .inr rfl

/-- The weighed entries of claims are sound. -/
theorem weighed_of_mapM
    (h : (clusters.filter fun claim => decide (Counts claim)).mapM (weigh exact) = .ok weighted) :
    ∀ entry ∈ weighted, Weighed entry := by
  intro entry hentry
  obtain ⟨claim, hclaim, hweigh⟩ := exists_of_forall₂ (mapM_ok.mp h) entry hentry
  exact (weigh_sound (of_decide_eq_true (List.mem_filter.mp hclaim).2) hweigh).1

def total (weighted : List (ℚ × Decimal)) : ℚ :=
  (weighted.map Prod.fst).sum

/-- The weights of entries on their sides. -/
def signed (weighted : List (ℚ × Decimal)) : ℚ :=
  (weighted.map fun entry => entry.1 * entry.2.value).sum

theorem sum_exact (terms : List ℚ) : sum exact terms = terms.sum := by
  rw [List.sum_eq_foldl]
  change terms.foldl (· + ·) (Decimal.ofInt 0).value = _
  rw [Decimal.value_ofInt]
  rfl

/-- The weights on their sides lie between the weights and their negation. -/
theorem signed_between (h : ∀ entry ∈ weighted, Weighed entry) :
    -total weighted ≤ signed weighted ∧ signed weighted ≤ total weighted ∧
      (weighted ≠ [] → 0 < total weighted) := by
  induction weighted with
  | nil => simp [total, signed]
  | cons entry rest ih =>
      obtain ⟨⟨hpositive, hside⟩, hrest⟩ := List.forall_mem_cons.mp h
      obtain ⟨hlow, hhigh, -⟩ := ih hrest
      have htotal : total (entry :: rest) = entry.1 + total rest := by simp [total]
      have hsigned : signed (entry :: rest) = entry.1 * entry.2.value + signed rest := by
        simp [signed]
      rw [htotal, hsigned]
      rcases hside with hside | hside
      · rw [hside, Decimal.value_ofInt]
        push_cast
        exact ⟨by linarith, by linarith, fun _ => by linarith⟩
      · rw [hside, Decimal.value_ofInt]
        push_cast
        exact ⟨by linarith, by linarith, fun _ => by linarith⟩

inductive Scored (clusters : List EvidenceClaim) : EvidenceResult ℚ → Prop where
  | invalidated (h : Invalidated clusters) : Scored clusters (scoreOf exact (-1))
  | quiet (h : ¬Invalidated clusters)
      (hnone : (clusters.filter fun claim => decide (Counts claim)) = []) :
      Scored clusters ⟨.noChange, none, some 0, .intact⟩
  | weighed (h : ¬Invalidated clusters) (weighted : List (ℚ × Decimal))
      (hweighted : (clusters.filter fun claim => decide (Counts claim)).mapM (weigh exact) =
        .ok weighted) (hsome : weighted ≠ []) :
      Scored clusters (scoreOf exact (signed weighted / total weighted))

/-- A score of clusters is what it is said to be. -/
theorem scoreClusters_ok : scoreClusters exact clusters = .ok result ↔ Scored clusters result := by
  have hinvalid : (⟨.assessed, some (exact.number (.ofInt (-1))), some (exact.number (.ofInt 100)),
      .broken⟩ : EvidenceResult ℚ) = scoreOf exact (-1) := by
    decide +kernel
  have hzero : exact.number (.ofInt 0) = 0 := by decide +kernel
  rw [scoreClusters, hzero]
  by_cases h : Invalidated clusters
  · rw [if_pos h, hinvalid]
    constructor
    · intro hok
      cases hok
      exact .invalidated h
    · intro hscored
      cases hscored with
      | invalidated => rfl
      | quiet hnot => exact absurd h hnot
      | weighed hnot => exact absurd h hnot
  · rw [if_neg h]
    constructor
    · intro hok
      obtain ⟨weighted, hweighted, hok⟩ := bind_ok.mp hok
      cases weighted with
      | nil =>
          cases hok
          refine .quiet h ?_
          cases hlist : clusters.filter fun claim => decide (Counts claim) with
          | nil => rfl
          | cons => rw [hlist] at hweighted; cases (mapM_ok.mp hweighted)
      | cons entry rest =>
          obtain ⟨net, hnet, hok⟩ := bind_ok.mp hok
          cases hok
          obtain ⟨-, -, hpositive⟩ := signed_between (weighed_of_mapM hweighted)
          rw [sum_exact, sum_exact, require_ok] at hnet
          have hne : total (entry :: rest) ≠ 0 := (hpositive (List.cons_ne_nil _ _)).ne'
          obtain rfl := Option.some.inj ((if_neg hne).symm.trans hnet)
          exact .weighed h _ hweighted (List.cons_ne_nil _ _)
    · intro hscored
      cases hscored with
      | invalidated hinvalidated => exact absurd hinvalidated h
      | quiet _ hnone =>
          rw [hnone]
          rfl
      | weighed _ weighted hweighted hsome =>
          obtain ⟨-, -, hpositive⟩ := signed_between (weighed_of_mapM hweighted)
          rw [hweighted]
          cases weighted with
          | nil => exact absurd rfl hsome
          | cons entry rest =>
              have hne : total (entry :: rest) ≠ 0 := (hpositive hsome).ne'
              simp only [ok_bind, List.isEmpty_cons, Bool.false_eq_true, if_false, sum_exact]
              have hdiv : exact.div (signed (entry :: rest)) (total (entry :: rest)) =
                  some (signed (entry :: rest) / total (entry :: rest)) := if_neg hne
              exact bind_ok.mpr ⟨_, require_ok.mpr hdiv, rfl⟩

theorem invalidated_perm (h : clusters.Perm clusters') :
    Invalidated clusters ↔ Invalidated clusters' := by
  have hgroups : reportingInvalidations clusters = reportingInvalidations clusters' :=
    List.toFinset_eq_of_perm _ _ (h.filterMap _)
  rw [Invalidated, Invalidated, h.any_eq, hgroups]

/-- The order of the clusters does not matter for their score. -/
theorem Scored.perm (h : Scored clusters result) (hperm : clusters.Perm clusters') :
    Scored clusters' result := by
  have hfilter := hperm.filter fun claim => decide (Counts claim)
  cases h with
  | invalidated h => exact .invalidated ((invalidated_perm hperm).mp h)
  | quiet h hnone =>
      rw [hnone] at hfilter
      exact .quiet (fun h' => h ((invalidated_perm hperm).mpr h')) hfilter.nil_eq.symm
  | weighed h weighted hweighted hsome =>
      obtain ⟨reordered, hreordered, hsame⟩ := mapM_perm hfilter.symm hweighted
      have hscored := Scored.weighed (fun h' => h ((invalidated_perm hperm).mpr h')) reordered
        hreordered (fun hnil => hsome (hsame.symm.trans (by rw [hnil])).eq_nil)
      have htotal : total reordered = total weighted := (hsame.map _).sum_eq
      have hsigned : signed reordered = signed weighted := (hsame.map _).sum_eq
      rwa [htotal, hsigned] at hscored

/-- The net evidence of a score lies between minus one and one, the drift follows it, and the status
goes by its thresholds. -/
def InRange (result : EvidenceResult ℚ) : Prop :=
  ∀ net ∈ result.netEvidence, (-1 ≤ net ∧ net ≤ 1) ∧
    result.evidenceDrift = some (50 - 50 * net) ∧ (0 ≤ 50 - 50 * net ∧ 50 - 50 * net ≤ 100) ∧
    result.thesisStatus =
      if 1 / 4 ≤ net then .intact else if net ≤ -(1 / 4) then .broken else .weakening

/-- The score of net evidence between minus one and one is in range. -/
theorem scoreOf_inRange {net : ℚ} (hlow : -1 ≤ net) (hhigh : net ≤ 1) :
    InRange (scoreOf exact net) := by
  intro _ hnet
  obtain rfl := Option.some.inj hnet
  have hquarter : (⟨false, 25, -2⟩ : Decimal).value = 1 / 4 := by decide +kernel
  have hquarter' : (⟨true, 25, -2⟩ : Decimal).value = -(1 / 4) := by decide +kernel
  refine ⟨⟨hlow, hhigh⟩, ?_, ⟨by linarith, by linarith⟩, ?_⟩
  · simp only [scoreOf, clamped, exact, Decimal.value_ofInt, decide_eq_true_eq, Option.some.injEq]
    push_cast
    split
    · rename_i hzero
      rw [if_neg (by norm_num)]
      linarith
    · split
      · linarith
      · rfl
  · simp only [scoreOf, exact, hquarter, hquarter', decide_eq_true_eq]

theorem Scored.net (h : Scored clusters result) :
    result = ⟨.noChange, none, some 0, .intact⟩ ∨
      ∃ net, (-1 ≤ net ∧ net ≤ 1) ∧ result = scoreOf exact net := by
  cases h with
  | invalidated => exact .inr ⟨-1, by norm_num, rfl⟩
  | quiet => exact .inl rfl
  | weighed _ weighted hweighted hsome =>
      obtain ⟨hlow, hhigh, hpositive⟩ := signed_between (weighed_of_mapM hweighted)
      refine .inr ⟨_, ⟨?_, ?_⟩, rfl⟩
      · rw [le_div_iff₀ (hpositive hsome)]
        linarith
      · rw [div_le_iff₀ (hpositive hsome)]
        linarith

theorem invalidated_cons (h : claim.invalidates = false) :
    Invalidated (claim :: clusters) ↔ Invalidated clusters := by
  have hgroups : reportingInvalidations (claim :: clusters) = reportingInvalidations clusters := by
    simp [reportingInvalidations, h]
  rw [Invalidated, Invalidated, hgroups, List.any_cons, h, Bool.false_and, Bool.false_or]

end

/-! ## Results -/

section

/-- The order of the claims does not matter for a score when the claims of a cluster at its best
tier are one. -/
theorem scoreEvidence_perm (state : EvidenceState) {claims claims' : List EvidenceClaim}
    (hagree : Agreeing claims) (hperm : claims.Perm claims') (result : EvidenceResult ℚ) :
    scoreEvidence exact state claims = .ok result ↔
      scoreEvidence exact state claims' = .ok result := by
  cases state with
  | unknown => rfl
  | noChange => rfl
  | assessed =>
      have hclusters := representatives_perm hagree hperm
      rw [scoreEvidence, scoreEvidence, scoreClusters_ok, scoreClusters_ok]
      exact ⟨fun h => h.perm hclusters, fun h => h.perm hclusters.symm⟩

/-- How far a thesis is from broken. -/
def standing : ThesisStatus → Nat
  | .broken => 0
  | .weakening => 1
  | .intact => 2
  | .unknown => 3

/-- A score speaks for the thesis no less than another. -/
def Supported (before after : EvidenceResult ℚ) : Prop :=
  (∃ net ∈ before.netEvidence, ∃ net' ∈ after.netEvidence, net ≤ net') ∧
    (∃ drift ∈ before.evidenceDrift, ∃ drift' ∈ after.evidenceDrift, drift' ≤ drift) ∧
    standing before.thesisStatus ≤ standing after.thesisStatus

/-- More net evidence speaks for the thesis. -/
theorem supported_of_le {net net' : ℚ} (hlow : -1 ≤ net) (hle : net ≤ net') (hhigh : net' ≤ 1) :
    Supported (scoreOf exact net) (scoreOf exact net') := by
  obtain ⟨-, hdrift, -, hstatus⟩ := scoreOf_inRange hlow (hle.trans hhigh) net rfl
  obtain ⟨-, hdrift', -, hstatus'⟩ := scoreOf_inRange (hlow.trans hle) hhigh net' rfl
  refine ⟨⟨net, rfl, net', rfl, hle⟩, ⟨_, hdrift, _, hdrift', by linarith⟩, ?_⟩
  rw [hstatus, hstatus']
  split
  · rw [if_pos (by linarith)]
  · split
    · exact Nat.zero_le _
    · split
      · decide
      · rw [if_neg (by linarith)]

/-- Another claim of a cluster of its own moves a score to its side. -/
theorem Scored.added {claims : List EvidenceClaim} {added : EvidenceClaim}
    {before after : EvidenceResult ℚ} (hbefore : Scored claims before)
    (hafter : Scored (added :: claims) after) (hvalid : added.invalidates = false)
    (hsome : before.netEvidence.isSome = true) :
    (added.relation = .supports → Supported before after) ∧
      (added.relation = .contradicts → Supported after before) := by
  have hrefl : before = after → (added.relation = .supports → Supported before after) ∧
      (added.relation = .contradicts → Supported after before) := by
    rintro rfl
    rcases hbefore.net with rfl | ⟨net, ⟨hlow, hhigh⟩, rfl⟩
    · cases hsome
    · exact ⟨fun _ => supported_of_le hlow le_rfl hhigh, fun _ => supported_of_le hlow le_rfl hhigh⟩
  cases hbefore with
  | quiet => cases hsome
  | invalidated h =>
      cases hafter with
      | invalidated => exact hrefl rfl
      | quiet hnot => exact absurd ((invalidated_cons hvalid).mpr h) hnot
      | weighed hnot => exact absurd ((invalidated_cons hvalid).mpr h) hnot
  | weighed h weighted hweighted hne =>
      have hadded : (added :: claims).filter (fun claim => decide (Counts claim)) =
          if Counts added then added :: claims.filter (fun claim => decide (Counts claim))
          else claims.filter (fun claim => decide (Counts claim)) := by
        rw [List.filter_cons]
        simp only [decide_eq_true_eq]
      cases hafter with
      | invalidated hnow => exact absurd ((invalidated_cons hvalid).mp hnow) h
      | quiet _ hnone =>
          rw [hadded] at hnone
          split at hnone
          · cases hnone
          · rw [hnone] at hweighted
            cases hweighted
            exact absurd rfl hne
      | weighed _ weighted' hweighted' =>
          rw [hadded] at hweighted'
          split at hweighted'
          · rename_i hcounts
            rw [List.mapM_cons] at hweighted'
            obtain ⟨entry, hentry, hweighted'⟩ := bind_ok.mp hweighted'
            rw [hweighted] at hweighted'
            cases hweighted'
            obtain ⟨⟨hpositive, -⟩, hside⟩ := weigh_sound hcounts hentry
            obtain ⟨hlow, hhigh, htotal⟩ := signed_between (weighed_of_mapM hweighted)
            have hsum : total (entry :: weighted) = entry.1 + total weighted := by simp [total]
            have hsigned : signed (entry :: weighted) =
                entry.1 * entry.2.value + signed weighted := by
              simp [signed]
            have htotal' := htotal hne
            have hall : 0 < entry.1 + total weighted := by linarith
            rw [hsum, hsigned, hside]
            constructor
            · intro hrelation
              rw [side, if_pos hrelation, Decimal.value_ofInt, Int.cast_one, mul_one]
              refine supported_of_le ?_ ?_ ?_
              · rw [le_div_iff₀ htotal']
                linarith
              · rw [div_le_div_iff₀ htotal' hall]
                nlinarith
              · rw [div_le_iff₀ hall]
                linarith
            · intro hrelation
              have hne' : added.relation ≠ .supports := by rw [hrelation]; decide
              rw [side, if_neg hne', Decimal.value_ofInt]
              push_cast
              refine supported_of_le ?_ ?_ ?_
              · rw [le_div_iff₀ hall]
                linarith
              · rw [div_le_div_iff₀ hall htotal']
                nlinarith
              · rw [div_le_iff₀ htotal']
                linarith
          · obtain rfl := Except.ok.inj (hweighted.symm.trans hweighted')
            exact hrefl rfl

/-- The net evidence of a score is between minus one and one, with the drift and the status that go
with it. Another claim of a cluster of its own, which does not invalidate, moves a score with net
evidence to its side. -/
theorem scoreEvidence_monotone (state : EvidenceState) :
    (∀ claims result, scoreEvidence exact state claims = .ok result → InRange result) ∧
    ∀ (claims claims' : List EvidenceClaim) (added : EvidenceClaim)
      (before after : EvidenceResult ℚ),
      ((added :: claims).map EvidenceClaim.clusterId).Nodup → claims'.Perm (added :: claims) →
      added.invalidates = false → scoreEvidence exact state claims = .ok before →
      scoreEvidence exact state claims' = .ok after → before.netEvidence.isSome = true →
      (added.relation = .supports → Supported before after) ∧
        (added.relation = .contradicts → Supported after before) := by
  cases state with
  | unknown =>
      refine ⟨fun claims result h => ?_,
        fun claims claims' added before after _ _ _ h _ hsome => ?_⟩
      · cases h
        rintro net ⟨⟩
      · cases h
        cases hsome
  | noChange =>
      refine ⟨fun claims result h => ?_,
        fun claims claims' added before after _ _ _ h _ hsome => ?_⟩
      · cases h
        rintro net ⟨⟩
      · cases h
        cases hsome
  | assessed =>
      refine ⟨fun claims result h => ?_,
        fun claims claims' added before after hids hperm hvalid hbefore hafter => ?_⟩
      · rcases (scoreClusters_ok.mp h).net with rfl | ⟨net, ⟨hlow, hhigh⟩, rfl⟩
        · rintro net ⟨⟩
        · exact scoreOf_inRange hlow hhigh
      · have hids' := (hperm.map EvidenceClaim.clusterId).nodup_iff.mpr hids
        rw [scoreEvidence, representatives_distinct (List.nodup_cons.mp hids).2, scoreClusters_ok]
          at hbefore
        rw [scoreEvidence, representatives_distinct hids', scoreClusters_ok] at hafter
        exact hbefore.added (hafter.perm hperm) hvalid

end

section Rehearsed

/-- A claim of a cluster with a relation, a relevance and a tier. -/
def claimOf (id : String) (relation : EvidenceRelation) (relevance : Decimal)
    (tier : EvidenceTier) : EvidenceClaim where
  clusterId := id
  relation := relation
  materiality := 3
  relevance := relevance
  confidence := .ofInt 1
  sourceTier := tier

/-- In the rehearsal a supporting claim turns evidence that is even in favour of the thesis. -/
theorem scoreEvidence_monotone_rehearsed :
    Supported (scoreOf exact 0) (scoreOf exact (1 / 3)) :=
  ((scoreEvidence_monotone .assessed).2
    [claimOf "A" .supports (.ofInt 1) .primary, claimOf "B" .contradicts (.ofInt 1) .primary]
    [claimOf "C" .supports (.ofInt 1) .primary, claimOf "A" .supports (.ofInt 1) .primary,
      claimOf "B" .contradicts (.ofInt 1) .primary]
    (claimOf "C" .supports (.ofInt 1) .primary) _ _ (by decide) (List.Perm.refl _) rfl
    (by decide +kernel) (by decide +kernel) rfl).1 rfl

theorem scoreEvidence_perm_rehearsed :
    scoreEvidence exact .assessed [claimOf "A" .supports (.ofInt 1) .primary,
      claimOf "B" .contradicts (.ofInt 1) .primary] = .ok (scoreOf exact 0) :=
  (scoreEvidence_perm .assessed (by simp [Agreeing, claimOf]) (List.Perm.swap _ _ _) _).mpr
    (by decide +kernel)

/-- Two claims of one cluster and tier that contradict each other score by their order. -/
theorem scoreEvidence_ordered : ∃ claims claims' : List EvidenceClaim, claims.Perm claims' ∧
    scoreEvidence exact .assessed claims = .ok (scoreOf exact 1) ∧
    scoreEvidence exact .assessed claims' = .ok (scoreOf exact (-1)) :=
  ⟨[claimOf "A" .supports (.ofInt 1) .primary, claimOf "A" .contradicts (.ofInt 1) .primary],
    [claimOf "A" .contradicts (.ofInt 1) .primary, claimOf "A" .supports (.ofInt 1) .primary],
    List.Perm.swap _ _ _, by decide +kernel, by decide +kernel⟩

/-- In the decimal context another supporting claim can lower the net evidence: the weights are
rounded to twenty-eight digits, the sum of all up and the sum on their sides not at all. -/
theorem scoreEvidence_rounded : ∃ (claims : List EvidenceClaim) (added : EvidenceClaim)
    (net net' : Decimal), ((claims ++ [added]).map EvidenceClaim.clusterId).Nodup ∧
    added.invalidates = false ∧ added.relation = .supports ∧
    scoreEvidence contextual .assessed claims = .ok (scoreOf contextual net) ∧
    scoreEvidence contextual .assessed (claims ++ [added]) = .ok (scoreOf contextual net') ∧
    net' < net :=
  ⟨[claimOf "A" .supports ⟨false, 1050000000000000000000000001, 0⟩ .primary,
    claimOf "B" .contradicts ⟨false, 150000000000000000000000000, 0⟩ .primary],
    claimOf "C" .supports (.ofInt 1) .secondary, ⟨false, 7500000000000000000000000002, -28⟩,
    ⟨false, 75, -2⟩, by decide, rfl, rfl, by decide +kernel, by decide +kernel, by decide +kernel⟩

end Rehearsed

end AlphaDecay.EvidenceScore
