import AlphaDecay.Evidence.Repository
import AlphaDecay.Foundation.DecimalMonotone
import AlphaDecay.Policy.OpportunityModels
import AlphaDecay.StrategyBriefs.Models

/-!
# The catalyst of an opportunity

The clusters of a research bundle are classified one by one. The classifications are validated
against their clusters and the frozen plan, those with an event code of the plan are assessed, and
the catalyst has a quality and a score. Invalidations by a primary source, or by two independent
groups of reporters, come before everything else that the assessment looks at.
-/

namespace AlphaDecay.Catalyst

open Foundation Evidence Policy StrategyBriefs

/-- What a validation raises: the code of a `CatalystAuthorityError`. -/
inductive CatalystFailure where
  | classificationInvalid
deriving DecidableEq, Repr

def CatalystFailure.code : CatalystFailure → String
  | classificationInvalid => "CATALYST_CLASSIFICATION_INVALID"

/-- The codes of a frozen plan. -/
structure CatalystEvidencePlan where
  allowedEventCodes : List String
  invalidationCodes : List String

structure SourceCluster where
  clusterId : String
  sourceIds : List String
  sourceTier : EvidenceTier
  independentReportingGroup : Option String

/-! ## Validation -/

def FitsCluster (plan : CatalystEvidencePlan) (item : ClassificationFields)
    (cluster : SourceCluster) : Prop :=
  item.sourceIds = cluster.sourceIds ∧
    item.sourceTier = cluster.sourceTier ∧
    item.independentReportingGroup = cluster.independentReportingGroup ∧
    isCode item.eventCode = true ∧
    (1 ≤ item.materiality ∧ item.materiality ≤ 3) ∧
    (Decimal.ofInt 0 ≤ item.relevance ∧ item.relevance ≤ Decimal.ofInt 1) ∧
    (Decimal.ofInt 0 ≤ item.confidence ∧ item.confidence ≤ Decimal.ofInt 1) ∧
    item.invalidates = item.invalidationConditionId.isSome ∧
    ∀ condition ∈ item.invalidationConditionId,
      condition ∈ plan.invalidationCodes ∧ item.relation = .contradicts

instance (plan : CatalystEvidencePlan) (item : ClassificationFields) (cluster : SourceCluster) :
    Decidable (FitsCluster plan item cluster) :=
  inferInstanceAs (Decidable (_ ∧ _))

/-- Check classifications in turn, with the clusters seen so far. -/
def validateEach (plan : CatalystEvidencePlan) (clusters : List SourceCluster) :
    List String → List ClassificationFields → Except CatalystFailure (List String)
  | seen, [] => .ok seen
  | seen, item :: rest =>
      match lastByKey SourceCluster.clusterId clusters item.clusterId with
      | none => .error .classificationInvalid
      | some cluster =>
          if item.clusterId ∈ seen ∨ ¬FitsCluster plan item cluster then
            .error .classificationInvalid
          else validateEach plan clusters (seen ++ [item.clusterId]) rest

/-- Check the classifications of the clusters of a bundle. -/
def validateClassifications (plan : CatalystEvidencePlan) (clusters : List SourceCluster)
    (classifications : List ClassificationFields) : Except CatalystFailure Unit := do
  raiseIf (decide (classifications.length ≠ clusters.length)) .classificationInvalid
  let seen ← validateEach plan clusters [] classifications
  raiseIf (decide (seen.toFinset ≠ (clusters.map SourceCluster.clusterId).toFinset))
    .classificationInvalid

/-! ## Assessment -/

def sourceWeight : EvidenceTier → Decimal
  | .primary => ⟨false, 10, -1⟩
  | .originalReporting => ⟨false, 8, -1⟩
  | .secondary => ⟨false, 5, -1⟩

/-- The relevance and the confidence from which a classification counts. -/
def threshold : Decimal :=
  ⟨false, 60, -2⟩

/-- A classification is relevant and confident enough to count. -/
def Qualifies (item : ClassificationFields) : Prop :=
  threshold ≤ item.relevance ∧ threshold ≤ item.confidence

instance (item : ClassificationFields) : Decidable (Qualifies item) :=
  inferInstanceAs (Decidable (_ ∧ _))

theorem thirds_isSome (a : Decimal) : (a.div (.ofInt 3)).isSome = true := by
  obtain ⟨q, hq⟩ := Decimal.div_isSome (a := a) (b := .ofInt 3) (by
    rw [Decimal.value_ofInt]
    norm_num)
  rw [hq]
  rfl

def thirds (item : ClassificationFields) : Decimal :=
  ((Decimal.ofInt item.materiality).div (.ofInt 3)).get (thirds_isSome _)

/-- The score of a supporting classification, cut to an integer. -/
def supportScore (item : ClassificationFields) : Int :=
  let product := thirds item * item.relevance * item.confidence * sourceWeight item.sourceTier *
    .ofInt 100
  (product.scaled (min product.exponent 0)).tdiv (10 ^ (-(min product.exponent 0)).toNat)

/-- The groups behind invalidations that are original reporting. -/
def reportingGroups (invalidations : List ClassificationFields) : Finset String :=
  (invalidations.filterMap fun item =>
    if item.sourceTier = .originalReporting then item.independentReportingGroup
    else none).toFinset

/-- The quality and the score of classifications. -/
def assessClassifications (classifications : List ClassificationFields) : CatalystQuality × Int :=
  let invalidations := classifications.filter (·.invalidates)
  let primaryInvalidation := invalidations.any fun item => decide (item.sourceTier = .primary)
  if primaryInvalidation = true ∨ 2 ≤ (reportingGroups invalidations).card then
    (.authoritativeContradiction, 0)
  else
    let qualifying := classifications.filter fun item => decide (Qualifies item)
    let supports := qualifying.filter fun item => decide (item.relation = .supports)
    let contradictions := qualifying.filter fun item => decide (item.relation = .contradicts)
    if contradictions ≠ [] ∨ supports = [] then (.unresolvedRisk, 0)
    else (.clear, (supports.map supportScore).max?.getD 0)

/-- The classifications with an event code of the plan. -/
def allowed (plan : CatalystEvidencePlan) (classifications : List ClassificationFields) :
    List ClassificationFields :=
  classifications.filter fun item => decide (item.eventCode ∈ plan.allowedEventCodes)

/-- The catalyst of a validated bundle, given what the classifier says of its clusters. -/
def produce (plan : CatalystEvidencePlan) (clusters : List SourceCluster)
    (classifications : List ClassificationFields) :
    Except CatalystFailure (CatalystQuality × Int) :=
  match clusters with
  -- the classifier is not asked about a bundle without clusters
  | [] => .ok (.missing, 0)
  | _ :: _ => do
      validateClassifications plan clusters classifications
      return assessClassifications (allowed plan classifications)
/-! ## What validated classifications are -/

section

variable {plan : CatalystEvidencePlan} {clusters clusters' : List SourceCluster}
  {classifications classifications' : List ClassificationFields}

/-- The classification of a cluster that it fits. -/
def Classifies (plan : CatalystEvidencePlan) (clusters : List SourceCluster)
    (item : ClassificationFields) : Prop :=
  ∃ cluster, lastByKey SourceCluster.clusterId clusters item.clusterId = some cluster ∧
    FitsCluster plan item cluster

/-- The check of each classification passes when they classify clusters not seen before. -/
theorem validateEach_ok {seen result : List String} :
    validateEach plan clusters seen classifications = .ok result ↔
      (∀ item ∈ classifications, Classifies plan clusters item ∧ item.clusterId ∉ seen) ∧
      (classifications.map ClassificationFields.clusterId).Nodup ∧
      result = seen ++ classifications.map ClassificationFields.clusterId := by
  induction classifications generalizing seen with
  | nil =>
      simp only [validateEach, Except.ok.injEq, List.not_mem_nil, false_implies, implies_true,
        List.map_nil, List.nodup_nil, List.append_nil, true_and]
      exact eq_comm
  | cons item rest ih =>
      rw [validateEach, List.forall_mem_cons, List.map_cons, List.nodup_cons]
      cases hcluster : lastByKey SourceCluster.clusterId clusters item.clusterId with
      | none =>
          refine iff_of_false (by rintro ⟨⟩) ?_
          rintro ⟨⟨⟨⟨cluster, hfound, -⟩, -⟩, -⟩, -⟩
          rw [hcluster] at hfound
          cases hfound
      | some cluster =>
          have hfits : Classifies plan clusters item ↔ FitsCluster plan item cluster := by
            simp only [Classifies, hcluster, Option.some.injEq, exists_eq_left']
          dsimp only
          by_cases hwrong : item.clusterId ∈ seen ∨ ¬FitsCluster plan item cluster
          · rw [if_pos hwrong]
            refine iff_of_false (by rintro ⟨⟩) ?_
            rintro ⟨⟨⟨hclassifies, hfresh⟩, -⟩, -⟩
            exact hwrong.elim hfresh fun hnot => hnot (hfits.mp hclassifies)
          · rw [if_neg hwrong, ih]
            rw [not_or, not_not] at hwrong
            simp only [List.mem_append, List.mem_singleton, not_or, List.append_assoc,
              List.singleton_append, List.mem_map, not_exists, not_and]
            constructor
            · rintro ⟨hrest, hnodup, hresult⟩
              exact ⟨⟨⟨hfits.mpr hwrong.2, hwrong.1⟩, fun other hother =>
                ⟨(hrest other hother).1, (hrest other hother).2.1⟩⟩,
                ⟨fun other hother => (hrest other hother).2.2, hnodup⟩, hresult⟩
            · rintro ⟨⟨-, hrest⟩, ⟨hother, hnodup⟩, hresult⟩
              exact ⟨fun item hitem =>
                ⟨(hrest item hitem).1, (hrest item hitem).2, hother item hitem⟩, hnodup, hresult⟩

/-- Classifications are valid when they are those of the clusters, one for each. -/
def Validated (plan : CatalystEvidencePlan) (clusters : List SourceCluster)
    (classifications : List ClassificationFields) : Prop :=
  (∀ item ∈ classifications, Classifies plan clusters item) ∧
    (clusters.map SourceCluster.clusterId).Nodup ∧
    (classifications.map ClassificationFields.clusterId).Perm
      (clusters.map SourceCluster.clusterId)

/-- The validation passes exactly for the classifications of the clusters. -/
theorem validateClassifications_ok :
    validateClassifications plan clusters classifications = .ok () ↔
      Validated plan clusters classifications := by
  rw [validateClassifications, bind_ok]
  simp only [raiseIf_ok, bind_ok, decide_eq_false_iff_not, not_not, ne_eq, validateEach_ok,
    List.not_mem_nil, not_false_eq_true, and_true, List.nil_append]
  constructor
  · rintro ⟨-, hlength, seen, ⟨hfits, hnodup, rfl⟩, hsame⟩
    have hsubset : classifications.map ClassificationFields.clusterId ⊆
        clusters.map SourceCluster.clusterId := by
      intro id hid
      exact List.mem_toFinset.mp (hsame ▸ List.mem_toFinset.mpr hid)
    have hperm := (List.subperm_of_subset hnodup hsubset).perm_of_length_le (by simp [hlength])
    exact ⟨hfits, hperm.nodup_iff.mp hnodup, hperm⟩
  · rintro ⟨hfits, hnodup, hperm⟩
    exact ⟨(), by simpa using hperm.length_eq, _, ⟨hfits, hperm.nodup_iff.mpr hnodup, rfl⟩,
      List.toFinset_eq_of_perm _ _ hperm⟩

/-- The order of clusters and of classifications does not matter for their validity. -/
theorem Validated.perm (h : Validated plan clusters classifications)
    (hclusters : clusters.Perm clusters') (hperm : classifications.Perm classifications') :
    Validated plan clusters' classifications' := by
  obtain ⟨hfits, hnodup, hids⟩ := h
  refine ⟨fun item hitem => ?_, (hclusters.map _).nodup_iff.mp hnodup,
    ((hperm.map _).symm.trans hids).trans (hclusters.map _)⟩
  obtain ⟨cluster, hcluster, hfit⟩ := hfits item (hperm.mem_iff.mpr hitem)
  exact ⟨cluster, lastByKey_eq_of_perm hnodup hclusters _ ▸ hcluster, hfit⟩

/-- Validations of the same clusters and classifications in other orders have one result. -/
theorem validateClassifications_perm (hclusters : clusters.Perm clusters')
    (hperm : classifications.Perm classifications') :
    validateClassifications plan clusters classifications =
      validateClassifications plan clusters' classifications' := by
  have hiff : validateClassifications plan clusters classifications = .ok () ↔
      validateClassifications plan clusters' classifications' = .ok () := by
    rw [validateClassifications_ok, validateClassifications_ok]
    exact ⟨fun h => h.perm hclusters hperm, fun h => h.perm hclusters.symm hperm.symm⟩
  generalize validateClassifications plan clusters classifications = result at hiff ⊢
  generalize validateClassifications plan clusters' classifications' = result' at hiff ⊢
  cases result with
  | ok => exact (hiff.mp rfl).symm
  | error failure =>
      cases result' with
      | ok => exact hiff.mpr rfl
      | error failure' =>
          cases failure
          cases failure'
          rfl

end

/-! ## What an assessment says -/

section

variable {items items' : List ClassificationFields}

/-- Some invalidations are authoritative: one by a primary source, or two original reports of
different groups. -/
def Authoritative (items : List ClassificationFields) : Prop :=
  (∃ item ∈ items, item.invalidates = true ∧ item.sourceTier = .primary) ∨
    ∃ first ∈ items, ∃ second ∈ items, ∃ group other, group ≠ other ∧
      (first.invalidates = true ∧ first.sourceTier = .originalReporting ∧
        first.independentReportingGroup = some group) ∧
      second.invalidates = true ∧ second.sourceTier = .originalReporting ∧
        second.independentReportingGroup = some other

theorem mem_reportingGroups {group : String} :
    group ∈ reportingGroups items ↔ ∃ item ∈ items, item.sourceTier = .originalReporting ∧
      item.independentReportingGroup = some group := by
  simp only [reportingGroups, List.mem_toFinset, List.mem_filterMap, Option.ite_none_right_eq_some]

/-- The first rule of an assessment looks for authoritative invalidations. -/
theorem authoritative_iff :
    (((items.filter (·.invalidates)).any fun item => decide (item.sourceTier = .primary)) = true ∨
      2 ≤ (reportingGroups (items.filter (·.invalidates))).card) ↔ Authoritative items := by
  refine or_congr ?_ ?_
  · simp only [List.any_eq_true, List.mem_filter, decide_eq_true_eq, and_assoc]
  · rw [Nat.succ_le_iff, Finset.one_lt_card]
    simp only [mem_reportingGroups, List.mem_filter]
    constructor
    · rintro ⟨group, ⟨first, ⟨hfirst, hinvalid⟩, htier, hgroup⟩, other,
        ⟨second, ⟨hsecond, hinvalid'⟩, htier', hother⟩, hne⟩
      exact ⟨first, hfirst, second, hsecond, group, other, hne, ⟨hinvalid, htier, hgroup⟩,
        hinvalid', htier', hother⟩
    · rintro ⟨first, hfirst, second, hsecond, group, other, hne, ⟨hinvalid, htier, hgroup⟩,
        hinvalid', htier', hother⟩
      exact ⟨group, ⟨first, ⟨hfirst, hinvalid⟩, htier, hgroup⟩, other,
        ⟨second, ⟨hsecond, hinvalid'⟩, htier', hother⟩, hne⟩

theorem assess_authoritative (h : Authoritative items) :
    assessClassifications items = (.authoritativeContradiction, 0) := by
  rw [assessClassifications]
  exact if_pos (authoritative_iff.mpr h)

/-- An assessment is clear when some qualifying classification supports, none contradicts and no
invalidation is authoritative. -/
theorem assess_clear : (assessClassifications items).1 = .clear ↔ ¬Authoritative items ∧
    (∀ item ∈ items, Qualifies item → item.relation ≠ .contradicts) ∧
    ∃ item ∈ items, Qualifies item ∧ item.relation = .supports := by
  rw [assessClassifications]
  dsimp only
  rw [← authoritative_iff]
  split
  · rename_i hauthoritative
    exact iff_of_false (by rintro ⟨⟩) fun h => h.1 hauthoritative
  · rename_i hnot
    simp only [hnot, not_false_eq_true, true_and]
    have hnone : ((items.filter fun item => decide (Qualifies item)).filter fun item =>
        decide (item.relation = .contradicts)) = [] ↔
        ∀ item ∈ items, Qualifies item → item.relation ≠ .contradicts := by
      simp only [List.filter_eq_nil_iff, List.mem_filter, decide_eq_true_eq, and_imp, ne_eq]
    have hsome : ((items.filter fun item => decide (Qualifies item)).filter fun item =>
        decide (item.relation = .supports)) ≠ [] ↔
        ∃ item ∈ items, Qualifies item ∧ item.relation = .supports := by
      simp only [ne_eq, List.filter_eq_nil_iff, List.mem_filter, decide_eq_true_eq, and_imp,
        not_forall, not_not, exists_prop]
    rw [← hnone, ← hsome]
    split
    · rename_i hrisk
      exact iff_of_false (by rintro ⟨⟩) fun h => hrisk.elim (fun hsome => hsome h.1) h.2
    · rename_i hclear
      rw [not_or, not_not] at hclear
      exact iff_of_true rfl hclear

/-- The greatest element of a list does not depend on its order. -/
theorem max?_perm {scores scores' : List Int} (h : scores.Perm scores') :
    scores.max? = scores'.max? := by
  cases hmax : scores.max? with
  | none =>
      rw [List.max?_eq_none_iff] at hmax
      rw [(h.symm.trans (by rw [hmax])).eq_nil]
      rfl
  | some greatest =>
      rw [List.max?_eq_some_iff] at hmax
      rw [eq_comm, List.max?_eq_some_iff]
      exact ⟨h.mem_iff.mp hmax.1, fun other hother => hmax.2 other (h.mem_iff.mpr hother)⟩

/-- An assessment does not depend on the order of the classifications. -/
theorem assess_perm (h : items.Perm items') :
    assessClassifications items = assessClassifications items' := by
  have hgroups : reportingGroups (items.filter (·.invalidates)) =
      reportingGroups (items'.filter (·.invalidates)) :=
    List.toFinset_eq_of_perm _ _ ((h.filter _).filterMap _)
  have hnil : ∀ (p q : ClassificationFields → Bool),
      ((items.filter p).filter q = [] ↔ (items'.filter p).filter q = []) := fun p q =>
    ⟨fun hnil => (((h.filter p).filter q).symm.trans (by rw [hnil])).eq_nil,
      fun hnil => (((h.filter p).filter q).trans (by rw [hnil])).eq_nil⟩
  rw [assessClassifications, assessClassifications]
  dsimp only
  rw [(h.filter _).any_eq, hgroups]
  simp only [ne_eq, hnil]
  rw [max?_perm ((((h.filter _).filter _)).map _)]

/-- A product with a decimal between zero and one lies between zero and the other factor. -/
theorem mul_between {a b bound : Decimal} (ha : 0 ≤ a.value) (hbound : a.value ≤ bound.value)
    (hfits : bound.Fits) (hb : 0 ≤ b.value) (hone : b.value ≤ 1) :
    0 ≤ (a * b).value ∧ (a * b).value ≤ bound.value := by
  obtain ⟨exact, hvalue, hround⟩ := Decimal.value_mul a b
  have hle : exact.value ≤ bound.value := by
    rw [hvalue]
    exact (mul_le_of_le_one_right ha hone).trans hbound
  refine ⟨?_, hround ▸ Decimal.value_round_le hfits hle⟩
  rw [hround, Decimal.value_round_nonneg, hvalue]
  exact mul_nonneg ha hb

/-- The score of a valid classification is a percentage. -/
theorem supportScore_between {plan : CatalystEvidencePlan} {cluster : SourceCluster}
    {item : ClassificationFields} (h : FitsCluster plan item cluster) :
    0 ≤ supportScore item ∧ supportScore item ≤ 100 := by
  obtain ⟨-, -, -, -, ⟨hlow, hhigh⟩, ⟨hrelevance, hrelevant⟩, ⟨hconfidence, hconfident⟩, -⟩ := h
  rw [Decimal.le_iff_value, Decimal.value_ofInt, Int.cast_zero] at hrelevance hconfidence
  rw [Decimal.le_iff_value, Decimal.value_ofInt, Int.cast_one] at hrelevant hconfident
  have hone : (Decimal.ofInt 1).Fits := by norm_num [Decimal.Fits, Decimal.ofInt, Decimal.ofScaled,
    Decimal.precision]
  have hthirds : (Decimal.ofInt item.materiality).div (.ofInt 3) = some (thirds item) :=
    (Option.some_get _).symm
  have hlow' : (1 : ℚ) ≤ item.materiality := by exact_mod_cast hlow
  have hhigh' : (item.materiality : ℚ) ≤ 3 := by exact_mod_cast hhigh
  have hfirst : 0 ≤ (thirds item).value :=
    Decimal.value_div_nonneg hthirds (by rw [Decimal.value_ofInt]; linarith)
      (by rw [Decimal.value_ofInt]; norm_num)
  have hfirst' : (thirds item).value ≤ (Decimal.ofInt 1).value :=
    Decimal.value_div_le hthirds hone (by rw [Decimal.value_ofInt]; norm_num)
      (by simp only [Decimal.value_ofInt, Int.cast_one, Int.cast_ofNat, one_mul]; exact hhigh')
  -- each further factor lies between zero and one
  obtain ⟨hsecond, hsecond'⟩ := mul_between hfirst hfirst' hone hrelevance hrelevant
  obtain ⟨hthird, hthird'⟩ := mul_between hsecond hsecond' hone hconfidence hconfident
  have hweight : 0 ≤ (sourceWeight item.sourceTier).value ∧
      (sourceWeight item.sourceTier).value ≤ 1 := by
    cases item.sourceTier <;> norm_num [sourceWeight, Decimal.value, Decimal.significand]
  obtain ⟨hfourth, hfourth'⟩ := mul_between hthird hthird' hone hweight.1 hweight.2
  have hproduct : 0 ≤ (thirds item * item.relevance * item.confidence *
      sourceWeight item.sourceTier * .ofInt 100).value ∧
      (thirds item * item.relevance * item.confidence * sourceWeight item.sourceTier *
        .ofInt 100).value ≤ 100 := by
    obtain ⟨exact, hvalue, hround⟩ := Decimal.value_mul (thirds item * item.relevance *
      item.confidence * sourceWeight item.sourceTier) (.ofInt 100)
    rw [Decimal.value_ofInt, Int.cast_one] at hfourth'
    rw [Decimal.value_ofInt, Int.cast_ofNat] at hvalue
    rw [hround, Decimal.value_round_nonneg, hvalue]
    refine ⟨by linarith, ?_⟩
    have hle := @Decimal.value_round_le (.ofInt 100) exact (by
      norm_num [Decimal.Fits, Decimal.ofInt, Decimal.ofScaled, Decimal.precision]) (by
      rw [hvalue, Decimal.value_ofInt, Int.cast_ofNat]
      linarith)
    rwa [Decimal.value_ofInt, Int.cast_ofNat] at hle
  rw [supportScore]
  generalize thirds item * item.relevance * item.confidence * sourceWeight item.sourceTier *
    .ofInt 100 = product at hproduct ⊢
  have hscaled : 0 ≤ product.scaled (min product.exponent 0) := by
    have hvalue := Decimal.value_eq_scaled product (min_le_left product.exponent 0)
    have hpositive : (0 : ℚ) < (10 : ℚ) ^ min product.exponent 0 := zpow_pos (by norm_num) _
    rw [hvalue] at hproduct
    exact_mod_cast nonneg_of_mul_nonneg_left hproduct.1 hpositive
  rw [Int.tdiv_eq_ediv_of_nonneg hscaled]
  change 0 ≤ product.floorInt ∧ product.floorInt ≤ 100
  rw [Decimal.floorInt_eq]
  refine ⟨Int.floor_nonneg.mpr hproduct.1, ?_⟩
  have hfloor := (Int.floor_le product.value).trans hproduct.2
  exact_mod_cast hfloor

/-- The score of an assessment of valid classifications is a percentage, and zero unless the
assessment is clear. -/
theorem assess_score {plan : CatalystEvidencePlan} {clusters : List SourceCluster}
    (h : ∀ item ∈ items, Classifies plan clusters item) :
    (0 ≤ (assessClassifications items).2 ∧ (assessClassifications items).2 ≤ 100) ∧
      ((assessClassifications items).1 ≠ .clear → (assessClassifications items).2 = 0) := by
  rw [assessClassifications]
  dsimp only
  split
  · exact ⟨by decide, fun _ => rfl⟩
  · split
    · exact ⟨by decide, fun _ => rfl⟩
    · refine ⟨?_, fun hnot => absurd rfl hnot⟩
      dsimp only
      generalize hscores : (((items.filter _).filter _).map supportScore).max? = greatest
      cases greatest with
      | none => decide
      | some score =>
          obtain ⟨item, hitem, rfl⟩ := List.mem_map.mp (List.max?_mem hscores)
          obtain ⟨cluster, -, hfits⟩ :=
            h item (List.mem_filter.mp (List.mem_filter.mp hitem).1).1
          exact supportScore_between hfits

end

/-! ## Results -/

section

variable {plan : CatalystEvidencePlan} {clusters : List SourceCluster}
  {classifications : List ClassificationFields}

/-- The order of clusters and of classifications does not matter for a catalyst. -/
theorem produce_perm {clusters' : List SourceCluster}
    {classifications' : List ClassificationFields} (hclusters : clusters.Perm clusters')
    (hperm : classifications.Perm classifications') :
    produce plan clusters classifications = produce plan clusters' classifications' := by
  cases clusters with
  | nil =>
      rw [hclusters.symm.eq_nil]
      rfl
  | cons cluster rest =>
      cases clusters' with
      | nil => cases hclusters.eq_nil
      | cons cluster' rest' =>
          rw [produce, produce, validateClassifications_perm hclusters hperm, allowed, allowed,
            assess_perm (hperm.filter _)]

/-- The catalyst of classifications that were validated. -/
theorem produce_validated (h : validateClassifications plan clusters classifications = .ok ()) :
    (clusters = [] ∧ classifications = [] ∧
      produce plan clusters classifications = .ok (.missing, 0)) ∨
    (clusters ≠ [] ∧ produce plan clusters classifications =
      .ok (assessClassifications (allowed plan classifications))) := by
  cases clusters with
  | nil =>
      have hperm := (validateClassifications_ok.mp h).2.2
      rw [List.map_nil] at hperm
      exact .inl ⟨rfl, List.map_eq_nil_iff.mp hperm.eq_nil, rfl⟩
  | cons cluster rest =>
      refine .inr ⟨List.cons_ne_nil _ _, ?_⟩
      rw [produce, h]
      rfl

/-- The quality and the score of a catalyst do not depend on the order of the clusters. The score is
a percentage, and zero unless the quality is clear. Another cluster that a qualifying classification
contradicts does not make a catalyst clear that was not, and a catalyst that looks at it is not
clear. Authoritative invalidations with event codes of the plan decide the quality. -/
theorem catalyst_cautious (plan : CatalystEvidencePlan)
    (clusters clusters' : List SourceCluster)
    (classifications classifications' : List ClassificationFields) :
    (clusters.Perm clusters' → classifications.Perm classifications' →
      produce plan clusters classifications = produce plan clusters' classifications') ∧
    (validateClassifications plan clusters classifications = .ok () →
      ∃ quality score, produce plan clusters classifications = .ok (quality, score) ∧
        (0 ≤ score ∧ score ≤ 100) ∧ (quality ≠ .clear → score = 0)) ∧
    (∀ cluster item, clusters'.Perm (cluster :: clusters) →
      classifications'.Perm (item :: classifications) →
      item.relation = .contradicts → Qualifies item →
      validateClassifications plan clusters classifications = .ok () →
      validateClassifications plan clusters' classifications' = .ok () →
      ∃ before after, produce plan clusters classifications = .ok before ∧
        produce plan clusters' classifications' = .ok after ∧
        (before.1 ≠ .clear → after.1 ≠ .clear) ∧
        (item.eventCode ∈ plan.allowedEventCodes → after.1 ≠ .clear)) ∧
    (validateClassifications plan clusters classifications = .ok () →
      Authoritative (allowed plan classifications) →
      produce plan clusters classifications = .ok (.authoritativeContradiction, 0)) := by
  refine ⟨produce_perm, fun hvalid => ?_,
    fun cluster item hclusters hperm hrelation hqualifies hvalid hvalid' => ?_,
    fun hvalid hauthoritative => ?_⟩
  · rcases produce_validated hvalid with ⟨-, -, hproduce⟩ | ⟨-, hproduce⟩
    · exact ⟨_, _, hproduce, by decide, fun _ => rfl⟩
    · obtain ⟨hfits, -, -⟩ := validateClassifications_ok.mp hvalid
      exact ⟨_, _, hproduce, assess_score fun item hitem => hfits item (List.mem_filter.mp hitem).1⟩
  · rcases produce_validated hvalid' with ⟨rfl, -, -⟩ | ⟨-, hproduce'⟩
    · exact absurd hclusters.nil_eq (List.cons_ne_nil _ _).symm
    · have hallowed : (allowed plan classifications').Perm
          (allowed plan (item :: classifications)) := hperm.filter _
      have hnotclear : item.eventCode ∈ plan.allowedEventCodes →
          (assessClassifications (allowed plan classifications')).1 ≠ .clear := by
        intro hcode hclear
        have hmem : item ∈ allowed plan classifications' := hallowed.mem_iff.mpr
          (List.mem_filter.mpr ⟨List.mem_cons_self, decide_eq_true hcode⟩)
        exact (assess_clear.mp hclear).2.1 item hmem hqualifies hrelation
      rcases produce_validated hvalid with ⟨-, rfl, hproduce⟩ | ⟨-, hproduce⟩
      · refine ⟨_, _, hproduce, hproduce', fun _ hclear => ?_, hnotclear⟩
        -- nothing else supports
        obtain ⟨-, -, other, hother, -, hsupports⟩ := assess_clear.mp hclear
        have hmem := List.mem_singleton.mp (List.mem_filter.mp (hallowed.mem_iff.mp hother)).1
        rw [hmem, hrelation] at hsupports
        cases hsupports
      · refine ⟨_, _, hproduce, hproduce', fun hbefore => ?_, hnotclear⟩
        by_cases hcode : item.eventCode ∈ plan.allowedEventCodes
        · exact hnotclear hcode
        · have hsame : allowed plan (item :: classifications) = allowed plan classifications :=
            List.filter_cons_of_neg (by simpa using hcode)
          rwa [assess_perm hallowed, hsame]
  · rcases produce_validated hvalid with ⟨-, rfl, -⟩ | ⟨-, hproduce⟩
    · rcases hauthoritative with ⟨item, hitem, -⟩ | ⟨item, hitem, -⟩
      · cases hitem
      · cases hitem
    · rw [hproduce, assess_authoritative hauthoritative]

end

section Rehearsed

/-- A plan for the results and the guidance of an issuer. -/
def issuerPlan : CatalystEvidencePlan where
  allowedEventCodes := ["RESULTS", "GUIDANCE"]
  invalidationCodes := ["GUIDANCE_REVERSED"]

def issuerCluster (id source : String) : SourceCluster where
  clusterId := id
  sourceIds := [source]
  sourceTier := .primary
  independentReportingGroup := none

/-- The results support the thesis. -/
def results : ClassificationFields where
  clusterId := "news:issuer-results"
  sourceIds := ["issuer-results"]
  eventCode := "RESULTS"
  relation := .supports
  materiality := 3
  relevance := ⟨false, 9, -1⟩
  confidence := ⟨false, 8, -1⟩
  sourceTier := .primary
  invalidates := false
  independentReportingGroup := none
  invalidationConditionId := none

/-- The guidance is reversed, which the plan names as an invalidation. -/
def reversal : ClassificationFields where
  clusterId := "news:issuer-guidance"
  sourceIds := ["issuer-guidance"]
  eventCode := "GUIDANCE"
  relation := .contradicts
  materiality := 3
  relevance := ⟨false, 9, -1⟩
  confidence := ⟨false, 8, -1⟩
  sourceTier := .primary
  invalidates := true
  independentReportingGroup := none
  invalidationConditionId := some "GUIDANCE_REVERSED"

/-- In the rehearsal a reversal of the guidance turns a clear catalyst into a contradiction. -/
theorem catalyst_cautious_rehearsed : ∃ before,
    produce issuerPlan [issuerCluster "news:issuer-results" "issuer-results"] [results] =
      .ok before ∧ before.1 = .clear ∧
    produce issuerPlan [issuerCluster "news:issuer-guidance" "issuer-guidance",
      issuerCluster "news:issuer-results" "issuer-results"] [reversal, results] =
      .ok (.authoritativeContradiction, 0) := by
  obtain ⟨before, -, hbefore, -⟩ := (catalyst_cautious issuerPlan
    [issuerCluster "news:issuer-results" "issuer-results"]
    [issuerCluster "news:issuer-guidance" "issuer-guidance",
      issuerCluster "news:issuer-results" "issuer-results"] [results] [reversal, results]).2.2.1
    _ _ (List.Perm.refl _) (List.Perm.refl _) rfl (by decide) rfl rfl
  have hauthoritative := (catalyst_cautious issuerPlan
    [issuerCluster "news:issuer-guidance" "issuer-guidance",
      issuerCluster "news:issuer-results" "issuer-results"] [] [reversal, results] []).2.2.2
  refine ⟨before, hbefore, ?_, hauthoritative rfl (.inl ⟨reversal, List.mem_cons_self, rfl, rfl⟩)⟩
  have hclear : produce issuerPlan [issuerCluster "news:issuer-results" "issuer-results"]
      [results] = .ok (.clear, 72) := rfl
  rw [hbefore] at hclear
  cases hclear
  rfl

/-- A plan that allows results only drops a reversal that is validated, and the catalyst is
clear. -/
theorem catalyst_drops_invalidation : ∃ plan clusters classifications,
    validateClassifications plan clusters classifications = .ok () ∧
    (∃ item ∈ classifications, item.invalidates = true ∧ item.sourceTier = .primary) ∧
    produce plan clusters classifications = .ok (.clear, 72) :=
  ⟨{ issuerPlan with allowedEventCodes := ["RESULTS"] },
    [issuerCluster "news:issuer-guidance" "issuer-guidance",
      issuerCluster "news:issuer-results" "issuer-results"], [reversal, results], rfl,
    ⟨reversal, List.mem_cons_self, rfl, rfl⟩, rfl⟩

end Rehearsed

end AlphaDecay.Catalyst
