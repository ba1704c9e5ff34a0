import AlphaDecay.Foundation.Transition
import AlphaDecay.Services.FrozenPlan

/-!
# The versions of frozen plans

Whatever plans are frozen, one after the other, the plans of a key on an account have the versions
from one on, each frozen after the one before it, and freezing a plan again gives its record.
-/

namespace AlphaDecay.OpportunityPlan

open Foundation

variable {spec : OpportunityPlanSpec} {rows after later plans : List PlanRow} {row : PlanRow}

/-- The plans of a key on an account, in the order in which they were frozen. -/
def plansOf (key : String) (role : AccountRole) (rows : List PlanRow) : List PlanRow :=
  rows.filter fun row => row.opportunityKey == key && row.accountRole == role

/-- The plan on record with the key, the account and the version of a plan. -/
def onRecord (spec : OpportunityPlanSpec) (rows : List PlanRow) : Option PlanRow :=
  Table.lookup (·.version) spec.version (plansOf spec.opportunityKey spec.accountRole rows)

/-- Plans have the versions from one on, and each is frozen after the ones before it. -/
structure Versioned (plans : List PlanRow) : Prop where
  versions : plans.map (·.version) = (List.range plans.length).map fun n : Nat => (n : Int) + 1
  frozenAt : plans.Pairwise fun left right => left.frozenAt < right.frozenAt

theorem Versioned.increasing (h : Versioned plans) :
    plans.Pairwise fun left right => left.version < right.version := by
  have hversions : (plans.map (·.version)).Pairwise (· < ·) := by
    rw [h.versions, List.pairwise_map]
    exact List.pairwise_lt_range.imp fun hlt => by omega
  exact List.pairwise_map.mp hversions

/-- A plan that follows the latest one has the next version, and is frozen after all others. -/
theorem Versioned.next (h : Versioned plans) (hfollows : followsLatest spec plans.getLast? = true) :
    spec.version = plans.length + 1 ∧ ∀ old ∈ plans, old.frozenAt < spec.frozenAt := by
  rcases List.eq_nil_or_concat' plans with rfl | ⟨before, last, rfl⟩
  · exact ⟨beq_iff_eq.mp hfollows, fun row hrow => absurd hrow List.not_mem_nil⟩
  · rw [List.getLast?_concat] at hfollows
    simp only [followsLatest, Bool.and_eq_true, beq_iff_eq, decide_eq_true_eq] at hfollows
    have hlast : last.version = before.length + 1 := by
      have hends := congrArg List.getLast? h.versions
      simpa [List.range_succ] using hends
    refine ⟨by rw [hfollows.1, hlast]; simp, fun old hold => ?_⟩
    -- The latest plan was frozen after the others, and the new one after it.
    rcases List.mem_append.mp hold with hbefore | hlast
    · have hlt := (List.pairwise_append.mp h.frozenAt).2.2 old hbefore last List.mem_cons_self
      omega
    · exact List.mem_singleton.mp hlast ▸ hfollows.2

theorem Versioned.concat (h : Versioned plans) (hfollows : followsLatest spec
      (Table.orderBy (fun row : PlanRow => row.version) plans).getLast? = true)
    (hversion : row.version = spec.version) (hfrozen : row.frozenAt = spec.frozenAt) :
    Versioned (plans ++ [row]) := by
  rw [Table.orderBy_eq_self (h.increasing.imp le_of_lt)] at hfollows
  obtain ⟨hnext, hlater⟩ := h.next hfollows
  constructor
  · simp [List.range_succ, h.versions, hversion, hnext]
  · refine List.pairwise_append.mpr ⟨h.frozenAt, List.pairwise_singleton _ _, ?_⟩
    intro old hold fresh hfresh
    rw [List.mem_singleton.mp hfresh, hfrozen]
    exact hlater old hold

section Runs

variable [Digest] {accounts : AccountRole → Option String} {persisted : PersistedOpportunityPlan}

/-- What freezing a plan checks before it looks for its record. -/
def Admits (accounts : AccountRole → Option String) (spec : OpportunityPlanSpec) : Prop :=
  planMaterial spec = .ok spec.document ∧ ∃ fingerprint,
    accounts spec.accountRole = some fingerprint ∧ isHash fingerprint = true ∧
      spec.requestContract.expectedAccountFingerprint = fingerprint

/-- A plan is on record, or it is added after the latest one of its key and account. -/
inductive Freezes (spec : OpportunityPlanSpec) (rows : List PlanRow) :
    List PlanRow → PersistedOpportunityPlan → Prop
  | again {row : PlanRow} (found : onRecord spec rows = some row)
      (same : row.same (spec.row spec.document) = true) :
      Freezes spec rows rows row.toPersistedOpportunityPlan
  | added (absent : onRecord spec rows = none)
      (follows : followsLatest spec (Table.orderBy (fun row : PlanRow => row.version)
        (plansOf spec.opportunityKey spec.accountRole rows)).getLast? = true)
      (fresh : rows.any (fun row => row.planHash == (spec.row spec.document).planHash) = false) :
      Freezes spec rows (rows ++ [spec.row spec.document])
        (spec.row spec.document).toPersistedOpportunityPlan

theorem freezePlan_iff : freezePlan accounts rows spec = .ok (after, persisted) ↔
    Admits accounts spec ∧ Freezes spec rows after persisted := by
  unfold freezePlan
  constructor
  · intro h
    obtain ⟨material, hmaterial, h⟩ := bind_ok.mp h
    obtain rfl : spec.document = material := by
      simp only [planMaterial, check_bind_ok] at hmaterial
      exact Except.ok.inj hmaterial.2.2.2.2
    simp only [require_bind_ok, check_bind_ok, raiseIf_ok, Bool.not_eq_false', bne_eq_false_iff_eq]
      at h
    obtain ⟨fingerprint, haccount, hhash, hexpected, h⟩ := h
    refine ⟨⟨hmaterial, fingerprint, haccount, hhash, hexpected⟩, ?_⟩
    split at h
    · rename_i existing hexisting
      simp only [check_bind_ok, raiseIf_ok, Bool.not_eq_false'] at h
      obtain ⟨hsame, h⟩ := h
      cases h
      exact .again hexisting hsame
    · rename_i habsent
      simp only [check_bind_ok, raiseIf_ok, Bool.not_eq_false'] at h
      obtain ⟨hfollows, hfresh, h⟩ := h
      cases h
      exact .added habsent hfollows hfresh
  · intro h
    obtain ⟨⟨hmaterial, fingerprint, haccount, hhash, hexpected⟩, h⟩ := h
    refine bind_ok.mpr ⟨_, hmaterial, ?_⟩
    simp only [require_bind_ok, check_bind_ok, raiseIf_ok, Bool.not_eq_false', bne_eq_false_iff_eq]
    refine ⟨fingerprint, haccount, hhash, hexpected, ?_⟩
    cases h with
    | again found same =>
        unfold onRecord plansOf Table.lookup at found
        simp only [beq_eq_decide] at found ⊢
        simp only [found, same, Bool.not_true, raiseIf_ok, check_bind_ok]
        exact ⟨trivial, rfl⟩
    | added absent follows fresh =>
        unfold onRecord plansOf Table.lookup at absent
        unfold plansOf at follows
        simp only [beq_eq_decide] at absent follows fresh ⊢
        simp only [absent, follows, fresh, Bool.not_true, raiseIf_ok, check_bind_ok]
        exact ⟨trivial, trivial, rfl⟩

/-- The plans on record stay, and each key of an account keeps its versions. -/
theorem Freezes.versioned (h : Freezes spec rows after persisted) :
    rows ⊆ after ∧ ∀ key role, Versioned (plansOf key role rows) →
      Versioned (plansOf key role after) := by
  cases h with
  | again => exact ⟨List.Subset.refl _, fun key role hversioned => hversioned⟩
  | added absent follows =>
      refine ⟨List.subset_append_left _ _, fun key role hversioned => ?_⟩
      unfold plansOf at hversioned ⊢
      rw [List.filter_append, List.filter_singleton]
      cases hof : (spec.row spec.document).opportunityKey == key &&
          (spec.row spec.document).accountRole == role with
      | true =>
          obtain ⟨rfl, rfl⟩ : spec.opportunityKey = key ∧ spec.accountRole = role := by
            simpa [OpportunityPlanSpec.row] using hof
          exact hversioned.concat follows rfl rfl
      | false => simpa using hversioned

/-- A plan that was frozen has its record, which is what was returned. -/
theorem Freezes.recorded (h : Freezes spec rows after persisted) :
    ∃ row ∈ after, (row.opportunityKey == spec.opportunityKey &&
      row.accountRole == spec.accountRole) = true ∧ row.version = spec.version ∧
      row.same (spec.row spec.document) = true ∧ persisted = row.toPersistedOpportunityPlan := by
  cases h with
  | again found same =>
      obtain ⟨hmem, hversion⟩ := Table.lookup_some found
      obtain ⟨hrow, hof⟩ := List.mem_filter.mp hmem
      exact ⟨_, hrow, hof, hversion, same, rfl⟩
  | added =>
      exact ⟨_, List.mem_concat_self, by simp [OpportunityPlanSpec.row], rfl,
        by simp [PlanRow.same], rfl⟩

/-- Plans are frozen one after the other, while accounts come and go. -/
def frozenPlans : System (List PlanRow) OpportunityPlanSpec where
  initial rows := rows = []
  step rows spec after :=
    ∃ accounts persisted, freezePlan accounts rows spec = .ok (after, persisted)

/-- In every run the plans of a key on an account have the versions from one on, each frozen after
the ones before it, and a plan that was frozen is frozen again after any run from there: it has the
record that it got, and nothing changes. -/
theorem frozenPlans_versioned (hreach : frozenPlans.Reachable rows)
    (hfrozen : freezePlan accounts rows spec = .ok (after, persisted))
    {specs : List OpportunityPlanSpec} (hrun : frozenPlans.Run after specs later) :
    (∀ key role, Versioned (plansOf key role later)) ∧
      freezePlan accounts later spec = .ok (later, persisted) := by
  have hversioned : ∀ key role, Versioned (plansOf key role later) := by
    refine ((hreach.run (.single ⟨accounts, persisted, hfrozen⟩)).run hrun).invariant
      (P := fun rows => ∀ key role, Versioned (plansOf key role rows)) ?_ ?_
    · intro rows hempty key role
      rw [show rows = [] from hempty]
      exact ⟨rfl, List.Pairwise.nil⟩
    · intro rows spec after hrows hstep key role
      obtain ⟨accounts, persisted, hstep⟩ := hstep
      exact (freezePlan_iff.mp hstep).2.versioned.2 key role (hrows key role)
  have hkept : after ⊆ later := by
    refine hrun.preserves (P := fun rows => after ⊆ rows) ?_ (List.Subset.refl after)
    intro state spec next hstate hstep
    obtain ⟨accounts, persisted, hstep⟩ := hstep
    exact List.Subset.trans hstate (freezePlan_iff.mp hstep).2.versioned.1
  obtain ⟨hadmits, hfreezes⟩ := freezePlan_iff.mp hfrozen
  obtain ⟨row, hrow, hof, hversion, hsame, rfl⟩ := hfreezes.recorded
  have hunique : Table.Unique (fun row : PlanRow => some row.version)
      (plansOf spec.opportunityKey spec.accountRole later) :=
    (hversioned _ _).increasing.imp fun hlt => .inr (by simpa using hlt.ne)
  have hfound : onRecord spec later = some row := by
    rw [onRecord, ← hversion]
    exact Table.lookup_of_mem hunique (List.mem_filter.mpr ⟨hkept hrow, hof⟩)
  exact ⟨hversioned, freezePlan_iff.mpr ⟨hadmits, .again hfound hsame⟩⟩

end Runs

section Rehearsed

attribute [local instance] Policy.zeroDigest

/-- In the rehearsal a plan is frozen, and frozen again with the record it got. -/
theorem frozenPlans_versioned_rehearsed : ∃ after persisted,
    freezePlan rehearsedAccounts [] (rehearsedPlan 99) = .ok (after, persisted) ∧
      freezePlan rehearsedAccounts after (rehearsedPlan 99) = .ok (after, persisted) := by
  obtain ⟨after, persisted, h⟩ := @rehearsedPlan_frozen 99 (by decide +kernel)
  exact ⟨after, persisted, h, (frozenPlans_versioned (.of_initial rfl) h (.refl _)).2⟩

end Rehearsed

end AlphaDecay.OpportunityPlan
