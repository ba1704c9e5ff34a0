import AlphaDecay.StrategyBriefs.Observations

/-!
# What rules say

A rule says something of the numbers of metrics and of the facts: `RuleMatches` says what, in terms
of the values of the numbers. Matching a rule finds whether it is true of the observations:
`ruleMatches_iff`. A rule does not depend on what it does not read: `ruleMatches_congr`.
-/

namespace AlphaDecay.StrategyBriefs

open Foundation

/-! ## The meaning of rules -/

/-- What a comparison says of two numbers. -/
def ComparisonOperator.Compares : ComparisonOperator → ℚ → ℚ → Prop
  | lessThan, left, right => left < right
  | lessThanOrEqual, left, right => left ≤ right
  | equal, left, right => left = right
  | greaterThanOrEqual, left, right => right ≤ left
  | greaterThan, left, right => right < left

section Meaning

variable (numbers : ProtocolMetric → Option Decimal) (facts : ProtocolFact → Option Bool)

def OperandIs : ProtocolOperand Decimal → ℚ → Prop
  | .metric read, value => ∃ d ∈ numbers read, d.value = value
  | .constant amount, value => amount.value = value

/-- A predicate is true of numbers and facts. -/
def PredicateMatches : ProtocolPredicate Decimal → Prop
  | .numeric left operator right => ∃ leftValue rightValue,
      OperandIs numbers (.metric left) leftValue ∧ OperandIs numbers right rightValue ∧
        operator.Compares leftValue rightValue
  | .fact read expected => facts read = some expected

/-- A rule is true of numbers and facts: all of its predicates are, or one of them is. -/
def RuleMatches (rule : CompiledMachineRule Decimal) : Prop :=
  match rule.mode with
  | .all => ∀ predicate ∈ rule.predicates, PredicateMatches numbers facts predicate
  | .any => ∃ predicate ∈ rule.predicates, PredicateMatches numbers facts predicate

end Meaning

def CompiledMachineRule.metrics (rule : CompiledMachineRule Decimal) : List ProtocolMetric :=
  rule.predicates.flatMap ProtocolPredicate.metrics

def CompiledMachineRule.facts (rule : CompiledMachineRule Decimal) : List ProtocolFact :=
  rule.predicates.flatMap ProtocolPredicate.facts

/-! ## Rules depend on what they read -/

section

variable {numbers numbers' : ProtocolMetric → Option Decimal}
  {facts facts' : ProtocolFact → Option Bool}

/-- A predicate does not depend on what it does not read. -/
theorem predicateMatches_congr {predicate : ProtocolPredicate Decimal}
    (hnumbers : ∀ read ∈ predicate.metrics, numbers read = numbers' read)
    (hfacts : ∀ read ∈ predicate.facts, facts read = facts' read) :
    PredicateMatches numbers facts predicate ↔ PredicateMatches numbers' facts' predicate := by
  cases predicate with
  | numeric left operator right =>
      cases right with
      | metric right =>
          have hleft := hnumbers left (by simp [ProtocolPredicate.metrics])
          have hright := hnumbers right (by simp [ProtocolPredicate.metrics])
          simp only [PredicateMatches, OperandIs, hleft, hright]
      | constant amount =>
          have hleft := hnumbers left (by simp [ProtocolPredicate.metrics])
          simp only [PredicateMatches, OperandIs, hleft]
  | fact read expected =>
      have hread := hfacts read (by simp [ProtocolPredicate.facts])
      simp only [PredicateMatches, hread]

/-- A rule does not depend on what it does not read. -/
theorem ruleMatches_congr {rule : CompiledMachineRule Decimal}
    (hnumbers : ∀ read ∈ rule.metrics, numbers read = numbers' read)
    (hfacts : ∀ read ∈ rule.facts, facts read = facts' read) :
    RuleMatches numbers facts rule ↔ RuleMatches numbers' facts' rule := by
  have hpredicate : ∀ predicate ∈ rule.predicates,
      (PredicateMatches numbers facts predicate ↔ PredicateMatches numbers' facts' predicate) :=
    fun predicate hmem => predicateMatches_congr
      (fun read hread => hnumbers read (List.mem_flatMap.mpr ⟨predicate, hmem, hread⟩))
      fun read hread => hfacts read (List.mem_flatMap.mpr ⟨predicate, hmem, hread⟩)
  unfold RuleMatches
  cases rule.mode with
  | all => exact forall₂_congr hpredicate
  | any =>
      constructor
      · rintro ⟨predicate, hmem, hmatch⟩
        exact ⟨predicate, hmem, (hpredicate predicate hmem).mp hmatch⟩
      · rintro ⟨predicate, hmem, hmatch⟩
        exact ⟨predicate, hmem, (hpredicate predicate hmem).mpr hmatch⟩

end

/-! ## Matching finds the meaning -/

/-- A list is computed item by item exactly when each result is that of its item. -/
theorem mapM_eq_some {α β : Type} {f : α → Option β} {items : List α} {results : List β} :
    items.mapM f = some results ↔ List.Forall₂ (fun item result => f item = some result) items
      results := by
  induction items generalizing results with
  | nil => cases results <;> simp [List.mapM_nil]
  | cons item items ih =>
      rw [List.mapM_cons]
      cases hitem : f item with
      | none => cases results <;> simp [hitem]
      | some result =>
          cases hrest : items.mapM f with
          | none =>
              cases results with
              | nil => simp
              | cons other rest =>
                  have hnot := mt ih.mpr (by simp [hrest] : ¬ items.mapM f = some rest)
                  simp [hnot]
          | some rest =>
              cases results with
              | nil => simp
              | cons other others => simp [hitem, ← ih, hrest]

/-- A list whose items all have a result is computed. -/
theorem exists_mapM {α β : Type} {f : α → Option β} {items : List α}
    (h : ∀ item ∈ items, (f item).isSome = true) : ∃ results, items.mapM f = some results := by
  induction items with
  | nil => exact ⟨[], rfl⟩
  | cons item items ih =>
      rw [List.forall_mem_cons] at h
      obtain ⟨result, hresult⟩ := Option.isSome_iff_exists.mp h.1
      obtain ⟨results, hresults⟩ := ih h.2
      exact ⟨result :: results, by rw [List.mapM_cons, hresult, hresults]; rfl⟩

theorem holds_iff {operator : ComparisonOperator} {left right : Decimal} :
    operator.holds left right = true ↔ operator.Compares left.value right.value := by
  cases operator <;>
    simp [ComparisonOperator.holds, ComparisonOperator.Compares, Decimal.lt_iff_value,
      Decimal.le_iff_value, Decimal.beq_iff_value]

variable {observations : ProtocolObservationSet}

variable {rule : CompiledMachineRule Decimal}

/-- An operand that was observed has the value of its number. -/
theorem operandIs_iff {operand : ProtocolOperand Decimal} {d : Decimal}
    (h : operandValue observations operand = some d) (value : ℚ) :
    OperandIs observations.numericValues.get operand value ↔ d.value = value := by
  cases operand with
  | metric read =>
      have hget : observations.numericValues.get read = some d := h
      simp [OperandIs, hget]
  | constant amount =>
      obtain rfl := Option.some.inj h
      exact Iff.rfl

/-- A predicate is found to match exactly when it is true of the observations. -/
theorem predicateMatches_iff {predicate : ProtocolPredicate Decimal} {result : Bool}
    (h : predicateMatches observations predicate = some result) :
    result = true ↔
      PredicateMatches observations.numericValues.get observations.facts.get predicate := by
  cases predicate with
  | numeric left operator right =>
      simp only [predicateMatches, Option.bind_eq_some_iff, Option.map_eq_some_iff] at h
      obtain ⟨leftValue, hleft, rightValue, hright, rfl⟩ := h
      have hleftIs := @operandIs_iff observations (.metric left) leftValue hleft
      have hrightIs := operandIs_iff hright
      simp only [PredicateMatches, hleftIs, hrightIs, holds_iff]
      simp
  | fact read expected =>
      simp only [predicateMatches, Option.map_eq_some_iff] at h
      obtain ⟨value, hvalue, rfl⟩ := h
      simp [PredicateMatches, hvalue]

/-- A rule is found to match exactly when it is true of the observations. -/
theorem ruleMatches_iff {result : Bool} (h : ruleMatches observations rule = some result) :
    result = true ↔ RuleMatches observations.numericValues.get observations.facts.get rule := by
  rw [ruleMatches, Option.map_eq_some_iff] at h
  obtain ⟨results, hresults, rfl⟩ := h
  have hall := mapM_eq_some.mp hresults
  unfold RuleMatches
  generalize rule.predicates = predicates at hall
  cases hmode : rule.mode with
  | all =>
      simp only [↓reduceIte]
      clear hresults
      induction hall with
      | nil => simp
      | cons hfirst hrest ih => simp [← ih, predicateMatches_iff hfirst]
  | any =>
      simp only [reduceCtorEq, ↓reduceIte]
      clear hresults
      induction hall with
      | nil => simp
      | cons hfirst hrest ih => simp [← ih, predicateMatches_iff hfirst]

/-- What a rule reads was observed, so that it is found whether it matches. -/
theorem exists_ruleMatches
    (hmetrics : ∀ read ∈ rule.metrics, (observations.numericValues.get read).isSome = true)
    (hfacts : ∀ read ∈ rule.facts, (observations.facts.get read).isSome = true) :
    ∃ result, ruleMatches observations rule = some result := by
  have hpredicates : ∀ predicate ∈ rule.predicates,
      (predicateMatches observations predicate).isSome = true := by
    intro predicate hmem
    have hnumbers : ∀ read ∈ predicate.metrics,
        (observations.numericValues.get read).isSome = true :=
      fun read hread => hmetrics read (List.mem_flatMap.mpr ⟨predicate, hmem, hread⟩)
    have htruths : ∀ read ∈ predicate.facts, (observations.facts.get read).isSome = true :=
      fun read hread => hfacts read (List.mem_flatMap.mpr ⟨predicate, hmem, hread⟩)
    cases predicate with
    | numeric left operator right =>
        cases right with
        | metric right =>
            obtain ⟨leftValue, hleft⟩ := Option.isSome_iff_exists.mp
              (hnumbers left (by simp [ProtocolPredicate.metrics]))
            obtain ⟨rightValue, hright⟩ := Option.isSome_iff_exists.mp
              (hnumbers right (by simp [ProtocolPredicate.metrics]))
            simp [predicateMatches, operandValue, hleft, hright]
        | constant amount =>
            obtain ⟨leftValue, hleft⟩ := Option.isSome_iff_exists.mp
              (hnumbers left (by simp [ProtocolPredicate.metrics]))
            simp [predicateMatches, operandValue, hleft]
    | fact read expected =>
        have hread := htruths read (by simp [ProtocolPredicate.facts])
        simpa [predicateMatches] using hread
  obtain ⟨results, hresults⟩ := exists_mapM hpredicates
  exact ⟨_, by rw [ruleMatches, hresults, Option.map_some]⟩

end AlphaDecay.StrategyBriefs
