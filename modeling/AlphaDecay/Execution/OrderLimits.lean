import AlphaDecay.Contracts

/-!
# Entry budget limits

The limits under which entries are opened, and the check of one entry against them. Limits are
built by `make` only, so that a value of the type satisfies the bounds of its own construction.
-/

namespace AlphaDecay

open Foundation

/-- The largest quantity of an option order. -/
def maxStructuralOptionQuantity : Int := 100

/-- The largest approved loss of one order. -/
def maxStructuralApprovedRisk : Decimal := Decimal.ofInt 100000

/-- The largest number of entries over the lifetime of an account. -/
def maxStructuralLifetimeEntries : Int := 1000

/-- The largest approved risk over the lifetime of an account. -/
def maxStructuralLifetimeRisk : Decimal := Decimal.ofInt 100000

structure EntryBudgetLimitsFields where
  policyHash : String
  equityFloor : Decimal
  maximumLifetimeEntries : Int
  maximumLifetimeRisk : Decimal
  maximumPositionLoss : Decimal
  maximumEntryQuantity : Int
deriving DecidableEq, Repr

/-- The check made when limits are built. -/
def EntryBudgetLimitsFields.postInit (limits : EntryBudgetLimitsFields) : Except Failure Unit :=
  raiseIf (
    !isHash limits.policyHash
    || decide (limits.equityFloor < Decimal.ofInt 0)
    || !decide (1 ≤ limits.maximumLifetimeEntries ∧
      limits.maximumLifetimeEntries ≤ maxStructuralLifetimeEntries)
    || !decide (Decimal.ofInt 0 < limits.maximumPositionLoss ∧
      limits.maximumPositionLoss ≤ maxStructuralApprovedRisk)
    || !decide (limits.maximumPositionLoss ≤ limits.maximumLifetimeRisk ∧
      limits.maximumLifetimeRisk ≤ maxStructuralLifetimeRisk)
    || !decide (1 ≤ limits.maximumEntryQuantity ∧
      limits.maximumEntryQuantity ≤ maxStructuralOptionQuantity))
    (.value "ENTRY_BUDGET_LIMITS_INVALID")

structure EntryBudgetLimits extends EntryBudgetLimitsFields where
  valid : toEntryBudgetLimitsFields.postInit = .ok ()

/-- Build limits, or say why they are invalid. -/
def EntryBudgetLimits.make (fields : EntryBudgetLimitsFields) :
    Except Failure EntryBudgetLimits :=
  build EntryBudgetLimitsFields.postInit (fun fields valid => { fields with valid }) fields

/-- The entry that is checked against the limits, with the account and the budget it draws on. -/
structure ProposedEntry where
  policyHash : String
  equity : Decimal
  entriesUsed : Int
  lifetimeRisk : Decimal
  proposedRisk : Decimal
  proposedQuantity : Int

/-- Check an entry against the limits. -/
def EntryBudgetLimits.validateEntry (limits : EntryBudgetLimits) (entry : ProposedEntry) :
    Except Failure Unit := do
  raiseIf (entry.policyHash != limits.policyHash) (.value "ENTRY_POLICY_AUTHORITY_MISMATCH")
  raiseIf (decide (entry.equity ≤ limits.equityFloor)) (.value "ENTRY_EQUITY_FLOOR")
  raiseIf (decide (entry.entriesUsed ≥ limits.maximumLifetimeEntries))
    (.value "ENTRY_COUNT_EXHAUSTED")
  raiseIf (decide (entry.proposedRisk > limits.maximumPositionLoss))
    (.value "ENTRY_POSITION_RISK_EXHAUSTED")
  raiseIf (decide (entry.lifetimeRisk + entry.proposedRisk > limits.maximumLifetimeRisk))
    (.value "ENTRY_RISK_EXHAUSTED")
  raiseIf (!decide (1 ≤ entry.proposedQuantity ∧
    entry.proposedQuantity ≤ limits.maximumEntryQuantity)) (.value "ENTRY_QUANTITY_EXHAUSTED")

variable {entry : ProposedEntry} {limits : EntryBudgetLimits}

/-- An entry passes exactly when it meets every limit. -/
theorem EntryBudgetLimits.validateEntry_ok :
    limits.validateEntry entry = .ok () ↔
      entry.policyHash = limits.policyHash ∧ ¬ entry.equity ≤ limits.equityFloor ∧
      entry.entriesUsed < limits.maximumLifetimeEntries ∧
      ¬ entry.proposedRisk > limits.maximumPositionLoss ∧
      ¬ entry.lifetimeRisk + entry.proposedRisk > limits.maximumLifetimeRisk ∧
      1 ≤ entry.proposedQuantity ∧ entry.proposedQuantity ≤ limits.maximumEntryQuantity := by
  simp [validateEntry]

structure EntryBudgetLimits.Allows (limits : EntryBudgetLimits) (entry : ProposedEntry) :
    Prop where
  policy : entry.policyHash = limits.policyHash
  entries : entry.entriesUsed < limits.maximumLifetimeEntries
  loss : ¬ entry.proposedRisk > limits.maximumPositionLoss
  risk : ¬ entry.lifetimeRisk + entry.proposedRisk > limits.maximumLifetimeRisk
  quantity : 1 ≤ entry.proposedQuantity ∧ entry.proposedQuantity ≤ limits.maximumEntryQuantity

/-- An entry passes exactly when the limits allow it and the equity is above the floor. -/
theorem EntryBudgetLimits.validateEntry_iff_allows :
    limits.validateEntry entry = .ok () ↔
      limits.Allows entry ∧ limits.equityFloor < entry.equity := by
  rw [validateEntry_ok, Decimal.lt_iff_value, Decimal.le_iff_value, not_le]
  constructor
  · rintro ⟨hpolicy, hequity, hentries, hloss, hrisk, hquantity⟩
    exact ⟨⟨hpolicy, hentries, hloss, hrisk, hquantity⟩, hequity⟩
  · rintro ⟨⟨hpolicy, hentries, hloss, hrisk, hquantity⟩, hequity⟩
    exact ⟨hpolicy, hequity, hentries, hloss, hrisk, hquantity⟩

/-- What the limits allow depends on the values of the risks, and not on the equity. -/
theorem EntryBudgetLimits.Allows.congr {other : ProposedEntry} (h : limits.Allows entry)
    (hpolicy : other.policyHash = entry.policyHash)
    (hentries : other.entriesUsed = entry.entriesUsed)
    (hlifetime : other.lifetimeRisk.value = entry.lifetimeRisk.value)
    (hproposed : other.proposedRisk.value = entry.proposedRisk.value)
    (hquantity : other.proposedQuantity = entry.proposedQuantity) : limits.Allows other where
  policy := hpolicy.trans h.policy
  entries := hentries ▸ h.entries
  loss := by
    show ¬ limits.maximumPositionLoss < other.proposedRisk
    rw [Decimal.lt_iff_value, hproposed, ← Decimal.lt_iff_value]
    exact h.loss
  risk := by
    show ¬ limits.maximumLifetimeRisk < other.lifetimeRisk + other.proposedRisk
    rw [Decimal.lt_iff_value, Decimal.value_add_congr hlifetime hproposed, ← Decimal.lt_iff_value]
    exact h.risk
  quantity := hquantity ▸ h.quantity

end AlphaDecay
