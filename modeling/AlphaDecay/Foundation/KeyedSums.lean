import AlphaDecay.Foundation.DecimalSums
import AlphaDecay.Foundation.Dict

/-!
# Sums by key

Amounts are added up under their keys, one after another. The sum of a key is the total of its
amounts, in their order: `get_sumsBy`. Two such tables are equal when they have the same keys with
equal sums: `equalSums_iff`.
-/

namespace Foundation.Decimal

variable {κ : Type} [DecidableEq κ]

def addAmount (sums : Dict κ Decimal) (entry : κ × Decimal) : Dict κ Decimal :=
  sums.set entry.1 ((sums.get entry.1).getD (ofInt 0) + entry.2)

/-- The sums of amounts under their keys. -/
def sumsBy (entries : List (κ × Decimal)) : Dict κ Decimal :=
  entries.foldl addAmount Dict.empty

def amountsOf (key : κ) (entries : List (κ × Decimal)) : List Decimal :=
  (entries.filter fun entry => entry.1 = key).map Prod.snd

/-- Equality of tables of sums: as many keys, and an equal sum for each. -/
def equalSums (left right : Dict κ Decimal) : Bool :=
  left.entries.length == right.entries.length &&
    left.entries.all fun entry => (right.get entry.1).any fun sum => entry.2 == sum

theorem total_append (amounts : List Decimal) (amount : Decimal) :
    total (amounts ++ [amount]) = total amounts + amount := by
  rw [total, List.foldl_append]
  rfl

/-- The sum of a key is the total of its amounts, if it has any. -/
theorem get_sumsBy (entries : List (κ × Decimal)) (key : κ) :
    (sumsBy entries).get key =
      if amountsOf key entries = [] then none else some (total (amountsOf key entries)) := by
  induction entries using List.reverseRecOn with
  | nil => rfl
  | append_singleton entries entry ih =>
      rw [sumsBy, List.foldl_append, List.foldl_cons, List.foldl_nil, ← sumsBy, addAmount,
        Dict.get_set]
      by_cases hkey : entry.1 = key
      · subst hkey
        have hamounts : amountsOf entry.1 (entries ++ [entry]) =
            amountsOf entry.1 entries ++ [entry.2] := by
          simp [amountsOf]
        rw [if_pos rfl, hamounts, if_neg (by simp), total_append, ih]
        split
        · rename_i hnone
          rw [hnone]
          rfl
        · rfl
      · have hamounts : amountsOf key (entries ++ [entry]) = amountsOf key entries := by
          simp [amountsOf, hkey]
        rw [if_neg hkey, hamounts, ih]

/-- A key has a sum when it is the key of an amount. -/
theorem isSome_sumsBy (entries : List (κ × Decimal)) (key : κ) :
    ((sumsBy entries).get key).isSome = true ↔ ∃ entry ∈ entries, entry.1 = key := by
  have hnil : amountsOf key entries = [] ↔ ¬∃ entry ∈ entries, entry.1 = key := by
    rw [amountsOf, List.map_eq_nil_iff, List.filter_eq_nil_iff]
    simp only [decide_eq_true_eq, not_exists, not_and]
  rw [get_sumsBy]
  split
  · rename_i hnone
    simp [hnil.mp hnone]
  · rename_i hsome
    simpa using not_not.mp (mt hnil.mpr hsome)

/-- A key with a value is a key of an entry. -/
theorem mem_keys_iff {Value : Type} {d : Dict κ Value} {key : κ} :
    key ∈ d.entries.map Prod.fst ↔ (d.get key).isSome = true := by
  rw [Option.isSome_iff_exists]
  constructor
  · intro h
    obtain ⟨entry, hentry, rfl⟩ := List.mem_map.mp h
    exact ⟨entry.2, Dict.mem_entries.mp hentry⟩
  · rintro ⟨value, h⟩
    exact List.mem_map.mpr ⟨(key, value), Dict.mem_entries.mpr h, rfl⟩

/-- Tables are equal when they have the same keys with equal sums. -/
theorem equalSums_iff {left right : Dict κ Decimal}
    (hkeys : ∀ key, (left.get key).isSome = true → (right.get key).isSome = true) :
    equalSums left right = true ↔ ∀ key, ∀ sum ∈ right.get key,
      ∃ other ∈ left.get key, (other == sum) = true := by
  have hsubset : left.entries.map Prod.fst ⊆ right.entries.map Prod.fst := by
    intro key hkey
    exact mem_keys_iff.mpr (hkeys key (mem_keys_iff.mp hkey))
  rw [equalSums, Bool.and_eq_true, beq_iff_eq, List.all_eq_true]
  constructor
  · rintro ⟨hlength, hall⟩ key sum hsum
    -- as many keys, all among the others: none of the others is left out
    have hperm : (left.entries.map Prod.fst).Perm (right.entries.map Prod.fst) :=
      (List.subperm_of_subset left.distinct hsubset).perm_of_length_le (by simp [hlength])
    have hmem : key ∈ right.entries.map Prod.fst :=
      List.mem_map.mpr ⟨(key, sum), Dict.mem_entries.mpr hsum, rfl⟩
    obtain ⟨entry, hentry, rfl⟩ := List.mem_map.mp (hperm.mem_iff.mpr hmem)
    have hequal := hall entry hentry
    rw [hsum] at hequal
    exact ⟨entry.2, Dict.mem_entries.mp hentry, hequal⟩
  · intro hall
    have hback : right.entries.map Prod.fst ⊆ left.entries.map Prod.fst := by
      intro key hkey
      obtain ⟨entry, hentry, rfl⟩ := List.mem_map.mp hkey
      obtain ⟨other, hother, -⟩ := hall entry.1 entry.2 (Dict.mem_entries.mp hentry)
      exact mem_keys_iff.mpr (by rw [hother]; rfl)
    constructor
    · have hle := (List.subperm_of_subset left.distinct hsubset).length_le
      have hge := (List.subperm_of_subset right.distinct hback).length_le
      simp only [List.length_map] at hle hge
      omega
    · intro entry hentry
      have hget := Dict.mem_entries.mp hentry
      obtain ⟨sum, hsum⟩ := Option.isSome_iff_exists.mp (hkeys entry.1 (by rw [hget]; rfl))
      obtain ⟨other, hother, hequal⟩ := hall entry.1 sum hsum
      rw [hget] at hother
      obtain rfl := Option.some.inj hother
      rw [hsum]
      exact hequal

end Foundation.Decimal
