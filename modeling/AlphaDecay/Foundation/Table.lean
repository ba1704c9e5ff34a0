import Mathlib.Data.List.Pairwise
import Mathlib.Data.List.Sort
import Mathlib.Order.Defs.LinearOrder

/-!
# Tables of rows

A table is a list of rows. This module defines the reads and writes that a repository makes of
one: `lookup` by a key column, `orderBy` a key, and `modify` of the rows that meet a condition.
A uniqueness constraint is stated by `Unique` on a key that may be absent, so that the same
definition covers plain, nullable and partial unique indexes. The lemmas say which rows a read
can return and which rows a write leaves as they were.

A `Schema` collects the constraints of a table, and `Checked` is a table that meets its schema: a
write that would violate a constraint returns nothing, so a violating table cannot be built.
-/

namespace Foundation.Table

variable {Row Key : Type}

/-- The first row with the given key. -/
def lookup [DecidableEq Key] (column : Row → Key) (key : Key) (table : List Row) : Option Row :=
  table.find? fun row => column row = key

/-- The rows sorted by a key, as `ORDER BY` returns them. -/
def orderBy [LinearOrder Key] (column : Row → Key) (table : List Row) : List Row :=
  table.insertionSort fun left right => column left ≤ column right

/-- The table with a change applied to the rows that meet a condition. -/
def modify (condition : Row → Bool) (change : Row → Row) (table : List Row) : List Row :=
  table.map fun row => if condition row then change row else row

/-- No two rows that have the key agree on it. -/
def Unique (key : Row → Option Key) (table : List Row) : Prop :=
  table.Pairwise fun left right => key left = none ∨ key left ≠ key right

instance [DecidableEq Key] (key : Row → Option Key) (table : List Row) :
    Decidable (Unique key table) :=
  inferInstanceAs (Decidable (table.Pairwise _))

section Lookup

variable [DecidableEq Key] {column : Row → Key} {key : Key} {table : List Row} {row : Row}

theorem lookup_some (h : lookup column key table = some row) :
    row ∈ table ∧ column row = key :=
  ⟨List.mem_of_find?_eq_some h, by simpa using List.find?_some h⟩

theorem lookup_none : lookup column key table = none ↔ ∀ row ∈ table, column row ≠ key := by
  simp [lookup]

theorem lookup_append : lookup column key (table ++ [row]) =
    (lookup column key table).or (if column row = key then some row else none) := by
  rw [lookup, lookup, List.find?_append]
  congr 1
  by_cases h : column row = key
  · rw [if_pos h, List.find?_singleton, if_pos (by simpa using h)]
  · rw [if_neg h, List.find?_singleton, if_neg (by simpa using h)]

end Lookup

section Uniqueness

variable {key : Row → Option Key} {table : List Row}

/-- Two rows of a table with the same value of a unique key are the same row. -/
theorem Unique.eq (h : Unique key table) {left right : Row} (hleft : left ∈ table)
    (hright : right ∈ table) {value : Key} (hl : key left = some value)
    (hr : key right = some value) : left = right := by
  by_contra hne
  have hsymm : Std.Symm fun left right : Row => key left = none ∨ key left ≠ key right :=
    ⟨fun a b hab => by
      rcases hab with hab | hab
      · by_cases hb : key b = none
        · exact Or.inl hb
        · exact Or.inr (hab ▸ hb)
      · exact Or.inr (Ne.symm hab)⟩
  rcases List.Pairwise.forall h hleft hright hne with hnone | hdiff
  · simp [hl] at hnone
  · exact hdiff (hl.trans hr.symm)

/-- With a unique column, looking a row up by its own key returns it. -/
theorem lookup_of_mem [DecidableEq Key] {column : Row → Key}
    (hunique : Unique (fun row => some (column row)) table) {row : Row} (h : row ∈ table) :
    lookup column (column row) table = some row := by
  cases hfound : lookup column (column row) table with
  | none => exact absurd rfl (lookup_none.mp hfound row h)
  | some found =>
      obtain ⟨hmem, hkey⟩ := lookup_some hfound
      rw [hunique.eq hmem h (congrArg some hkey) rfl]

end Uniqueness

section Modify

variable {condition : Row → Bool} {change : Row → Row} {table : List Row} {row : Row}

theorem mem_modify :
    row ∈ modify condition change table ↔
      ∃ old ∈ table, row = if condition old then change old else old := by
  simp only [modify, List.mem_map, eq_comm]

theorem change_mem_modify (h : row ∈ table) (hcond : condition row = true) :
    change row ∈ modify condition change table :=
  mem_modify.mpr ⟨row, h, by simp [hcond]⟩

theorem mem_modify_of_not (h : row ∈ table) (hcond : condition row = false) :
    row ∈ modify condition change table :=
  mem_modify.mpr ⟨row, h, by simp [hcond]⟩

/-- A change that keeps the keys changes the row that is found. -/
theorem lookup_modify [DecidableEq Key] {column : Row → Key} {key : Key}
    (hkey : ∀ row, condition row = true → column (change row) = column row) :
    lookup column key (modify condition change table) =
      (lookup column key table).map fun row => if condition row then change row else row := by
  have hsame : ∀ row, column (if condition row then change row else row) = column row := by
    intro row
    by_cases hcond : condition row = true
    · rw [if_pos hcond, hkey row hcond]
    · rw [if_neg hcond]
  rw [lookup, modify, List.find?_map, lookup]
  congr 2
  funext row
  simp only [Function.comp_apply, hsame]

theorem modify_of_not (h : ∀ row ∈ table, condition row = false) :
    modify condition change table = table := by
  refine (List.map_congr_left fun row hrow => ?_).trans (List.map_id table)
  rw [h row hrow]
  rfl

end Modify

section Ordering

variable [LinearOrder Key] {column : Row → Key} {table : List Row} {row : Row}

@[simp] theorem mem_orderBy : row ∈ orderBy column table ↔ row ∈ table :=
  List.mem_insertionSort _

theorem orderBy_perm : (orderBy column table).Perm table :=
  List.perm_insertionSort _ _

/-- The sorted rows stand in key order. -/
theorem orderBy_pairwise :
    (orderBy column table).Pairwise fun left right => column left ≤ column right := by
  have : Std.Total fun left right : Row => column left ≤ column right :=
    ⟨fun left right => le_total (column left) (column right)⟩
  have : IsTrans Row fun left right => column left ≤ column right :=
    ⟨fun _ _ _ => le_trans⟩
  exact List.pairwise_insertionSort _ _

theorem orderBy_eq_self (h : table.Pairwise fun left right => column left ≤ column right) :
    orderBy column table = table := by
  have : Std.Total fun left right : Row => column left ≤ column right :=
    ⟨fun left right => le_total (column left) (column right)⟩
  exact h.insertionSort_eq

/-- In a list in key order, the last row that meets a condition has the greatest key of those
rows. -/
theorem last_filter_greatest {rows : List Row} {condition : Row → Bool}
    (hsorted : rows.Pairwise fun left right => column left ≤ column right)
    (hlast : (rows.filter condition).getLast? = some row) :
    row ∈ rows ∧ condition row = true ∧
      ∀ other ∈ rows, condition other = true → column other ≤ column row := by
  have hmem := List.mem_filter.mp (List.mem_of_getLast? hlast)
  refine ⟨hmem.1, hmem.2, fun other hother hcond => ?_⟩
  obtain ⟨before, hsplit⟩ := List.getLast?_eq_some_iff.mp hlast
  have hin : other ∈ before ++ [row] := hsplit ▸ List.mem_filter.mpr ⟨hother, hcond⟩
  have hpair := hsorted.filter condition
  rw [hsplit, List.pairwise_append] at hpair
  rcases List.mem_append.mp hin with hbefore | hself
  · exact hpair.2.2 other hbefore row (List.mem_singleton_self row)
  · rw [List.mem_singleton.mp hself]

/-- In a list in key order, the first row that meets a condition has the least key of those
rows. -/
theorem head_filter_least {rows : List Row} {condition : Row → Bool}
    (hsorted : rows.Pairwise fun left right => column left ≤ column right)
    (hhead : (rows.filter condition).head? = some row) :
    row ∈ rows ∧ condition row = true ∧
      ∀ other ∈ rows, condition other = true → column row ≤ column other := by
  have hmem := List.mem_filter.mp (List.mem_of_head? hhead)
  refine ⟨hmem.1, hmem.2, fun other hother hcond => ?_⟩
  obtain ⟨after, hsplit⟩ := List.head?_eq_some_iff.mp hhead
  have hin : other ∈ row :: after := hsplit ▸ List.mem_filter.mpr ⟨hother, hcond⟩
  have hpair := hsorted.filter condition
  rw [hsplit, List.pairwise_cons] at hpair
  rcases List.mem_cons.mp hin with rfl | hafter
  · exact le_refl _
  · exact hpair.1 other hafter

end Ordering

section Ordinals

variable {column : Row → Int} {rows : List Row}

theorem column_lt_of_lt (hsorted : rows.Pairwise fun left right => column left < column right)
    {i j : Nat} (hi : i < rows.length) (hj : j < rows.length) (h : i < j) :
    column rows[i] < column rows[j] :=
  List.pairwise_iff_getElem.mp hsorted i j hi hj h

/-- Rows in strict order of an ordinal that leaves nothing out stand at their ordinals. -/
theorem column_getElem (hsorted : rows.Pairwise fun left right => column left < column right)
    (hnonneg : ∀ row ∈ rows, 0 ≤ column row)
    (hclosed : ∀ row ∈ rows, column row ≠ 0 → ∃ prior ∈ rows, column row = column prior + 1)
    {index : Nat} (h : index < rows.length) : column rows[index] = index := by
  induction index using Nat.strong_induction_on with
  | _ index ih =>
      have hlower : (index : Int) ≤ column rows[index] := by
        cases index with
        | zero => exact hnonneg _ (List.getElem_mem h)
        | succ prior =>
            have hprior := ih prior (Nat.lt_succ_self prior) (by omega)
            have hlt := column_lt_of_lt hsorted (by omega) h (Nat.lt_succ_self prior)
            omega
      by_cases hzero : column rows[index] = 0
      · omega
      · obtain ⟨prior, hprior, hnext⟩ := hclosed _ (List.getElem_mem h) hzero
        obtain ⟨j, hj, rfl⟩ := List.getElem_of_mem hprior
        rcases Nat.lt_or_ge j index with hlt | hge
        · have hat := ih j hlt hj
          omega
        · rcases Nat.eq_or_lt_of_le hge with rfl | hlt
          · omega
          · have hafter := column_lt_of_lt hsorted h hj hlt
            omega

end Ordinals

/-! ## Constraints -/

/-- Two rows clash on a key when both have it with the same value. -/
def clashOn [DecidableEq Key] (key : Row → Option Key) (left right : Row) : Bool :=
  (key left).isSome && key left == key right

/-- A condition on columns that may be null: unknown where it compares a value that is not
there. -/
def Condition : Type :=
  Option Bool

namespace Condition

/-- A condition on values that are there. -/
def known (condition : Bool) : Condition :=
  some condition

/-- Compare two columns, unknown where one of them is null. -/
def compare {α β : Type} (relation : α → β → Bool) (left : Option α) (right : Option β) :
    Condition :=
  match left, right with
  | some x, some y => some (relation x y)
  | _, _ => none

/-- A conjunction: false when one side is, unknown when that is not decided. -/
def both : Condition → Condition → Condition
  | some false, _ => some false
  | _, some false => some false
  | some true, some true => some true
  | _, _ => none

/-- A disjunction: true when one side is, unknown when that is not decided. -/
def either : Condition → Condition → Condition
  | some true, _ => some true
  | _, some true => some true
  | some false, some false => some false
  | _, _ => none

/-- A constraint refuses a row only when its condition is false, not when it is unknown. -/
def admits : Condition → Bool
  | some condition => condition
  | none => true

end Condition

/-- The constraints of a table: a condition on each row, and the pairs of rows that may not stand
together. -/
structure Schema (Row : Type) where
  check : Row → Bool
  clash : Row → Row → Bool

/-- The rows meet the constraints. -/
def Schema.Holds (schema : Schema Row) (rows : List Row) : Prop :=
  (∀ row ∈ rows, schema.check row = true) ∧
    rows.Pairwise fun left right => schema.clash left right = false

instance (schema : Schema Row) (rows : List Row) : Decidable (schema.Holds rows) :=
  inferInstanceAs (Decidable (_ ∧ _))

/-- A table whose rows meet the constraints of its schema. -/
structure Checked (schema : Schema Row) where
  rows : List Row
  holds : schema.Holds rows

namespace Checked

variable {schema : Schema Row} {table after : Checked schema} {row : Row}

/-- The table without rows. -/
def empty : Checked schema :=
  ⟨[], by simp [Schema.Holds]⟩

/-- Insert a row, unless it violates a constraint. -/
def insert (table : Checked schema) (row : Row) : Option (Checked schema) :=
  if h : schema.check row = true ∧ ∀ old ∈ table.rows, schema.clash old row = false then
    some ⟨table.rows ++ [row], by
      refine ⟨fun r hr => ?_, ?_⟩
      · rcases List.mem_append.mp hr with hold | hnew
        · exact table.holds.1 r hold
        · rw [List.mem_singleton.mp hnew]
          exact h.1
      · refine List.pairwise_append.mpr ⟨table.holds.2, List.pairwise_singleton _ _, ?_⟩
        intro old hold new hnew
        rw [List.mem_singleton.mp hnew]
        exact h.2 old hold⟩
  else none

/-- Change the rows that meet a condition, unless the result violates a constraint. -/
def update (table : Checked schema) (condition : Row → Bool) (change : Row → Row) :
    Option (Checked schema) :=
  if h : schema.Holds (modify condition change table.rows) then some ⟨_, h⟩ else none

/-- A successful insertion appends the row. -/
theorem rows_insert (h : table.insert row = some after) : after.rows = table.rows ++ [row] := by
  unfold insert at h
  split at h
  · cases h
    rfl
  · cases h

/-- An inserted row clashes with no row that was there. -/
theorem clash_insert (h : table.insert row = some after) :
    ∀ old ∈ table.rows, schema.clash old row = false := by
  unfold insert at h
  split at h
  · rename_i hfits
    exact hfits.2
  · cases h

/-- A successful update modifies the rows. -/
theorem rows_update {condition : Row → Bool} {change : Row → Row}
    (h : table.update condition change = some after) :
    after.rows = modify condition change table.rows := by
  unfold update at h
  split at h
  · cases h
    rfl
  · cases h

/-- A key on which no two rows may clash is unique. -/
theorem unique [DecidableEq Key] (table : Checked schema) {key : Row → Option Key}
    (hkey : ∀ left right, schema.clash left right = false → clashOn key left right = false) :
    Unique key table.rows :=
  table.holds.2.imp fun {left right} hclash => by
    have hno := hkey left right hclash
    cases hleft : key left with
    | none => exact Or.inl rfl
    | some value => exact Or.inr (by simpa [clashOn, hleft] using hno)

end Checked

end Foundation.Table
