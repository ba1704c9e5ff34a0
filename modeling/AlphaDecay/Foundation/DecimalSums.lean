import AlphaDecay.Foundation.DecimalRounding

/-!
# Sums of decimals

Decimals are added one after another, and every addition is rounded. Amounts with few decimal places
and a bounded total are summed without rounding: `value_total` says that the value of their sum is
the sum of their values.
-/

namespace Foundation.Decimal

/-- The sum of decimals, added from the left. -/
def total (amounts : List Decimal) : Decimal :=
  amounts.foldl (· + ·) (ofInt 0)

/-- A number with at most this many decimal places. -/
def OnGrid (places : Nat) (x : ℚ) : Prop :=
  ∃ n : Int, x * 10 ^ places = n

section Grid

variable {places : Nat} {x y : ℚ}

theorem onGrid_zero : OnGrid places 0 :=
  ⟨0, by simp⟩

theorem OnGrid.add (hx : OnGrid places x) (hy : OnGrid places y) : OnGrid places (x + y) := by
  obtain ⟨m, hm⟩ := hx
  obtain ⟨n, hn⟩ := hy
  exact ⟨m + n, by rw [add_mul, hm, hn, Int.cast_add]⟩

/-- A sum of a list has no more decimal places than its terms. -/
theorem onGrid_sum {values : List ℚ} (h : ∀ value ∈ values, OnGrid places value) :
    OnGrid places values.sum := by
  induction values with
  | nil => exact onGrid_zero
  | cons value rest ih =>
      rw [List.sum_cons]
      exact (h value List.mem_cons_self).add
        (ih fun other hother => h other (List.mem_cons_of_mem _ hother))

/-- A number on the grid with few digits in front is representable. -/
theorem OnGrid.representable {whole : Nat} (hx : OnGrid places x) (hwhole : |x| < 10 ^ whole)
    (hdigits : whole + places ≤ precision) : Representable x := by
  obtain ⟨n, hn⟩ := hx
  refine exists_fits ?_ hwhole hdigits
  rw [hn]
  exact Rat.den_intCast n

end Grid

/-- The absolute values of numbers, added. -/
def grossOf (values : List ℚ) : ℚ :=
  (values.map fun x => |x|).sum

/-- A sum is no larger than the absolute values of its terms, added. -/
theorem abs_sum_le (values : List ℚ) : |values.sum| ≤ grossOf values := by
  induction values with
  | nil => simp [grossOf]
  | cons value rest ih =>
      have hstep : grossOf (value :: rest) = |value| + grossOf rest := by
        rw [grossOf, List.map_cons, List.sum_cons, grossOf]
      rw [List.sum_cons, hstep]
      exact (abs_add_le _ _).trans (by gcongr)

theorem grossOf_nonneg (values : List ℚ) : 0 ≤ grossOf values :=
  (abs_nonneg _).trans (abs_sum_le values)

/-- The amounts are added without rounding: they have few decimal places and a bounded total. -/
def SummedExactly (values : List ℚ) : Prop :=
  ∃ whole places : Nat, whole + places ≤ precision ∧ (∀ value ∈ values, OnGrid places value) ∧
    grossOf values < 10 ^ whole

/-- What is added to a start is added without rounding within the digits. -/
theorem value_foldl_add {whole places : Nat} (hdigits : whole + places ≤ precision)
    {amounts : List Decimal} {start : Decimal} (hstart : OnGrid places start.value)
    (hgrid : ∀ amount ∈ amounts, OnGrid places amount.value)
    (hbound : |start.value| + grossOf (amounts.map value) < 10 ^ whole) :
    (amounts.foldl (· + ·) start).value = start.value + (amounts.map value).sum := by
  induction amounts generalizing start with
  | nil => simp
  | cons amount rest ih =>
      have hgross : grossOf ((amount :: rest).map value) =
          |amount.value| + grossOf (rest.map value) := by
        simp [grossOf]
      rw [hgross] at hbound
      have hsum := hstart.add (hgrid amount List.mem_cons_self)
      have hle : |start.value + amount.value| ≤ |start.value| + |amount.value| := abs_add_le _ _
      have hrest := grossOf_nonneg (rest.map value)
      have hexact : (start + amount).value = start.value + amount.value :=
        (hsum.representable (by linarith) hdigits).value_add
      rw [List.foldl_cons, ih (by rwa [hexact])
        (fun other hother => hgrid other (List.mem_cons_of_mem _ hother))
        (by rw [hexact]; linarith), hexact, List.map_cons, List.sum_cons, add_assoc]

theorem value_total {amounts : List Decimal} (h : SummedExactly (amounts.map value)) :
    (total amounts).value = (amounts.map value).sum := by
  obtain ⟨whole, places, hdigits, hgrid, hbound⟩ := h
  have hzero : (ofInt 0).value = 0 := by simp
  rw [total, value_foldl_add hdigits (by rw [hzero]; exact onGrid_zero)
    (fun amount hamount => hgrid _ (List.mem_map_of_mem hamount)) (by rwa [hzero, abs_zero,
      zero_add]), hzero, zero_add]

theorem SummedExactly.perm {values values' : List ℚ} (h : SummedExactly values)
    (hperm : values.Perm values') : SummedExactly values' := by
  obtain ⟨whole, places, hdigits, hgrid, hbound⟩ := h
  refine ⟨whole, places, hdigits, fun value hvalue => hgrid value (hperm.mem_iff.mpr hvalue), ?_⟩
  rwa [grossOf, ← (hperm.map fun x => |x|).sum_eq]

/-- Some of the amounts are summed exactly too. -/
theorem SummedExactly.sublist {values values' : List ℚ} (h : SummedExactly values)
    (hsub : values'.Sublist values) : SummedExactly values' := by
  obtain ⟨whole, places, hdigits, hgrid, hbound⟩ := h
  refine ⟨whole, places, hdigits, fun value hvalue => hgrid value (hsub.subset hvalue), ?_⟩
  refine lt_of_le_of_lt ?_ hbound
  refine (hsub.map fun x => |x|).sum_le_sum fun value hvalue => ?_
  obtain ⟨x, -, rfl⟩ := List.mem_map.mp hvalue
  exact abs_nonneg x

/-- The sums of parts are summed exactly where the parts together are. -/
theorem SummedExactly.sums {parts : List (List ℚ)} (h : SummedExactly parts.flatten) :
    SummedExactly (parts.map List.sum) := by
  obtain ⟨whole, places, hdigits, hgrid, hbound⟩ := h
  refine ⟨whole, places, hdigits, fun value hvalue => ?_, ?_⟩
  · obtain ⟨part, hpart, rfl⟩ := List.mem_map.mp hvalue
    exact onGrid_sum fun value hvalue => hgrid value (List.mem_flatten_of_mem hpart hvalue)
  · refine lt_of_le_of_lt ?_ hbound
    clear hgrid hbound
    induction parts with
    | nil => simp [grossOf]
    | cons part rest ih =>
        have hpart := abs_sum_le part
        simp only [grossOf, List.map_cons, List.sum_cons, List.flatten_cons, List.map_append,
          List.sum_append] at ih hpart ⊢
        linarith

end Foundation.Decimal
