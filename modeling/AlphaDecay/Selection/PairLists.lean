import AlphaDecay.Foundation.LeastItem
import AlphaDecay.Foundation.RelatedLists
import AlphaDecay.Lifecycle.RollShadow
import Mathlib.Data.List.Sym

/-!
# Pairs of options and their ranks

The selectors go through the unordered pairs of a list, or through all ordered ones. Which pairs
these are does not depend on the order of the list, but for which option of an unordered pair comes
first, and a list without repetitions has every pair once. The comparisons that a selector makes of
two pairs are those of ranks.
-/

namespace AlphaDecay.Selection

open Foundation

/-! ## Pairs -/

variable {α β ε : Type} {items items' : List α} {pair : α × α}

/-- The unordered pairs of a list are its sublists of two. -/
theorem mem_laterPairs_iff : pair ∈ laterPairs items ↔ [pair.1, pair.2].Sublist items := by
  induction items with
  | nil => simp [laterPairs]
  | cons first rest ih =>
      obtain ⟨one, two⟩ := pair
      rw [laterPairs, List.mem_append, ih, List.mem_map, List.sublist_cons_iff]
      constructor
      · rintro (⟨second, hsecond, heq⟩ | hlater)
        · obtain ⟨rfl, rfl⟩ := Prod.mk.inj heq
          exact .inr ⟨[second], rfl, List.singleton_sublist.mpr hsecond⟩
        · exact .inl hlater
      · rintro (hlater | ⟨others, heq, hothers⟩)
        · exact .inr hlater
        · obtain ⟨rfl, rfl⟩ := List.cons.inj heq
          exact .inl ⟨two, List.singleton_sublist.mp hothers, rfl⟩

/-- Two items of a list, in whichever order, are an unordered pair in one of its two orders. -/
theorem subperm_pair_iff {a b : α} : [a, b].Subperm items ↔
    (a, b) ∈ laterPairs items ∨ (b, a) ∈ laterPairs items := by
  rw [mem_laterPairs_iff, mem_laterPairs_iff]
  constructor
  · rintro ⟨ordered, hperm, hsublist⟩
    have hlength := hperm.length_eq
    rcases ordered with _ | ⟨one, _ | ⟨two, _ | ⟨_, _⟩⟩⟩
    case cons.cons.nil =>
      rcases List.mem_pair.mp (hperm.mem_iff.mp List.mem_cons_self) with rfl | rfl
      · obtain rfl := List.singleton_injective (List.perm_singleton.mp hperm.cons_inv.symm)
        exact .inl hsublist
      · have hswapped := (hperm.trans (List.Perm.swap _ _ [])).cons_inv
        obtain rfl := List.singleton_injective (List.perm_singleton.mp hswapped.symm)
        exact .inr hsublist
    all_goals simp at hlength
  · rintro (hsublist | hsublist)
    · exact hsublist.subperm
    · exact ⟨[b, a], List.Perm.swap _ _ [], hsublist⟩

/-- Two different items of a list are an unordered pair in one of its two orders. -/
theorem mem_laterPairs_of_ne {a b : α} (ha : a ∈ items) (hb : b ∈ items) (hne : a ≠ b) :
    (a, b) ∈ laterPairs items ∨ (b, a) ∈ laterPairs items := by
  refine subperm_pair_iff.mp (List.subperm_of_subset ?_ ?_)
  · simpa using hne
  · intro item hitem
    rcases List.mem_pair.mp hitem with rfl | rfl
    · exact ha
    · exact hb

/-- What is made of the unordered pairs of a list, whichever item comes first, is made of those of
the list in another order. -/
theorem laterPairs_map_perm {make : α × α → β} (hmake : ∀ a b, make (a, b) = make (b, a))
    (h : items.Perm items') :
    ((laterPairs items).map make).Perm ((laterPairs items').map make) := by
  induction h with
  | nil => exact List.Perm.refl _
  | cons first hrest ih =>
      simp only [laterPairs, List.map_append, List.map_map]
      exact (hrest.map _).append ih
  | swap first second rest =>
      simp only [laterPairs, List.map_append, List.map_map, List.map_cons, List.cons_append]
      rw [hmake second first]
      exact (List.perm_append_comm_assoc _ _ _).cons _
  | trans _ _ ihfirst ihsecond => exact ihfirst.trans ihsecond

theorem laterPairs_map (change : α → β) (items : List α) :
    laterPairs (items.map change) = (laterPairs items).map (Prod.map change change) := by
  induction items with
  | nil => rfl
  | cons first rest ih =>
      rw [List.map_cons, laterPairs, laterPairs, ih, List.map_append, List.map_map, List.map_map]
      rfl

theorem allPairs_map (change : α → β) (items : List α) :
    allPairs (items.map change) = (allPairs items).map (Prod.map change change) := by
  simp only [allPairs, List.flatMap_map, List.map_flatMap, List.map_map]
  rfl

/-- The unordered pairs of a list are among those of the list with repetitions. -/
theorem laterPairs_sublist_sym2 (items : List α) :
    ((laterPairs items).map fun pair => s(pair.1, pair.2)).Sublist items.sym2 := by
  induction items with
  | nil => exact List.Sublist.refl _
  | cons first rest ih =>
      rw [laterPairs, List.map_append, List.map_map, List.sym2, List.map_cons, List.cons_append]
      exact (List.Sublist.refl _ |>.append ih).cons _

theorem laterPairs_nodup (h : items.Nodup) :
    (laterPairs items).Pairwise fun one two => s(one.1, one.2) ≠ s(two.1, two.2) :=
  List.pairwise_map.mp (h.sym2.sublist (laterPairs_sublist_sym2 items))

theorem allPairs_nodup (h : items.Nodup) : (allPairs items).Nodup := by
  have hproduct : allPairs items = items.product items := rfl
  rw [hproduct]
  exact h.product h

/-! ## Results of pairs -/

variable {f : α → Except ε β}

variable {results : List β}

/-- Computations whose items are the same in another order have the same results in another
order. -/
theorem mapM_perm_map {g : α → Except ε β} (h : items.mapM f = .ok results)
    (hperm : (items.map f).Perm (items'.map g)) :
    ∃ results', items'.mapM g = .ok results' ∧ results.Perm results' := by
  have hresults : (items.map f).mapM id = .ok results := by
    rw [List.mapM_map]
    exact h
  obtain ⟨results', hresults', hreordered⟩ := Lifecycle.mapM_perm hperm.symm hresults
  rw [List.mapM_map] at hresults'
  exact ⟨results', hresults', hreordered.symm⟩

/-- What is collected of the results of a list is related as the items of the list are. -/
theorem pairwise_collected {γ : Type} {collect : β → Option γ} {R : α → α → Prop} {S : γ → γ → Prop}
    (h : items.mapM f = .ok results) (hitems : items.Pairwise R)
    (hrelated : ∀ a b x y, (∃ result, f a = .ok result ∧ collect result = some x) →
      (∃ result, f b = .ok result ∧ collect result = some y) → R a b → S x y) :
    (results.filterMap collect).Pairwise S := by
  rw [List.pairwise_filterMap]
  refine pairwise_of_forall₂ (fun a left b right hleft hright hab => ?_)
    (Lifecycle.mapM_ok.mp h) hitems
  exact fun x hx y hy => hrelated a b x y ⟨left, hleft, hx⟩ ⟨right, hright, hy⟩ hab

theorem mem_results {item : α} (h : items.mapM f = .ok results) (hitem : item ∈ items) :
    ∃ result ∈ results, f item = .ok result :=
  exists_of_forall₂ (Lifecycle.mapM_ok.mp h).flip item hitem

/-- Computations in sequence raise what one of them raises. -/
theorem mapM_error {failure : ε} (h : items.mapM f = .error failure) :
    ∃ item ∈ items, f item = .error failure := by
  induction items with
  | nil => cases h
  | cons item rest ih =>
      rw [List.mapM_cons, bind_error] at h
      rcases h with hfirst | ⟨result, -, h⟩
      · exact ⟨item, List.mem_cons_self, hfirst⟩
      · rw [bind_error] at h
        rcases h with hrest | ⟨results, -, h⟩
        · obtain ⟨other, hother, hraised⟩ := ih hrest
          exact ⟨other, List.mem_cons_of_mem _ hother, hraised⟩
        · cases h

/-- A list of computations that all have a result is computed. -/
theorem exists_mapM_ok (h : ∀ item ∈ items, ∃ result, f item = .ok result) :
    ∃ results, items.mapM f = .ok results := by
  induction items with
  | nil => exact ⟨[], rfl⟩
  | cons item rest ih =>
      rw [List.forall_mem_cons] at h
      obtain ⟨result, hresult⟩ := h.1
      obtain ⟨results, hresults⟩ := ih h.2
      exact ⟨result :: results, by rw [List.mapM_cons, hresult, hresults]; rfl⟩

/-! ## Ranks -/

theorem compareDecimal_iff (a b : Decimal) :
    (compareDecimal a b = .lt ↔ a.value < b.value) ∧
      (compareDecimal a b = .eq ↔ a.value = b.value) := by
  unfold compareDecimal
  split
  · rename_i hlt
    rw [Decimal.lt_iff_value] at hlt
    simp [hlt, hlt.ne]
  · rename_i hnot
    rw [Decimal.lt_iff_value] at hnot
    split
    · rename_i hlt
      rw [Decimal.lt_iff_value] at hlt
      simp [hnot, hlt.ne']
    · rename_i hnot'
      rw [Decimal.lt_iff_value, not_lt] at hnot'
      simp [le_antisymm hnot' (not_lt.mp hnot)]

theorem comparesBy_decimal (read : α → Decimal) (items : List α) :
    ComparesBy (fun a => (read a).value) (fun a b => compareDecimal (read a) (read b)) items where
  lt_iff a _ b _ := (compareDecimal_iff (read a) (read b)).1
  eq_iff a _ b _ := (compareDecimal_iff (read a) (read b)).2

theorem comparesBy_down (read : α → Int) (items : List α) :
    ComparesBy (fun a => -read a) (fun a b => compare (read b) (read a)) items where
  lt_iff _ _ _ _ := by rw [compare_lt_iff_lt, neg_lt_neg_iff]
  eq_iff _ _ _ _ := by rw [compare_eq_iff_eq, neg_inj, eq_comm]

/-! ## Options in another order -/

variable [Digest]

/-- A snapshot with its options in another order, and with its own hash. -/
def reorderedSnapshot (snapshot : OpportunityMarketSnapshot) (options : List OpportunityOption) :
    OpportunityMarketSnapshot :=
  let moved := { snapshot with options }
  { moved with sourceHash := Digest.authorityHash moved.material }

/-- The authority of a snapshot with its options in another order. -/
def reorderedAuthority (snapshot : OpportunityMarketSnapshot)
    (authority : CandidateSelectionAuthority) (options : List OpportunityOption) :
    CandidateSelectionAuthority :=
  { authority with snapshotSourceHash := (reorderedSnapshot snapshot options).sourceHash }

end AlphaDecay.Selection
