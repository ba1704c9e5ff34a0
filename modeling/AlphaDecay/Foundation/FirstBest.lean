import Mathlib.Data.List.MinMax

/-!
# The first of the best

`List.argmin` selects the first item of least rank. This module says what that selection splits a
list into, that its rank does not depend on the order of the list, and when a selection among the
items that pass a filter finds an item that passes a stronger test: `argmin_filter_iff`.
-/

namespace Foundation

variable {Item Rank : Type} [LinearOrder Rank] {rank : Item → Rank} {items others : List Item}
  {best : Item}

/-- What stands before the selected item ranks after it, and nothing behind it ranks before it. -/
theorem argmin_split (h : items.argmin rank = some best) :
    ∃ before after, items = before ++ best :: after ∧
      (∀ item ∈ before, rank best < rank item) ∧ ∀ item ∈ after, rank best ≤ rank item := by
  induction items generalizing best with
  | nil => cases h
  | cons first rest ih =>
      rw [List.argmin_cons] at h
      cases hrest : rest.argmin rank with
      | none =>
          rw [hrest] at h
          obtain rfl := Option.some.inj h
          obtain rfl := List.argmin_eq_none.mp hrest
          exact ⟨[], [], rfl, by simp, by simp⟩
      | some found =>
          rw [hrest] at h
          obtain ⟨before, after, rfl, hbefore, hafter⟩ := ih hrest
          by_cases hless : rank found < rank first
          · have hsame : found = best := by simpa [hless] using h
            subst hsame
            refine ⟨first :: before, after, rfl, ?_, hafter⟩
            intro item hitem
            rcases List.mem_cons.mp hitem with rfl | hitem
            · exact hless
            · exact hbefore item hitem
          · have hsame : first = best := by simpa [hless] using h
            subst hsame
            refine ⟨[], before ++ found :: after, rfl, by simp, ?_⟩
            intro item hitem
            have hfound : rank first ≤ rank found := not_lt.mp hless
            rcases List.mem_append.mp hitem with hitem | hitem
            · exact hfound.trans (hbefore item hitem).le
            · rcases List.mem_cons.mp hitem with rfl | hitem
              · exact hfound
              · exact hfound.trans (hafter item hitem)

theorem exists_argmin {item : Item} (h : item ∈ items) :
    ∃ best, items.argmin rank = some best := by
  cases hbest : items.argmin rank with
  | some best => exact ⟨best, rfl⟩
  | none =>
      rw [List.argmin_eq_none.mp hbest] at h
      cases h

/-- The rank of the selected item does not depend on the order of the list. -/
theorem argmin_perm (h : items.Perm others) :
    (items.argmin rank).map rank = (others.argmin rank).map rank := by
  cases hitems : items.argmin rank with
  | none =>
      rw [List.argmin_eq_none.mp hitems] at h
      rw [h.symm.eq_nil]
      rfl
  | some best =>
      have hmem : best ∈ others := h.mem_iff.mp (List.argmin_mem hitems)
      obtain ⟨other, hother⟩ : ∃ other, others.argmin rank = some other := exists_argmin hmem
      have hback : other ∈ items := h.mem_iff.mpr (List.argmin_mem hother)
      have hsame : rank best = rank other :=
        le_antisymm (List.le_of_mem_argmin hback hitems) (List.le_of_mem_argmin hmem hother)
      rw [hother, Option.map_some, Option.map_some, hsame]

/-! ## A filter and a stronger test -/

variable {keep : Item → Bool} {good : Item → Prop}

/-- An item of a list is outranked by a good one: by a smaller rank, or by an equal one that stands
before it. -/
def Outranked (rank : Item → Rank) (good : Item → Prop) (before : List Item) (items : List Item)
    (item : Item) : Prop :=
  ∃ other, good other ∧
    (other ∈ items ∧ rank other < rank item ∨ other ∈ before ∧ rank other = rank item)

variable (rank) in
/-- Where some item is good, the first of the best items that pass a filter is good just when every
item that passes the filter and is not good is outranked by a good one. -/
theorem argmin_filter_iff (hgood : ∀ item ∈ items, good item → keep item = true)
    (hsome : ∃ item ∈ items, good item) :
    (∃ best, (items.filter keep).argmin rank = some best ∧ good best) ↔
      ∀ before bad after, items = before ++ bad :: after → keep bad = true → ¬ good bad →
        Outranked rank good before items bad := by
  constructor
  · rintro ⟨best, hbest, hgoodBest⟩ before bad after rfl hkeep hbad
    obtain ⟨front, back, hsplit, hfront, -⟩ := argmin_split hbest
    have hmem := List.mem_filter.mp (List.argmin_mem hbest)
    have hin : bad ∈ (before ++ bad :: after).filter keep := by simp [hkeep]
    have hle : rank best ≤ rank bad := List.le_of_mem_argmin hin hbest
    rcases hle.lt_or_eq with hlt | heq
    · exact ⟨best, hgoodBest, .inl ⟨hmem.1, hlt⟩⟩
    · refine ⟨best, hgoodBest, .inr ⟨?_, heq⟩⟩
      -- The item of the same rank cannot stand before the selected one, so it stands behind it.
      rw [List.filter_append, List.filter_cons_of_pos hkeep] at hsplit
      rcases List.append_eq_append_iff.mp hsplit with ⟨tail, hfronts, htail⟩ |
        ⟨tail, hbefores, htail⟩
      · cases tail with
        | nil =>
            rw [List.nil_append] at htail
            exact absurd ((List.cons.inj htail).1 ▸ hgoodBest) hbad
        | cons head tail =>
            rw [List.cons_append] at htail
            have hbefore : bad ∈ front := by
              rw [hfronts, (List.cons.inj htail).1]
              simp
            exact absurd heq (hfront bad hbefore).ne
      · cases tail with
        | nil =>
            rw [List.nil_append] at htail
            exact absurd ((List.cons.inj htail).1 ▸ hgoodBest) hbad
        | cons head tail =>
            rw [List.cons_append] at htail
            have hin : best ∈ before.filter keep := by
              rw [hbefores, (List.cons.inj htail).1]
              simp
            exact (List.mem_filter.mp hin).1
  · intro hall
    obtain ⟨item, hitem, hitemGood⟩ := hsome
    obtain ⟨best, hbest⟩ : ∃ best, (items.filter keep).argmin rank = some best := exists_argmin
      (List.mem_filter.mpr ⟨hitem, hgood item hitem hitemGood⟩)
    refine ⟨best, hbest, ?_⟩
    by_contra hbad
    obtain ⟨front, back, hsplit, hfront, hback⟩ := argmin_split hbest
    have hkeep := (List.mem_filter.mp (List.argmin_mem hbest)).2
    obtain ⟨before, rest, rfl, hbefore, hrest⟩ := List.filter_eq_append_iff.mp hsplit
    obtain ⟨skipped, after, rfl, hskipped, -, -⟩ := List.filter_eq_cons_iff.mp hrest
    obtain ⟨other, hother, hrank⟩ := hall (before ++ skipped) best after (by simp) hkeep hbad
    rcases hrank with ⟨hmem, hless⟩ | ⟨hmem, hsame⟩
    · have hin := List.mem_filter.mpr ⟨hmem, hgood other hmem hother⟩
      exact absurd hless (not_lt.mpr (List.le_of_mem_argmin hin hbest))
    · rcases List.mem_append.mp hmem with hmem | hmem
      · have hkept := hgood other (by simp [hmem]) hother
        have hin : other ∈ front := hbefore ▸ List.mem_filter.mpr ⟨hmem, hkept⟩
        exact absurd hsame (hfront other hin).ne'
      · exact absurd (hgood other (by simp [hmem]) hother) (hskipped other hmem)

end Foundation
