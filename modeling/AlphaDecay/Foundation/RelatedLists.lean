import Mathlib.Data.List.Forall2
import Mathlib.Data.List.Pairwise

/-!
# Lists that are related item by item

Two lists are related when their items are, one after another. What holds of every item of the one,
or between any two of them, is carried over to the other.
-/

namespace Foundation

/-- An element of a related list is related to one of the list. -/
theorem exists_of_forall₂ {α β : Type} {S : α → β → Prop} {items : List α} {items' : List β}
    (h : List.Forall₂ S items items') : ∀ b ∈ items', ∃ a ∈ items, S a b := by
  induction h with
  | nil => simp
  | cons hfirst _ ih =>
      intro b hb
      rcases List.mem_cons.mp hb with rfl | hmem
      · exact ⟨_, List.mem_cons_self, hfirst⟩
      · obtain ⟨a, ha, hS⟩ := ih b hmem
        exact ⟨a, List.mem_cons_of_mem _ ha, hS⟩

/-- A relation between the elements of a list holds between related elements. -/
theorem pairwise_of_forall₂ {α β : Type} {R : α → α → Prop} {S : α → β → Prop}
    {T : β → β → Prop} (hrelated : ∀ a a' b b', S a a' → S b b' → R a b → T a' b')
    {items : List α} {items' : List β} (h : List.Forall₂ S items items')
    (hpairwise : items.Pairwise R) : items'.Pairwise T := by
  induction h with
  | nil => exact List.Pairwise.nil
  | cons hfirst hrest ih =>
      obtain ⟨hhead, htail⟩ := List.pairwise_cons.mp hpairwise
      refine List.pairwise_cons.mpr ⟨fun b' hb' => ?_, ih htail⟩
      obtain ⟨b, hb, hS⟩ := exists_of_forall₂ hrest b' hb'
      exact hrelated _ _ _ _ hfirst hS (hhead b hb)

/-- Elements that each have a partner are listed with their partners. -/
theorem exists_partners {α β : Type} {R : α × β → Prop} {items : List α}
    (h : ∀ item ∈ items, ∃ partner, R (item, partner)) :
    ∃ pairs : List (α × β), pairs.map Prod.fst = items ∧ ∀ pair ∈ pairs, R pair := by
  induction items with
  | nil => exact ⟨[], rfl, by simp⟩
  | cons item rest ih =>
      obtain ⟨⟨partner, hpartner⟩, hrest⟩ := List.forall_mem_cons.mp h
      obtain ⟨pairs, hmap, hall⟩ := ih hrest
      exact ⟨(item, partner) :: pairs, by rw [List.map_cons, hmap],
        List.forall_mem_cons.mpr ⟨hpartner, hall⟩⟩

end Foundation
