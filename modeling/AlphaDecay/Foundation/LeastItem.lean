import Mathlib.Data.List.Pairwise
import Mathlib.Data.List.Perm.Subperm
import Mathlib.Data.List.Perm.Basic
import Mathlib.Data.Prod.Lex
import Mathlib.Order.Compare

/-!
# The least item of a list, and its ties

A list is sorted by a rank and its first item is taken, unless the second one has the same rank.
What is found does not depend on the order of the list: `leastOf_eq_one` characterizes an item that
was found by what the other items are, and `leastOf_perm` follows. Comparisons that are made one
after another are those of a rank in lexicographic order, `ComparesBy.andThen`.
-/

namespace Foundation

/-- What a search for the least item finds. -/
inductive Least (α : Type) where
  | none
  | tied
  | one (item : α)
deriving DecidableEq

/-- The least of items by a comparison, where items of one rank are told by another. -/
def leastOf {α : Type} (before same : α → α → Bool) (items : List α) : Least α :=
  match items.mergeSort before with
  | [] => .none
  | [first] => .one first
  | first :: second :: _ => if same first second then .tied else .one first

structure RankedBy {α κ : Type} [LinearOrder κ] (rank : α → κ) (before same : α → α → Bool)
    (items : List α) : Prop where
  before_iff : ∀ a ∈ items, ∀ b ∈ items, before a b = true ↔ rank a ≤ rank b
  same_iff : ∀ a ∈ items, ∀ b ∈ items, same a b = true ↔ rank a = rank b

namespace RankedBy

variable {α κ : Type} [LinearOrder κ] {rank : α → κ} {before same : α → α → Bool}
  {items items' : List α}

/-- The items are sorted by their rank. -/
theorem sorted (h : RankedBy rank before same items) :
    (items.mergeSort before).Pairwise fun a b => rank a ≤ rank b := by
  have hmap : (items.mergeSort before).map rank =
      (items.map rank).mergeSort fun x y => decide (x ≤ y) := by
    refine List.map_mergeSort fun a ha b hb => ?_
    rw [Bool.eq_iff_iff, h.before_iff a ha b hb, decide_eq_true_iff]
  have hpairwise := @List.pairwise_mergeSort κ (fun x y => decide (x ≤ y))
    (fun x y z hxy hyz => decide_eq_true ((of_decide_eq_true hxy).trans (of_decide_eq_true hyz)))
    (fun x y => by
      rw [Bool.or_eq_true, decide_eq_true_iff, decide_eq_true_iff]
      exact le_total x y) (items.map rank)
  rw [← hmap, List.pairwise_map] at hpairwise
  exact hpairwise.imp fun hle => of_decide_eq_true hle

/-- Nothing is found exactly in the empty list. -/
theorem leastOf_eq_none : leastOf before same items = .none ↔ items = [] := by
  have hlength := (List.mergeSort_perm items before).length_eq
  unfold leastOf
  constructor
  · intro hnone
    split at hnone
    · rename_i hsorted
      rw [hsorted] at hlength
      exact List.length_eq_zero_iff.mp hlength.symm
    · cases hnone
    · split at hnone <;> cases hnone
  · rintro rfl
    rw [List.mergeSort_nil]

/-- An item is found exactly when every other item ranks behind it. -/
theorem leastOf_eq_one (h : RankedBy rank before same items) {item : α} :
    leastOf before same items = .one item ↔
      ∃ others, items.Perm (item :: others) ∧ ∀ other ∈ others, rank item < rank other := by
  have hperm := List.mergeSort_perm items before
  have hsorted := h.sorted
  unfold leastOf
  constructor
  · intro hone
    split at hone
    · cases hone
    · rename_i first heq
      obtain rfl := Least.one.inj hone
      rw [heq] at hperm
      exact ⟨[], hperm.symm, by simp⟩
    · rename_i first second rest heq
      rw [heq] at hperm hsorted
      split at hone
      · cases hone
      · rename_i hsame
        obtain rfl := Least.one.inj hone
        have hmem : first ∈ items ∧ second ∈ items :=
          ⟨hperm.mem_iff.mp (by simp), hperm.mem_iff.mp (by simp)⟩
        have hfirst := List.pairwise_cons.mp hsorted
        have hsecond := List.pairwise_cons.mp hfirst.2
        have hlt : rank first < rank second := lt_of_le_of_ne
          (hfirst.1 second List.mem_cons_self) fun heq =>
            hsame ((h.same_iff _ hmem.1 _ hmem.2).mpr heq)
        refine ⟨second :: rest, hperm.symm, List.forall_mem_cons.mpr ⟨hlt, ?_⟩⟩
        exact fun other hother => hlt.trans_le (hsecond.1 other hother)
  · rintro ⟨others, hothers, hbehind⟩
    have hall : ∀ other ∈ items, rank item ≤ rank other := by
      intro other hother
      rcases List.mem_cons.mp (hothers.mem_iff.mp hother) with rfl | hmem
      · exact le_rfl
      · exact (hbehind other hmem).le
    have hunique : ∀ other ∈ items, rank other ≤ rank item → other = item := by
      intro other hother hle
      rcases List.mem_cons.mp (hothers.mem_iff.mp hother) with rfl | hmem
      · rfl
      · exact absurd hle (not_le.mpr (hbehind other hmem))
    have hmem : item ∈ items.mergeSort before :=
      hperm.mem_iff.mpr (hothers.mem_iff.mpr List.mem_cons_self)
    split
    · rename_i heq
      rw [heq] at hmem
      cases hmem
    · rename_i first heq
      rw [heq] at hmem
      rw [List.mem_singleton.mp hmem]
    · rename_i first second rest heq
      rw [heq] at hmem hperm hsorted
      have hfirst : first = item := by
        refine hunique first (hperm.mem_iff.mp List.mem_cons_self) ?_
        rcases List.mem_cons.mp hmem with rfl | hlater
        · exact le_rfl
        · exact (List.pairwise_cons.mp hsorted).1 item hlater
      subst hfirst
      have hrest := ((hperm.trans hothers).cons_inv).mem_iff.mp
        (List.mem_cons_self (a := second) (l := rest))
      have hdiffers : same first second = false := by
        rw [Bool.eq_false_iff, Ne, h.same_iff first (hothers.mem_iff.mpr List.mem_cons_self) second
          (hothers.mem_iff.mpr (List.mem_cons_of_mem _ hrest))]
        exact (hbehind second hrest).ne
      rw [hdiffers]
      rfl

theorem perm (h : RankedBy rank before same items) (hperm : items.Perm items') :
    RankedBy rank before same items' where
  before_iff a ha b hb := h.before_iff a (hperm.mem_iff.mpr ha) b (hperm.mem_iff.mpr hb)
  same_iff a ha b hb := h.same_iff a (hperm.mem_iff.mpr ha) b (hperm.mem_iff.mpr hb)

/-- What is found does not depend on the order of the items. -/
theorem leastOf_perm (h : RankedBy rank before same items) (hperm : items.Perm items') :
    leastOf before same items = leastOf before same items' := by
  cases hleft : leastOf before same items with
  | none =>
      rw [leastOf_eq_none] at hleft
      subst hleft
      exact (leastOf_eq_none.mpr hperm.nil_eq.symm).symm
  | one item =>
      obtain ⟨others, hothers, hbehind⟩ := h.leastOf_eq_one.mp hleft
      exact ((h.perm hperm).leastOf_eq_one.mpr ⟨others, hperm.symm.trans hothers, hbehind⟩).symm
  | tied =>
      cases hright : leastOf before same items' with
      | tied => rfl
      | none =>
          rw [leastOf_eq_none] at hright
          subst hright
          rw [leastOf_eq_none.mpr hperm.eq_nil] at hleft
          cases hleft
      | one item =>
          obtain ⟨others, hothers, hbehind⟩ := (h.perm hperm).leastOf_eq_one.mp hright
          rw [h.leastOf_eq_one.mpr ⟨others, hperm.trans hothers, hbehind⟩] at hleft
          cases hleft

/-- Items of different ranks are not tied. -/
theorem leastOf_ne_tied (h : RankedBy rank before same items)
    (hdistinct : items.Pairwise fun a b => rank a ≠ rank b) :
    leastOf before same items ≠ .tied := by
  intro htied
  unfold leastOf at htied
  split at htied
  · cases htied
  · cases htied
  · rename_i first second rest hsorted
    have hperm := List.mergeSort_perm items before
    have hpairwise := (hperm.pairwise_iff Ne.symm).mpr hdistinct
    rw [hsorted] at hperm hpairwise
    have hne := (List.pairwise_cons.mp hpairwise).1 second List.mem_cons_self
    split at htied
    · rename_i hsame
      exact hne ((h.same_iff first (hperm.mem_iff.mp (by simp)) second
        (hperm.mem_iff.mp (by simp))).mp hsame)
    · cases htied

end RankedBy

/-! ## Ranks made of comparisons -/

structure ComparesBy {α κ : Type} [LinearOrder κ] (rank : α → κ) (order : α → α → Ordering)
    (items : List α) : Prop where
  lt_iff : ∀ a ∈ items, ∀ b ∈ items, order a b = .lt ↔ rank a < rank b
  eq_iff : ∀ a ∈ items, ∀ b ∈ items, order a b = .eq ↔ rank a = rank b

namespace ComparesBy

variable {α κ κ' : Type} [LinearOrder κ] [LinearOrder κ'] {rank : α → κ} {rank' : α → κ'}
  {order order' : α → α → Ordering} {items : List α}

/-- A comparison that is that of a rank finds the least item by it. -/
theorem ranked (h : ComparesBy rank order items) :
    RankedBy rank (fun a b => (order a b).isLE) (fun a b => decide (order a b = .eq)) items where
  before_iff a ha b hb := by
    rw [le_iff_lt_or_eq, ← h.lt_iff a ha b hb, ← h.eq_iff a ha b hb]
    cases order a b <;> simp
  same_iff a ha b hb := by rw [decide_eq_true_iff, h.eq_iff a ha b hb]

/-- A comparison with a second one for equal items is that of both ranks. -/
theorem andThen (h : ComparesBy rank order items) (h' : ComparesBy rank' order' items) :
    ComparesBy (fun a => toLex (rank a, rank' a)) (fun a b => (order a b).then (order' a b))
      items where
  lt_iff a ha b hb := by
    rw [Ordering.then_eq_lt, h.lt_iff a ha b hb, h.eq_iff a ha b hb, h'.lt_iff a ha b hb,
      Prod.Lex.toLex_lt_toLex]
  eq_iff a ha b hb := by
    rw [Ordering.then_eq_eq, h.eq_iff a ha b hb, h'.eq_iff a ha b hb,
      EmbeddingLike.apply_eq_iff_eq, Prod.mk.injEq]

theorem of_compare (rank : α → κ) (items : List α) :
    ComparesBy rank (fun a b => compare (rank a) (rank b)) items where
  lt_iff _ _ _ _ := compare_lt_iff_lt
  eq_iff _ _ _ _ := compare_eq_iff_eq

end ComparesBy

end Foundation
