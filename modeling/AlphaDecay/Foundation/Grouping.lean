import Mathlib.Data.List.Sort
import Mathlib.Data.List.SplitBy
import Mathlib.Data.List.Nodup
import Mathlib.Data.List.Perm.Basic

/-!
# Sorting, grouping and chaining by keys

Elements are sorted by a key, put into groups of one key in the order in which the keys first occur,
and cut into chains of elements that join the one before. Each keeps every element once. What is
made of the groups does not depend on the order of the elements where a key tells the elements of a
group apart: `sortedBy_eq_of_perm` and `perm_flatMap_groups`.
-/

namespace Foundation.Grouping

variable {α β κ : Type}

/-! ## Sorting -/

section

variable [LinearOrder κ] {key : α → κ} {items items' : List α}

/-- The elements by a key, with elements of one key in the order that they had. -/
def sortedBy (key : α → κ) (items : List α) : List α :=
  items.insertionSort fun left right => key left ≤ key right

/-- The elements by a key, the largest first, with elements of one key in the order that they
had. -/
def sortedDownBy (key : α → κ) (items : List α) : List α :=
  items.insertionSort fun left right => key right ≤ key left

theorem sortedBy_perm (key : α → κ) (items : List α) : (sortedBy key items).Perm items :=
  List.perm_insertionSort _ items

theorem sortedDownBy_perm (key : α → κ) (items : List α) : (sortedDownBy key items).Perm items :=
  List.perm_insertionSort _ items

/-- Sorted elements have growing keys. -/
theorem sortedBy_pairwise (key : α → κ) (items : List α) :
    (sortedBy key items).Pairwise fun left right => key left ≤ key right := by
  have htotal : Std.Total fun left right : α => key left ≤ key right :=
    ⟨fun left right => le_total (key left) (key right)⟩
  have htrans : IsTrans α fun left right => key left ≤ key right := ⟨fun _ _ _ => le_trans⟩
  exact List.pairwise_insertionSort _ items

theorem sortedBy_ne_nil (h : items ≠ []) : sortedBy key items ≠ [] := by
  intro hnil
  exact h (List.nil_perm.mp (hnil ▸ sortedBy_perm key items))

/-- Elements sorted downwards have falling keys. -/
theorem sortedDownBy_pairwise (key : α → κ) (items : List α) :
    (sortedDownBy key items).Pairwise fun left right => key right ≤ key left := by
  have htotal : Std.Total fun left right : α => key right ≤ key left :=
    ⟨fun left right => le_total (key right) (key left)⟩
  have htrans : IsTrans α fun left right => key right ≤ key left :=
    ⟨fun _ _ _ hfirst hsecond => le_trans hsecond hfirst⟩
  exact List.pairwise_insertionSort _ items

/-- Elements that their keys tell apart are sorted in one way. -/
theorem eq_of_perm_of_sorted (hdistinct : (items.map key).Nodup) (hperm : items.Perm items')
    (hsorted : items.Pairwise fun left right => key left ≤ key right)
    (hsorted' : items'.Pairwise fun left right => key left ≤ key right) : items = items' :=
  List.Perm.eq_of_pairwise
    (fun _ _ hleft hright hle hge => List.inj_on_of_nodup_map hdistinct hleft
      (hperm.mem_iff.mpr hright) (le_antisymm hle hge)) hsorted hsorted' hperm

/-- Elements that their keys tell apart are sorted downwards in one way. -/
theorem eq_of_perm_of_sortedDown (hdistinct : (items.map key).Nodup) (hperm : items.Perm items')
    (hsorted : items.Pairwise fun left right => key right ≤ key left)
    (hsorted' : items'.Pairwise fun left right => key right ≤ key left) : items = items' :=
  List.Perm.eq_of_pairwise
    (fun _ _ hleft hright hge hle => List.inj_on_of_nodup_map hdistinct hleft
      (hperm.mem_iff.mpr hright) (le_antisymm hle hge)) hsorted hsorted' hperm

theorem sortedBy_eq_of_perm (hdistinct : (items.map key).Nodup) (hperm : items.Perm items') :
    sortedBy key items = sortedBy key items' := by
  have hboth := (sortedBy_perm key items).trans (hperm.trans (sortedBy_perm key items').symm)
  exact eq_of_perm_of_sorted
    (((sortedBy_perm key items).map key).nodup_iff.mpr hdistinct) hboth
    (sortedBy_pairwise key items) (sortedBy_pairwise key items')

theorem sortedDownBy_eq_of_perm (hdistinct : (items.map key).Nodup) (hperm : items.Perm items') :
    sortedDownBy key items = sortedDownBy key items' := by
  have hboth := (sortedDownBy_perm key items).trans
    (hperm.trans (sortedDownBy_perm key items').symm)
  exact eq_of_perm_of_sortedDown
    (((sortedDownBy_perm key items).map key).nodup_iff.mpr hdistinct) hboth
    (sortedDownBy_pairwise key items) (sortedDownBy_pairwise key items')

end

/-! ## Groups -/

section

variable [DecidableEq κ] {key : α → κ} {items items' : List α}
variable {groups : List (κ × List α)}

/-- Put an element into the group of its key, or into a new group behind the others. -/
def addToGroup (key : α → κ) : List (κ × List α) → α → List (κ × List α)
  | [], item => [(key item, [item])]
  | (k, group) :: groups, item =>
      if k = key item then (k, group ++ [item]) :: groups
      else (k, group) :: addToGroup key groups item

/-- The groups of elements of one key, in the order in which the keys first occur. -/
def groupsBy (key : α → κ) (items : List α) : List (κ × List α) :=
  items.foldl (addToGroup key) []

/-- The keys of groups with one more element. -/
theorem mem_keys_addToGroup {item : α} {k : κ} :
    k ∈ (addToGroup key groups item).map Prod.fst ↔ k ∈ groups.map Prod.fst ∨ k = key item := by
  induction groups with
  | nil => simp [addToGroup]
  | cons first groups ih =>
      rw [addToGroup]
      split
      · rename_i hsame
        simp only [List.map_cons, List.mem_cons, hsame]
        tauto
      · simp only [List.map_cons, List.mem_cons, ih]
        tauto

/-- Groups keep distinct keys. -/
theorem nodup_keys_addToGroup {item : α} (h : (groups.map Prod.fst).Nodup) :
    ((addToGroup key groups item).map Prod.fst).Nodup := by
  induction groups with
  | nil => simp [addToGroup]
  | cons first groups ih =>
      obtain ⟨hfirst, hrest⟩ := List.nodup_cons.mp h
      rw [addToGroup]
      split
      · exact h
      · rename_i hother
        refine List.nodup_cons.mpr ⟨fun hmem => ?_, ih hrest⟩
        rcases mem_keys_addToGroup.mp hmem with hmem | hsame
        · exact hfirst hmem
        · exact hother hsame

/-- The group of a key with one more element. -/
theorem addToGroup_groups {before : List α} {item : α}
    (hgroups : ∀ entry ∈ groups, entry.2 = before.filter fun other => key other = entry.1)
    (hkeys : ∀ other ∈ before, key other ∈ groups.map Prod.fst)
    (hdistinct : (groups.map Prod.fst).Nodup) :
    ∀ entry ∈ addToGroup key groups item,
      entry.2 = (before ++ [item]).filter fun other => key other = entry.1 := by
  -- the groups behind the one that is looked at are those of the elements with their keys
  suffices hgeneral : ∀ rest : List (κ × List α), (∀ entry ∈ rest, entry.2 =
      before.filter fun other => key other = entry.1) → (rest.map Prod.fst).Nodup →
      (key item ∉ rest.map Prod.fst → ∀ other ∈ before, key other ≠ key item) →
      ∀ entry ∈ addToGroup key rest item,
        entry.2 = (before ++ [item]).filter fun other => key other = entry.1 by
    refine hgeneral groups hgroups hdistinct fun hnew other hother hsame => ?_
    exact hnew (hsame ▸ hkeys other hother)
  intro rest
  induction rest with
  | nil =>
      intro _ _ hnew entry hentry
      obtain rfl := List.mem_singleton.mp hentry
      have hnone : before.filter (fun other => key other = key item) = [] := by
        rw [List.filter_eq_nil_iff]
        intro other hother
        simpa using hnew (by simp) other hother
      simp [List.filter_append, hnone]
  | cons first rest ih =>
      intro hrest hnodup hnew entry hentry
      obtain ⟨hfirst, hnodup⟩ := List.nodup_cons.mp hnodup
      have hkept : ∀ kept ∈ first :: rest, kept.1 ≠ key item →
          kept.2 = (before ++ [item]).filter fun other => key other = kept.1 := by
        intro kept hkeptMem hne
        rw [hrest kept hkeptMem, List.filter_append]
        simp [Ne.symm hne]
      rw [addToGroup] at hentry
      split at hentry
      · rename_i hsame
        rcases List.mem_cons.mp hentry with rfl | hentry
        · dsimp only
          rw [hrest first (by simp), List.filter_append]
          simp [hsame]
        · refine hkept entry (List.mem_cons_of_mem _ hentry) fun heq => hfirst ?_
          rw [hsame, ← heq]
          exact List.mem_map_of_mem hentry
      · rename_i hother
        rcases List.mem_cons.mp hentry with rfl | hentry
        · exact hkept _ (by simp) hother
        · refine ih (fun kept hkeptMem => hrest kept (List.mem_cons_of_mem _ hkeptMem)) hnodup
            (fun hmem => hnew ?_) entry hentry
          simp only [List.map_cons, List.mem_cons, not_or]
          exact ⟨Ne.symm hother, hmem⟩

/-- The groups of some elements: distinct keys, those of the elements, with the elements of each. -/
structure GroupsOf (key : α → κ) (items : List α) (groups : List (κ × List α)) : Prop where
  distinct : (groups.map Prod.fst).Nodup
  keys : ∀ k, k ∈ groups.map Prod.fst ↔ ∃ item ∈ items, key item = k
  groups : ∀ entry ∈ groups, entry.2 = items.filter fun other => key other = entry.1

/-- The elements are put into their groups. -/
theorem groupsOf_groupsBy (key : α → κ) (items : List α) :
    GroupsOf key items (groupsBy key items) := by
  induction items using List.reverseRecOn with
  | nil => exact ⟨List.nodup_nil, by simp [groupsBy], by simp [groupsBy]⟩
  | append_singleton before item ih =>
      have hstep : groupsBy key (before ++ [item]) = addToGroup key (groupsBy key before) item := by
        simp [groupsBy]
      rw [hstep]
      refine ⟨nodup_keys_addToGroup ih.distinct, fun k => ?_, addToGroup_groups ih.groups
        (fun other hother => (ih.keys _).mpr ⟨other, hother, rfl⟩) ih.distinct⟩
      rw [mem_keys_addToGroup, ih.keys]
      simp only [List.mem_append, List.mem_singleton]
      constructor
      · rintro (⟨other, hother, hkey⟩ | rfl)
        · exact ⟨other, .inl hother, hkey⟩
        · exact ⟨item, .inr rfl, rfl⟩
      · rintro ⟨other, hother | rfl, hkey⟩
        · exact .inl ⟨other, hother, hkey⟩
        · exact .inr hkey.symm

/-- What is made of the groups: of the elements of every key. -/
theorem flatMap_groups (h : GroupsOf key items groups) (make : List α → List β) :
    (groups.flatMap fun entry => make entry.2) =
      (groups.map Prod.fst).flatMap fun k => make (items.filter fun other => key other = k) := by
  rw [List.flatMap_map]
  exact List.flatMap_congr fun entry hentry => by rw [h.groups entry hentry]

/-- Distinct keys with those of the elements cut the elements into parts. -/
theorem flatMap_filter_perm {keys : List κ} (hdistinct : keys.Nodup)
    (hkeys : ∀ item ∈ items, key item ∈ keys) :
    (keys.flatMap fun k => items.filter fun other => key other = k).Perm items := by
  induction keys generalizing items with
  | nil =>
      have hnone : items = [] := List.eq_nil_iff_forall_not_mem.mpr fun item hitem => by
        cases hkeys item hitem
      rw [hnone]
      rfl
  | cons k keys ih =>
      obtain ⟨hnew, hdistinct⟩ := List.nodup_cons.mp hdistinct
      have hrest : (keys.flatMap fun k => items.filter fun other => key other = k) =
          keys.flatMap fun k' => (items.filter fun other => key other ≠ k).filter
            fun other => key other = k' := by
        refine List.flatMap_congr fun k' hk' => ?_
        rw [List.filter_filter]
        refine List.filter_congr fun other _ => ?_
        have hne : k' ≠ k := fun heq => hnew (heq ▸ hk')
        by_cases hsame : key other = k'
        · simp [hsame, hne]
        · simp [hsame]
      rw [List.flatMap_cons, hrest]
      refine ((ih hdistinct fun item hitem => ?_).append_left _).trans ?_
      · obtain ⟨hitem, hne⟩ := List.mem_filter.mp hitem
        exact (List.mem_cons.mp (hkeys item hitem)).resolve_left (of_decide_eq_true hne)
      · simpa using List.filter_append_perm (fun other => decide (key other = k)) items

theorem groupsBy_perm (key : α → κ) (items : List α) :
    ((groupsBy key items).flatMap Prod.snd).Perm items := by
  have h := groupsOf_groupsBy key items
  have hsplit := flatMap_groups h fun group => group
  rw [show (groupsBy key items).flatMap Prod.snd =
    (groupsBy key items).flatMap fun entry => entry.2 from rfl, hsplit]
  exact flatMap_filter_perm h.distinct fun item hitem => (h.keys _).mpr ⟨item, hitem, rfl⟩

/-- Of what is made of the groups, an element has the key of its group: the elements of one key are
what is made of the group of that key. -/
theorem filter_flatMap_groups (key' : β → κ) {make : List α → List β} (hnone : make [] = [])
    (hmake : ∀ k, ∀ made ∈ make (items.filter fun other => key other = k), key' made = k) (k : κ) :
    (((groupsBy key items).flatMap fun entry => make entry.2).filter
      fun made => key' made = k) = make (items.filter fun other => key other = k) := by
  have h := groupsOf_groupsBy key items
  have hpart : ∀ k', ((make (items.filter fun other => key other = k')).filter
      fun made => key' made = k) =
        if k' = k then make (items.filter fun other => key other = k) else [] := by
    intro k'
    split
    · rename_i hsame
      subst hsame
      rw [List.filter_eq_self]
      exact fun made hmade => decide_eq_true (hmake k' made hmade)
    · rename_i hother
      rw [List.filter_eq_nil_iff]
      intro made hmade
      rw [hmake k' made hmade]
      simpa using hother
  rw [flatMap_groups h, List.filter_flatMap, List.flatMap_congr fun k' _ => hpart k']
  by_cases hk : k ∈ (groupsBy key items).map Prod.fst
  · obtain ⟨before, after, hsplit⟩ := List.append_of_mem hk
    have hdistinct := h.distinct
    rw [hsplit] at hdistinct ⊢
    have hnew := (List.nodup_middle.mp hdistinct).notMem
    have hzero : ∀ keys : List κ, k ∉ keys → (keys.flatMap fun k' =>
        if k' = k then make (items.filter fun other => key other = k) else []) = [] := by
      intro keys hkeys
      rw [List.flatMap_eq_nil_iff]
      intro k' hk'
      rw [if_neg]
      rintro rfl
      exact hkeys hk'
    rw [List.flatMap_append, List.flatMap_cons, if_pos rfl,
      hzero before fun hmem => hnew (List.mem_append_left _ hmem),
      hzero after fun hmem => hnew (List.mem_append_right _ hmem), List.nil_append,
      List.append_nil]
  · have hempty : items.filter (fun other => key other = k) = [] := by
      rw [List.filter_eq_nil_iff]
      intro item hitem hkey
      exact hk ((h.keys k).mpr ⟨item, hitem, of_decide_eq_true hkey⟩)
    rw [hempty, hnone, List.flatMap_eq_nil_iff]
    exact fun k' _ => ite_self _

/-- What is made of the groups does not depend on the order of the elements, as far as what is made
of one group does not. -/
theorem perm_flatMap_groups {make : List α → List β} (hperm : items.Perm items')
    (hmake : ∀ k, make (items.filter fun other => key other = k) =
      make (items'.filter fun other => key other = k)) :
    ((groupsBy key items).flatMap fun entry => make entry.2).Perm
      ((groupsBy key items').flatMap fun entry => make entry.2) := by
  have h := groupsOf_groupsBy key items
  have h' := groupsOf_groupsBy key items'
  rw [flatMap_groups h, flatMap_groups h', List.flatMap_congr fun k _ => hmake k]
  refine List.Perm.flatMap_right _ ?_
  rw [List.perm_ext_iff_of_nodup h.distinct h'.distinct]
  intro k
  rw [h.keys, h'.keys]
  exact ⟨fun ⟨item, hitem, hkey⟩ => ⟨item, hperm.mem_iff.mp hitem, hkey⟩,
    fun ⟨item, hitem, hkey⟩ => ⟨item, hperm.mem_iff.mpr hitem, hkey⟩⟩

end

/-! ## Chains -/

variable {joins : α → α → Bool} {flush : List α → List β}

variable {items : List α}

/-- Gather elements as long as each joins the one before, and make something of every such chain. -/
def flushChains (joins : α → α → Bool) (flush : List α → List β) : List α → List α → List β
  | chain, [] => flush chain
  | chain, item :: rest =>
      if chain.getLast?.any fun last => joins last item then
        flushChains joins flush (chain ++ [item]) rest
      else flush chain ++ flushChains joins flush [item] rest

/-- A chain that is gathered is continued by the elements behind it. -/
theorem flushChains_of_chain {chain rest : List α} (hne : chain ≠ [])
    (hchain : chain.IsChain fun left right => joins left right = true) :
    flushChains joins flush chain rest = ((chain ++ rest).splitBy joins).flatMap flush := by
  induction rest generalizing chain with
  | nil => simp [flushChains, List.splitBy_of_isChain hne hchain]
  | cons item rest ih =>
      rw [flushChains]
      cases hlast : chain.getLast? with
      | none => exact absurd (List.getLast?_eq_none_iff.mp hlast) hne
      | some last =>
          by_cases hjoins : joins last item = true
          · rw [if_pos (by simpa using hjoins), ih (by simp), List.append_assoc]
            · rfl
            · refine List.isChain_append.mpr ⟨hchain, List.isChain_singleton _, ?_⟩
              intro x hx y hy
              rw [hlast] at hx
              cases hx
              cases hy
              exact hjoins
          · have hcut : ∀ x ∈ chain.getLast?, joins x item = false := by
              rw [hlast]
              rintro x ⟨⟩
              simpa using hjoins
            rw [if_neg (by simpa using hjoins), List.splitBy_append_cons rest hcut,
              List.splitBy_of_isChain hne hchain, ih (by simp) (List.isChain_singleton _)]
            simp

/-- What is made of the chains of some elements. -/
theorem flushChains_nil (hflush : flush [] = []) (items : List α) :
    flushChains joins flush [] items = (items.splitBy joins).flatMap flush := by
  cases items with
  | nil => simpa [flushChains] using hflush
  | cons item rest =>
      have hchain : [item].IsChain fun left right => joins left right = true :=
        List.isChain_singleton _
      rw [flushChains, List.getLast?_nil, Option.any_none, if_neg Bool.false_ne_true, hflush,
        List.nil_append, flushChains_of_chain (by simp) hchain]
      rfl

/-- What is made of every element alone, in its place. -/
theorem forall₂_flatMap {R : β → α → Prop} {make : α → List β}
    (h : ∀ item ∈ items, ∃ made, make item = [made] ∧ R made item) :
    List.Forall₂ R (items.flatMap make) items := by
  induction items with
  | nil => exact .nil
  | cons item items ih =>
      obtain ⟨made, hmade, hrelated⟩ := h item (by simp)
      rw [List.flatMap_cons, hmade]
      exact .cons hrelated (ih fun other hother => h other (by simp [hother]))

/-- A chain of elements in the places of the elements of a chain. -/
theorem isChain_of_forall₂ {R : β → α → Prop} {S : α → α → Prop} {T : β → β → Prop} {made : List β}
    (h : List.Forall₂ R made items) (hchain : items.IsChain S)
    (hstep : ∀ first second left right, left ∈ items → right ∈ items → R first left →
      R second right → S left right → T first second) : made.IsChain T := by
  induction h with
  | nil => exact List.isChain_nil
  | @cons first left made items hfirst hrest ih =>
      cases hrest with
      | nil => exact List.isChain_singleton _
      | @cons second right made items hsecond hrest =>
          obtain ⟨hjoin, htail⟩ := List.isChain_cons_cons.mp hchain
          refine List.isChain_cons_cons.mpr ⟨hstep _ _ _ _ (by simp) (by simp) hfirst hsecond hjoin,
            ih htail ?_⟩
          intro first second left right hleft hright
          exact hstep first second left right (by simp [hleft]) (by simp [hright])

/-- Elements that do not join the one before are chains of their own. -/
theorem splitBy_eq_singletons (h : items.IsChain fun left right => joins left right = false) :
    items.splitBy joins = items.map fun item => [item] := by
  rw [List.splitBy_eq_iff]
  refine ⟨by rw [← List.flatMap_def, List.flatMap_singleton'], by simp, ?_, ?_⟩
  · simp only [List.mem_map, forall_exists_index, and_imp]
    rintro _ item - rfl
    exact List.isChain_singleton _
  · rw [List.isChain_map]
    exact h.imp fun left right hcut => ⟨by simp, by simp, by simpa using hcut⟩

end Foundation.Grouping
