import Mathlib.Data.List.Induction
import Mathlib.Data.List.Nodup

/-!
# Dictionaries in insertion order

A dictionary is a list of entries with distinct keys. Setting a key that is present replaces its
value in place and setting a new key appends an entry, so that the values come back in the order
in which their keys were first set.
-/

namespace Foundation

/-! ## The last value of a key -/

/-- The last value of a list with a key: what a dictionary built from the list has under it. -/
def lastByKey {α κ : Type} [DecidableEq κ] (key : α → κ) (items : List α) (k : κ) : Option α :=
  (items.filter fun item => key item = k).getLast?

section LastByKey

variable {α κ : Type} [DecidableEq κ] {key : α → κ} {items : List α} {k : κ}

theorem lastByKey_append (items : List α) (item : α) (k : κ) :
    lastByKey key (items ++ [item]) k = if key item = k then some item else lastByKey key
      items k := by
  rw [lastByKey, List.filter_append]
  by_cases h : key item = k <;> simp [h, lastByKey]

theorem lastByKey_eq_none (h : ∀ item ∈ items, key item ≠ k) : lastByKey key items k = none := by
  rw [lastByKey, List.filter_eq_nil_iff.mpr (by simpa using h), List.getLast?_nil]

/-- The only value with a key is the last one with it. -/
theorem lastByKey_eq_some {value : α} (hmem : value ∈ items) (hkey : key value = k)
    (hunique : ∀ item ∈ items, key item = k → item = value) :
    lastByKey key items k = some value := by
  cases hlast : lastByKey key items k with
  | none =>
      have hin : value ∈ items.filter fun item => key item = k := by simp [hmem, hkey]
      rw [List.getLast?_eq_none_iff.mp hlast] at hin
      cases hin
  | some found =>
      have hfound := List.mem_filter.mp (List.mem_of_getLast? hlast)
      rw [hunique found hfound.1 (by simpa using hfound.2)]

/-- The order of values with distinct keys does not matter for what is last under a key. -/
theorem lastByKey_eq_of_perm {items' : List α} (hdistinct : (items.map key).Nodup)
    (hperm : items.Perm items') (k : κ) : lastByKey key items k = lastByKey key items' k := by
  by_cases hpresent : ∃ value ∈ items, key value = k
  · obtain ⟨value, hmem, hkey⟩ := hpresent
    have hunique : ∀ item ∈ items, key item = k → item = value := fun item hitem hk =>
      List.inj_on_of_nodup_map hdistinct hitem hmem (hk.trans hkey.symm)
    rw [lastByKey_eq_some hmem hkey hunique, lastByKey_eq_some (hperm.mem_iff.mp hmem) hkey
      fun item hitem => hunique item (hperm.mem_iff.mpr hitem)]
  · push Not at hpresent
    rw [lastByKey_eq_none hpresent,
      lastByKey_eq_none fun item hitem => hpresent item (hperm.mem_iff.mpr hitem)]

theorem lastByKey_map {β : Type} {f : α → β} {key' : β → κ}
    (hkey : ∀ item, key' (f item) = key item)
    (items : List α) (k : κ) : lastByKey key' (items.map f) k = (lastByKey key items k).map f := by
  rw [lastByKey, lastByKey, List.filter_map, List.getLast?_map]
  simp only [Function.comp_def, hkey]

end LastByKey

/-! ## Dictionaries -/

/-- A dictionary: entries with distinct keys, in insertion order. -/
structure Dict (Key Value : Type) where
  entries : List (Key × Value)
  distinct : (entries.map Prod.fst).Nodup

namespace Dict

variable {Key Value : Type}

def empty : Dict Key Value :=
  ⟨[], List.nodup_nil⟩

/-- The values in insertion order. -/
def values (d : Dict Key Value) : List Value :=
  d.entries.map Prod.snd

variable [DecidableEq Key]

/-- The value of a key in a list of entries. -/
def find (key : Key) : List (Key × Value) → Option Value
  | [] => none
  | (k, v) :: rest => if k = key then some v else find key rest

def get (d : Dict Key Value) (key : Key) : Option Value :=
  find key d.entries

/-- A list of entries with the value of a key set. -/
def put (key : Key) (value : Value) : List (Key × Value) → List (Key × Value)
  | [] => [(key, value)]
  | (k, v) :: rest => if k = key then (key, value) :: rest else (k, v) :: put key value rest

variable {key : Key} {value : Value} {d : Dict Key Value}

variable {entries : List (Key × Value)}

/-- The keys after setting one. -/
theorem mem_keys_put {k : Key} :
    k ∈ (put key value entries).map Prod.fst ↔ k = key ∨ k ∈ entries.map Prod.fst := by
  induction entries with
  | nil => simp [put]
  | cons entry rest ih =>
      obtain ⟨k', v⟩ := entry
      rw [put]
      split
      · rename_i heq
        subst heq
        simp
      · rw [List.map_cons, List.mem_cons, ih, List.map_cons, List.mem_cons]
        tauto

/-- Setting a key keeps the keys distinct. -/
theorem nodup_put (h : (entries.map Prod.fst).Nodup) :
    ((put key value entries).map Prod.fst).Nodup := by
  induction entries with
  | nil => simp [put]
  | cons entry rest ih =>
      obtain ⟨k, v⟩ := entry
      rw [List.map_cons, List.nodup_cons] at h
      rw [put]
      split
      · rename_i heq
        subst heq
        simpa using h
      · rename_i hne
        rw [List.map_cons, List.nodup_cons]
        refine ⟨?_, ih h.2⟩
        rw [mem_keys_put]
        rintro (heq | hmem)
        · exact hne heq
        · exact h.1 hmem

def set (d : Dict Key Value) (key : Key) (value : Value) : Dict Key Value :=
  ⟨put key value d.entries, nodup_put d.distinct⟩

/-- Remove a key, present or not. -/
def pop (d : Dict Key Value) (key : Key) : Dict Key Value :=
  ⟨d.entries.filter fun entry => entry.1 ≠ key,
    (List.filter_sublist.map Prod.fst).nodup d.distinct⟩

/-- The dictionary of a list of values under a key. -/
def ofList (key : Value → Key) (items : List Value) : Dict Key Value :=
  items.foldl (fun d item => d.set (key item) item) empty

/-- The value of a key after setting one. -/
@[simp] theorem get_set (d : Dict Key Value) (key k : Key) (value : Value) :
    (d.set key value).get k = if key = k then some value else d.get k := by
  obtain ⟨entries, distinct⟩ := d
  simp only [get, set]
  clear distinct
  induction entries with
  | nil => simp [put, find]
  | cons entry rest ih =>
      obtain ⟨k', v⟩ := entry
      rw [put]
      by_cases hk : k' = key
      · subst hk
        by_cases hkey : k' = k <;> simp [find, hkey]
      · by_cases hkey : k' = k
        · subst hkey
          simp [find, hk, Ne.symm hk]
        · simp [find, hk, hkey, ih]

/-- The value of a key after removing one. -/
@[simp] theorem get_pop (d : Dict Key Value) (key k : Key) :
    (d.pop key).get k = if key = k then none else d.get k := by
  obtain ⟨entries, distinct⟩ := d
  simp only [get, pop]
  clear distinct
  induction entries with
  | nil => simp [find]
  | cons entry rest ih =>
      obtain ⟨k', v⟩ := entry
      by_cases hk : k' = key
      · subst hk
        by_cases hkey : k' = k
        · subst hkey
          simpa [List.filter_cons, find] using ih
        · simpa [List.filter_cons, find, hkey] using ih
      · by_cases hkey : k' = k
        · subst hkey
          simp [find, hk, Ne.symm hk]
        · simpa [List.filter_cons, find, hk, hkey] using ih

@[simp] theorem get_empty (key : Key) : (empty : Dict Key Value).get key = none :=
  rfl

/-- The entries are the keys with their values. -/
theorem mem_entries : (key, value) ∈ d.entries ↔ d.get key = some value := by
  obtain ⟨entries, distinct⟩ := d
  simp only [get]
  induction entries with
  | nil => simp [find]
  | cons entry rest ih =>
      obtain ⟨k, v⟩ := entry
      rw [List.map_cons, List.nodup_cons] at distinct
      rw [List.mem_cons, Prod.mk.injEq, ih distinct.2, find]
      by_cases hk : k = key
      · subst hk
        have hnone : find k rest ≠ some value := by
          intro hfound
          exact distinct.1 (List.mem_map.mpr ⟨(k, value), (ih distinct.2).mpr hfound, rfl⟩)
        simp [hnone, eq_comm]
      · simp [hk, Ne.symm hk]

theorem mem_values : value ∈ d.values ↔ ∃ key, d.get key = some value := by
  simp only [values, List.mem_map, Prod.exists, exists_eq_right, mem_entries]

/-- Setting a new key appends its entry. -/
theorem entries_set_of_new (h : d.get key = none) :
    (d.set key value).entries = d.entries ++ [(key, value)] := by
  obtain ⟨entries, distinct⟩ := d
  simp only [get, set] at h ⊢
  clear distinct
  induction entries with
  | nil => rfl
  | cons entry rest ih =>
      obtain ⟨k, v⟩ := entry
      rw [find] at h
      by_cases hk : k = key
      · simp [hk] at h
      · rw [if_neg hk] at h
        rw [put, if_neg hk, ih h, List.cons_append]

theorem values_set_of_new (h : d.get key = none) :
    (d.set key value).values = d.values ++ [value] := by
  simp [values, entries_set_of_new h]

/-- Setting a key that is present changes its value in place. -/
theorem values_set_of_mem {old : Value} (h : d.get key = some old) :
    ∃ before after, d.values = before ++ old :: after ∧
      ∀ value, (d.set key value).values = before ++ value :: after := by
  obtain ⟨entries, distinct⟩ := d
  simp only [get, set, values] at h ⊢
  clear distinct
  induction entries with
  | nil => simp [find] at h
  | cons entry rest ih =>
      obtain ⟨k, v⟩ := entry
      rw [find] at h
      by_cases hk : k = key
      · rw [if_pos hk, Option.some.injEq] at h
        refine ⟨[], rest.map Prod.snd, by simp [h], fun value => ?_⟩
        simp [put, hk]
      · rw [if_neg hk] at h
        obtain ⟨before, after, hbefore, hset⟩ := ih h
        refine ⟨v :: before, after, by simp [hbefore], fun value => ?_⟩
        simp [put, hk, hset value]

/-! ## Dictionaries of a list -/

/-- Every value stands under its own key. -/
def Keyed (key : Value → Key) (d : Dict Key Value) : Prop :=
  ∀ k value, d.get k = some value → key value = k

variable {key : Value → Key} {d : Dict Key Value}

theorem keyed_empty : Keyed key (empty : Dict Key Value) := by
  intro k value h
  simp at h

/-- Setting a value under its own key keeps a dictionary keyed. -/
theorem Keyed.set (h : Keyed key d) {k : Key} {value : Value} (hkey : key value = k) :
    Keyed key (d.set k value) := by
  intro k' found hget
  rw [get_set] at hget
  split at hget
  · rename_i heq
    rw [← Option.some.inj hget, hkey, heq]
  · exact h k' found hget

/-- Removing a key keeps a dictionary keyed. -/
theorem Keyed.pop (h : Keyed key d) (k : Key) : Keyed key (d.pop k) := by
  intro k' found hget
  rw [get_pop] at hget
  split at hget
  · cases hget
  · exact h k' found hget

theorem ofList_append (items : List Value) (item : Value) :
    ofList key (items ++ [item]) = (ofList key items).set (key item) item := by
  simp [ofList]

theorem keyed_ofList (items : List Value) : Keyed key (ofList key items) := by
  induction items using List.reverseRecOn with
  | nil => exact keyed_empty
  | append_singleton items item ih =>
      rw [ofList_append]
      exact ih.set rfl

theorem get_ofList (items : List Value) (k : Key) :
    (ofList key items).get k = lastByKey key items k := by
  induction items using List.reverseRecOn with
  | nil => simp [ofList, lastByKey]
  | append_singleton items item ih =>
      rw [ofList_append, get_set, ih, lastByKey_append]

/-- The dictionary of a list without a repeated key has the values of the list in order. -/
theorem values_ofList {items : List Value} (h : (items.map key).Nodup) :
    (ofList key items).values = items := by
  induction items using List.reverseRecOn with
  | nil => rfl
  | append_singleton items item ih =>
      rw [List.map_append, List.nodup_append] at h
      have hnew : (ofList key items).get (key item) = none := by
        rw [get_ofList]
        refine lastByKey_eq_none fun other hother heq => ?_
        exact h.2.2 (key other) (List.mem_map_of_mem hother) (key item)
          (List.mem_singleton_self _) heq
      rw [ofList_append, values_set_of_new hnew, ih h.1]

/-- The values of a keyed dictionary, in any order, are found under their keys. -/
theorem Keyed.lastByKey_values (h : Keyed key d) {items : List Value}
    (hitems : items.Perm d.values) (k : Key) : lastByKey key items k = d.get k := by
  cases hget : d.get k with
  | none =>
      refine lastByKey_eq_none fun value hmem hkey => ?_
      obtain ⟨k', hfound⟩ := mem_values.mp (hitems.mem_iff.mp hmem)
      rw [h k' value hfound] at hkey
      rw [hkey, hget] at hfound
      cases hfound
  | some value =>
      refine lastByKey_eq_some (hitems.mem_iff.mpr (mem_values.mpr ⟨k, hget⟩)) (h k value hget) ?_
      intro other hmem hkey
      obtain ⟨k', hfound⟩ := mem_values.mp (hitems.mem_iff.mp hmem)
      rw [h k' other hfound] at hkey
      rw [hkey, hget] at hfound
      exact (Option.some.inj hfound).symm

/-- The values of a keyed dictionary have distinct keys. -/
theorem Keyed.nodup_values (h : Keyed key d) : (d.values.map key).Nodup := by
  have hkeys : d.values.map key = d.entries.map Prod.fst := by
    rw [values, List.map_map]
    refine List.map_congr_left fun entry hmem => ?_
    exact h entry.1 entry.2 (mem_entries.mp hmem)
  rw [hkeys]
  exact d.distinct

end Dict

end Foundation
