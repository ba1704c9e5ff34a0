import AlphaDecay.Foundation.Dict

/-!
# Views of dictionaries

The part of a dictionary under some keys, and a dictionary with a default under some keys. What is
read of each is said by one equation: `get_pick` and `get_setDefaults`.
-/

namespace Foundation.Dict

variable {Key Value : Type} [DecidableEq Key]

/-- The part of a dictionary under some keys, in their order. -/
def pick (keys : List Key) (source : Dict Key Value) : Dict Key Value :=
  keys.foldl (fun picked key => (source.get key).elim picked (picked.set key)) empty

/-- Set the value of a key that is not present. -/
def setDefault (d : Dict Key Value) (key : Key) (value : Value) : Dict Key Value :=
  if (d.get key).isSome then d else d.set key value

/-- Set the values of the keys that are not present. -/
def setDefaults (d : Dict Key Value) (keys : List Key) (value : Value) : Dict Key Value :=
  keys.foldl (fun d key => d.setDefault key value) d

/-- Picking more keys adds their values. -/
theorem get_foldl_pick (keys : List Key) (source picked : Dict Key Value) (k : Key) :
    (keys.foldl (fun picked key => (source.get key).elim picked (picked.set key)) picked).get k =
      if k ∈ keys then (source.get k).or (picked.get k) else picked.get k := by
  induction keys generalizing picked with
  | nil => simp
  | cons key keys ih =>
      rw [List.foldl_cons, ih]
      have hnext : ((source.get key).elim picked (picked.set key)).get k =
          if key = k then (source.get k).or (picked.get k) else picked.get k := by
        by_cases hkey : key = k
        · subst hkey
          cases hget : source.get key <;> simp
        · cases hget : source.get key <;> simp [hkey]
      rw [hnext]
      by_cases hkey : key = k
      · subst hkey
        cases source.get key <;> simp
      · simp [hkey, Ne.symm hkey]

@[simp] theorem get_pick (keys : List Key) (source : Dict Key Value) (k : Key) :
    (pick keys source).get k = if k ∈ keys then source.get k else none := by
  rw [pick, get_foldl_pick]
  simp

/-- A default is under its key when nothing else was. -/
theorem get_setDefault (d : Dict Key Value) (key k : Key) (value : Value) :
    (d.setDefault key value).get k = if key = k then (d.get k).or (some value) else d.get k := by
  unfold setDefault
  by_cases hkey : key = k
  · subst hkey
    cases hget : d.get key with
    | none => simp
    | some old => simp [hget]
  · cases hget : d.get key <;> simp [hkey]

/-- Defaults are under their keys where nothing else was. -/
@[simp] theorem get_setDefaults (d : Dict Key Value) (keys : List Key) (value : Value) (k : Key) :
    (d.setDefaults keys value).get k =
      (d.get k).or (if k ∈ keys then some value else none) := by
  rw [setDefaults]
  induction keys generalizing d with
  | nil => simp
  | cons key keys ih =>
      rw [List.foldl_cons, ih, get_setDefault]
      by_cases hkey : key = k
      · subst hkey
        cases d.get key <;> simp
      · simp [hkey, Ne.symm hkey]

end Foundation.Dict
