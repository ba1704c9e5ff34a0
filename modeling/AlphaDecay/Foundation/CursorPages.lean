import Mathlib.Data.List.Basic
import Mathlib.Data.List.Nodup
import Mathlib.Tactic.Ring

/-!
# Cursor pages

A list is served in pages of a fixed size, each starting behind the element whose key is the cursor,
and read page by page until one is shorter than the size or a limit of pages is reached.
`readPages_served` says that reading the pages of a list with distinct keys takes its elements one
after another, up to what the pages hold, and then ends or raises by the length of the list alone.
-/

namespace Foundation.CursorPages

variable {α κ σ ε : Type} [DecidableEq κ]

/-- The elements behind the one with a key, or all of them without a key. -/
def behind (key : α → κ) (items : List α) : Option κ → List α
  | none => items
  | some cursor => (items.dropWhile fun item => key item ≠ cursor).drop 1

def servedPage (key : α → κ) (size : Nat) (items : List α) (cursor : Option κ) : List α :=
  (behind key items cursor).take size

/-- What a reader of pages raises: a cursor that comes back, and more pages than allowed. -/
structure PageFailures (ε : Type) where
  loop : ε
  limit : ε

/-- The cursor behind a full page: the key of its last element, which may neither be blank nor have
been a cursor before. A short page has none. -/
def nextCursor (key : α → κ) (blank : κ → Bool) (size : Nat) (failures : PageFailures ε)
    (seen : List κ) (items : List α) : Except ε (Option κ) :=
  if items.length < size then .ok none
  else match items.getLast? with
    | none => .error failures.loop
    | some last =>
        if blank (key last) || decide (key last ∈ seen) then .error failures.loop
        else .ok (some (key last))

/-- Read pages until one is short, and count them. -/
def readPages (key : α → κ) (blank : κ → Bool) (size : Nat) (failures : PageFailures ε)
    (fetch : Option κ → Except ε (List α)) (take : σ → α → Except ε σ) :
    Nat → Nat → σ → List κ → Option κ → Except ε (σ × Nat)
  | 0, _, _, _, _ => .error failures.limit
  | pages + 1, index, state, seen, cursor => do
      let items ← fetch cursor
      let next ← items.foldlM take state
      let token ← nextCursor key blank size failures seen items
      match token with
      | none => return (next, index + 1)
      | some token =>
          readPages key blank size failures fetch take pages (index + 1) next (token :: seen)
            (some token)

/-- What is behind the last element of a part of a list with distinct keys is the rest. -/
theorem behind_getLast {key : α → κ} {front rest : List α} {last : α}
    (hdistinct : ((front ++ rest).map key).Nodup) (hlast : front.getLast? = some last) :
    behind key (front ++ rest) (some (key last)) = rest := by
  obtain ⟨before, rfl⟩ := List.getLast?_eq_some_iff.mp hlast
  have hnew : ∀ item ∈ before, key item ≠ key last := by
    rw [List.append_assoc, List.map_append, List.nodup_append] at hdistinct
    intro item hitem
    exact hdistinct.2.2 _ (List.mem_map_of_mem hitem) _ (by simp)
  have hskip : (before ++ [last] ++ rest).dropWhile (fun item => key item ≠ key last) =
      last :: rest := by
    rw [List.append_assoc, List.dropWhile_append_of_pos]
    · simp
    · intro item hitem
      exact decide_eq_true (hnew item hitem)
  rw [behind, hskip]
  rfl

/-- The cursor behind a part of a list. -/
def cursorOf (key : α → κ) (front : List α) : Option κ :=
  front.getLast?.map key

/-- The page behind a part of a list with distinct keys is the start of the rest. -/
theorem servedPage_cursorOf {key : α → κ} {size : Nat} {front rest : List α}
    (hdistinct : ((front ++ rest).map key).Nodup) :
    servedPage key size (front ++ rest) (cursorOf key front) = rest.take size := by
  unfold servedPage cursorOf
  cases hlast : front.getLast? with
  | none =>
      obtain rfl := List.getLast?_eq_none_iff.mp hlast
      rfl
  | some last => rw [Option.map_some, behind_getLast hdistinct hlast]

/-- The pages behind a part of a list are read as the elements of the rest, one after another, and
end by its length. -/
theorem readPages_behind {key : α → κ} {blank : κ → Bool} {size : Nat} {failures : PageFailures ε}
    {take : σ → α → Except ε σ} (hsize : 0 < size) (pages : Nat) {front rest : List α}
    (hdistinct : ((front ++ rest).map key).Nodup)
    (hnamed : ∀ item ∈ rest, blank (key item) = false) (index : Nat) (state : σ)
    {seen : List κ} (hseen : ∀ cursor ∈ seen, cursor ∈ front.map key) :
    readPages key blank size failures
        (fun cursor => .ok (servedPage key size (front ++ rest) cursor)) take pages index state seen
        (cursorOf key front) =
      (rest.take (pages * size)).foldlM take state >>= fun last =>
        if rest.length < pages * size then .ok (last, index + rest.length / size + 1)
        else .error failures.limit := by
  induction pages generalizing front rest index state seen with
  | zero =>
      rw [readPages, Nat.zero_mul, List.take_zero, List.foldlM_nil, pure_bind,
        if_neg (Nat.not_lt_zero _)]
  | succ pages ih =>
      rw [readPages, servedPage_cursorOf hdistinct]
      show ((rest.take size).foldlM take state >>= _) = _
      by_cases hshort : rest.length < size
      · have hall : rest.length < (pages + 1) * size :=
          hshort.trans_le (Nat.le_mul_of_pos_left size (Nat.succ_pos pages))
        have hlast : nextCursor key blank size failures seen rest = .ok none := if_pos hshort
        rw [List.take_of_length_le hshort.le, List.take_of_length_le hall.le, hlast,
          Nat.div_eq_of_lt hshort]
        simp only [if_pos hall]
        rfl
      · have hfull : (rest.take size).length = size := by
          rw [List.length_take]
          omega
        obtain ⟨last, hlast⟩ : ∃ last, (rest.take size).getLast? = some last := by
          cases hcase : (rest.take size).getLast? with
          | none =>
              rw [List.getLast?_eq_none_iff.mp hcase, List.length_nil] at hfull
              omega
          | some last => exact ⟨last, rfl⟩
        have hmem : last ∈ rest := List.mem_of_mem_take (List.mem_of_getLast? hlast)
        have hnew : key last ∉ seen := by
          intro hold
          rw [List.map_append, List.nodup_append] at hdistinct
          exact hdistinct.2.2 _ (hseen _ hold) _ (List.mem_map_of_mem hmem) rfl
        have htoken : nextCursor key blank size failures seen (rest.take size) =
            .ok (some (key last)) := by
          unfold nextCursor
          rw [if_neg (by omega), hlast]
          simp [hnamed last hmem, hnew]
        have hcursor : cursorOf key (front ++ rest.take size) = some (key last) := by
          rw [cursorOf, List.getLast?_append, hlast]
          rfl
        have hwhole : front ++ rest.take size ++ rest.drop size = front ++ rest := by
          rw [List.append_assoc, List.take_append_drop]
        have hnext : ∀ state, readPages key blank size failures
            (fun cursor => .ok (servedPage key size (front ++ rest) cursor)) take pages (index + 1)
            state (key last :: seen) (some (key last)) =
              ((rest.drop size).take (pages * size)).foldlM take state >>= fun last =>
                if (rest.drop size).length < pages * size then
                  .ok (last, index + 1 + (rest.drop size).length / size + 1)
                else .error failures.limit := by
          intro state
          rw [← hcursor, ← hwhole]
          refine ih ?_ (fun item hitem => hnamed item (List.mem_of_mem_drop hitem)) (index + 1)
            state ?_
          · rwa [hwhole]
          · intro cursor hcursor
            rw [List.map_append, List.mem_append]
            rcases List.mem_cons.mp hcursor with rfl | hold
            · exact .inr (List.mem_map_of_mem (List.mem_of_getLast? hlast))
            · exact .inl (hseen cursor hold)
        have hcount : index + 1 + (rest.drop size).length / size + 1 =
            index + rest.length / size + 1 := by
          rw [List.length_drop, Nat.div_eq_sub_div hsize (show size ≤ rest.length by omega)]
          omega
        have hlimit : (rest.drop size).length < pages * size ↔
            rest.length < (pages + 1) * size := by
          rw [List.length_drop, Nat.add_mul, Nat.one_mul]
          omega
        have htake : rest.take ((pages + 1) * size) =
            rest.take size ++ (rest.drop size).take (pages * size) := by
          rw [Nat.add_mul, Nat.one_mul, Nat.add_comm, List.take_add]
        rw [htake, List.foldlM_append, htoken, bind_assoc]
        simp only [hcount, hlimit] at hnext
        congr 1
        funext state'
        exact hnext state'

/-- The pages of a list with distinct keys are read as its elements, one after another, as far as
the pages go, and end by the length of the list. -/
theorem readPages_served {key : α → κ} {blank : κ → Bool} {size : Nat} {failures : PageFailures ε}
    {take : σ → α → Except ε σ} {items : List α} (hsize : 0 < size)
    (hdistinct : (items.map key).Nodup) (hnamed : ∀ item ∈ items, blank (key item) = false)
    (pages : Nat) (state : σ) :
    readPages key blank size failures (fun cursor => .ok (servedPage key size items cursor)) take
        pages 0 state [] none =
      (items.take (pages * size)).foldlM take state >>= fun last =>
        if items.length < pages * size then .ok (last, items.length / size + 1)
        else .error failures.limit := by
  have hread := @readPages_behind α κ σ ε _ key blank size failures take hsize pages [] items
    hdistinct hnamed 0 state [] (by simp)
  simpa [cursorOf] using hread

end Foundation.CursorPages
