import Mathlib.Data.List.Forall2

/-!
# Patterns of fixed shapes

A pattern is a sequence of groups, and a group has alternatives, each a shape: the classes of its
characters in turn. A repetition with bounds is a group with a shape for every count. Alternatives
are tried from left to right and given up in the same order, so that `allMatches` lists the ways to
match the start of a text in the order in which a backtracking matcher finds them. `firstMatch` is
the one that it stops at, and `fullMatch` the first that leaves nothing of the text.
-/

namespace Foundation.Pattern

variable {α : Type*}

/-- The classes of the characters of a text in turn. -/
abbrev Shape (α : Type*) := List (α → Bool)

/-- The shapes that a part of a text may have, in order of preference. -/
abbrev Alternatives (α : Type*) := List (Shape α)

def HasShape (shape : Shape α) (text : List α) : Prop :=
  List.Forall₂ (fun holds c => holds c = true) shape text

/-- Split the part off the start of a text that has a shape. -/
def split : Shape α → List α → Option (List α × List α)
  | [], text => some ([], text)
  | _ :: _, [] => none
  | holds :: shape, c :: text =>
      if holds c then (split shape text).map fun way => (c :: way.1, way.2) else none

/-- The ways to go on behind a part, with the part in front of each. -/
def waysAfter (next : List α → List (List (List α) × List α)) :
    Option (List α × List α) → List (List (List α) × List α)
  | none => []
  | some (part, rest) => (next rest).map fun way => (part :: way.1, way.2)

/-- The ways to match the start of a text, with what each leaves of it, in order of preference. -/
def allMatches : List (Alternatives α) → List α → List (List (List α) × List α)
  | [], text => [([], text)]
  | group :: groups, text =>
      group.flatMap fun shape => waysAfter (allMatches groups) (split shape text)

/-- The preferred way to match the start of a text. -/
def firstMatch (groups : List (Alternatives α)) (text : List α) : Option (List (List α) × List α) :=
  (allMatches groups text).head?

/-- The parts of the preferred way to match the whole of a text. -/
def fullMatch (groups : List (Alternatives α)) (text : List α) : Option (List (List α)) :=
  ((allMatches groups text).find? fun way => way.2.isEmpty).map (·.1)

/-- A class, so many times. -/
def times (n : Nat) (holds : α → Bool) : Shape α :=
  List.replicate n holds

def downFrom (last first : Nat) : List Nat :=
  (List.range' first (last + 1 - first)).reverse

/-! ## Shapes -/

variable {text : List α} {parts : List (List α)} {groups : List (Alternatives α)}

/-- The part that is split off has the shape, and is the start of the text. -/
theorem split_eq_some {shape : Shape α} {part rest : List α} :
    split shape text = some (part, rest) ↔ text = part ++ rest ∧ HasShape shape part := by
  induction shape generalizing text part with
  | nil =>
      simp only [split, Option.some.injEq, Prod.mk.injEq, HasShape, List.forall₂_nil_left_iff]
      constructor
      · rintro ⟨rfl, rfl⟩
        exact ⟨rfl, rfl⟩
      · rintro ⟨htext, rfl⟩
        exact ⟨rfl, htext⟩
  | cons holds shape ih =>
      cases text with
      | nil =>
          simp only [split, reduceCtorEq, false_iff, not_and]
          intro htext hshape
          obtain ⟨rfl, -⟩ := List.append_eq_nil_iff.mp htext.symm
          cases hshape
      | cons c text =>
          rw [split]
          constructor
          · intro h
            by_cases hc : holds c = true
            · rw [if_pos hc, Option.map_eq_some_iff] at h
              obtain ⟨⟨part', rest'⟩, hsplit, heq⟩ := h
              obtain ⟨rfl, rfl⟩ := Prod.mk.inj heq
              obtain ⟨rfl, hshape⟩ := ih.mp hsplit
              exact ⟨rfl, .cons hc hshape⟩
            · rw [if_neg hc] at h
              cases h
          · rintro ⟨htext, hshape⟩
            cases hshape with
            | cons hc hshape =>
                obtain ⟨rfl, hrest⟩ := List.cons.inj htext
                rw [if_pos hc, ih.mpr ⟨hrest, hshape⟩]
                rfl

theorem HasShape.length {shape : Shape α} (h : HasShape shape text) : text.length = shape.length :=
  (List.Forall₂.length_eq h).symm

/-- A text has a repeated class exactly when it has that length and all its characters are of the
class. -/
theorem hasShape_times {n : Nat} {holds : α → Bool} :
    HasShape (times n holds) text ↔ text.length = n ∧ ∀ c ∈ text, holds c = true := by
  unfold times HasShape
  induction n generalizing text with
  | zero =>
      simp only [List.replicate_zero, List.forall₂_nil_left_iff, List.length_eq_zero_iff]
      constructor
      · rintro rfl
        exact ⟨rfl, by simp⟩
      · exact fun h => h.1
  | succ n ih =>
      cases text with
      | nil => simp [List.replicate_succ]
      | cons c text =>
          rw [List.replicate_succ, List.forall₂_cons, ih]
          simp only [List.length_cons, Nat.add_right_cancel_iff, List.mem_cons, forall_eq_or_imp]
          tauto

/-- A shape of two parts. -/
theorem hasShape_append {first second : Shape α} :
    HasShape (first ++ second) text ↔
      ∃ front back, text = front ++ back ∧ HasShape first front ∧ HasShape second back := by
  unfold HasShape
  induction first generalizing text with
  | nil =>
      simp only [List.nil_append, List.forall₂_nil_left_iff]
      constructor
      · exact fun h => ⟨[], text, rfl, rfl, h⟩
      · rintro ⟨_, back, rfl, rfl, h⟩
        exact h
  | cons holds first ih =>
      cases text with
      | nil =>
          simp only [List.cons_append]
          constructor
          · rintro ⟨⟩
          · rintro ⟨front, back, htext, hfront, -⟩
            obtain ⟨rfl, -⟩ := List.append_eq_nil_iff.mp htext.symm
            cases hfront
      | cons c text =>
          rw [List.cons_append, List.forall₂_cons, ih]
          constructor
          · rintro ⟨hc, front, back, rfl, hfront, hback⟩
            exact ⟨c :: front, back, rfl, .cons hc hfront, hback⟩
          · rintro ⟨front, back, htext, hfront, hback⟩
            cases hfront with
            | cons hc hfront =>
                obtain ⟨rfl, rfl⟩ := List.cons.inj htext
                exact ⟨hc, _, back, rfl, hfront, hback⟩

theorem mem_downFrom {last first n : Nat} : n ∈ downFrom last first ↔ first ≤ n ∧ n ≤ last := by
  unfold downFrom
  rw [List.mem_reverse, List.mem_range'_1]
  omega

/-! ## Matches -/

/-- The parts of a match have the shapes of their groups. -/
def HasShapes (groups : List (Alternatives α)) (parts : List (List α)) : Prop :=
  List.Forall₂ (fun group part => ∃ shape ∈ group, HasShape shape part) groups parts

/-- The ways to match a text: its start in parts that have the shapes of the groups. -/
theorem mem_allMatches {left : List α} :
    (parts, left) ∈ allMatches groups text ↔
      text = parts.flatten ++ left ∧ HasShapes groups parts := by
  induction groups generalizing text parts with
  | nil =>
      simp only [allMatches, List.mem_singleton, Prod.mk.injEq, HasShapes,
        List.forall₂_nil_left_iff]
      constructor
      · rintro ⟨rfl, rfl⟩
        exact ⟨rfl, rfl⟩
      · rintro ⟨rfl, rfl⟩
        exact ⟨rfl, rfl⟩
  | cons group groups ih =>
      simp only [allMatches, List.mem_flatMap]
      constructor
      · rintro ⟨shape, hshape, hway⟩
        cases hsplit : split shape text with
        | none =>
            rw [hsplit] at hway
            cases hway
        | some first =>
            rw [hsplit] at hway
            obtain ⟨⟨parts', left'⟩, hmatch, heq⟩ := List.mem_map.mp hway
            obtain ⟨rfl, rfl⟩ := Prod.mk.inj heq
            obtain ⟨rfl, hpart⟩ := split_eq_some.mp hsplit
            obtain ⟨hrest, hparts⟩ := ih.mp hmatch
            exact ⟨by simp [hrest], .cons ⟨shape, hshape, hpart⟩ hparts⟩
      · rintro ⟨rfl, hparts⟩
        cases hparts with
        | @cons _ part _ parts hpart hparts =>
            obtain ⟨shape, hshape, hpart⟩ := hpart
            have hsplit : split shape ((part :: parts).flatten ++ left) =
                some (part, parts.flatten ++ left) := split_eq_some.mpr ⟨by simp, hpart⟩
            refine ⟨shape, hshape, ?_⟩
            rw [hsplit]
            exact List.mem_map.mpr ⟨(parts, left), ih.mpr ⟨rfl, hparts⟩, rfl⟩

/-- The whole of a text is matched in parts that have the shapes of the groups. -/
theorem hasShapes_of_fullMatch (h : fullMatch groups text = some parts) :
    text = parts.flatten ∧ HasShapes groups parts := by
  obtain ⟨⟨parts', left⟩, hfound, rfl⟩ := Option.map_eq_some_iff.mp h
  have hempty := List.find?_some hfound
  obtain rfl : left = [] := List.isEmpty_iff.mp hempty
  simpa using mem_allMatches.mp (List.mem_of_find?_eq_some hfound)

/-- A text in parts that have the shapes of the groups is matched. -/
theorem exists_fullMatch (h : HasShapes groups parts) :
    ∃ found, fullMatch groups parts.flatten = some found := by
  have hmem : (parts, []) ∈ allMatches groups parts.flatten :=
    mem_allMatches.mpr ⟨by simp, h⟩
  have hsome : ((allMatches groups parts.flatten).find? fun way => way.2.isEmpty).isSome = true :=
    List.find?_isSome.mpr ⟨_, hmem, rfl⟩
  obtain ⟨way, hway⟩ := Option.isSome_iff_exists.mp hsome
  exact ⟨way.1, by rw [fullMatch, hway]; rfl⟩

/-! ## Preferred matches -/

/-- The alternatives of a group that a text can have become no longer. -/
def LongestFirst (allowed : α → Prop) (group : Alternatives α) : Prop :=
  group.Pairwise fun first second => second.length ≤ first.length ∨
    ∀ part, HasShape second part → ∃ c ∈ part, ¬allowed c

/-- The first alternative that can be continued gives the preferred match. -/
theorem head?_flatMap_of_mem {β γ : Type*} {f : β → List γ} {items : List β} {item : β}
    (hitem : item ∈ items) (hne : f item ≠ []) :
    ∃ before chosen after, items = before ++ chosen :: after ∧ f chosen ≠ [] ∧
      (item = chosen ∨ item ∈ after) ∧ (items.flatMap f).head? = (f chosen).head? := by
  induction items with
  | nil => cases hitem
  | cons first rest ih =>
      by_cases hfirst : f first = []
      · have hrest : item ∈ rest := by
          rcases List.mem_cons.mp hitem with rfl | hrest
          · exact absurd hfirst hne
          · exact hrest
        obtain ⟨before, chosen, after, rfl, hchosen, hplace, hhead⟩ := ih hrest
        refine ⟨first :: before, chosen, after, rfl, hchosen, hplace, ?_⟩
        rw [List.flatMap_cons, hfirst, List.nil_append, hhead]
      · refine ⟨[], first, rest, rfl, hfirst, List.mem_cons.mp hitem, ?_⟩
        rw [List.flatMap_cons, List.head?_append]
        obtain ⟨way, ways, hways⟩ := List.exists_cons_of_ne_nil hfirst
        rw [hways]
        rfl

/-- Where a text is matched by the longest parts that its groups have, with longer alternatives
first, the preferred match is a match of the whole text. -/
theorem firstMatch_of_longest {allowed : α → Prop} (hallowed : ∀ c ∈ parts.flatten, allowed c)
    (hlongest : List.Forall₂ (fun group part =>
      LongestFirst allowed group ∧ (∃ shape ∈ group, HasShape shape part) ∧
        ∀ shape ∈ group, shape.length ≤ part.length) groups parts) :
    firstMatch groups parts.flatten = some (parts, []) := by
  unfold firstMatch
  induction hlongest with
  | nil => rfl
  | @cons group part groups parts hgroup hgroups ih =>
      obtain ⟨hsorted, ⟨shape, hshape, hpart⟩, hbound⟩ := hgroup
      have hrest := ih fun c hc => hallowed c (by simpa using Or.inr hc)
      have hsplit : ∀ other, HasShape other part →
          split other (part :: parts).flatten = some (part, parts.flatten) := fun other hother =>
        split_eq_some.mpr ⟨by simp, hother⟩
      have hways : ∀ other, HasShape other part →
          (waysAfter (allMatches groups) (split other (part :: parts).flatten)).head? =
            some (part :: parts, []) := by
        intro other hother
        rw [hsplit other hother, waysAfter, List.head?_map, hrest]
        rfl
      have hne : waysAfter (allMatches groups) (split shape (part :: parts).flatten) ≠ [] := by
        intro hnil
        have hhead := hways shape hpart
        rw [hnil] at hhead
        cases hhead
      obtain ⟨before, chosen, after, rfl, hchosen, hplace, hhead⟩ :=
        head?_flatMap_of_mem (f := fun shape =>
          waysAfter (allMatches groups) (split shape (part :: parts).flatten)) hshape hne
      rw [allMatches, hhead]
      refine hways chosen ?_
      -- the shape that is chosen is as long as the part, so that it has split off the same part
      cases hcase : split chosen (part :: parts).flatten with
      | none =>
          rw [hcase] at hchosen
          exact absurd rfl hchosen
      | some way =>
          obtain ⟨htext, hpart'⟩ := split_eq_some.mp hcase
          have hlength : chosen.length = part.length := by
            refine Nat.le_antisymm (hbound chosen (by simp)) ?_
            rcases hplace with rfl | hafter
            · exact Nat.le_of_eq hpart.length
            · have horder := List.rel_of_pairwise_cons (List.pairwise_append.mp hsorted).2.1 hafter
              rcases horder with hshorter | hforeign
              · exact Nat.le_trans (Nat.le_of_eq hpart.length) hshorter
              · obtain ⟨c, hc, hnot⟩ := hforeign part hpart
                exact absurd (hallowed c (by simpa using Or.inl hc)) hnot
          rw [List.flatten_cons] at htext
          obtain ⟨hsame, -⟩ := List.append_inj htext (hlength.symm.trans hpart'.length.symm)
          rw [hsame]
          exact hpart'

end Foundation.Pattern
