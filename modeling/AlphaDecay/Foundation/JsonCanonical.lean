import AlphaDecay.Foundation.JsonText

/-!
# The canonical text of a document

`sorted` orders the members of every object by their names, and `canonicalText` writes the sorted
document. Two documents that hold the same members in different orders have one canonical text
(`sorted_congr`), and the text determines the sorted document (`loads_canonicalText`).
-/

namespace Foundation.Json

/-- Members of an object in the order of their names. -/
def byName (left right : String × Json) : Prop :=
  left.1 ≤ right.1

instance : DecidableRel byName :=
  fun left right => inferInstanceAs (Decidable (left.1 ≤ right.1))

instance : Std.Total byName :=
  ⟨fun left right => le_total left.1 right.1⟩

instance : IsTrans (String × Json) byName :=
  ⟨fun _ _ _ hleft hright => le_trans hleft hright⟩

mutual

/-- A document with the members of each of its objects in the order of their names. -/
def sorted : Json → Json
  | array items => array (sortedItems items)
  | object members => object ((sortedMembers members).insertionSort byName)
  | null => null
  | bool value => bool value
  | number n => number n
  | text value => text value

/-- The items of an array, each of them sorted. -/
def sortedItems : List Json → List Json
  | [] => []
  | item :: items => sorted item :: sortedItems items

/-- The members of an object in their order, the value of each of them sorted. -/
def sortedMembers : List (String × Json) → List (String × Json)
  | [] => []
  | (key, value) :: members => (key, sorted value) :: sortedMembers members

end

/-- The text of a document with sorted members. -/
def canonicalText (ascii : Bool) (document : Json) : String :=
  dumps ascii (sorted document)

/-! ## What sorting changes -/

/-- A member with its value sorted. -/
def sortedPair (pair : String × Json) : String × Json :=
  (pair.1, sorted pair.2)

theorem sortedItems_eq (items : List Json) : sortedItems items = items.map sorted := by
  induction items with
  | nil => rfl
  | cons item items ih => rw [sortedItems, ih, List.map_cons]

theorem sortedMembers_eq (members : List (String × Json)) :
    sortedMembers members = members.map sortedPair := by
  induction members with
  | nil => rfl
  | cons pair members ih => rw [sortedMembers, ih, List.map_cons, sortedPair]

theorem names_sortedPair (members : List (String × Json)) :
    (members.map sortedPair).map (·.1) = members.map (·.1) := by
  rw [List.map_map]
  rfl

theorem sorted_perm (members : List (String × Json)) :
    ((sortedMembers members).insertionSort byName).Perm (members.map sortedPair) := by
  rw [sortedMembers_eq]
  exact List.perm_insertionSort byName _

variable {left right : List (String × Json)} {document : Json}

/-- Members in two orders with different names are sorted alike. -/
theorem insertionSort_congr (hperm : left.Perm right) (hnames : (left.map (·.1)).Nodup) :
    left.insertionSort byName = right.insertionSort byName := by
  have hboth := (List.perm_insertionSort byName left).trans
    (hperm.trans (List.perm_insertionSort byName right).symm)
  refine List.Perm.eq_of_pairwise (fun a b ha hb hab hba => ?_)
    (List.pairwise_insertionSort byName left) (List.pairwise_insertionSort byName right) hboth
  have hleft : a ∈ left := (List.perm_insertionSort byName left).mem_iff.mp ha
  have hright : b ∈ left :=
    hperm.mem_iff.mpr ((List.perm_insertionSort byName right).mem_iff.mp hb)
  exact List.inj_on_of_nodup_map hnames hleft hright (le_antisymm hab hba)

theorem sorted_congr (hperm : left.Perm right) (hnames : (left.map (·.1)).Nodup) :
    sorted (object left) = sorted (object right) := by
  have hsame : ((left.map sortedPair).map (·.1)).Nodup := by rwa [names_sortedPair]
  rw [sorted, sorted, sortedMembers_eq, sortedMembers_eq,
    insertionSort_congr (hperm.map sortedPair) hsame]

/-- Sorting keeps the names of every object different. -/
theorem Keyed.sorted (h : Keyed document) : Keyed document.sorted := by
  induction h with
  | null => exact .null
  | bool value => exact .bool value
  | number n => exact .number n
  | text value => exact .text value
  | @array items _ ih =>
      rw [Json.sorted, sortedItems_eq]
      refine .array fun item hitem => ?_
      obtain ⟨old, hold, rfl⟩ := List.mem_map.mp hitem
      exact ih old hold
  | @object members hnames _ ih =>
      have hperm := sorted_perm members
      rw [Json.sorted]
      refine .object ?_ fun pair hpair => ?_
      · rw [(hperm.map (·.1)).nodup_iff, names_sortedPair]
        exact hnames
      · obtain ⟨old, hold, rfl⟩ := List.mem_map.mp (hperm.mem_iff.mp hpair)
        exact ih old hold

/-- A sorted document is not changed by sorting it. -/
theorem sorted_sorted (h : Keyed document) : document.sorted.sorted = document.sorted := by
  induction h with
  | null => rfl
  | bool value => rfl
  | number n => rfl
  | text value => rfl
  | @array items _ ih =>
      rw [sorted, sorted, sortedItems_eq, sortedItems_eq, List.map_map]
      exact congrArg array (List.map_congr_left ih)
  | @object members hnames _ ih =>
      have hperm := sorted_perm members
      have hsame : ((sortedMembers members).insertionSort byName).map sortedPair =
          (sortedMembers members).insertionSort byName := by
        refine (List.map_congr_left (g := id) fun pair hpair => ?_).trans (List.map_id _)
        obtain ⟨old, hold, rfl⟩ := List.mem_map.mp (hperm.mem_iff.mp hpair)
        exact congrArg (Prod.mk old.1) (ih old hold)
      rw [sorted, sorted, sortedMembers_eq ((sortedMembers members).insertionSort byName), hsame,
        (List.pairwise_insertionSort byName _).insertionSort_eq]

/-! ## Reading a sorted document -/

variable {members : List (String × Json)}

/-- The member with a name, from the members in any order. -/
theorem member_eq_some {name : String} {value : Json} (hnames : (members.map (·.1)).Nodup) :
    member name members = some value ↔ (name, value) ∈ members := by
  induction members with
  | nil => simp [member]
  | cons pair members ih =>
      obtain ⟨key, document⟩ := pair
      rw [List.map_cons, List.nodup_cons] at hnames
      rw [member]
      by_cases hkey : key = name
      · subst hkey
        have hnot : (key, value) ∉ members := fun hmem =>
          hnames.1 (List.mem_map_of_mem (f := (·.1)) hmem)
        simp [hnot, eq_comm]
      · simp [hkey, ih hnames.2, Ne.symm hkey]

/-- A member of a sorted object is the member of the object, sorted. -/
theorem field_sorted {name : String} (hnames : (members.map (·.1)).Nodup) :
    field name (sorted (object members)) = (member name members).map sorted := by
  have hperm := sorted_perm members
  have hsorted : (((sortedMembers members).insertionSort byName).map (·.1)).Nodup := by
    rw [(hperm.map (·.1)).nodup_iff, names_sortedPair]
    exact hnames
  rw [sorted, field]
  ext value
  rw [member_eq_some hsorted, hperm.mem_iff, Option.map_eq_some_iff, List.mem_map]
  constructor
  · rintro ⟨⟨key, old⟩, hold, hpair⟩
    obtain ⟨rfl, rfl⟩ := Prod.mk.inj hpair
    exact ⟨old, (member_eq_some hnames).mpr hold, rfl⟩
  · rintro ⟨old, hold, rfl⟩
    exact ⟨(name, old), (member_eq_some hnames).mp hold, rfl⟩

/-- A reader that sees the members of an object in any order. -/
def OrderFree {α : Type} (read : Json → Option α) : Prop :=
  ∀ document, Keyed document → read document.sorted = read document

section OrderFree

variable {α β : Type} {read : Json → Option α}

theorem asText_orderFree : OrderFree asText := by
  intro document h
  cases h <;> rfl

theorem asNumber_orderFree : OrderFree asNumber := by
  intro document h
  cases h <;> rfl

theorem asBool_orderFree : OrderFree asBool := by
  intro document h
  cases h <;> rfl

theorem OrderFree.bind (h : OrderFree read) (next : α → Option β) :
    OrderFree fun document => (read document).bind next := by
  intro document hkeyed
  show (read document.sorted).bind next = (read document).bind next
  rw [h document hkeyed]

/-- An optional value is read in any order when the value is. -/
theorem OrderFree.optional (h : OrderFree read) : OrderFree (asOptional read) := by
  intro document hkeyed
  cases hkeyed with
  | null => rfl
  | bool value => exact congrArg (Option.map some) (h _ (.bool value))
  | number n => exact congrArg (Option.map some) (h _ (.number n))
  | text value => exact congrArg (Option.map some) (h _ (.text value))
  | array hitems => exact congrArg (Option.map some) (h _ (.array hitems))
  | object hnames hvalues => exact congrArg (Option.map some) (h _ (.object hnames hvalues))

/-- The items of an array are read in any order when each of them is. -/
theorem OrderFree.items (h : OrderFree read) :
    OrderFree fun document => (asArray document).bind fun items => items.mapM read := by
  intro document hkeyed
  cases hkeyed with
  | null => rfl
  | bool value => rfl
  | number n => rfl
  | text value => rfl
  | object hnames hvalues => rfl
  | @array items hitems =>
      simp only [sorted, asArray_array, Option.bind_some, sortedItems_eq]
      induction items with
      | nil => rfl
      | cons item items ih =>
          rw [List.forall_mem_cons] at hitems
          rw [List.map_cons, List.mapM_cons, List.mapM_cons, h item hitems.1, ih hitems.2]

/-- The value of a field is read in any order when the value is. -/
theorem OrderFree.field (h : OrderFree read) (name : String) :
    OrderFree fun document => (Json.field name document).bind read := by
  intro document hkeyed
  cases hkeyed with
  | null => rfl
  | bool value => rfl
  | number n => rfl
  | text value => rfl
  | array hitems => rfl
  | @object members hnames hvalues =>
      show (Json.field name (sorted (object members))).bind read = (member name members).bind read
      rw [field_sorted hnames]
      cases hmember : member name members with
      | none => rfl
      | some value =>
          exact h value (hvalues (name, value) ((member_eq_some hnames).mp hmember))

/-- Whether a document is an object with no other members than those named. -/
def hasOnly (names : List String) : Json → Bool
  | object members => members.all fun pair => names.contains pair.1
  | _ => false

/-- The names of an object do not depend on the order. -/
theorem hasOnly_sorted (names : List String) (document : Json) :
    hasOnly names document.sorted = hasOnly names document := by
  cases document with
  | object members =>
      rw [sorted, hasOnly, hasOnly, (sorted_perm members).all_eq, List.all_map]
      rfl
  | _ => rfl

end OrderFree

/-! ## Taking members away -/

/-- An object with only the members whose names are kept. -/
def keepMembers (keep : String → Bool) : Json → Json
  | object members => object (members.filter fun pair => keep pair.1)
  | document => document

/-- A document that loses members still names each member once. -/
theorem Keyed.keepMembers {keep : String → Bool} (h : Keyed document) :
    Keyed (document.keepMembers keep) := by
  cases h with
  | null => exact .null
  | bool value => exact .bool value
  | number n => exact .number n
  | text value => exact .text value
  | array hitems => exact .array hitems
  | object hnames hvalues =>
      refine .object ?_ fun pair hpair => hvalues pair (List.mem_of_mem_filter hpair)
      exact hnames.sublist (List.filter_sublist.map _)

/-- Taking members from a sorted document takes them from the document. -/
theorem sorted_keepMembers {keep : String → Bool} (h : Keyed document) :
    (document.sorted.keepMembers keep).sorted = (document.keepMembers keep).sorted := by
  cases h with
  | null => rfl
  | bool value => rfl
  | number n => rfl
  | text value => rfl
  | array hitems => exact sorted_sorted (.array hitems)
  | @object members hnames hvalues =>
      have hkeyed : Keyed (object members) := .object hnames hvalues
      have hperm := (sorted_perm members).filter fun pair => keep pair.1
      have hnames' : (((members.filter fun pair => keep pair.1).map sortedPair).map
          (·.1)).Nodup := by
        rw [names_sortedPair]
        exact hnames.sublist (List.filter_sublist.map _)
      rw [List.filter_map] at hperm
      have hsorted := sorted_congr hperm ((hperm.map (·.1)).nodup_iff.mpr hnames')
      have hpairs := sorted_congr (sorted_perm (members.filter fun pair => keep pair.1))
        (((sorted_perm _).map (·.1)).nodup_iff.mpr hnames')
      rw [sorted, keepMembers, hsorted]
      exact hpairs.symm.trans (sorted_sorted hkeyed.keepMembers)

/-! ## The canonical text -/

section

variable {ascii : Bool} {document other : Json}

theorem loads_canonicalText (h : Keyed document) :
    loads (canonicalText ascii document) = some document.sorted :=
  loads_dumps ascii h.sorted

theorem canonicalText_sorted (h : Keyed document) :
    canonicalText ascii document.sorted = canonicalText ascii document := by
  rw [canonicalText, sorted_sorted h, canonicalText]

theorem sorted_of_canonicalText (h : Keyed document) (hother : Keyed other)
    (htext : canonicalText ascii document = canonicalText ascii other) :
    document.sorted = other.sorted := by
  have hread := @loads_canonicalText ascii document h
  rw [htext, loads_canonicalText hother] at hread
  exact (Option.some.inj hread).symm

/-- Documents have one canonical text when they are sorted alike. -/
theorem canonicalText_eq_iff (h : Keyed document) (hother : Keyed other) :
    canonicalText ascii document = canonicalText ascii other ↔ document.sorted = other.sorted :=
  ⟨sorted_of_canonicalText h hother, congrArg (dumps ascii)⟩

end

/-! ## Objects with the same names -/

/-- Lists of members with the same different names are equal when one has the members of the
other. -/
theorem members_eq (hnames : (left.map (·.1)).Nodup) (hsame : left.map (·.1) = right.map (·.1))
    (hmem : ∀ pair ∈ left, pair ∈ right) : left = right := by
  induction left generalizing right with
  | nil => exact (List.map_eq_nil_iff.mp hsame.symm).symm
  | cons pair left ih =>
      cases right with
      | nil => cases hsame
      | cons other right =>
          obtain ⟨hname, hsame⟩ := List.cons.inj hsame
          obtain ⟨hfresh, hnames⟩ := List.nodup_cons.mp hnames
          have hpair : pair = other := by
            refine (List.mem_cons.mp (hmem pair List.mem_cons_self)).resolve_right fun hlater => ?_
            exact hfresh (hsame ▸ List.mem_map_of_mem hlater)
          refine congrArg₂ _ hpair (ih hnames hsame fun member hmember => ?_)
          refine (List.mem_cons.mp (hmem member (List.mem_cons_of_mem _ hmember))).resolve_left ?_
          rintro rfl
          exact hfresh (hpair ▸ List.mem_map_of_mem hmember)

/-- Objects with the same names are sorted alike when their members are, one by one. -/
theorem sorted_object_iff (hnames : (left.map (·.1)).Nodup)
    (hsame : left.map (·.1) = right.map (·.1)) :
    sorted (object left) = sorted (object right) ↔ left.map sortedPair = right.map sortedPair := by
  constructor
  · intro h
    rw [sorted, sorted, object.injEq] at h
    have hperm := (sorted_perm left).symm.trans (h ▸ sorted_perm right)
    refine members_eq ?_ ?_ fun pair hpair => hperm.mem_iff.mp hpair
    · rwa [names_sortedPair]
    · rwa [names_sortedPair, names_sortedPair]
  · intro h
    rw [sorted, sorted, sortedMembers_eq, sortedMembers_eq, h]

end Foundation.Json
