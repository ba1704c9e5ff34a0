import AlphaDecay.Foundation.JsonCanonical

/-!
# Codecs of documents

A codec writes values as documents and reads documents as values. `Codec.Lawful` says that it writes
no name twice, that it reads members in any order, and that it reads back the values it is meant
for. The codec of a record is put together from those of its fields, and so is its law.
-/

namespace Foundation.Json

/-- A writer of values as documents, with a reader of them. -/
structure Codec (α : Type) where
  write : α → Json
  read : Json → Option α

/-- A writer of values as some members of an object, with a reader of these members. -/
structure Fields (α : Type) where
  names : List String
  write : α → List (String × Json)
  read : Json → Option α

section Laws

variable {α : Type}

/-- What a codec does with the values that it is meant for. -/
structure Codec.Lawful (codec : Codec α) (valid : α → Prop) : Prop where
  keyed : ∀ value, Keyed (codec.write value)
  orderFree : OrderFree codec.read
  reads : ∀ value, valid value → codec.read (codec.write value) = some value

/-- What fields do with the values that they are meant for: they are read back from every object
that has their members. -/
structure Fields.Lawful (fields : Fields α) (valid : α → Prop) : Prop where
  named : ∀ value, (fields.write value).map (·.1) = fields.names
  keyed : ∀ value, ∀ pair ∈ fields.write value, Keyed pair.2
  orderFree : OrderFree fields.read
  reads : ∀ value members, valid value → (members.map (·.1)).Nodup →
    fields.write value ⊆ members → fields.read (object members) = some value

end Laws

/-! ## Plain values -/

namespace Codec

def text : Codec String :=
  ⟨Json.text, asText⟩

def number : Codec Int :=
  ⟨Json.number, asNumber⟩

/-- One text. -/
def literal (expected : String) : Codec Unit :=
  ⟨fun _ => Json.text expected,
    fun document => document.asText.bind fun text => if text = expected then some () else none⟩

variable {α β : Type}

def named (name : α → String) (ofName : String → Option α) : Codec α :=
  ⟨fun value => Json.text (name value), fun document => document.asText.bind ofName⟩

/-- Values that may be missing, which are written as null then. -/
def optional (codec : Codec α) : Codec (Option α) :=
  ⟨Json.ofOptional codec.write, Json.asOptional codec.read⟩

/-- Lists of values. -/
def list (codec : Codec α) : Codec (List α) :=
  ⟨fun values => Json.array (values.map codec.write),
    fun document => document.asArray.bind fun items => items.mapM codec.read⟩

/-- Values that are made from others, where these can be taken from them. -/
def as (codec : Codec α) (parts : β → α) (make : α → Option β) : Codec β :=
  ⟨fun value => codec.write (parts value), fun document => (codec.read document).bind make⟩

/-- Values of two kinds, told apart by the text of a field. -/
def either (name leftTag rightTag : String) (left : Codec α) (right : Codec β) :
    Codec (α ⊕ β) where
  write := Sum.elim left.write right.write
  read document :=
    ((document.field name).bind asText).bind fun tag =>
      if tag = leftTag then (left.read document).map .inl
      else if tag = rightTag then (right.read document).map .inr
      else none

theorem text_lawful : text.Lawful fun _ => True where
  keyed value := .text value
  orderFree := asText_orderFree
  reads _ _ := rfl

theorem number_lawful : number.Lawful fun _ => True where
  keyed value := .number value
  orderFree := asNumber_orderFree
  reads _ _ := rfl

theorem literal_lawful (expected : String) : (literal expected).Lawful fun _ => True where
  keyed _ := .text expected
  orderFree := asText_orderFree.bind _
  reads _ _ := if_pos rfl

/-- Values are read back from their names when a name determines its value. -/
theorem named_lawful {name : α → String} {ofName : String → Option α} {valid : α → Prop}
    (h : ∀ value, valid value → ofName (name value) = some value) :
    (named name ofName).Lawful valid where
  keyed value := .text (name value)
  orderFree := asText_orderFree.bind ofName
  reads value hvalid := h value hvalid

variable {codec : Codec α} {valid : α → Prop}

/-- Values that may be missing are read back when the codec writes none as null. -/
theorem Lawful.optional (h : codec.Lawful valid) (hnull : ∀ value, codec.write value ≠ Json.null) :
    codec.optional.Lawful fun value => ∀ present ∈ value, valid present where
  keyed value := by
    cases value with
    | none => exact .null
    | some present => exact h.keyed present
  orderFree := h.orderFree.optional
  reads value hvalid := asOptional_ofOptional value hnull fun present hpresent =>
    h.reads present (hvalid present hpresent)

/-- Lists are read back item by item. -/
theorem Lawful.list (h : codec.Lawful valid) :
    codec.list.Lawful fun values => ∀ value ∈ values, valid value where
  keyed values := by
    refine .array fun item hitem => ?_
    obtain ⟨value, -, rfl⟩ := List.mem_map.mp hitem
    exact h.keyed value
  orderFree := h.orderFree.items
  reads values hvalid := by
    show (values.map codec.write).mapM codec.read = some values
    induction values with
    | nil => rfl
    | cons value values ih =>
        rw [List.forall_mem_cons] at hvalid
        rw [List.map_cons, List.mapM_cons, h.reads value hvalid.1, ih hvalid.2]
        rfl

/-- Values that are made from others are read back when they are made from their own parts. -/
theorem Lawful.as {parts : β → α} {make : α → Option β} {made : β → Prop} (h : codec.Lawful valid)
    (hvalid : ∀ value, made value → valid (parts value))
    (hmake : ∀ value, made value → make (parts value) = some value) :
    (codec.as parts make).Lawful made where
  keyed value := h.keyed (parts value)
  orderFree := h.orderFree.bind make
  reads value hmade := by
    show (codec.read (codec.write (parts value))).bind make = some value
    rw [h.reads (parts value) (hvalid value hmade), Option.bind_some, hmake value hmade]

/-- Values of two kinds are read back when each kind is and is written with its tag. -/
theorem Lawful.either {name leftTag rightTag : String} {left : Codec α} {right : Codec β}
    {leftValid : α → Prop} {rightValid : β → Prop} (hleft : left.Lawful leftValid)
    (hright : right.Lawful rightValid) (htags : leftTag ≠ rightTag)
    (hleftTag : ∀ value, (left.write value).field name = some (Json.text leftTag))
    (hrightTag : ∀ value, (right.write value).field name = some (Json.text rightTag)) :
    (Codec.either name leftTag rightTag left right).Lawful
      (Sum.elim leftValid rightValid) where
  keyed value := by
    cases value with
    | inl value => exact hleft.keyed value
    | inr value => exact hright.keyed value
  orderFree := by
    intro document hkeyed
    have htag : (document.sorted.field name).bind asText = (document.field name).bind asText :=
      asText_orderFree.field name document hkeyed
    show ((document.sorted.field name).bind asText).bind _ =
      ((document.field name).bind asText).bind _
    rw [htag, hleft.orderFree document hkeyed, hright.orderFree document hkeyed]
  reads value hvalid := by
    cases value with
    | inl value =>
        show (((left.write value).field name).bind asText).bind _ = _
        rw [hleftTag value]
        simp only [Option.bind_some, asText_text, ↓reduceIte]
        show (left.read (left.write value)).map Sum.inl = _
        rw [hleft.reads value hvalid, Option.map_some]
    | inr value =>
        show (((right.write value).field name).bind asText).bind _ = _
        rw [hrightTag value]
        simp only [Option.bind_some, asText_text, Ne.symm htags, ↓reduceIte]
        show (right.read (right.write value)).map Sum.inr = _
        rw [hright.reads value hvalid, Option.map_some]

end Codec

/-! ## Records -/

namespace Fields

variable {α β : Type}

def one (name : String) (codec : Codec α) : Fields α :=
  ⟨[name], fun value => [(name, codec.write value)],
    fun document => (document.field name).bind codec.read⟩

/-- Fields and more fields. -/
def both (left : Fields α) (right : Fields β) : Fields (α × β) :=
  ⟨left.names ++ right.names, fun value => left.write value.1 ++ right.write value.2,
    fun document => (left.read document).bind fun first =>
      (right.read document).map fun second => (first, second)⟩

/-- Fields without a value in front of others. -/
def tagged (left : Fields Unit) (right : Fields β) : Fields β :=
  ⟨left.names ++ right.names, fun value => left.write () ++ right.write value,
    fun document => (left.read document).bind fun _ => right.read document⟩

/-- The object of fields, which has no other members. -/
def record (fields : Fields α) : Codec α :=
  ⟨fun value => object (fields.write value),
    fun document => if hasOnly fields.names document then fields.read document else none⟩

variable {left : Fields α} {right : Fields β} {leftValid : α → Prop} {rightValid : β → Prop}

/-- A field is read back from its member. -/
theorem one_lawful {codec : Codec α} (h : codec.Lawful leftValid) (name : String) :
    (one name codec).Lawful leftValid where
  named _ := rfl
  keyed value := by
    intro pair hpair
    rw [List.mem_singleton.mp hpair]
    exact h.keyed value
  orderFree := h.orderFree.field name
  reads value members hvalid hnames hmembers := by
    have hmember : member name members = some (codec.write value) :=
      (member_eq_some hnames).mpr (hmembers (List.mem_singleton_self _))
    show (member name members).bind codec.read = some value
    rw [hmember, Option.bind_some, h.reads value hvalid]

/-- Fields and more fields are read back. -/
theorem Lawful.both (hleft : left.Lawful leftValid) (hright : right.Lawful rightValid) :
    (left.both right).Lawful fun value => leftValid value.1 ∧ rightValid value.2 where
  named value := by
    show (left.write value.1 ++ right.write value.2).map (·.1) = left.names ++ right.names
    rw [List.map_append, hleft.named, hright.named]
  keyed value := by
    intro pair hpair
    rcases List.mem_append.mp hpair with hfirst | hsecond
    · exact hleft.keyed value.1 pair hfirst
    · exact hright.keyed value.2 pair hsecond
  orderFree := by
    intro document hkeyed
    show (left.read document.sorted).bind _ = (left.read document).bind _
    rw [hleft.orderFree document hkeyed, hright.orderFree document hkeyed]
  reads value members hvalid hnames hmembers := by
    obtain ⟨hfirst, hsecond⟩ := List.append_subset.mp hmembers
    show (left.read (object members)).bind _ = some value
    rw [hleft.reads value.1 members hvalid.1 hnames hfirst, Option.bind_some,
      hright.reads value.2 members hvalid.2 hnames hsecond, Option.map_some]

/-- Fields with others in front that have no value are read back. -/
theorem Lawful.tagged {tags : Fields Unit} (htags : tags.Lawful fun _ => True)
    (hright : right.Lawful rightValid) : (tags.tagged right).Lawful rightValid where
  named value := by
    show (tags.write () ++ right.write value).map (·.1) = tags.names ++ right.names
    rw [List.map_append, htags.named, hright.named]
  keyed value := by
    intro pair hpair
    rcases List.mem_append.mp hpair with hfirst | hsecond
    · exact htags.keyed () pair hfirst
    · exact hright.keyed value pair hsecond
  orderFree := by
    intro document hkeyed
    show (tags.read document.sorted).bind _ = (tags.read document).bind _
    rw [htags.orderFree document hkeyed, hright.orderFree document hkeyed]
  reads value members hvalid hnames hmembers := by
    obtain ⟨hfirst, hsecond⟩ := List.append_subset.mp hmembers
    show (tags.read (object members)).bind _ = some value
    rw [htags.reads () members trivial hnames hfirst, Option.bind_some,
      hright.reads value members hvalid hnames hsecond]

/-- A record with different names is read back from its object. -/
theorem Lawful.record (h : left.Lawful leftValid) (hnames : left.names.Nodup) :
    left.record.Lawful leftValid where
  keyed value := .object (by rw [h.named]; exact hnames) (h.keyed value)
  orderFree := by
    intro document hkeyed
    show (if hasOnly left.names document.sorted then left.read document.sorted else none) =
      if hasOnly left.names document then left.read document else none
    rw [hasOnly_sorted, h.orderFree document hkeyed]
  reads value hvalid := by
    have honly : hasOnly left.names (object (left.write value)) = true := by
      rw [hasOnly, List.all_eq_true]
      intro pair hpair
      rw [List.contains_iff_mem, ← h.named value]
      exact List.mem_map_of_mem hpair
    show (if hasOnly left.names (object (left.write value)) then
      left.read (object (left.write value)) else none) = some value
    rw [if_pos honly]
    exact h.reads value _ hvalid (by rw [h.named]; exact hnames) (List.Subset.refl _)

end Fields

end Foundation.Json
