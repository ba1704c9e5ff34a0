import AlphaDecay.Foundation.Decimal
import AlphaDecay.Foundation.Calendar
import AlphaDecay.Foundation.Uuid

/-!
# Values of the agent codec

The values that the codec of agent decisions takes, with the classes it knows: enumerations by
their members, dataclasses and models by their fields. A class is named by its module and its
name. `Same` is equality of values with equal types at every node.
-/

namespace AlphaDecay.AgentCodec

open Foundation

/-- The microseconds of a duration. -/
abbrev Span :=
  { n : Int // -86399999913600000000 ≤ n ∧ n < 86400000000000000000 }

/-- The two kinds of classes with fields. -/
inductive RecordKind where
  | dataclass
  | model
  deriving DecidableEq

/-- What a value can hold that the codec takes in no form. -/
inductive Foreign where
  | nonFiniteDecimal
  | localDatetime
  | dictWithOtherKey
  | otherType
  deriving DecidableEq

/-- A value. The fields of an instance stand in the order in which its class declares them. -/
inductive Value where
  | none
  | bool (value : Bool)
  | int (value : Int)
  | text (value : String)
  | decimal (value : Decimal)
  | datetime (value : { t : Int // Calendar.InRange t })
  | date (value : { d : Calendar.Date // d.isValid = true })
  | timedelta (microseconds : Span)
  | uuid (value : Uuid)
  | enum (cls value : String)
  | record (kind : RecordKind) (cls : String) (fields : List (String × Value))
  | tuple (items : List Value)
  | list (items : List Value)
  | dict (items : List (String × Value))
  | foreign (reason : Foreign)

/-- The value under a name. -/
def find (name : String) : List (String × Value) → Option Value
  | [] => Option.none
  | (key, value) :: rest => if key = name then some value else find name rest

/-- Whether a value is the absent one. -/
def Value.isNone : Value → Bool
  | .none => true
  | _ => false

/-! ## Classes -/

/-- A field that a class declares, with its default. -/
structure Field where
  name : String
  default : Option Value

/-- What a class declares. -/
inductive Shape where
  | enum (members : List String)
  | record (kind : RecordKind) (fields : List Field)

/-- A class, under its module and name. -/
structure Class where
  key : String
  shape : Shape

def lookup (classes : List Class) (key : String) : Option Shape :=
  (classes.find? fun cls => cls.key = key).map (·.shape)

/-! ## Equality -/

mutual

/-- Values are equal with equal types at every node: decimals by value, dictionaries by what
stands under each key. -/
def Same : Value → Value → Prop
  | .decimal a, other => ∃ b, other = .decimal b ∧ b.value = a.value
  | .record kind cls fields, other => ∃ others, other = .record kind cls others ∧
      SameFields fields others
  | .tuple items, other => ∃ others, other = .tuple others ∧ SameItems items others
  | .list items, other => ∃ others, other = .list others ∧ SameItems items others
  | .dict items, other => ∃ others, other = .dict others ∧ items.length = others.length ∧
      SameEntries items others
  | .none, other => other = .none
  | .bool value, other => other = .bool value
  | .int value, other => other = .int value
  | .text value, other => other = .text value
  | .datetime value, other => other = .datetime value
  | .date value, other => other = .date value
  | .timedelta value, other => other = .timedelta value
  | .uuid value, other => other = .uuid value
  | .enum cls value, other => other = .enum cls value
  | .foreign reason, other => other = .foreign reason

/-- Items are equal one by one. -/
def SameItems : List Value → List Value → Prop
  | [], others => others = []
  | item :: items, others => ∃ other rest, others = other :: rest ∧ Same item other ∧
      SameItems items rest

/-- Fields are equal one by one, under the same names. -/
def SameFields : List (String × Value) → List (String × Value) → Prop
  | [], others => others = []
  | (name, value) :: fields, others => ∃ other rest, others = (name, other) :: rest ∧
      Same value other ∧ SameFields fields rest

/-- Every entry has its equal under its key. -/
def SameEntries : List (String × Value) → List (String × Value) → Prop
  | [], _ => True
  | (key, value) :: items, others => (∃ other, find key others = some other ∧ Same value other) ∧
      SameEntries items others

end

/-! ## Nodes -/

mutual

/-- A value with everything inside it. -/
def Value.nodes : Value → List Value
  | .record kind cls fields => .record kind cls fields :: nodesOfFields fields
  | .tuple items => .tuple items :: nodesOfItems items
  | .list items => .list items :: nodesOfItems items
  | .dict items => .dict items :: nodesOfFields items
  | .none => [.none]
  | .bool value => [.bool value]
  | .int value => [.int value]
  | .text value => [.text value]
  | .decimal value => [.decimal value]
  | .datetime value => [.datetime value]
  | .date value => [.date value]
  | .timedelta value => [.timedelta value]
  | .uuid value => [.uuid value]
  | .enum cls value => [.enum cls value]
  | .foreign reason => [.foreign reason]

/-- What stands inside the items of a sequence. -/
def nodesOfItems : List Value → List Value
  | [] => []
  | item :: items => item.nodes ++ nodesOfItems items

/-- What stands inside the fields of an instance or the entries of a dictionary. -/
def nodesOfFields : List (String × Value) → List Value
  | [] => []
  | (_, value) :: fields => value.nodes ++ nodesOfFields fields

end

theorem mem_nodesOfItems {node : Value} {items : List Value} :
    node ∈ nodesOfItems items ↔ ∃ item ∈ items, node ∈ item.nodes := by
  induction items with
  | nil => simp [nodesOfItems]
  | cons item items ih => rw [nodesOfItems, List.mem_append, ih, List.exists_mem_cons_iff]

theorem mem_nodesOfFields {node : Value} {fields : List (String × Value)} :
    node ∈ nodesOfFields fields ↔ ∃ pair ∈ fields, node ∈ pair.2.nodes := by
  induction fields with
  | nil => simp [nodesOfFields]
  | cons pair fields ih => rw [nodesOfFields, List.mem_append, ih, List.exists_mem_cons_iff]

theorem self_mem_nodes (value : Value) : value ∈ value.nodes := by
  cases value <;> simp [Value.nodes]

/-! ## Values that exist -/

/-- The constructors of the classes: what a dataclass or a model makes of the fields it is
given, or its refusal. Equal fields are treated alike. -/
structure Constructors where
  construct : String → List (String × Value) → Option (List (String × Value))
  construct_same : ∀ cls fields again, SameFields fields again →
    construct cls fields = some fields →
      ∃ built, construct cls again = some built ∧ SameFields fields built

/-- A value that can exist: every instance holds the fields of its class and is what the class
makes of them, every enumeration value is a member, and no dictionary holds a key twice. -/
inductive Built (classes : List Class) (constructors : Constructors) : Value → Prop where
  | none : Built classes constructors .none
  | bool (value : Bool) : Built classes constructors (.bool value)
  | int (value : Int) : Built classes constructors (.int value)
  | text (value : String) : Built classes constructors (.text value)
  | decimal (value : Decimal) : Built classes constructors (.decimal value)
  | datetime (value : { t : Int // Calendar.InRange t }) :
      Built classes constructors (.datetime value)
  | date (value : { d : Calendar.Date // d.isValid = true }) :
      Built classes constructors (.date value)
  | timedelta (value : Span) : Built classes constructors (.timedelta value)
  | uuid (value : Uuid) : Built classes constructors (.uuid value)
  | enum {cls value : String}
      (h : ∀ shape, lookup classes cls = some shape →
        ∃ members, shape = .enum members ∧ value ∈ members) :
      Built classes constructors (.enum cls value)
  | record {kind : RecordKind} {cls : String} {fields : List (String × Value)}
      (hshape : ∀ shape, lookup classes cls = some shape →
        ∃ declared, shape = .record kind declared ∧
          fields.map (·.1) = declared.map (·.name) ∧
          constructors.construct cls fields = some fields)
      (h : ∀ pair ∈ fields, Built classes constructors pair.2) :
      Built classes constructors (.record kind cls fields)
  | tuple {items : List Value} (h : ∀ item ∈ items, Built classes constructors item) :
      Built classes constructors (.tuple items)
  | list {items : List Value} (h : ∀ item ∈ items, Built classes constructors item) :
      Built classes constructors (.list items)
  | dict {items : List (String × Value)} (hkeys : (items.map (·.1)).Nodup)
      (h : ∀ pair ∈ items, Built classes constructors pair.2) :
      Built classes constructors (.dict items)
  | foreign (reason : Foreign) : Built classes constructors (.foreign reason)

end AlphaDecay.AgentCodec
