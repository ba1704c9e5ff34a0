import AlphaDecay.Foundation.JsonCanonical
import AlphaDecay.AgentCodec.Value

/-!
# The codec of agent values

Encoding writes a value as a document whose objects name what they stand for; decoding reads
the document back and builds the value through the constructors of the classes it names.
-/

namespace AlphaDecay.AgentCodec

open Foundation
open Foundation.Text (fixedDigits)

/-- Why a value is not encoded or a document not decoded. -/
inductive Failure where
  | rootTypeInvalid
  | envelopeInvalid
  | datetimeNotUtc
  | decimalInvalid
  | dictKeyInvalid
  | typeUnsupported
  | valueInvalid
  | classInvalid
  | classKindInvalid
  | missingKey
  | textInvalid
  | spanOverflow
  | notAMember
  | argumentMissing
  | argumentUnexpected
  | refused
  | classMismatch
  deriving DecidableEq

/-- The failure for a value that the codec takes in no form. -/
def Foreign.failure : Foreign → Failure
  | .nonFiniteDecimal => .decimalInvalid
  | .localDatetime => .datetimeNotUtc
  | .dictWithOtherKey => .dictKeyInvalid
  | .otherType => .typeUnsupported

/-- The name of the field that is left out where it is absent. -/
def lineageField : String :=
  "experiment_lineage"

/-- The tag of a class with fields. -/
def RecordKind.tag : RecordKind → String
  | .dataclass => "dataclass"
  | .model => "model"

def dateText (date : Calendar.Date) : String :=
  String.ofList (fixedDigits 10 4 date.year ++ '-' ::
    (fixedDigits 10 2 date.month ++ '-' :: fixedDigits 10 2 date.day))

/-- A document with its type. -/
def tagged (kind : String) (members : List (String × Json)) : Json :=
  .object (("$type", .text kind) :: members)

/-! ## Encoding -/

def classKey (classes : List Class) (cls : String) : Except Failure String :=
  if (lookup classes cls).isSome then .ok cls else .error .classInvalid

/-- Whether a field is left out: a dataclass writes no absent lineage. -/
def leftOut (kind : RecordKind) (name : String) (value : Value) : Bool :=
  kind = .dataclass && name = lineageField && value.isNone

/-- The order of entries by their keys. -/
def byKey (left right : String × Except Failure Json) : Prop :=
  left.1 ≤ right.1

instance : DecidableRel byKey :=
  fun left right => inferInstanceAs (Decidable (left.1 ≤ right.1))

/-- An entry whose value is encoded. -/
def encodedEntry (entry : String × Except Failure Json) : Except Failure (String × Json) :=
  entry.2.map fun document => (entry.1, document)

mutual

/-- The document of a value. -/
def encode (classes : List Class) : Value → Except Failure Json
  | .enum cls value => do
      let key ← classKey classes cls
      return tagged "enum" [("class", .text key), ("value", .text value)]
  | .record kind cls fields => do
      let key ← classKey classes cls
      let encoded ← encodeFields classes kind fields
      return tagged kind.tag [("class", .text key), ("fields", .object encoded)]
  | .datetime value => .ok (tagged "datetime" [("value", .text (Calendar.isoformat value.1))])
  | .date value => .ok (tagged "date" [("value", .text (dateText value.1))])
  | .timedelta value => .ok (tagged "timedelta" [("microseconds", .number value.1)])
  | .decimal value => .ok (tagged "decimal" [("value", Json.ofChars value.toFixed)])
  | .uuid value => .ok (tagged "uuid" [("value", .text value.toText)])
  | .tuple items => do
      let encoded ← encodeItems classes items
      return tagged "tuple" [("items", .array encoded)]
  | .list items => do
      let encoded ← encodeItems classes items
      return tagged "list" [("items", .array encoded)]
  | .dict items => do
      let sorted := (encodeEntries classes items).insertionSort byKey
      let encoded ← sorted.mapM encodedEntry
      return tagged "dict" [("items", .object encoded)]
  | .none => .ok .null
  | .bool value => .ok (.bool value)
  | .int value => .ok (.number value)
  | .text value => .ok (.text value)
  | .foreign reason => .error reason.failure

/-- The documents of the items of a sequence. -/
def encodeItems (classes : List Class) : List Value → Except Failure (List Json)
  | [] => .ok []
  | item :: items => do
      let first ← encode classes item
      let rest ← encodeItems classes items
      return first :: rest

/-- The documents of the fields of an instance. -/
def encodeFields (classes : List Class) (kind : RecordKind) :
    List (String × Value) → Except Failure (List (String × Json))
  | [] => .ok []
  | (name, value) :: fields =>
      if leftOut kind name value then encodeFields classes kind fields
      else do
        let first ← encode classes value
        let rest ← encodeFields classes kind fields
        return (name, first) :: rest

/-- The entries of a dictionary, each with what encoding its value gives. -/
def encodeEntries (classes : List Class) :
    List (String × Value) → List (String × Except Failure Json)
  | [] => []
  | (key, value) :: items => (key, encode classes value) :: encodeEntries classes items

end

def codecName : String :=
  "alphadecay.agent-value.v1"

/-- The payload of a value. -/
def encodeAgentValue (classes : List Class) (value : Value) : Except Failure Json := do
  let encoded ← encode classes value
  match encoded.field "$type" with
  | none => .error .rootTypeInvalid
  | some _ => return .object [("codec", .text codecName), ("value", encoded)]

/-! ## Decoding -/

/-- Read a member that has to be there. -/
def required (name : String) (members : List (String × Json)) : Except Failure Json :=
  match Json.member name members with
  | some document => .ok document
  | none => .error .missingKey

/-- Read a member that has to hold a text of some form. -/
def readText {α : Type} (name : String) (read : String → Option α)
    (members : List (String × Json)) : Except Failure α := do
  let document ← required name members
  match document.asText.bind read with
  | some value => .ok value
  | none => .error .textInvalid

/-- An instant of the calendar, from its ISO text. -/
def readInstant (text : String) : Option { t : Int // Calendar.InRange t } :=
  (Calendar.fromIsoformat text).bind fun t =>
    if h : Calendar.InRange t then some ⟨t, h⟩ else none

def readDay (text : String) : Option { d : Calendar.Date // d.isValid = true } :=
  (Calendar.readDate text).bind fun d => if h : d.isValid = true then some ⟨d, h⟩ else none

/-- Read the microseconds of a duration. -/
def readSpan (members : List (String × Json)) : Except Failure Span := do
  let document ← required "microseconds" members
  match document.asNumber with
  | none => .error .textInvalid
  | some n =>
      if h : -86399999913600000000 ≤ n ∧ n < 86400000000000000000 then .ok ⟨n, h⟩
      else .error .spanOverflow

/-- The arguments of a constructor in the order of the declared fields, defaults filled in. -/
def bindArguments (given : List (String × Value)) :
    List Field → Except Failure (List (String × Value))
  | [] => .ok []
  | field :: fields =>
      match find field.name given, field.default with
      | some value, _ => (bindArguments given fields).map ((field.name, value) :: ·)
      | none, some default => (bindArguments given fields).map ((field.name, default) :: ·)
      | none, none => .error .argumentMissing

/-- Build an instance from named arguments. -/
def instantiate (constructors : Constructors) (kind : RecordKind) (cls : String)
    (declared : List Field) (given : List (String × Value)) : Except Failure Value := do
  if given.any fun pair => !declared.any fun field => field.name = pair.1 then
    .error .argumentUnexpected
  else
    let arguments ← bindArguments given declared
    match constructors.construct cls arguments with
    | some built => return .record kind cls built
    | none => .error .refused

/-- Build what a document with decoded fields stands for. -/
def instantiateAs (constructors : Constructors) (kind cls : String) (shape : Shape)
    (given : List (String × Value)) : Except Failure Value :=
  match shape with
  | .record recordKind declared =>
      if kind = recordKind.tag then instantiate constructors recordKind cls declared given
      else .error .classKindInvalid
  | .enum _ => .error .classKindInvalid

/-- A member of an object is smaller than its object. -/
theorem sizeOf_member {name : String} {document : Json} {members : List (String × Json)}
    (h : Json.member name members = some document) : sizeOf document < sizeOf members := by
  induction members with
  | nil => cases h
  | cons pair members ih =>
      obtain ⟨key, value⟩ := pair
      rw [Json.member] at h
      split at h
      · cases h
        simp only [List.cons.sizeOf_spec, Prod.mk.sizeOf_spec]
        omega
      · have hless := ih h
        simp only [List.cons.sizeOf_spec]
        omega

mutual

/-- The value of a document. -/
def decode (classes : List Class) (constructors : Constructors) : Json → Except Failure Value
  | .null => .ok .none
  | .bool value => .ok (.bool value)
  | .number value => .ok (.int value)
  | .text value => .ok (.text value)
  | .array _ => .error .valueInvalid
  | .object members =>
      match Json.member "$type" members with
      | some (.text kind) =>
          if kind = "datetime" then (readText "value" readInstant members).map .datetime
          else if kind = "date" then (readText "value" readDay members).map .date
          else if kind = "timedelta" then (readSpan members).map .timedelta
          else if kind = "decimal" then
            (readText "value" (fun text => Decimal.parse text.toList) members).map .decimal
          else if kind = "uuid" then (readText "value" Uuid.parse members).map .uuid
          else if kind = "tuple" ∨ kind = "list" then
            match _h : Json.member "items" members with
            | some (.array items) =>
                (decodeItems classes constructors items).map
                  (if kind = "tuple" then .tuple else .list)
            | _ => .error .valueInvalid
          else if kind = "dict" then
            match _h : Json.member "items" members with
            | some (.object entries) => (decodeMembers classes constructors entries).map .dict
            | _ => .error .valueInvalid
          else
            match (Json.member "class" members).bind Json.asText with
            | none => .error .classInvalid
            | some cls =>
                match lookup classes cls with
                | none => .error .classInvalid
                | some shape =>
                    match kind, shape with
                    | "enum", .enum values =>
                        (readText "value" (fun text => if text ∈ values then some text else none)
                          members).map (.enum cls)
                    | _, _ =>
                        match _h : Json.member "fields" members with
                        | some (.object fields) =>
                            (decodeMembers classes constructors fields).bind
                              (instantiateAs constructors kind cls shape)
                        | _ => .error .valueInvalid
      | _ => .error .valueInvalid
termination_by document => sizeOf document
decreasing_by
  all_goals
    have hless := sizeOf_member ‹_›
    simp only [Json.array.sizeOf_spec, Json.object.sizeOf_spec] at hless ⊢
    omega

/-- The values of the items of an array. -/
def decodeItems (classes : List Class) (constructors : Constructors) :
    List Json → Except Failure (List Value)
  | [] => .ok []
  | item :: items => do
      let first ← decode classes constructors item
      let rest ← decodeItems classes constructors items
      return first :: rest
termination_by items => sizeOf items

/-- The values of the members of an object, under their names. -/
def decodeMembers (classes : List Class) (constructors : Constructors) :
    List (String × Json) → Except Failure (List (String × Value))
  | [] => .ok []
  | (name, document) :: members => do
      let first ← decode classes constructors document
      let rest ← decodeMembers classes constructors members
      return (name, first) :: rest
termination_by members => sizeOf members

end

def decodeAgentValue (classes : List Class) (constructors : Constructors) (payload : Json) :
    Except Failure Value :=
  if (payload.field "codec").bind Json.asText = some codecName ∧
      Json.hasOnly ["codec", "value"] payload = true then
    match payload.field "value" with
    | some document => decode classes constructors document
    | none => .error .envelopeInvalid
  else .error .envelopeInvalid

/-! ## The payload of a decision -/

def decisionClass : String :=
  "backend.app.services.agent.AgentDecision"

/-- The result payload under which a decision is recorded. -/
def resultPayload (classes : List Class) (decision : Value) : Except Failure Json := do
  let typed ← encodeAgentValue classes decision
  return .object [("typed", typed)]

/-- The decision of a result payload. -/
def completedDecision (classes : List Class) (constructors : Constructors) (payload : Json) :
    Except Failure Value := do
  match payload.field "typed" with
  | none => .error .missingKey
  | some typed =>
      let decoded ← decodeAgentValue classes constructors typed
      match decoded with
      | .record .dataclass cls fields =>
          if cls = decisionClass then return .record .dataclass cls fields
          else .error .classMismatch
      | _ => .error .classMismatch

end AlphaDecay.AgentCodec
