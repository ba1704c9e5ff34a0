import Mathlib.Init

/-!
# JSON documents

A document as a value, with the reads that a decoder makes of one. A read that fails says
nothing about the reason; decoders turn it into their own error.
-/

namespace Foundation

/-- A JSON document. Numbers are integers; decimals are written as text. -/
inductive Json where
  | null
  | bool (value : Bool)
  | number (value : Int)
  | text (value : String)
  | array (items : List Json)
  | object (members : List (String × Json))

namespace Json

/-- The first member of an object with a name. -/
def member (name : String) : List (String × Json) → Option Json
  | [] => none
  | (key, value) :: rest => if key = name then some value else member name rest

/-- A field of an object. -/
def field (name : String) : Json → Option Json
  | object members => member name members
  | _ => none

def asText : Json → Option String
  | text value => some value
  | _ => none

def asNumber : Json → Option Int
  | number value => some value
  | _ => none

/-- The truth value of a boolean document. -/
def asBool : Json → Option Bool
  | bool value => some value
  | _ => none

/-- The items of an array document. -/
def asArray : Json → Option (List Json)
  | array items => some items
  | _ => none

/-- A value that may be null. -/
def asOptional {α : Type} (read : Json → Option α) : Json → Option (Option α)
  | null => some none
  | document => (read document).map some

/-- A value that may be absent, written as null. -/
def ofOptional {α : Type} (write : α → Json) : Option α → Json
  | none => null
  | some value => write value

/-- A text, as a document. -/
def ofChars (chars : List Char) : Json :=
  text (String.ofList chars)

variable {α : Type} {name key value : String} {document : Json} {rest : List (String × Json)}

@[simp] theorem field_object_cons :
    field name (object ((key, document) :: rest)) =
      if key = name then some document else field name (object rest) := rfl

@[simp] theorem asText_text : asText (text value) = some value := rfl

@[simp] theorem asNumber_number (n : Int) : asNumber (number n) = some n := rfl

@[simp] theorem asBool_bool (b : Bool) : asBool (bool b) = some b := rfl

@[simp] theorem asArray_array (items : List Json) : asArray (array items) = some items := rfl

/-- An optional value is read back where its reader reads back what is written. -/
theorem asOptional_ofOptional {read : Json → Option α} {write : α → Json} (value : Option α)
    (hnull : ∀ x, write x ≠ null) (hread : ∀ x ∈ value, read (write x) = some x) :
    asOptional read (ofOptional write value) = some value := by
  cases value with
  | none => rfl
  | some x =>
      have hx := hread x rfl
      have hne := hnull x
      simp only [ofOptional]
      unfold asOptional
      split
      · rename_i heq
        exact absurd heq hne
      · rw [hx, Option.map_some]

end Json

end Foundation
