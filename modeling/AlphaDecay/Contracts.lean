import AlphaDecay.Foundation.Calendar
import AlphaDecay.Foundation.DecimalText
import AlphaDecay.Foundation.Dict
import AlphaDecay.Foundation.Json
import AlphaDecay.Foundation.Uuid

/-!
# Shared contracts

The account roles, position intents and failures that every part of the execution layer shares,
and the digests on which its identities rest. A digest is a parameter: `Digest` names the two
SHA-256 digests of a JSON document and the name-based UUID, and assumes of them only that a
SHA-256 digest is written as sixty-four lower-case hexadecimal digits.
-/

namespace AlphaDecay

open Foundation

/-- Why an operation raises. `blocked` is an `ExecutionBlocked` with its code, `value` a plain
`ValueError`, `runtime` a `RuntimeError`, `key` a `KeyError`, `integrity` a violated database
constraint, `arithmetic` an invalid decimal operation and `missing` an operation on a value that is
not there. -/
inductive Failure where
  | blocked (code : String)
  | value (code : String)
  | runtime (code : String)
  | key
  | integrity
  | arithmetic
  | missing
deriving DecidableEq, Repr

instance instDecidableEqExcept {ε α : Type} [DecidableEq ε] [DecidableEq α] :
    DecidableEq (Except ε α) :=
  fun left right =>
    match left, right with
    | .ok a, .ok b => decidable_of_iff (a = b) (by simp)
    | .error e, .error f => decidable_of_iff (e = f) (by simp)
    | .ok _, .error _ => isFalse (by simp)
    | .error _, .ok _ => isFalse (by simp)

section Raising

variable {ε : Type}
variable {α β : Type} {failure : ε}

variable {first : Except ε α} {result : β} {next : α → Except ε β} {value : Option α}

def raiseIf (condition : Bool) (failure : ε) : Except ε Unit :=
  if condition then .error failure else .ok ()

/-- A value that must be present. -/
def require {α : Type} (value : Option α) (failure : ε) : Except ε α :=
  match value with
  | some found => .ok found
  | none => .error failure

@[simp] theorem raiseIf_ok {condition : Bool} {result : Unit} :
    raiseIf condition failure = .ok result ↔ condition = false := by
  unfold raiseIf
  split <;> simp_all

@[simp] theorem require_ok {found : α} :
    require value failure = .ok found ↔ value = some found := by
  cases value <;> simp [require]

theorem bind_ok :
    (first >>= next) = .ok result ↔ ∃ value, first = .ok value ∧ next value = .ok result := by
  cases first <;> simp [bind, Except.bind]

theorem bind_error :
    (first >>= next) = .error failure ↔
      first = .error failure ∨ ∃ value, first = .ok value ∧ next value = .error failure := by
  cases first <;> simp [bind, Except.bind]

theorem raiseIf_error {condition : Bool} {raised : ε} :
    raiseIf condition failure = .error raised ↔ condition = true ∧ failure = raised := by
  unfold raiseIf
  split <;> simp_all

theorem require_error {raised : ε} :
    require value failure = .error raised ↔ value = none ∧ failure = raised := by
  cases value <;> simp [require]

theorem map_ok {change : α → β} :
    change <$> first = .ok result ↔ ∃ value, first = .ok value ∧ change value = result := by
  cases first <;> simp [Functor.map, Except.map]

theorem map_error {change : α → β} :
    change <$> first = .error failure ↔ first = .error failure := by
  cases first <;> simp [Functor.map, Except.map]

/-- A check in front of a computation succeeds when the check passes and the rest succeeds. -/
@[simp] theorem check_bind_ok {check : Except ε Unit} {next : Unit → Except ε β} :
    (check >>= next) = .ok result ↔ check = .ok () ∧ next () = .ok result := by
  rw [bind_ok]
  constructor
  · rintro ⟨⟨⟩, hcheck, hnext⟩
    exact ⟨hcheck, hnext⟩
  · rintro ⟨hcheck, hnext⟩
    exact ⟨(), hcheck, hnext⟩

@[simp] theorem require_bind_ok :
    (require value failure >>= next) = .ok result ↔
      ∃ found, value = some found ∧ next found = .ok result := by
  simp only [bind_ok, require_ok]

@[simp] theorem ok_bind {value : α} : ((Except.ok value : Except ε α) >>= next) = next value := rfl

@[simp] theorem require_some {value : α} : require (some value) failure = .ok value := rfl

/-- Build a value from fields that pass its check, or raise what the check raises. -/
def build {Fields Value : Type} (check : Fields → Except ε Unit)
    (make : (fields : Fields) → check fields = .ok () → Value) (fields : Fields) :
    Except ε Value :=
  match h : check fields with
  | .ok () => .ok (make fields h)
  | .error failure => .error failure

/-- A value is built exactly from fields that pass its check. -/
theorem build_ok {Fields Value : Type} {check : Fields → Except ε Unit}
    {make : (fields : Fields) → check fields = .ok () → Value} {fields : Fields} {value : Value} :
    build check make fields = .ok value ↔ ∃ h : check fields = .ok (), make fields h = value := by
  unfold build
  split
  · rename_i hcheck
    simp [hcheck]
  · rename_i hcheck
    simp [hcheck]

/-- Make one check of every item of a list, in order. -/
def checkEach {α : Type} (check : α → Except ε Unit) : List α → Except ε Unit
  | [] => .ok ()
  | item :: rest => do
      check item
      checkEach check rest

@[simp] theorem checkEach_ok {check : α → Except ε Unit} {items : List α} :
    checkEach check items = .ok () ↔ ∀ item ∈ items, check item = .ok () := by
  induction items with
  | nil => simp [checkEach]
  | cons item rest ih =>
      rw [checkEach, check_bind_ok, List.forall_mem_cons, ← ih]

end Raising

/-- The accounts of the competition. -/
inductive AccountRole where
  | submission
  | development
  | replay
deriving DecidableEq, Repr

/-- The direction of an order leg. -/
inductive PositionIntent where
  | buyToOpen
  | sellToOpen
  | buyToClose
  | sellToClose
deriving DecidableEq, Repr

/-- Who acts on an account. -/
inductive Actor where
  | owner
  | scheduler
deriving DecidableEq, Repr

/-- The written form of a role. -/
def AccountRole.text : AccountRole → String
  | submission => "SUBMISSION"
  | development => "DEVELOPMENT"
  | replay => "REPLAY"

/-- The written form of an actor. -/
def Actor.text : Actor → String
  | owner => "OWNER"
  | scheduler => "SCHEDULER"

/-- The role of a written form. -/
def AccountRole.ofText : String → Option AccountRole
  | "SUBMISSION" => some submission
  | "DEVELOPMENT" => some development
  | "REPLAY" => some replay
  | _ => none

/-- The written form of a position intent. -/
def PositionIntent.text : PositionIntent → String
  | buyToOpen => "BUY_TO_OPEN"
  | sellToOpen => "SELL_TO_OPEN"
  | buyToClose => "BUY_TO_CLOSE"
  | sellToClose => "SELL_TO_CLOSE"

/-- The position intent of a written form. -/
def PositionIntent.ofText : String → Option PositionIntent
  | "BUY_TO_OPEN" => some buyToOpen
  | "SELL_TO_OPEN" => some sellToOpen
  | "BUY_TO_CLOSE" => some buyToClose
  | "SELL_TO_CLOSE" => some sellToClose
  | _ => none

@[simp] theorem AccountRole.ofText_text (role : AccountRole) : ofText role.text = some role := by
  cases role <;> rfl

@[simp] theorem PositionIntent.ofText_text (intent : PositionIntent) :
    ofText intent.text = some intent := by
  cases intent <;> rfl

/-- The sign of the quantity that a leg adds to a position: buys add and sells take away. -/
def PositionIntent.direction : PositionIntent → Int
  | buyToOpen => 1
  | buyToClose => 1
  | sellToOpen => -1
  | sellToClose => -1

/-- A SHA-256 digest as text: sixty-four lower-case hexadecimal digits. -/
def isHash (text : String) : Bool :=
  decide (text.toList.length = 64) && text.toList.all fun c =>
    decide (('0'.toNat ≤ c.toNat ∧ c.toNat ≤ '9'.toNat) ∨ ('a'.toNat ≤ c.toNat ∧ c.toNat ≤
      'f'.toNat))

/-- The digests of the program: SHA-256 of a document written with sorted keys and escaped to
ASCII, SHA-256 of one written without escapes, and the name-based UUID in the URL namespace. -/
class Digest where
  authorityHash : Json → String
  agentHash : Json → String
  uuid5 : String → Uuid
  authorityHash_isHash : ∀ document, isHash (authorityHash document) = true

def canonicalDecimal (value : Decimal) : String :=
  String.ofList value.canonical

/-- The Unicode characters that count as white space in a text. -/
def isSpace (c : Char) : Bool :=
  let n := c.toNat
  (9 ≤ n ∧ n ≤ 13) || (28 ≤ n ∧ n ≤ 32) || n == 0x85 || n == 0xA0 || n == 0x1680 ||
    (0x2000 ≤ n ∧ n ≤ 0x200A) || n == 0x2028 || n == 0x2029 || n == 0x202F || n == 0x205F ||
    n == 0x3000

/-- A text without white space at its two ends. -/
def isStripped (text : String) : Bool :=
  !text.toList.head?.any isSpace && !text.toList.getLast?.any isSpace

def intText (n : Nat) : String :=
  String.ofList (Text.natDigits n)

end AlphaDecay
