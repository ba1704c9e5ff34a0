import AlphaDecay.Foundation.Text
import Mathlib.Data.Nat.Bitwise

/-!
# Universally unique identifiers

A UUID is a number of 128 bits, written as thirty-two hexadecimal digits in five groups.
`parse_toText` is its round trip through that text.
-/

namespace Foundation

structure Uuid where
  bits : BitVec 128
deriving DecidableEq, Repr

namespace Uuid

open Text

/-- The number of a UUID, by which it is ordered. -/
def toNat (id : Uuid) : Nat :=
  id.bits.toNat

def ofNat (n : Nat) : Uuid :=
  ⟨BitVec.ofNat 128 n⟩

theorem eq_of_toNat {left right : Uuid} (h : left.toNat = right.toNat) : left = right := by
  obtain ⟨l⟩ := left
  obtain ⟨r⟩ := right
  exact congrArg mk (BitVec.eq_of_toNat_eq h)

@[simp] theorem toNat_ofNat (n : Nat) : (ofNat n).toNat = n % 2 ^ 128 :=
  BitVec.toNat_ofNat n 128

/-- The text of a UUID: groups of eight, four, four, four and twelve digits. -/
def toText (id : Uuid) : String :=
  String.ofList (
    fixedDigits 16 8 (id.toNat / 16 ^ 24) ++ '-' :: (fixedDigits 16 4 (id.toNat / 16 ^ 20) ++
    '-' :: (fixedDigits 16 4 (id.toNat / 16 ^ 16) ++ '-' ::
    (fixedDigits 16 4 (id.toNat / 16 ^ 12) ++ '-' :: fixedDigits 16 12 id.toNat))))

/-- The UUID of a text, whose hyphens are ignored. -/
def parse (text : String) : Option Uuid :=
  let digits := text.toList.filter (· ≠ '-')
  if digits.length = 32 then (readDigits 16 digits).map ofNat else none

/-- No digit is a hyphen. -/
theorem filter_fixedDigits (width n : Nat) :
    (fixedDigits 16 width n).filter (· ≠ '-') = fixedDigits 16 width n := by
  rw [List.filter_eq_self]
  intro c hc
  obtain ⟨digit, hdigit, rfl⟩ := mem_fixedDigits (by decide) hc
  have hall : ∀ d : Fin 16, digitChar d ≠ '-' := by decide
  simpa using hall ⟨digit, hdigit⟩

/-- A UUID is read back from its text. -/
theorem parse_toText (id : Uuid) : parse id.toText = some id := by
  have hdigits : id.toText.toList.filter (· ≠ '-') =
      fixedDigits 16 8 (id.toNat / 16 ^ 24) ++ (fixedDigits 16 4 (id.toNat / 16 ^ 20) ++
        (fixedDigits 16 4 (id.toNat / 16 ^ 16) ++ (fixedDigits 16 4 (id.toNat / 16 ^ 12) ++
        fixedDigits 16 12 id.toNat))) := by
    simp only [toText, String.toList_ofList, List.filter_append, List.filter_cons,
      filter_fixedDigits, ne_eq, not_true_eq_false, decide_false, Bool.false_eq_true, ↓reduceIte]
  have hlt : id.toNat < 2 ^ 128 := id.bits.isLt
  rw [parse, hdigits]
  simp only [List.length_append, length_fixedDigits, ← List.append_assoc]
  rw [readDigits_append_fixedDigits (by decide) (by decide),
    readDigits_append_fixedDigits (by decide) (by decide),
    readDigits_append_fixedDigits (by decide) (by decide),
    readDigits_append_fixedDigits (by decide) (by decide),
    readDigits_fixedDigits (by decide) (by decide)]
  simp only [↓reduceIte, Option.map_some, Option.some.injEq]
  apply eq_of_toNat
  rw [toNat_ofNat]
  omega

end Uuid

end Foundation
