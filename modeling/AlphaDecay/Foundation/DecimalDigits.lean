import AlphaDecay.Foundation.DecimalText

/-!
# Decimal digits of any script

Unicode has the ten decimal digits in many scripts, each script from its zero on. A number can be
written with the digits of any of them, and with digits of several. The digits of ASCII are those
that numbers are written with: `fixedDigits_decimalNumber` says that a text of ASCII digits is what
the number that it stands for is written as.
-/

namespace Foundation.Text

open Decimal (isDigit)

/-- The zeros of the decimal digits of Unicode 15.0. -/
def decimalZeros : List Nat :=
  [0x30, 0x660, 0x6f0, 0x7c0, 0x966, 0x9e6, 0xa66, 0xae6, 0xb66, 0xbe6, 0xc66, 0xce6, 0xd66, 0xde6,
    0xe50, 0xed0, 0xf20, 0x1040, 0x1090, 0x17e0, 0x1810, 0x1946, 0x19d0, 0x1a80, 0x1a90, 0x1b50,
    0x1bb0, 0x1c40, 0x1c50, 0xa620, 0xa8d0, 0xa900, 0xa9d0, 0xa9f0, 0xaa50, 0xabf0, 0xff10, 0x104a0,
    0x10d30, 0x11066, 0x110f0, 0x11136, 0x111d0, 0x112f0, 0x11450, 0x114d0, 0x11650, 0x116c0,
    0x11730, 0x118e0, 0x11950, 0x11c50, 0x11d50, 0x11da0, 0x11f50, 0x16a60, 0x16ac0, 0x16b50,
    0x1d7ce, 0x1d7d8, 0x1d7e2, 0x1d7ec, 0x1d7f6, 0x1e140, 0x1e2f0, 0x1e4f0, 0x1e950, 0x1fbf0]

/-- The value of a decimal digit of any script. -/
def decimalValue (c : Char) : Option Nat :=
  (decimalZeros.find? fun start => decide (start ≤ c.toNat ∧ c.toNat < start + 10)).map
    fun start => c.toNat - start

/-- A decimal digit of any script. -/
def isDecimal (c : Char) : Bool :=
  (decimalValue c).isSome

/-- The number that decimal digits of any script stand for. -/
def decimalNumber (text : List Char) : Nat :=
  text.foldl (fun high c => high * 10 + (decimalValue c).getD 0) 0

/-- The value of a decimal digit is below ten. -/
theorem decimalValue_getD_lt (c : Char) : (decimalValue c).getD 0 < 10 := by
  unfold decimalValue
  cases hfind : decimalZeros.find? fun start =>
      decide (start ≤ c.toNat ∧ c.toNat < start + 10) with
  | none => simp
  | some start =>
      have hfound := List.find?_some hfind
      have hrange := of_decide_eq_true hfound
      rw [Option.map_some, Option.getD_some]
      omega

theorem exists_digitChar {c : Char} (h : isDigit c = true) : ∃ digit < 10, c = digitChar digit := by
  have hrange := of_decide_eq_true h
  have hall : ∀ digit : Fin 10, (digitChar digit).toNat = 48 + digit := by decide
  refine ⟨c.toNat - 48, ?_, ?_⟩
  · have hlow : '0'.toNat = 48 := rfl
    have hhigh : '9'.toNat = 57 := rfl
    omega
  · have hlow : '0'.toNat = 48 := rfl
    have hhigh : '9'.toNat = 57 := rfl
    have hcode := hall ⟨c.toNat - 48, by omega⟩
    refine Char.toNat_inj.mp (hcode.trans ?_).symm
    show 48 + (c.toNat - 48) = c.toNat
    omega

theorem decimalValue_digitChar {digit : Nat} (h : digit < 10) :
    decimalValue (digitChar digit) = some digit := by
  have hall : ∀ d : Fin 10, decimalValue (digitChar d) = some d.val := by decide
  exact hall ⟨digit, h⟩

theorem isDecimal_of_isDigit {c : Char} (h : isDigit c = true) : isDecimal c = true := by
  obtain ⟨digit, hdigit, rfl⟩ := exists_digitChar h
  rw [isDecimal, decimalValue_digitChar hdigit]
  rfl

/-- A decimal digit of ASCII is the only one that is an early character. -/
theorem isDigit_of_isDecimal {c : Char} (h : isDecimal c = true) (hearly : c.toNat < 0x660) :
    isDigit c = true := by
  have hzeros : ∀ start ∈ decimalZeros, start = 0x30 ∨ 0x660 ≤ start := by decide
  unfold isDecimal decimalValue at h
  rw [Option.isSome_map] at h
  obtain ⟨start, hstart⟩ := Option.isSome_iff_exists.mp h
  have hfound := List.find?_some hstart
  have hrange := of_decide_eq_true hfound
  have hlow : '0'.toNat = 0x30 := rfl
  have hhigh : '9'.toNat = 0x39 := rfl
  rcases hzeros start (List.mem_of_find?_eq_some hstart) with hascii | hlate
  · exact decide_eq_true ⟨by omega, by omega⟩
  · omega

theorem decimalNumber_concat (text : List Char) (c : Char) :
    decimalNumber (text ++ [c]) = decimalNumber text * 10 + (decimalValue c).getD 0 := by
  simp [decimalNumber]

theorem decimalNumber_lt (text : List Char) : decimalNumber text < 10 ^ text.length := by
  induction text using List.reverseRecOn with
  | nil => decide
  | append_singleton text c ih =>
      have hdigit := decimalValue_getD_lt c
      rw [decimalNumber_concat, List.length_append, List.length_singleton, Nat.pow_succ]
      omega

/-- Fixed digits stand for the number up to their width. -/
theorem decimalNumber_fixedDigits (width n : Nat) :
    decimalNumber (fixedDigits 10 width n) = n % 10 ^ width := by
  induction width generalizing n with
  | zero =>
      rw [Nat.pow_zero, Nat.mod_one]
      rfl
  | succ width ih =>
      rw [fixedDigits, decimalNumber_concat, ih,
        decimalValue_digitChar (Nat.mod_lt n (by decide)), Option.getD_some, Nat.pow_succ',
        Nat.mod_mul]
      omega

/-- A text of ASCII digits is what its number is written as. -/
theorem fixedDigits_decimalNumber {text : List Char} (h : ∀ c ∈ text, isDigit c = true) :
    fixedDigits 10 text.length (decimalNumber text) = text := by
  induction text using List.reverseRecOn with
  | nil => rfl
  | append_singleton text c ih =>
      obtain ⟨digit, hdigit, rfl⟩ := exists_digitChar (h c (by simp))
      rw [List.length_append, List.length_singleton, fixedDigits, decimalNumber_concat,
        decimalValue_digitChar hdigit, Option.getD_some]
      have hdiv : (decimalNumber text * 10 + digit) / 10 = decimalNumber text := by omega
      have hmod : (decimalNumber text * 10 + digit) % 10 = digit := by omega
      rw [hdiv, hmod, ih fun other hother => h other (by simp [hother])]

end Foundation.Text
