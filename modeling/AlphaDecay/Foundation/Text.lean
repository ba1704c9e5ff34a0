import Mathlib.Algebra.Order.Ring.Nat
import Mathlib.Data.List.Basic
import Mathlib.Tactic.Ring

/-!
# Digits as text

Numbers are written most significant digit first, either with a fixed number of digits
(`fixedDigits`) or with as many as they need (`natDigits`). `readDigits` reads a digit string
back; `readDigits_fixedDigits` and `readDigits_natDigits` say that it inverts both.
-/

namespace Foundation.Text

/-- The character of a digit below sixteen, in lower case. -/
def digitChar (digit : Nat) : Char :=
  Nat.digitChar digit

/-- The digit that a character stands for, up to the lower-case hexadecimal digits. -/
def digitValue (c : Char) : Option Nat :=
  if '0'.toNat ≤ c.toNat ∧ c.toNat ≤ '9'.toNat then some (c.toNat - '0'.toNat)
  else if 'a'.toNat ≤ c.toNat ∧ c.toNat ≤ 'f'.toNat then some (c.toNat - 'a'.toNat + 10)
  else none

/-- The last digits of a number, as many as asked for. -/
def fixedDigits (base : Nat) : Nat → Nat → List Char
  | 0, _ => []
  | width + 1, n => fixedDigits base width (n / base) ++ [digitChar (n % base)]

/-- The decimal digits of a number, by recursion on a bound. -/
def natDigitsBelow : Nat → Nat → List Char
  | 0, n => [digitChar (n % 10)]
  | fuel + 1, n =>
      if n < 10 then [digitChar n] else natDigitsBelow fuel (n / 10) ++ [digitChar (n % 10)]

/-- The decimal digits of a number, without leading zeros. -/
def natDigits (n : Nat) : List Char :=
  natDigitsBelow n n

/-- Read one more digit after a number already read. -/
def readDigit (base : Nat) (read : Option Nat) (c : Char) : Option Nat := do
  let high ← read
  let low ← digitValue c
  if low < base then some (high * base + low) else none

/-- The number that a string of digits stands for. -/
def readDigits (base : Nat) (text : List Char) : Option Nat :=
  text.foldl (readDigit base) (some 0)

theorem digitValue_digitChar {digit : Nat} (h : digit < 16) :
    digitValue (digitChar digit) = some digit := by
  have hall : ∀ d : Fin 16, digitValue (digitChar d) = some d.val := by decide
  exact hall ⟨digit, h⟩

variable {base : Nat}

/-- A number that is read after another is below the next power of the base. -/
theorem foldl_readDigit_lt {text : List Char} {start n : Nat}
    (h : text.foldl (readDigit base) (some start) = some n) :
    n < (start + 1) * base ^ text.length := by
  induction text generalizing start with
  | nil =>
      obtain rfl := Option.some.inj h
      simp
  | cons c rest ih =>
      rw [List.foldl_cons] at h
      cases hread : readDigit base (some start) c with
      | none =>
          have hnone : rest.foldl (readDigit base) none = none := by
            clear h ih
            induction rest with
            | nil => rfl
            | cons d rest ih => exact ih
          rw [hread, hnone] at h
          cases h
      | some next =>
          rw [hread] at h
          have hnext : next < (start + 1) * base := by
            unfold readDigit at hread
            simp only [Option.bind_eq_bind, Option.bind_some] at hread
            cases hdigit : digitValue c with
            | none =>
                rw [hdigit] at hread
                cases hread
            | some low =>
                rw [hdigit, Option.bind_some] at hread
                by_cases hlow : low < base
                · rw [if_pos hlow] at hread
                  obtain rfl := Option.some.inj hread
                  rw [Nat.add_mul, Nat.one_mul]
                  omega
                · rw [if_neg hlow] at hread
                  cases hread
          calc n < (next + 1) * base ^ rest.length := ih h
            _ ≤ (start + 1) * base * base ^ rest.length := Nat.mul_le_mul_right _ hnext
            _ = (start + 1) * base ^ (c :: rest).length := by
                rw [List.length_cons, Nat.pow_succ, Nat.mul_assoc, Nat.mul_comm base]

theorem readDigits_lt {text : List Char} {n : Nat} (h : readDigits base text = some n) :
    n < base ^ text.length := by
  have hlt := foldl_readDigit_lt h
  rwa [Nat.zero_add, Nat.one_mul] at hlt

/-- Reading a string and then a digit. -/
theorem readDigits_append_digit (text : List Char) {digit : Nat} (hbase : digit < base)
    (hdigit : digit < 16) :
    readDigits base (text ++ [digitChar digit]) =
      (readDigits base text).map (fun high => high * base + digit) := by
  cases hread : readDigits base text with
  | none =>
      rw [readDigits] at hread
      simp [readDigits, List.foldl_append, hread, readDigit]
  | some high =>
      rw [readDigits] at hread
      simp [readDigits, List.foldl_append, hread, readDigit, digitValue_digitChar hdigit, hbase]

/-- Reading fixed digits after a text shifts what was read before by their width. -/
theorem readDigits_append_fixedDigits (hpos : 0 < base) (hbase : base ≤ 16) (text : List Char)
    (width n : Nat) :
    readDigits base (text ++ fixedDigits base width n) =
      (readDigits base text).map (fun high => high * base ^ width + n % base ^ width) := by
  induction width generalizing n with
  | zero =>
      cases hread : readDigits base text <;> simp [fixedDigits, hread, Nat.mod_one]
  | succ width ih =>
      have hdigit : n % base < base := Nat.mod_lt n hpos
      rw [fixedDigits, ← List.append_assoc, readDigits_append_digit _ hdigit (by omega), ih,
        Option.map_map]
      congr 1
      funext high
      simp only [Function.comp_apply]
      rw [pow_succ', Nat.mod_mul]
      ring

theorem readDigits_fixedDigits (hpos : 0 < base) (hbase : base ≤ 16) (width n : Nat) :
    readDigits base (fixedDigits base width n) = some (n % base ^ width) := by
  simpa [readDigits] using readDigits_append_fixedDigits hpos hbase [] width n

/-- Reading the decimal digits of a number gives the number. -/
theorem readDigits_natDigits (n : Nat) : readDigits 10 (natDigits n) = some n := by
  suffices hbelow : ∀ fuel n, n ≤ fuel → readDigits 10 (natDigitsBelow fuel n) = some n from
    hbelow n n le_rfl
  intro fuel
  induction fuel with
  | zero =>
      intro n hn
      obtain rfl : n = 0 := by omega
      decide
  | succ fuel ih =>
      intro n hn
      rw [natDigitsBelow]
      split
      · rename_i hsmall
        rw [← List.nil_append [digitChar n], readDigits_append_digit [] (by omega) (by omega)]
        simp [readDigits]
      · rw [readDigits_append_digit _ (by omega) (by omega), ih (n / 10) (by omega)]
        simp only [Option.map_some, Option.some.injEq]
        omega

@[simp] theorem length_fixedDigits (base width n : Nat) :
    (fixedDigits base width n).length = width := by
  induction width generalizing n with
  | zero => rfl
  | succ width ih => simp [fixedDigits, ih]

theorem mem_fixedDigits {width n : Nat} {c : Char} (hpos : 0 < base)
    (h : c ∈ fixedDigits base width n) : ∃ digit < base, c = digitChar digit := by
  induction width generalizing n with
  | zero => simp [fixedDigits] at h
  | succ width ih =>
      rcases List.mem_append.mp h with hhigh | hlow
      · exact ih hhigh
      · exact ⟨n % base, Nat.mod_lt n hpos, List.mem_singleton.mp hlow⟩

/-- Every character of the decimal digits of a number is the character of a digit. -/
theorem mem_natDigits {n : Nat} {c : Char} (h : c ∈ natDigits n) :
    ∃ digit < 10, c = digitChar digit := by
  suffices hbelow : ∀ fuel n, c ∈ natDigitsBelow fuel n → ∃ digit < 10, c = digitChar digit from
    hbelow n n h
  intro fuel
  induction fuel with
  | zero =>
      intro n hn
      exact ⟨n % 10, Nat.mod_lt n (by decide), List.mem_singleton.mp hn⟩
  | succ fuel ih =>
      intro n hn
      rw [natDigitsBelow] at hn
      split at hn
      · rename_i hsmall
        exact ⟨n, hsmall, List.mem_singleton.mp hn⟩
      · rcases List.mem_append.mp hn with hhigh | hlow
        · exact ih _ hhigh
        · exact ⟨n % 10, Nat.mod_lt n (by decide), List.mem_singleton.mp hlow⟩

theorem natDigits_ne_nil (n : Nat) : natDigits n ≠ [] := by
  unfold natDigits
  cases n with
  | zero => simp [natDigitsBelow]
  | succ n =>
      rw [natDigitsBelow]
      split <;> simp

end Foundation.Text
