import AlphaDecay.Foundation.Decimal
import AlphaDecay.Foundation.Text
import Mathlib.Data.List.DropRight

/-!
# Decimals as text

`toText` is the scientific notation in which a decimal keeps its exponent, `toFixed` the plain
notation, and `parse` reads both back. `parse_toText` recovers the very same decimal.
`canonical` strips the plain notation to one text per value: `canonical_congr` says that it
depends on the value only, and `parse_canonical` that it is read back as an equal decimal.
-/

namespace Foundation.Decimal

open Text

def signText (negative : Bool) : List Char :=
  if negative then ['-'] else []

/-- A coefficient over a negative power of ten in plain notation. -/
def plainText (coefficient places : Nat) : List Char :=
  natDigits (coefficient / 10 ^ places) ++
    if places = 0 then [] else '.' :: fixedDigits 10 places coefficient

def exponentText (exponent : Int) : List Char :=
  (if exponent < 0 then '-' else '+') :: natDigits exponent.natAbs

/-- The text of a decimal, in scientific notation where the exponent asks for it. -/
def toText (d : Decimal) : List Char :=
  let digits := natDigits d.coefficient
  let left := d.exponent + digits.length
  signText d.negative ++
    if d.exponent ≤ 0 ∧ -6 < left then plainText d.coefficient (-d.exponent).toNat
    else
      digits.take 1 ++ (if digits.length = 1 then [] else '.' :: digits.drop 1) ++
        'E' :: exponentText (left - 1)

/-- The text of a decimal in plain notation. -/
def toFixed (d : Decimal) : List Char :=
  signText d.negative ++
    if 0 ≤ d.exponent then natDigits (d.coefficient * 10 ^ d.exponent.toNat)
    else plainText d.coefficient (-d.exponent).toNat

def isDigit (c : Char) : Bool :=
  decide ('0'.toNat ≤ c.toNat ∧ c.toNat ≤ '9'.toNat)

/-- Read an optional sign. -/
def readSign : List Char → Bool × List Char
  | '-' :: rest => (true, rest)
  | '+' :: rest => (false, rest)
  | rest => (false, rest)

/-- Read an optional fraction: its digits and the rest of the text. -/
def readFraction : List Char → List Char × List Char
  | '.' :: rest => (rest.takeWhile isDigit, rest.dropWhile isDigit)
  | rest => ([], rest)

/-- Read an optional exponent up to the end of the text. -/
def readExponent : List Char → Option Int
  | [] => some 0
  | 'E' :: rest =>
      let (negative, digits) := readSign rest
      if digits.isEmpty || !digits.all isDigit then none
      else (readDigits 10 digits).map fun n => if negative then -(n : Int) else n
  | _ => none

/-- Read a decimal. -/
def parse (text : List Char) : Option Decimal := do
  let (negative, rest) := readSign text
  let whole := rest.takeWhile isDigit
  let (fraction, rest) := readFraction (rest.dropWhile isDigit)
  let exponent ← readExponent rest
  let coefficient ← readDigits 10 (whole ++ fraction)
  if (whole ++ fraction).isEmpty then none
  else some ⟨negative, coefficient, exponent - fraction.length⟩

/-- The one text of a value: plain notation without trailing zeros, and no negative zero. -/
def canonical (d : Decimal) : List Char :=
  let fixed := d.toFixed
  let stripped :=
    if '.' ∈ fixed then (fixed.rdropWhile (· = '0')).rdropWhile (· = '.') else fixed
  if stripped = ['-', '0'] then ['0'] else stripped

/-! ## Reading digits back -/

theorem isDigit_digitChar {digit : Nat} (h : digit < 10) : isDigit (digitChar digit) = true := by
  have hall : ∀ d : Fin 10, isDigit (digitChar d) = true := by decide
  exact hall ⟨digit, h⟩

theorem natDigits_isDigit (n : Nat) : ∀ c ∈ natDigits n, isDigit c = true := by
  intro c hc
  obtain ⟨digit, hdigit, rfl⟩ := mem_natDigits hc
  exact isDigit_digitChar hdigit

theorem fixedDigits_isDigit (width n : Nat) : ∀ c ∈ fixedDigits 10 width n, isDigit c = true := by
  intro c hc
  obtain ⟨digit, hdigit, rfl⟩ := mem_fixedDigits (by decide) hc
  exact isDigit_digitChar hdigit

/-- A number has at least one digit. -/
theorem natDigits_ne_nil (n : Nat) : natDigits n ≠ [] := by
  suffices hbelow : ∀ fuel n, natDigitsBelow fuel n ≠ [] from hbelow n n
  intro fuel n
  cases fuel with
  | zero => simp [natDigitsBelow]
  | succ fuel =>
      rw [natDigitsBelow]
      split <;> simp

/-- Digits in front of a text that does not start with one are taken whole. -/
theorem takeWhile_digits {digits rest : List Char} (hdigits : ∀ c ∈ digits, isDigit c = true)
    (hrest : ∀ c ∈ rest.head?, isDigit c = false) :
    (digits ++ rest).takeWhile isDigit = digits ∧ (digits ++ rest).dropWhile isDigit = rest := by
  have hnone : rest.takeWhile isDigit = [] ∧ rest.dropWhile isDigit = rest := by
    cases rest with
    | nil => exact ⟨rfl, rfl⟩
    | cons c rest =>
        have hc : isDigit c = false := hrest c (by simp)
        simp [hc]
  rw [List.takeWhile_append_of_pos hdigits, List.dropWhile_append_of_pos hdigits, hnone.1,
    hnone.2, List.append_nil]
  exact ⟨rfl, rfl⟩

/-- A sign is read back in front of a text that starts with a digit. -/
theorem readSign_signText (negative : Bool) {text : List Char}
    (h : ∀ c ∈ text.head?, isDigit c = true) :
    readSign (signText negative ++ text) = (negative, text) := by
  cases negative with
  | true => rfl
  | false =>
      cases text with
      | nil => rfl
      | cons c rest =>
          have hc : isDigit c = true := h c (by simp)
          have hplus : c ≠ '+' := by rintro rfl; exact absurd hc (by decide)
          have hminus : c ≠ '-' := by rintro rfl; exact absurd hc (by decide)
          simp only [signText, Bool.false_eq_true, ↓reduceIte, List.nil_append]
          unfold readSign
          split
          · rename_i heq
            exact absurd (List.cons.inj heq).1 hminus
          · rename_i heq
            exact absurd (List.cons.inj heq).1 hplus
          · rfl

/-- The optional fraction of a text: nothing, or a point and its digits. -/
def fractionText (fraction : List Char) : List Char :=
  if fraction = [] then [] else '.' :: fraction

/-- A text with a sign, digits, an optional fraction and an exponent is read part by part. -/
theorem parse_parts (negative : Bool) (whole fraction tail : List Char) {exponent : Int}
    {coefficient : Nat} (hne : whole ≠ [])
    (hwhole : ∀ c ∈ whole, isDigit c = true) (hfraction : ∀ c ∈ fraction, isDigit c = true)
    (htail : ∀ c ∈ tail.head?, isDigit c = false ∧ c ≠ '.')
    (hexponent : readExponent tail = some exponent)
    (hcoefficient : readDigits 10 (whole ++ fraction) = some coefficient) :
    parse (signText negative ++ (whole ++ (fractionText fraction ++ tail))) =
      some ⟨negative, coefficient, exponent - fraction.length⟩ := by
  have hrest : ∀ c ∈ (fractionText fraction ++ tail).head?, isDigit c = false := by
    unfold fractionText
    split
    · exact fun c hc => (htail c hc).1
    · intro c hc
      simp only [List.cons_append, List.head?_cons, Option.mem_some_iff] at hc
      subst hc
      decide
  obtain ⟨htake, hdrop⟩ := takeWhile_digits hwhole hrest
  have hfrac : readFraction (fractionText fraction ++ tail) = (fraction, tail) := by
    unfold fractionText
    split
    · rename_i hnil
      subst hnil
      cases tail with
      | nil => rfl
      | cons c rest =>
          have hc : c ≠ '.' := (htail c (by simp)).2
          simp only [List.nil_append]
          unfold readFraction
          split
          · rename_i heq
            exact absurd (List.cons.inj heq).1 hc
          · rfl
    · obtain ⟨ht, hd⟩ := takeWhile_digits hfraction (fun c hc => (htail c hc).1)
      simp [readFraction, ht, hd]
  have hhead : ∀ c ∈ (whole ++ (fractionText fraction ++ tail)).head?, isDigit c = true := by
    cases whole with
    | nil => exact absurd rfl hne
    | cons first rest =>
        intro c hc
        simp only [List.cons_append, List.head?_cons, Option.mem_some_iff] at hc
        exact hc ▸ hwhole first (List.mem_cons_self)
  have hnonempty : (whole ++ fraction).isEmpty = false := by
    cases whole with
    | nil => exact absurd rfl hne
    | cons first rest => rfl
  simp [parse, readSign_signText negative hhead, htake, hdrop, hfrac, hexponent, hcoefficient,
    hne]

/-- A signed exponent is read back. -/
theorem readExponent_exponentText (exponent : Int) :
    readExponent ('E' :: exponentText exponent) = some exponent := by
  have hall : (natDigits exponent.natAbs).all isDigit = true :=
    List.all_eq_true.mpr (natDigits_isDigit _)
  have hempty : (natDigits exponent.natAbs).isEmpty = false := by
    simpa using natDigits_ne_nil exponent.natAbs
  have hread := readDigits_natDigits exponent.natAbs
  by_cases hneg : exponent < 0
  · have habs : -(exponent.natAbs : Int) = exponent := by omega
    simpa [exponentText, hneg, readExponent, readSign, hall, hempty, hread] using habs
  · have habs : (exponent.natAbs : Int) = exponent := by omega
    simp [exponentText, hneg, readExponent, readSign, hall, hempty, hread, habs]

theorem plainText_eq (coefficient places : Nat) :
    plainText coefficient places = natDigits (coefficient / 10 ^ places) ++
      (fractionText (fixedDigits 10 places coefficient) ++ []) := by
  unfold plainText fractionText
  cases places with
  | zero => rfl
  | succ places => simp [fixedDigits]

theorem readDigits_plain (coefficient places : Nat) :
    readDigits 10 (natDigits (coefficient / 10 ^ places) ++ fixedDigits 10 places coefficient) =
      some coefficient := by
  rw [readDigits_append_fixedDigits (by decide) (by decide), readDigits_natDigits,
    Option.map_some, Nat.div_add_mod']

/-- Plain notation with a sign is read back exactly. -/
theorem parse_plainText (negative : Bool) (coefficient places : Nat) :
    parse (signText negative ++ plainText coefficient places) =
      some ⟨negative, coefficient, -places⟩ := by
  rw [plainText_eq]
  have hparse := parse_parts negative _ _ [] (natDigits_ne_nil (coefficient / 10 ^ places))
    (natDigits_isDigit _) (fixedDigits_isDigit places coefficient) (by simp) rfl
    (readDigits_plain coefficient places)
  simpa using hparse

/-- A decimal is read back from its text exactly, exponent included. -/
theorem parse_toText (d : Decimal) : parse d.toText = some d := by
  unfold toText
  dsimp only
  split
  · rename_i hplain
    rw [parse_plainText]
    have hexp : -((-d.exponent).toNat : Int) = d.exponent := by omega
    rw [hexp]
  · have hdigits := natDigits_isDigit d.coefficient
    have hne := natDigits_ne_nil d.coefficient
    have hcoefficient := readDigits_natDigits d.coefficient
    generalize natDigits d.coefficient = digits at *
    cases digits with
    | nil => exact absurd rfl hne
    | cons first rest =>
        have hparse := parse_parts d.negative [first] rest
          ('E' :: exponentText (d.exponent + (rest.length + 1 : Nat) - 1)) (by simp)
          (fun c hc => hdigits c (by simp_all)) (fun c hc => hdigits c (by simp_all))
          (by intro c hc; simp only [List.head?_cons, Option.mem_some_iff] at hc; subst hc; decide)
          (readExponent_exponentText _) hcoefficient
        have hexp : d.exponent + ((rest.length + 1 : Nat) : Int) - 1 - rest.length =
            d.exponent := by omega
        rw [hexp] at hparse
        simpa [fractionText] using hparse

/-! ## One text per value -/

theorem not_mem_point_natDigits (negative : Bool) (n : Nat) :
    '.' ∉ signText negative ++ natDigits n := by
  intro h
  rcases List.mem_append.mp h with hsign | hdigit
  · cases negative <;> simp [signText] at hsign
  · exact absurd (natDigits_isDigit n _ hdigit) (by decide)

/-- Stripping trailing zeros and then the point, as the canonical text does. -/
def stripFraction (text : List Char) : List Char :=
  (text.rdropWhile (· = '0')).rdropWhile (· = '.')

/-- The canonical text before its negative zero is corrected. -/
def strippedFixed (d : Decimal) : List Char :=
  if '.' ∈ d.toFixed then stripFraction d.toFixed else d.toFixed

theorem canonical_eq (d : Decimal) :
    d.canonical = if strippedFixed d = ['-', '0'] then ['0'] else strippedFixed d :=
  rfl

/-- A whole part is not stripped. -/
theorem rdropWhile_point_natDigits (negative : Bool) (n : Nat) :
    (signText negative ++ natDigits n).rdropWhile (· = '.') = signText negative ++ natDigits n := by
  rw [List.rdropWhile_eq_self_iff]
  intro hne hlast
  have hpoint : '.' ∈ signText negative ++ natDigits n := by
    have hmem := List.getLast_mem hne
    rwa [decide_eq_true_eq.mp hlast] at hmem
  exact not_mem_point_natDigits negative n hpoint

/-- One more place with a zero in it leaves the stripped text as it is. -/
theorem strippedFixed_shift (negative : Bool) (coefficient : Nat) (exponent : Int) :
    strippedFixed ⟨negative, coefficient * 10, exponent⟩ =
      strippedFixed ⟨negative, coefficient, exponent + 1⟩ := by
  by_cases hwhole : 0 ≤ exponent
  · have hpow : coefficient * 10 * 10 ^ exponent.toNat =
        coefficient * 10 ^ (exponent + 1).toNat := by
      rw [show (exponent + 1).toNat = exponent.toNat + 1 by omega, pow_succ']
      ring
    simp only [strippedFixed, toFixed, if_pos hwhole, if_pos (show 0 ≤ exponent + 1 by omega),
      hpow]
  · obtain ⟨places, hplaces⟩ : ∃ places : Nat, exponent = -(places + 1 : Nat) :=
      ⟨(-exponent).toNat - 1, by omega⟩
    have hlow : (-exponent).toNat = places + 1 := by omega
    have hfixed : toFixed ⟨negative, coefficient * 10, exponent⟩ =
        (signText negative ++ (natDigits (coefficient / 10 ^ places) ++ ['.'] ++
          fixedDigits 10 places coefficient)) ++ ['0'] := by
      have hdiv : coefficient * 10 / 10 ^ (places + 1) = coefficient / 10 ^ places := by
        rw [pow_succ, Nat.mul_div_mul_right _ _ (by decide)]
      have hmod : coefficient * 10 % 10 = 0 := Nat.mul_mod_left _ _
      simp [toFixed, if_neg hwhole, plainText, hlow, hdiv, fixedDigits, hmod, digitChar]
    have hleft : strippedFixed ⟨negative, coefficient * 10, exponent⟩ =
        stripFraction (signText negative ++ (natDigits (coefficient / 10 ^ places) ++ ['.'] ++
          fixedDigits 10 places coefficient)) := by
      rw [strippedFixed, hfixed, if_pos (by simp), stripFraction,
        List.rdropWhile_concat_pos _ _ _ (by decide)]
      rfl
    rw [hleft]
    by_cases hzero : places = 0
    · have hexp : exponent + 1 = 0 := by omega
      have hnone := not_mem_point_natDigits negative coefficient
      have hkeep := rdropWhile_point_natDigits negative coefficient
      have hpoint : (signText negative ++ natDigits coefficient ++ ['.']).rdropWhile (· = '0') =
          signText negative ++ natDigits coefficient ++ ['.'] :=
        List.rdropWhile_concat_neg _ _ _ (by decide)
      rw [strippedFixed, toFixed, hexp]
      simp only [le_refl, ↓reduceIte, Int.toNat_zero, pow_zero, mul_one, hnone, hzero,
        Nat.div_one, fixedDigits, List.append_nil, stripFraction, ← List.append_assoc]
      rw [hpoint, List.rdropWhile_concat_pos _ _ _ (by decide), hkeep]
    · have hright : toFixed ⟨negative, coefficient, exponent + 1⟩ =
          signText negative ++ (natDigits (coefficient / 10 ^ places) ++ ['.'] ++
            fixedDigits 10 places coefficient) := by
        have hneg : ¬ 0 ≤ exponent + 1 := by omega
        have hlow' : (-(exponent + 1)).toNat = places := by omega
        simp only [toFixed, if_neg hneg, plainText, hlow', if_neg hzero]
        simp
      rw [strippedFixed, hright, if_pos (by simp)]

/-- Places with zeros in them leave the stripped text as it is. -/
theorem strippedFixed_scale (negative : Bool) (coefficient places : Nat) (exponent : Int) :
    strippedFixed ⟨negative, coefficient * 10 ^ places, exponent⟩ =
      strippedFixed ⟨negative, coefficient, exponent + places⟩ := by
  induction places generalizing exponent with
  | zero => simp
  | succ places ih =>
      rw [pow_succ, ← mul_assoc, strippedFixed_shift, ih]
      congr 2
      push_cast
      ring

/-- Every zero has the same canonical text. -/
theorem canonical_zero (negative : Bool) (exponent : Int) :
    canonical ⟨negative, 0, exponent⟩ = ['0'] := by
  have hbase : ∀ exponent : Int, 0 ≤ exponent →
      strippedFixed ⟨negative, 0, exponent⟩ = signText negative ++ ['0'] := by
    intro exponent h
    have hdigits : natDigits 0 = ['0'] := by decide
    have hpoint : '.' ∉ signText negative ++ ['0'] := by cases negative <;> decide
    simp only [strippedFixed, toFixed, if_pos h, Nat.zero_mul, hdigits, if_neg hpoint]
  have hstripped : strippedFixed ⟨negative, 0, exponent⟩ = signText negative ++ ['0'] := by
    by_cases h : 0 ≤ exponent
    · exact hbase exponent h
    · have hscale := strippedFixed_scale negative 0 (-exponent).toNat exponent
      rw [Nat.zero_mul] at hscale
      rw [hscale]
      exact hbase _ (by omega)
  rw [canonical_eq, hstripped]
  cases negative <;> rfl

theorem value_eq_zero {d : Decimal} : d.value = 0 ↔ d.coefficient = 0 := by
  have hscale : (10 : ℚ) ^ d.exponent ≠ 0 := zpow_ne_zero _ (by norm_num)
  have hsign : d.sign ≠ 0 := by
    unfold sign
    split <;> norm_num
  rw [value_eq_sign]
  simp [hscale, hsign]

/-- Equal decimals other than zero have the same sign and, over a common power of ten, the same
coefficient. -/
theorem parts_of_value_eq {a b : Decimal} (h : a.value = b.value) (hne : a.value ≠ 0) :
    a.negative = b.negative ∧
      a.coefficient * 10 ^ (a.exponent - commonExponent a b).toNat =
        b.coefficient * 10 ^ (b.exponent - commonExponent a b).toNat := by
  obtain ⟨ha, hb⟩ := value_pair a b
  have hpos : (10 : ℚ) ^ commonExponent a b ≠ 0 := zpow_ne_zero _ (by norm_num)
  have hscaled : a.scaled (commonExponent a b) = b.scaled (commonExponent a b) := by
    rw [ha, hb, mul_left_inj' hpos, Int.cast_inj] at h
    exact h
  have hane : a.coefficient ≠ 0 := fun hzero => hne (value_eq_zero.mpr hzero)
  have hbne : b.coefficient ≠ 0 := fun hzero => hne (h.trans (value_eq_zero.mpr hzero))
  unfold scaled significand at hscaled
  have hapos : 0 < a.coefficient * 10 ^ (a.exponent - commonExponent a b).toNat := by positivity
  have hbpos : 0 < b.coefficient * 10 ^ (b.exponent - commonExponent a b).toNat := by positivity
  cases hna : a.negative <;> cases hnb : b.negative <;> rw [hna, hnb] at hscaled <;>
    simp only [Bool.false_eq_true, ↓reduceIte, neg_mul] at hscaled
  · exact ⟨rfl, by exact_mod_cast hscaled⟩
  · have hcast : ((a.coefficient * 10 ^ (a.exponent - commonExponent a b).toNat : Nat) : Int) =
        -((b.coefficient * 10 ^ (b.exponent - commonExponent a b).toNat : Nat) : Int) := by
      exact_mod_cast hscaled
    omega
  · have hcast : -((a.coefficient * 10 ^ (a.exponent - commonExponent a b).toNat : Nat) : Int) =
        ((b.coefficient * 10 ^ (b.exponent - commonExponent a b).toNat : Nat) : Int) := by
      exact_mod_cast hscaled
    omega
  · exact ⟨rfl, by exact_mod_cast neg_inj.mp hscaled⟩

/-- The canonical text depends on the value only. -/
theorem canonical_congr {a b : Decimal} (h : (a == b) = true) : a.canonical = b.canonical := by
  have hvalue := beq_iff_value.mp h
  by_cases hzero : a.value = 0
  · obtain ⟨na, ca, ea⟩ := a
    obtain ⟨nb, cb, eb⟩ := b
    obtain rfl : ca = 0 := value_eq_zero.mp hzero
    obtain rfl : cb = 0 := value_eq_zero.mp (hvalue ▸ hzero)
    rw [canonical_zero, canonical_zero]
  · obtain ⟨hsign, hcoefficient⟩ := parts_of_value_eq hvalue hzero
    have hlower : ∀ d : Decimal, commonExponent a b ≤ d.exponent →
        strippedFixed d = strippedFixed ⟨d.negative,
          d.coefficient * 10 ^ (d.exponent - commonExponent a b).toNat, commonExponent a b⟩ := by
      intro d hd
      rw [strippedFixed_scale]
      congr 1
      obtain ⟨n, c, e⟩ := d
      simp only [mk.injEq, true_and]
      simp only at hd
      omega
    rw [canonical_eq, canonical_eq, hlower a (min_le_left _ _), hlower b (min_le_right _ _),
      hsign, hcoefficient]

/-- Every decimal has an equal one without trailing zeros after the point. -/
theorem exists_normal (d : Decimal) :
    ∃ normal : Decimal, normal.value = d.value ∧
      ∃ places : Nat, normal.exponent = -places ∧
        (places = 0 ∨ normal.coefficient % 10 ≠ 0) := by
  by_cases hwhole : 0 ≤ d.exponent
  · refine ⟨⟨d.negative, d.coefficient * 10 ^ d.exponent.toNat, 0⟩, ?_, 0, rfl, Or.inl rfl⟩
    have hexp : d.exponent = (d.exponent.toNat : Int) := by omega
    rw [value_eq_sign, value_eq_sign, sign, sign]
    conv_rhs => rw [hexp, zpow_natCast]
    push_cast
    ring
  · obtain ⟨negative, coefficient, exponent⟩ := d
    obtain ⟨places, rfl⟩ : ∃ places : Nat, exponent = -places :=
      ⟨(-exponent).toNat, by dsimp only at hwhole; omega⟩
    clear hwhole
    induction places generalizing coefficient with
    | zero => exact ⟨⟨negative, coefficient, -(0 : Nat)⟩, rfl, 0, rfl, Or.inl rfl⟩
    | succ places ih =>
        by_cases hten : coefficient % 10 = 0
        · obtain ⟨normal, hvalue, hform⟩ := ih (coefficient / 10)
          refine ⟨normal, hvalue.trans ?_, hform⟩
          have hsplit : ((coefficient / 10 : Nat) : ℚ) * 10 = coefficient := by
            exact_mod_cast (by omega : coefficient / 10 * 10 = coefficient)
          have hstep : (10 : ℚ) ^ (-(places : Int)) = 10 * (10 : ℚ) ^
            (-((places + 1 : Nat) : Int)) := by
            rw [show -(places : Int) = 1 + -((places + 1 : Nat) : Int) by push_cast; ring,
              zpow_add₀ (by norm_num), zpow_one]
          rw [value_eq_sign, value_eq_sign, sign, sign]
          simp only
          rw [hstep, ← hsplit]
          ring
        · exact ⟨⟨negative, coefficient, -(places + 1 : Nat)⟩, rfl, places + 1, rfl,
            Or.inr hten⟩

/-- A fraction that does not end in zero is not stripped. -/
theorem strippedFixed_of_last (negative : Bool) {coefficient : Nat} (places : Nat)
    (hlast : coefficient % 10 ≠ 0) :
    strippedFixed ⟨negative, coefficient, -(places + 1 : Nat)⟩ =
      signText negative ++ plainText coefficient (places + 1) := by
  have hdigit : ∀ d : Fin 10, d ≠ 0 → digitChar d ≠ '0' ∧ digitChar d ≠ '.' := by decide
  obtain ⟨hzero, hpoint⟩ := hdigit ⟨coefficient % 10, Nat.mod_lt _ (by decide)⟩
    (fun h => hlast (Fin.mk.inj h))
  have hneg : ¬ (0 : Int) ≤ -(places + 1 : Nat) := by omega
  have hplaces : (-(-((places + 1 : Nat) : Int))).toNat = places + 1 := by omega
  have hfixed : toFixed ⟨negative, coefficient, -(places + 1 : Nat)⟩ =
      signText negative ++ plainText coefficient (places + 1) := by
    simp only [toFixed, if_neg hneg, hplaces]
  have hsplit : signText negative ++ plainText coefficient (places + 1) =
      (signText negative ++ natDigits (coefficient / 10 ^ (places + 1)) ++
        '.' :: fixedDigits 10 places (coefficient / 10)) ++ [digitChar (coefficient % 10)] := by
    simp [plainText, fixedDigits]
  rw [strippedFixed, hfixed, hsplit, if_pos (by simp), stripFraction,
    List.rdropWhile_concat_neg _ _ _ (by simpa using hzero),
    List.rdropWhile_concat_neg _ _ _ (by simpa using hpoint)]

/-- A decimal is read back from its canonical text as an equal decimal. -/
theorem parse_canonical (d : Decimal) :
    ∃ read : Decimal, parse d.canonical = some read ∧ (read == d) = true := by
  obtain ⟨⟨negative, coefficient, exponent⟩, hvalue, places, hexponent, hform⟩ := exists_normal d
  dsimp only at hexponent hform
  subst hexponent
  rw [← canonical_congr (beq_iff_value.mpr hvalue)]
  by_cases hzero : coefficient = 0
  · subst hzero
    rw [canonical_zero]
    have hparse : parse ['0'] = some ⟨false, 0, 0⟩ := by decide
    refine ⟨_, hparse, beq_iff_value.mpr (Eq.trans ?_ hvalue)⟩
    rw [value_eq_zero.mpr rfl, value_eq_zero.mpr rfl]
  · refine ⟨⟨negative, coefficient, -places⟩, ?_, beq_iff_value.mpr hvalue⟩
    have hstripped : strippedFixed ⟨negative, coefficient, -places⟩ =
        signText negative ++ plainText coefficient places := by
      cases places with
      | zero =>
          have hnone := not_mem_point_natDigits negative coefficient
          simp [strippedFixed, toFixed, plainText, hnone]
      | succ places =>
          have hlast : coefficient % 10 ≠ 0 := hform.resolve_left (by omega)
          exact strippedFixed_of_last negative places hlast
    have hne : strippedFixed ⟨negative, coefficient, -places⟩ ≠ ['-', '0'] := by
      intro heq
      have hparse := parse_plainText negative coefficient places
      rw [← hstripped, heq] at hparse
      have hminus : parse ['-', '0'] = some ⟨true, 0, 0⟩ := by decide
      rw [hminus] at hparse
      simp only [Option.some.injEq, mk.injEq] at hparse
      exact hzero hparse.2.1.symm
    rw [canonical_eq, if_neg hne, hstripped, parse_plainText]

end Foundation.Decimal
