import AlphaDecay.Foundation.DecimalText
import AlphaDecay.Foundation.Json
import Mathlib.Data.List.Sort
import Mathlib.Data.String.Basic

/-!
# JSON documents as text

A document is written without white space, each object with its members in their order, and a
text either escaped to ASCII or with only the characters escaped that must be. `loads` reads a
text back: `loads_dumps` says that it inverts the writer on every document whose objects name each
member once. `canonicalText` writes the members of every object in the order of their names, so
that it is one text for every order in which a document was put together.
-/

namespace Foundation.Json

open Text

/-! ## Writing -/

/-- The character that delimits a text. -/
def quote : Char := Char.ofNat 0x22

/-- The character that starts an escape. -/
def backslash : Char := Char.ofNat 0x5C

/-- The escape of a code unit by its four hexadecimal digits. -/
def unitEscape (code : Nat) : List Char :=
  backslash :: 'u' :: fixedDigits 16 4 code

/-- The characters with an escape of their own, with the letter of it. -/
def shortEscapes : List (Char × Char) :=
  [(quote, quote), (backslash, backslash), (Char.ofNat 0x0A, 'n'), (Char.ofNat 0x0D, 'r'),
    (Char.ofNat 0x09, 't'), (Char.ofNat 0x0C, 'f'), (Char.ofNat 0x08, 'b')]

/-- The letter of the escape of a character that has one of its own. -/
def shortEscape (c : Char) : Option Char :=
  (shortEscapes.find? fun entry => entry.1 == c).map (·.2)

/-- A character of a text as it is written, escaped to ASCII where that is asked for. -/
def escapeChar (ascii : Bool) (c : Char) : List Char :=
  match shortEscape c with
  | some letter => [backslash, letter]
  | none =>
      if c.toNat < 0x20 then unitEscape c.toNat
      else if ascii && decide (0x7E < c.toNat) then
        if c.toNat < 0x10000 then unitEscape c.toNat
        -- a character outside the basic plane is a pair of surrogates
        else unitEscape (0xD800 + (c.toNat - 0x10000) / 0x400) ++
          unitEscape (0xDC00 + (c.toNat - 0x10000) % 0x400)
      else [c]

/-- The characters of a text as they are written, up to the closing quote. -/
def writeChars (ascii : Bool) : List Char → List Char
  | [] => [quote]
  | c :: rest => escapeChar ascii c ++ writeChars ascii rest

def writeText (ascii : Bool) (value : String) : List Char :=
  quote :: writeChars ascii value.toList

def writeNumber (n : Int) : List Char :=
  if n < 0 then '-' :: natDigits n.natAbs else natDigits n.natAbs

mutual

/-- A document as it is written, without white space. -/
def write (ascii : Bool) : Json → List Char
  | null => ['n', 'u', 'l', 'l']
  | bool true => ['t', 'r', 'u', 'e']
  | bool false => ['f', 'a', 'l', 's', 'e']
  | number n => writeNumber n
  | text value => writeText ascii value
  | array [] => ['[', ']']
  | array (item :: items) => '[' :: (write ascii item ++ writeItems ascii items)
  | object [] => ['{', '}']
  | object ((key, value) :: members) =>
      '{' :: (writeText ascii key ++ ':' :: (write ascii value ++ writeMembers ascii members))

/-- The items after the first one, with the end of their array. -/
def writeItems (ascii : Bool) : List Json → List Char
  | [] => [']']
  | item :: items => ',' :: (write ascii item ++ writeItems ascii items)

/-- The members after the first one, with the end of their object. -/
def writeMembers (ascii : Bool) : List (String × Json) → List Char
  | [] => ['}']
  | (key, value) :: members =>
      ',' :: (writeText ascii key ++ ':' :: (write ascii value ++ writeMembers ascii members))

end

def dumps (ascii : Bool) (document : Json) : String :=
  String.ofList (write ascii document)

/-! ## Reading -/

/-- White space of a document. -/
def isBlank (c : Char) : Bool :=
  c.toNat == 0x20 || c.toNat == 0x09 || c.toNat == 0x0A || c.toNat == 0x0D

/-- The text after its leading white space. -/
def skipBlank : List Char → List Char
  | [] => []
  | c :: rest => if isBlank c then skipBlank rest else c :: rest

/-- The code unit that four hexadecimal digits stand for, with the text after them. -/
def readUnit (chars : List Char) : Option (Nat × List Char) := do
  let code ← readDigits 16 ((chars.take 4).map Char.toLower)
  if chars.length < 4 then none else some (code, chars.drop 4)

/-- The second surrogate of a pair, with the text after it. -/
def readLowSurrogate : List Char → Option (Nat × List Char)
  | slash :: letter :: rest => do
      let (low, rest) ← readUnit rest
      if slash = backslash ∧ letter = 'u' ∧ 0xDC00 ≤ low ∧ low < 0xE000 then some (low, rest)
      else none
  | _ => none

/-- The character that an escape stands for, after the character that starts it. A surrogate on
its own is no character. -/
def readEscape : List Char → Option (Char × List Char)
  | [] => none
  | letter :: rest =>
      if letter = 'u' then do
        let (code, rest) ← readUnit rest
        if 0xD800 ≤ code ∧ code < 0xDC00 then do
          let (low, rest) ← readLowSurrogate rest
          some (Char.ofNat (0x10000 + (code - 0xD800) * 0x400 + (low - 0xDC00)), rest)
        else if 0xDC00 ≤ code ∧ code < 0xE000 then none
        else some (Char.ofNat code, rest)
      else if letter = '/' then some ('/', rest)
      else (shortEscapes.find? fun entry => entry.2 == letter).map fun entry => (entry.1, rest)

/-- The characters of a text up to its closing quote, by recursion on a bound. -/
def readChars : Nat → List Char → Option (List Char × List Char)
  | 0, _ => none
  | _ + 1, [] => none
  | fuel + 1, c :: rest =>
      if c = quote then some ([], rest)
      else if c = backslash then do
        let (escaped, rest) ← readEscape rest
        let (chars, rest) ← readChars fuel rest
        some (escaped :: chars, rest)
      else if c.toNat < 0x20 then none
      else do
        let (chars, rest) ← readChars fuel rest
        some (c :: chars, rest)

/-- A text, from its opening quote. -/
def readText : List Char → Option (String × List Char)
  | [] => none
  | c :: rest => do
      let (chars, rest) ← readChars (rest.length + 1) rest
      if c = quote then some (String.ofList chars, rest) else none

/-- The digits of a number, which starts with a zero only when it is zero. -/
def readDigitRun (chars : List Char) : Option (Nat × List Char) :=
  let digits := chars.takeWhile Decimal.isDigit
  match digits with
  | [] => none
  | first :: _ =>
      if first = '0' then some (0, chars.drop 1)
      else (readDigits 10 digits).map fun n => (n, chars.drop digits.length)

/-- A whole number. A fraction or an exponent is left to the reader of what follows, which refuses
it: the documents here have no floating-point numbers. -/
def readNumber : List Char → Option (Json × List Char)
  | '-' :: rest => (readDigitRun rest).map fun (n, rest) => (number (-(n : Int)), rest)
  | rest => (readDigitRun rest).map fun (n, rest) => (number n, rest)

/-- A fixed word, after its first letter. -/
def readWord (word : List Char) (document : Json) (rest : List Char) : Option (Json × List Char) :=
  if word.isPrefixOf rest then some (document, rest.drop word.length) else none

/-- Set a member of an object, in its place where the object has it. -/
def putMember (key : String) (value : Json) : List (String × Json) → List (String × Json)
  | [] => [(key, value)]
  | (k, old) :: rest => if k = key then (k, value) :: rest else (k, old) :: putMember key value rest

/-- The members of an object from the pairs that were read, the last of each name. -/
def ofPairs (pairs : List (String × Json)) : List (String × Json) :=
  pairs.foldl (fun members pair => putMember pair.1 pair.2 members) []

/-- The items of an array up to its end, by recursion on a bound. -/
def readItems (read : List Char → Option (Json × List Char)) :
    Nat → List Char → Option (List Json × List Char)
  | 0, _ => none
  | fuel + 1, chars => do
      let (item, rest) ← read chars
      match skipBlank rest with
      | [] => none
      | c :: rest =>
          if c = ']' then some ([item], rest)
          else if c = ',' then do
            let (items, rest) ← readItems read fuel (skipBlank rest)
            some (item :: items, rest)
          else none

/-- A member of an object: its name, a colon and its value. -/
def readMember (read : List Char → Option (Json × List Char)) (chars : List Char) :
    Option ((String × Json) × List Char) := do
  let (key, rest) ← readText chars
  match skipBlank rest with
  | [] => none
  | c :: rest => do
      let (value, rest) ← read (skipBlank rest)
      if c = ':' then some ((key, value), rest) else none

/-- The members of an object up to its end, by recursion on a bound. -/
def readMembers (read : List Char → Option (Json × List Char)) :
    Nat → List Char → Option (List (String × Json) × List Char)
  | 0, _ => none
  | fuel + 1, chars => do
      let (pair, rest) ← readMember read chars
      match skipBlank rest with
      | [] => none
      | c :: rest =>
          if c = '}' then some ([pair], rest)
          else if c = ',' then do
            let (pairs, rest) ← readMembers read fuel (skipBlank rest)
            some (pair :: pairs, rest)
          else none

/-- An array after its opening bracket. -/
def readArray (read : List Char → Option (Json × List Char)) (chars : List Char) :
    Option (Json × List Char) :=
  match skipBlank chars with
  | [] => none
  | c :: rest =>
      if c = ']' then some (array [], rest)
      else (readItems read (rest.length + 1) (c :: rest)).map fun (items, rest) =>
        (array items, rest)

/-- An object after its opening brace. -/
def readObject (read : List Char → Option (Json × List Char)) (chars : List Char) :
    Option (Json × List Char) :=
  match skipBlank chars with
  | [] => none
  | c :: rest =>
      if c = '}' then some (object [], rest)
      else (readMembers read (rest.length + 1) (c :: rest)).map fun (pairs, rest) =>
        (object (ofPairs pairs), rest)

/-- A document at the start of a text, by recursion on a bound of its depth. -/
def readValue : Nat → List Char → Option (Json × List Char)
  | 0, _ => none
  | _ + 1, [] => none
  | fuel + 1, c :: rest =>
      if c = quote then (readText (c :: rest)).map fun (value, rest) => (text value, rest)
      else if c = '{' then readObject (readValue fuel) rest
      else if c = '[' then readArray (readValue fuel) rest
      else if c = 'n' then readWord ['u', 'l', 'l'] null rest
      else if c = 't' then readWord ['r', 'u', 'e'] (bool true) rest
      else if c = 'f' then readWord ['a', 'l', 's', 'e'] (bool false) rest
      else readNumber (c :: rest)

/-- The document that a whole text stands for. -/
def loads (value : String) : Option Json := do
  let (document, rest) ← readValue (value.toList.length + 1) (skipBlank value.toList)
  if skipBlank rest = [] then some document else none

/-! ## Texts are read back -/

/-- Lower-case hexadecimal digits are their own lower case. -/
theorem toLower_fixedDigits (width n : Nat) :
    (fixedDigits 16 width n).map Char.toLower = fixedDigits 16 width n := by
  have hall : ∀ d : Fin 16, (digitChar d).toLower = digitChar d := by decide
  have hsame : ∀ c ∈ fixedDigits 16 width n, c.toLower = id c := by
    intro c hc
    obtain ⟨digit, hdigit, rfl⟩ := mem_fixedDigits (by omega) hc
    exact hall ⟨digit, hdigit⟩
  rw [List.map_congr_left hsame, List.map_id]

/-- A code unit is read back in front of any text. -/
theorem readUnit_fixedDigits {code : Nat} (h : code < 0x10000) (rest : List Char) :
    readUnit (fixedDigits 16 4 code ++ rest) = some (code, rest) := by
  have htake : (fixedDigits 16 4 code ++ rest).take 4 = fixedDigits 16 4 code := by
    rw [List.take_append_of_le_length (by simp), List.take_of_length_le (by simp)]
  have hdrop : (fixedDigits 16 4 code ++ rest).drop 4 = rest := by
    rw [List.drop_append_of_le_length (by simp), List.drop_of_length_le (by simp), List.nil_append]
  simp [readUnit, htake, hdrop, toLower_fixedDigits, readDigits_fixedDigits, Nat.mod_eq_of_lt h]

/-- The letter of a short escape stands for its character and is neither of the other letters. -/
theorem shortEscape_some {c letter : Char} (h : shortEscape c = some letter) :
    letter ≠ 'u' ∧ letter ≠ '/' ∧
      (shortEscapes.find? fun entry => entry.2 == letter) = some (c, letter) := by
  have hall : ∀ entry ∈ shortEscapes, entry.2 ≠ 'u' ∧ entry.2 ≠ '/' ∧
      (shortEscapes.find? fun other => other.2 == entry.2) = some entry := by decide
  rw [shortEscape, Option.map_eq_some_iff] at h
  obtain ⟨entry, hfind, rfl⟩ := h
  obtain rfl : entry.1 = c := by simpa using List.find?_some hfind
  exact hall entry (List.mem_of_find?_eq_some hfind)

theorem shortEscape_none {c : Char} (h : shortEscape c = none) : c ≠ quote ∧ c ≠ backslash := by
  rw [shortEscape, Option.map_eq_none_iff, List.find?_eq_none] at h
  constructor
  · intro hc
    exact h (quote, quote) (by simp [shortEscapes]) (by simp [hc])
  · intro hc
    exact h (backslash, backslash) (by simp [shortEscapes]) (by simp [hc])

/-- The escape of a code unit that is no surrogate stands for the character of it. -/
theorem readEscape_unit {code : Nat} (h : code < 0x10000) (hlow : ¬(0xD800 ≤ code ∧ code < 0xE000))
    (rest : List Char) :
    readEscape ('u' :: (fixedDigits 16 4 code ++ rest)) = some (Char.ofNat code, rest) := by
  have hhigh : ¬(0xD800 ≤ code ∧ code < 0xDC00) := by omega
  have hlow' : ¬(0xDC00 ≤ code ∧ code < 0xE000) := by omega
  simp [readEscape, readUnit_fixedDigits h, hhigh, hlow']

/-- The escapes of a pair of surrogates stand for one character. -/
theorem readEscape_pair {high low : Nat} (hhigh : high < 0x400) (hlow : low < 0x400)
    (rest : List Char) :
    readEscape ('u' :: (fixedDigits 16 4 (0xD800 + high) ++
      (unitEscape (0xDC00 + low) ++ rest))) =
      some (Char.ofNat (0x10000 + high * 0x400 + low), rest) := by
  have hfirst := readUnit_fixedDigits (show 0xD800 + high < 0x10000 by omega)
    (unitEscape (0xDC00 + low) ++ rest)
  have hsecond := readUnit_fixedDigits (show 0xDC00 + low < 0x10000 by omega) rest
  have hrange : 0xD800 ≤ 0xD800 + high ∧ 0xD800 + high < 0xDC00 := by omega
  have hrange' : 0xDC00 ≤ 0xDC00 + low ∧ 0xDC00 + low < 0xE000 := by omega
  have hsurrogate : readLowSurrogate (unitEscape (0xDC00 + low) ++ rest) =
      some (0xDC00 + low, rest) := by
    simp [unitEscape, readLowSurrogate, hsecond, hrange'.2]
  rw [readEscape, if_pos rfl, hfirst]
  simp only [Option.bind_eq_bind, Option.bind_some]
  rw [if_pos hrange, hsurrogate]
  simp only [Option.bind_some, Nat.add_sub_cancel_left]

/-- A character is read back from the way it is written. -/
theorem readChars_escapeChar (ascii : Bool) (c : Char) (fuel : Nat) (more : List Char) :
    readChars (fuel + 1) (escapeChar ascii c ++ more) =
      (readChars fuel more).map fun (chars, rest) => (c :: chars, rest) := by
  have hescape : ∀ tail, readEscape tail = some (c, more) →
      readChars (fuel + 1) (backslash :: tail) =
        (readChars fuel more).map fun (chars, rest) => (c :: chars, rest) := by
    intro tail htail
    rw [readChars, if_neg (by decide), if_pos rfl, htail]
    simp only [Option.bind_eq_bind, Option.bind_some]
    cases readChars fuel more <;> rfl
  have hvalid : c.toNat < 0xD800 ∨ 0xDFFF < c.toNat ∧ c.toNat < 0x110000 := c.valid
  rw [escapeChar]
  cases hshort : shortEscape c with
  | some letter =>
      obtain ⟨hunit, hslash, hfind⟩ := shortEscape_some hshort
      refine hescape (letter :: more) ?_
      rw [readEscape, if_neg hunit, if_neg hslash, hfind, Option.map_some]
  | none =>
      obtain ⟨hquote, hbackslash⟩ := shortEscape_none hshort
      show readChars (fuel + 1) ((if _ then _ else if _ then if _ then _ else _ else _) ++ more) = _
      split
      · rename_i hcontrol
        refine hescape ('u' :: (fixedDigits 16 4 c.toNat ++ more)) ?_
        rw [readEscape_unit (by omega) (by omega), Char.ofNat_toNat]
      · rename_i hprintable
        split
        · split
          · rename_i hplane
            refine hescape ('u' :: (fixedDigits 16 4 c.toNat ++ more)) ?_
            rw [readEscape_unit hplane (by omega), Char.ofNat_toNat]
          · rename_i hplane
            rw [List.append_assoc]
            refine hescape ('u' :: (fixedDigits 16 4 _ ++ (unitEscape _ ++ more))) ?_
            rw [readEscape_pair (by omega) (by omega)]
            have hcode : 0x10000 + (c.toNat - 0x10000) / 0x400 * 0x400 +
                (c.toNat - 0x10000) % 0x400 = c.toNat := by omega
            rw [hcode, Char.ofNat_toNat]
        · rw [List.singleton_append, readChars, if_neg hquote, if_neg hbackslash,
            if_neg hprintable]
          cases readChars fuel more <;> rfl

/-- The characters of a text are read back. -/
theorem readChars_writeChars (ascii : Bool) (chars rest : List Char) {fuel : Nat}
    (hfuel : chars.length < fuel) :
    readChars fuel (writeChars ascii chars ++ rest) = some (chars, rest) := by
  induction chars generalizing fuel with
  | nil =>
      obtain ⟨fuel, rfl⟩ : ∃ n, fuel = n + 1 := ⟨fuel - 1, by omega⟩
      rw [writeChars, List.singleton_append, readChars, if_pos rfl]
  | cons c chars ih =>
      obtain ⟨fuel, rfl⟩ : ∃ n, fuel = n + 1 := ⟨fuel - 1, by omega⟩
      rw [List.length_cons] at hfuel
      rw [writeChars, List.append_assoc, readChars_escapeChar, ih (by omega), Option.map_some]

theorem length_writeChars (ascii : Bool) (chars : List Char) :
    chars.length < (writeChars ascii chars).length := by
  induction chars with
  | nil => simp [writeChars]
  | cons c chars ih =>
      have hone : 1 ≤ (escapeChar ascii c).length := by
        unfold escapeChar unitEscape
        split
        · simp
        · split
          · simp
          · split
            · split <;> simp
            · simp
      rw [writeChars, List.length_append, List.length_cons]
      omega

/-- A text is read back in front of any other. -/
theorem readText_writeText (ascii : Bool) (value : String) (rest : List Char) :
    readText (writeText ascii value ++ rest) = some (value, rest) := by
  have hlength := length_writeChars ascii value.toList
  have hread := readChars_writeChars ascii value.toList rest
    (show value.toList.length < (writeChars ascii value.toList ++ rest).length + 1 by
      rw [List.length_append]
      omega)
  rw [writeText, List.cons_append, readText, hread]
  simp only [Option.bind_eq_bind, Option.bind_some, ↓reduceIte, String.ofList_toList]

/-! ## Numbers are read back -/

/-- What follows a document does not go on with a digit. -/
def Follows (rest : List Char) : Prop :=
  ∀ c ∈ rest.head?, Decimal.isDigit c = false

/-- A number starts with a zero only when it is zero. -/
theorem head_natDigits (n : Nat) :
    ∃ first tail, natDigits n = first :: tail ∧ (first = '0' → n = 0) := by
  suffices hbelow : ∀ fuel n, n ≤ fuel →
      ∃ first tail, natDigitsBelow fuel n = first :: tail ∧ (first = '0' → n = 0) from
    hbelow n n le_rfl
  intro fuel
  induction fuel with
  | zero => exact fun n hn => ⟨_, _, rfl, fun _ => by omega⟩
  | succ fuel ih =>
      intro n hn
      rw [natDigitsBelow]
      split
      · rename_i hsmall
        have hall : ∀ d : Fin 10, digitChar d = '0' → d.val = 0 := by decide
        exact ⟨_, _, rfl, hall ⟨n, hsmall⟩⟩
      · obtain ⟨first, tail, hdigits, hfirst⟩ := ih (n / 10) (by omega)
        refine ⟨first, tail ++ [digitChar (n % 10)], by rw [hdigits, List.cons_append], ?_⟩
        intro hzero
        have hlow := hfirst hzero
        omega

/-- The digits of a number are read back. -/
theorem readDigitRun_natDigits (n : Nat) {rest : List Char} (h : Follows rest) :
    readDigitRun (natDigits n ++ rest) = some (n, rest) := by
  obtain ⟨htake, -⟩ := Decimal.takeWhile_digits (Decimal.natDigits_isDigit n) h
  obtain ⟨first, tail, hdigits, hfirst⟩ := head_natDigits n
  have hread := readDigits_natDigits n
  rw [readDigitRun, htake]
  rw [hdigits] at hread ⊢
  by_cases hzero : first = '0'
  · obtain rfl := hfirst hzero
    have htail : tail = [] := by
      have hnatural : natDigits 0 = ['0'] := by decide
      rw [hnatural, List.cons.injEq] at hdigits
      exact hdigits.2.symm
    simp [hzero, htail]
  · simp only [if_neg hzero, hread, Option.map_some, List.drop_left]

/-- The first character of a number is a digit or a minus sign. -/
theorem head_writeNumber (n : Int) :
    ∃ first tail, writeNumber n = first :: tail ∧
      (first = '-' ∨ Decimal.isDigit first = true) := by
  obtain ⟨first, tail, hdigits, -⟩ := head_natDigits n.natAbs
  have hdigit := Decimal.natDigits_isDigit n.natAbs first (by simp [hdigits])
  rw [writeNumber]
  split
  · exact ⟨'-', _, rfl, Or.inl rfl⟩
  · exact ⟨first, tail, hdigits, Or.inr hdigit⟩

theorem ne_minus_of_isDigit {c : Char} (h : Decimal.isDigit c = true) : c ≠ '-' := by
  rintro rfl
  exact absurd h (by decide)

theorem readNumber_writeNumber (n : Int) {rest : List Char} (h : Follows rest) :
    readNumber (writeNumber n ++ rest) = some (number n, rest) := by
  rw [writeNumber]
  split
  · rename_i hneg
    rw [List.cons_append, readNumber, readDigitRun_natDigits _ h, Option.map_some]
    have habs : -(n.natAbs : Int) = n := by omega
    simp only [habs]
  · rename_i hpos
    obtain ⟨first, tail, hdigits, -⟩ := head_natDigits n.natAbs
    have hdigit := Decimal.natDigits_isDigit n.natAbs first (by simp [hdigits])
    have hread := readDigitRun_natDigits n.natAbs h
    rw [hdigits, List.cons_append] at hread ⊢
    rw [readNumber, hread, Option.map_some]
    · have habs : (n.natAbs : Int) = n := by omega
      simp only [habs]
    · intro tail htail
      exact ne_minus_of_isDigit hdigit (List.cons.inj htail).1

/-! ## Documents are read back -/

/-- The objects of a document name each member once. -/
inductive Keyed : Json → Prop where
  | null : Keyed null
  | bool (value : Bool) : Keyed (bool value)
  | number (value : Int) : Keyed (number value)
  | text (value : String) : Keyed (text value)
  | array {items : List Json} (h : ∀ item ∈ items, Keyed item) : Keyed (array items)
  | object {members : List (String × Json)} (hnames : (members.map (·.1)).Nodup)
      (h : ∀ pair ∈ members, Keyed pair.2) : Keyed (object members)

section Heads

variable {ascii : Bool} {c : Char} {rest : List Char}

theorem skipBlank_cons (h : isBlank c = false) : skipBlank (c :: rest) = c :: rest := by
  rw [skipBlank, if_neg (by simp [h])]

/-- A document starts with a character that is no white space and ends no array. -/
theorem head_write (ascii : Bool) (document : Json) :
    ∃ first tail, write ascii document = first :: tail ∧ isBlank first = false ∧ first ≠ ']' := by
  cases document with
  | null => exact ⟨_, _, rfl, by decide, by decide⟩
  | bool value => cases value <;> exact ⟨_, _, rfl, by decide, by decide⟩
  | number n =>
      obtain ⟨first, tail, hwrite, hfirst⟩ := head_writeNumber n
      refine ⟨first, tail, hwrite, ?_⟩
      rcases hfirst with rfl | hdigit
      · decide
      · simp only [Decimal.isDigit, decide_eq_true_eq] at hdigit
        constructor
        · simp only [isBlank, Bool.or_eq_false_iff, beq_eq_false_iff_ne]
          have hzero : '0'.toNat = 48 := rfl
          omega
        · rintro rfl
          exact absurd hdigit (by decide)
  | text value => exact ⟨_, _, rfl, by decide, by decide⟩
  | array items => cases items <;> exact ⟨_, _, rfl, by decide, by decide⟩
  | object members => cases members <;> exact ⟨_, _, rfl, by decide, by decide⟩

theorem skipBlank_write (document : Json) :
    skipBlank (write ascii document ++ rest) = write ascii document ++ rest := by
  obtain ⟨first, tail, hwrite, hblank, -⟩ := head_write ascii document
  rw [hwrite, List.cons_append, skipBlank_cons hblank]

theorem skipBlank_writeText (value : String) :
    skipBlank (writeText ascii value ++ rest) = writeText ascii value ++ rest := by
  rw [writeText, List.cons_append, skipBlank_cons (by decide)]

theorem follows_cons (h : Decimal.isDigit c = false) : Follows (c :: rest) := by
  intro first hfirst
  cases hfirst
  exact h

theorem follows_writeItems (items : List Json) : Follows (writeItems ascii items ++ rest) := by
  cases items <;> exact follows_cons (by decide)

theorem follows_writeMembers (members : List (String × Json)) :
    Follows (writeMembers ascii members ++ rest) := by
  cases members with
  | nil => exact follows_cons (by decide)
  | cons pair members => exact follows_cons (by decide)

end Heads

/-! ### Lengths, which bound the recursion of the reader -/

/-- Every item of an array is written within it. -/
theorem length_writeItems (ascii : Bool) (items : List Json) :
    items.length < (writeItems ascii items).length ∧
      ∀ item ∈ items, (write ascii item).length < (writeItems ascii items).length := by
  induction items with
  | nil => simp [writeItems]
  | cons item items ih =>
      obtain ⟨hlength, hitems⟩ := ih
      simp only [writeItems, List.length_cons, List.length_append, List.forall_mem_cons]
      refine ⟨by omega, by omega, fun other hother => ?_⟩
      have hless := hitems other hother
      omega

/-- Every value of an object is written within it. -/
theorem length_writeMembers (ascii : Bool) (members : List (String × Json)) :
    members.length < (writeMembers ascii members).length ∧
      ∀ pair ∈ members, (write ascii pair.2).length < (writeMembers ascii members).length := by
  induction members with
  | nil => simp [writeMembers]
  | cons pair members ih =>
      obtain ⟨hlength, hvalues⟩ := ih
      simp only [writeMembers, List.length_cons, List.length_append, List.forall_mem_cons]
      refine ⟨by omega, by omega, fun other hother => ?_⟩
      have hless := hvalues other hother
      omega

section Compound

variable {ascii : Bool} {read : List Char → Option (Json × List Char)}

/-- The items of an array are read back by a reader that reads each of them back. -/
theorem readItems_writeItems {item : Json} {items : List Json} {fuel : Nat} (rest : List Char)
    (hread : ∀ document ∈ item :: items, ∀ more, Follows more →
      read (write ascii document ++ more) = some (document, more))
    (hfuel : items.length < fuel) :
    readItems read fuel (write ascii item ++ (writeItems ascii items ++ rest)) =
      some (item :: items, rest) := by
  induction items generalizing item fuel with
  | nil =>
      obtain ⟨fuel, rfl⟩ : ∃ n, fuel = n + 1 := ⟨fuel - 1, by omega⟩
      rw [readItems, hread item (by simp) _ (follows_writeItems [])]
      simp only [Option.bind_eq_bind, Option.bind_some, writeItems, List.singleton_append]
      rw [skipBlank_cons (by decide)]
      rfl
  | cons next items ih =>
      obtain ⟨fuel, rfl⟩ : ∃ n, fuel = n + 1 := ⟨fuel - 1, by omega⟩
      rw [List.length_cons] at hfuel
      have hnext := @ih next fuel (fun document hdocument => hread document (by simp_all))
        (by omega)
      rw [readItems, hread item (by simp) _ (follows_writeItems (next :: items))]
      simp only [Option.bind_eq_bind, Option.bind_some, writeItems, List.cons_append,
        List.append_assoc]
      rw [skipBlank_cons (by decide)]
      simp only [Char.reduceEq, ↓reduceIte, skipBlank_write, hnext, Option.bind_some]

/-- A member of an object is read back. -/
theorem readMember_written {key : String} {value : Json} (more : List Char)
    (hread : read (write ascii value ++ more) = some (value, more)) :
    readMember read (writeText ascii key ++ ':' :: (write ascii value ++ more)) =
      some ((key, value), more) := by
  rw [readMember, readText_writeText]
  simp only [Option.bind_eq_bind, Option.bind_some]
  rw [skipBlank_cons (by decide)]
  simp only [skipBlank_write, hread, Option.bind_some, ↓reduceIte]

/-- The members of an object are read back by a reader that reads each value back. -/
theorem readMembers_writeMembers {key : String} {value : Json} {members : List (String × Json)}
    {fuel : Nat} (rest : List Char)
    (hread : ∀ pair ∈ (key, value) :: members, ∀ more, Follows more →
      read (write ascii pair.2 ++ more) = some (pair.2, more))
    (hfuel : members.length < fuel) :
    readMembers read fuel (writeText ascii key ++ ':' ::
      (write ascii value ++ (writeMembers ascii members ++ rest))) =
      some ((key, value) :: members, rest) := by
  induction members generalizing key value fuel with
  | nil =>
      obtain ⟨fuel, rfl⟩ : ∃ n, fuel = n + 1 := ⟨fuel - 1, by omega⟩
      rw [readMembers, readMember_written _ (hread (key, value) (by simp) _
        (follows_writeMembers []))]
      simp only [Option.bind_eq_bind, Option.bind_some, writeMembers, List.singleton_append]
      rw [skipBlank_cons (by decide)]
      rfl
  | cons next members ih =>
      obtain ⟨fuel, rfl⟩ : ∃ n, fuel = n + 1 := ⟨fuel - 1, by omega⟩
      obtain ⟨name, document⟩ := next
      rw [List.length_cons] at hfuel
      have hnext := @ih name document fuel (fun pair hpair => hread pair (by simp_all)) (by omega)
      rw [readMembers, readMember_written _ (hread (key, value) (by simp) _
        (follows_writeMembers _))]
      simp only [Option.bind_eq_bind, Option.bind_some, writeMembers, List.cons_append,
        List.append_assoc]
      rw [skipBlank_cons (by decide)]
      simp only [Char.reduceEq, ↓reduceIte, skipBlank_writeText, hnext, Option.bind_some]

end Compound

/-! ### Members of an object -/

/-- A member with a new name is put last. -/
theorem putMember_of_new {key : String} {value : Json} {members : List (String × Json)}
    (h : ∀ pair ∈ members, pair.1 ≠ key) :
    putMember key value members = members ++ [(key, value)] := by
  induction members with
  | nil => rfl
  | cons pair members ih =>
      rw [List.forall_mem_cons] at h
      rw [putMember, if_neg h.1, ih h.2, List.cons_append]

/-- Pairs with different names are the members of their object. -/
theorem ofPairs_of_nodup {pairs : List (String × Json)} (h : (pairs.map (·.1)).Nodup) :
    ofPairs pairs = pairs := by
  suffices hfold : ∀ members, ((members ++ pairs).map (·.1)).Nodup →
      pairs.foldl (fun members pair => putMember pair.1 pair.2 members) members =
        members ++ pairs from by
    simpa [ofPairs] using hfold [] h
  clear h
  induction pairs with
  | nil => exact fun members _ => (List.append_nil members).symm
  | cons pair pairs ih =>
      intro members hnodup
      have hnew : ∀ other ∈ members, other.1 ≠ pair.1 := by
        rw [List.map_append, List.nodup_append] at hnodup
        exact fun other hother =>
          hnodup.2.2 _ (List.mem_map_of_mem hother) _ (List.mem_map_of_mem List.mem_cons_self)
      rw [List.foldl_cons, putMember_of_new hnew, ih, List.append_assoc, List.singleton_append]
      rwa [List.append_assoc, List.singleton_append]

/-! ### The round trip -/

/-- A document is read back in front of any text that does not go on with a digit. -/
theorem readValue_write (ascii : Bool) {document : Json} (h : Keyed document) {fuel : Nat}
    {rest : List Char} (hfuel : (write ascii document).length ≤ fuel) (hrest : Follows rest) :
    readValue fuel (write ascii document ++ rest) = some (document, rest) := by
  induction h generalizing fuel rest with
  | null =>
      obtain ⟨fuel, rfl⟩ : ∃ n, fuel = n + 1 := ⟨fuel - 1, by simp [write] at hfuel; omega⟩
      rfl
  | bool value =>
      cases value <;>
        (obtain ⟨fuel, rfl⟩ : ∃ n, fuel = n + 1 := ⟨fuel - 1, by simp [write] at hfuel; omega⟩
         rfl)
  | number n =>
      obtain ⟨first, tail, hwrite, hfirst⟩ := head_writeNumber n
      have hread := readNumber_writeNumber n hrest
      rw [write, hwrite] at hfuel
      obtain ⟨fuel, rfl⟩ : ∃ n, fuel = n + 1 := ⟨fuel - 1, by simp at hfuel; omega⟩
      rw [write, hwrite, List.cons_append, readValue]
      rw [hwrite, List.cons_append] at hread
      have hother : ∀ c, c ≠ '-' → Decimal.isDigit c = false → first ≠ c := by
        rintro c hminus hdigit rfl
        rcases hfirst with rfl | htrue
        · exact hminus rfl
        · rw [hdigit] at htrue
          cases htrue
      rw [if_neg (hother _ (by decide) (by decide)), if_neg (hother _ (by decide) (by decide)),
        if_neg (hother _ (by decide) (by decide)), if_neg (hother _ (by decide) (by decide)),
        if_neg (hother _ (by decide) (by decide)), if_neg (hother _ (by decide) (by decide)), hread]
  | text value =>
      have hread := readText_writeText ascii value rest
      obtain ⟨fuel, rfl⟩ : ∃ n, fuel = n + 1 :=
        ⟨fuel - 1, by simp [write, writeText] at hfuel; omega⟩
      rw [writeText, List.cons_append] at hread
      rw [write, writeText, List.cons_append, readValue, if_pos rfl, hread, Option.map_some]
  | @array items _ ih =>
      cases items with
      | nil =>
          obtain ⟨fuel, rfl⟩ : ∃ n, fuel = n + 1 := ⟨fuel - 1, by simp [write] at hfuel; omega⟩
          rfl
      | cons item items =>
          obtain ⟨hcount, hitems⟩ := length_writeItems ascii items
          rw [write, List.length_cons, List.length_append] at hfuel
          obtain ⟨fuel, rfl⟩ : ∃ n, fuel = n + 1 := ⟨fuel - 1, by omega⟩
          obtain ⟨first, tail, hwrite, hblank, hclose⟩ := head_write ascii item
          have hread := @readItems_writeItems ascii (readValue fuel) item items
            ((tail ++ (writeItems ascii items ++ rest)).length + 1) rest
            (fun document hdocument more hmore => ih document hdocument
              (by
                rcases List.mem_cons.mp hdocument with rfl | hmem
                · omega
                · have hless := hitems document hmem
                  omega) hmore)
            (by simp only [List.length_append]; omega)
          rw [hwrite, List.cons_append] at hread
          rw [write, List.cons_append, readValue, List.append_assoc, hwrite, List.cons_append]
          rw [if_neg (by decide), if_neg (by decide), if_pos rfl, readArray, skipBlank_cons hblank]
          simp only [if_neg hclose, hread, Option.map_some]
  | @object members hnames _ ih =>
      cases members with
      | nil =>
          obtain ⟨fuel, rfl⟩ : ∃ n, fuel = n + 1 := ⟨fuel - 1, by simp [write] at hfuel; omega⟩
          rfl
      | cons pair members =>
          obtain ⟨key, value⟩ := pair
          obtain ⟨hcount, hvalues⟩ := length_writeMembers ascii members
          rw [write, List.length_cons, List.length_append, List.length_cons,
            List.length_append] at hfuel
          obtain ⟨fuel, rfl⟩ : ∃ n, fuel = n + 1 := ⟨fuel - 1, by omega⟩
          have hread := @readMembers_writeMembers ascii (readValue fuel) key value members
            ((writeChars ascii key.toList ++ ':' ::
              (write ascii value ++ (writeMembers ascii members ++ rest))).length + 1) rest
            (fun pair hpair more hmore => ih pair hpair
              (by
                rcases List.mem_cons.mp hpair with rfl | hmem
                · simp only
                  omega
                · have hless := hvalues pair hmem
                  omega) hmore)
            (by simp only [List.length_append, List.length_cons]; omega)
          rw [writeText, List.cons_append] at hread
          rw [write, List.cons_append, readValue, List.append_assoc, List.cons_append,
            List.append_assoc]
          rw [if_neg (by decide), if_pos rfl, readObject, writeText, List.cons_append,
            skipBlank_cons (by decide)]
          have hclose : quote ≠ '}' := by decide
          simp only [if_neg hclose, hread, Option.map_some, ofPairs_of_nodup hnames]

/-- A document is read back from its text. -/
theorem loads_dumps (ascii : Bool) {document : Json} (h : Keyed document) :
    loads (dumps ascii document) = some document := by
  have hread := @readValue_write ascii document h ((write ascii document).length + 1) []
    (by omega) (by simp [Follows])
  have hskip := @skipBlank_write ascii [] document
  rw [List.append_nil] at hread hskip
  rw [loads, dumps, String.toList_ofList, hskip, hread]
  rfl

end Foundation.Json
