import AlphaDecay.Foundation.Text
import Mathlib.Tactic.NormNum

/-!
# Instants and their ISO text

An instant is an integer: the microseconds since the start of year one in UTC. A duration is a
difference of instants. The proleptic Gregorian date of a day follows the usual cycle
arithmetic: `dateOfDay` splits a day count into cycles of 400, 100, 4 and 1 years, and
`dayOfDate` counts days from a date; `dayOfDate_dateOfDay` says that the second undoes the first.
`fromIsoformat_isoformat` is the round trip of an instant through its text.
-/

namespace Foundation

namespace Calendar

open Text

/-- A duration of whole seconds. -/
def seconds (n : Int) : Int :=
  n * 1000000

def microsPerDay : Nat := 86400000000

/-- The instants with a four-digit year, which a date-time can represent. -/
def InRange (t : Int) : Prop :=
  0 ≤ t ∧ t < 3652059 * (microsPerDay : Int)

instance (t : Int) : Decidable (InRange t) :=
  inferInstanceAs (Decidable (_ ∧ _))

/-! ## Dates -/

/-- A year with a twenty-ninth of February. -/
def isLeap (year : Nat) : Bool :=
  year % 4 == 0 && (year % 100 != 0 || year % 400 == 0)

/-- The days of a common year before each month, January being month one. -/
def daysBeforeMonthCommon : Nat → Nat
  | 1 => 0
  | 2 => 31
  | 3 => 59
  | 4 => 90
  | 5 => 120
  | 6 => 151
  | 7 => 181
  | 8 => 212
  | 9 => 243
  | 10 => 273
  | 11 => 304
  | 12 => 334
  | _ => 365

def daysBeforeMonth (leap : Bool) (month : Nat) : Nat :=
  daysBeforeMonthCommon month + if 2 < month && leap then 1 else 0

def daysInMonth (leap : Bool) (month : Nat) : Nat :=
  daysBeforeMonth leap (month + 1) - daysBeforeMonth leap month

def daysBeforeYear (year : Nat) : Nat :=
  (year - 1) * 365 + (year - 1) / 4 - (year - 1) / 100 + (year - 1) / 400

structure Date where
  year : Nat
  month : Nat
  day : Nat
deriving DecidableEq, Repr

/-- The days from the start of year one to a date. -/
def dayOfDate (date : Date) : Nat :=
  daysBeforeYear date.year + daysBeforeMonth (isLeap date.year) date.month + (date.day - 1)

/-- The month and day of a day of the year, counted from zero. -/
def monthDay (leap : Bool) (dayOfYear : Nat) : Nat × Nat :=
  let month := (dayOfYear + 50) / 32
  if dayOfYear < daysBeforeMonth leap month then
    (month - 1, dayOfYear - daysBeforeMonth leap (month - 1) + 1)
  else (month, dayOfYear - daysBeforeMonth leap month + 1)

/-- The date of a day counted from the start of year one. -/
def dateOfDay (n : Nat) : Date :=
  let n400 := n / 146097
  let r400 := n % 146097
  let n100 := r400 / 36524
  let r100 := r400 % 36524
  let n4 := r100 / 1461
  let r4 := r100 % 1461
  let n1 := r4 / 365
  let r1 := r4 % 365
  let year := n400 * 400 + n100 * 100 + n4 * 4 + n1 + 1
  if n1 = 4 ∨ n100 = 4 then ⟨year - 1, 12, 31⟩
  else
    let leap := n1 == 3 && (n4 != 24 || n100 == 3)
    let (month, day) := monthDay leap r1
    ⟨year, month, day⟩

/-- Within a year, the month and day of a day count back to it. -/
theorem monthDay_spec (leap : Bool) (dayOfYear : Nat)
    (h : dayOfYear < 365 + if leap then 1 else 0) :
    daysBeforeMonth leap (monthDay leap dayOfYear).1 + ((monthDay leap dayOfYear).2 - 1) =
        dayOfYear ∧
      1 ≤ (monthDay leap dayOfYear).1 ∧ (monthDay leap dayOfYear).1 ≤ 12 ∧
      1 ≤ (monthDay leap dayOfYear).2 ∧
      (monthDay leap dayOfYear).2 ≤ daysInMonth leap (monthDay leap dayOfYear).1 := by
  have hall : ∀ leap : Bool, ∀ n : Fin (365 + if leap then 1 else 0),
      daysBeforeMonth leap (monthDay leap n).1 + ((monthDay leap n).2 - 1) = n.val ∧
        1 ≤ (monthDay leap n).1 ∧ (monthDay leap n).1 ≤ 12 ∧ 1 ≤ (monthDay leap n).2 ∧
        (monthDay leap n).2 ≤ daysInMonth leap (monthDay leap n).1 := by
    decide +kernel
  exact hall leap ⟨dayOfYear, h⟩

theorem daysBeforeYear_cycles {n400 n100 n4 n1 : Nat} (h100 : n100 < 4) (h4 : n4 < 25)
    (h1 : n1 < 4) :
    daysBeforeYear (n400 * 400 + n100 * 100 + n4 * 4 + n1 + 1) =
      n400 * 146097 + n100 * 36524 + n4 * 1461 + n1 * 365 := by
  simp only [daysBeforeYear, Nat.add_sub_cancel]
  omega

/-- A year is a leap year by its place in the cycles. -/
theorem isLeap_cycles {n400 n100 n4 n1 : Nat} (h100 : n100 < 4) (h4 : n4 < 25) (h1 : n1 < 4) :
    isLeap (n400 * 400 + n100 * 100 + n4 * 4 + n1 + 1) =
      (n1 == 3 && (n4 != 24 || n100 == 3)) := by
  rw [Bool.eq_iff_iff]
  simp only [isLeap, Bool.and_eq_true, Bool.or_eq_true, beq_iff_eq, bne_iff_ne, ne_eq]
  omega

/-- A day is the last of a leap cycle, or a day of the year that its cycles lead to. -/
theorem dateOfDay_cases (n : Nat) :
    ∃ n400 n100 n4 n1, n100 < 4 ∧ n4 < 25 ∧ n1 < 4 ∧
      ((isLeap (n400 * 400 + n100 * 100 + n4 * 4 + n1 + 1) = true ∧
          n = n400 * 146097 + n100 * 36524 + n4 * 1461 + n1 * 365 + 365 ∧
          dateOfDay n = ⟨n400 * 400 + n100 * 100 + n4 * 4 + n1 + 1, 12, 31⟩) ∨
        ∃ r < 365, n = n400 * 146097 + n100 * 36524 + n4 * 1461 + n1 * 365 + r ∧
          dateOfDay n = ⟨n400 * 400 + n100 * 100 + n4 * 4 + n1 + 1,
            (monthDay (isLeap (n400 * 400 + n100 * 100 + n4 * 4 + n1 + 1)) r).1,
            (monthDay (isLeap (n400 * 400 + n100 * 100 + n4 * 4 + n1 + 1)) r).2⟩) := by
  unfold dateOfDay
  dsimp only
  by_cases h100 : n % 146097 / 36524 = 4
  · refine ⟨n / 146097, 3, 24, 3, by omega, by omega, by omega, Or.inl ⟨?_, by omega, ?_⟩⟩
    · simpa using @isLeap_cycles (n / 146097) 3 24 3 (by decide) (by decide) (by decide)
    · rw [if_pos (Or.inr h100), Date.mk.injEq]
      omega
  · have hlt100 : n % 146097 / 36524 < 4 := by omega
    have hlt4 : n % 146097 % 36524 / 1461 < 25 := by omega
    by_cases h1 : n % 146097 % 36524 % 1461 / 365 = 4
    · refine ⟨n / 146097, n % 146097 / 36524, n % 146097 % 36524 / 1461, 3, hlt100, hlt4,
        by omega, Or.inl ⟨?_, by omega, ?_⟩⟩
      · rw [isLeap_cycles hlt100 hlt4 (by omega)]
        have hne : n % 146097 % 36524 / 1461 ≠ 24 := by omega
        simp [hne]
      · rw [if_pos (Or.inl h1), Date.mk.injEq]
        omega
    · have hlt1 : n % 146097 % 36524 % 1461 / 365 < 4 := by omega
      refine ⟨n / 146097, n % 146097 / 36524, n % 146097 % 36524 / 1461,
        n % 146097 % 36524 % 1461 / 365, hlt100, hlt4, hlt1,
        Or.inr ⟨n % 146097 % 36524 % 1461 % 365, Nat.mod_lt _ (by decide), by omega, ?_⟩⟩
      rw [if_neg (by simp [h1, h100]), isLeap_cycles hlt100 hlt4 hlt1]

/-- The date of a day counts back to the day. -/
theorem dayOfDate_dateOfDay (n : Nat) : dayOfDate (dateOfDay n) = n := by
  obtain ⟨n400, n100, n4, n1, h100, h4, h1, hlast | hday⟩ := dateOfDay_cases n
  · obtain ⟨hleap, hn, hdate⟩ := hlast
    have hbefore : daysBeforeMonth true 12 = 335 := by decide
    rw [hdate]
    simp only [dayOfDate, daysBeforeYear_cycles h100 h4 h1, hleap, hbefore]
    omega
  · obtain ⟨r, hr, hn, hdate⟩ := hday
    obtain ⟨hback, _⟩ := monthDay_spec
      (isLeap (n400 * 400 + n100 * 100 + n4 * 4 + n1 + 1)) r (by split <;> omega)
    rw [hdate]
    simp only [dayOfDate, daysBeforeYear_cycles h100 h4 h1]
    omega

theorem dateOfDay_valid {n : Nat} (h : n < 3652059) :
    1 ≤ (dateOfDay n).year ∧ (dateOfDay n).year ≤ 9999 ∧ 1 ≤ (dateOfDay n).month ∧
      (dateOfDay n).month ≤ 12 ∧ 1 ≤ (dateOfDay n).day ∧
      (dateOfDay n).day ≤ daysInMonth (isLeap (dateOfDay n).year) (dateOfDay n).month := by
  obtain ⟨n400, n100, n4, n1, h100, h4, h1, hlast | hday⟩ := dateOfDay_cases n
  · obtain ⟨hleap, hn, hdate⟩ := hlast
    have hdays : 31 ≤ daysInMonth true 12 := by decide
    rw [hdate]
    simp only [hleap]
    omega
  · obtain ⟨r, hr, hn, hdate⟩ := hday
    obtain ⟨_, hvalid⟩ := monthDay_spec
      (isLeap (n400 * 400 + n100 * 100 + n4 * 4 + n1 + 1)) r (by split <;> omega)
    rw [hdate]
    exact ⟨by dsimp only; omega, by dsimp only; omega, hvalid⟩

/-! ## ISO text -/

/-- The ISO text of an instant, with a fraction only where there is one. -/
def isoformat (t : Int) : String :=
  let date := dateOfDay (t.toNat / microsPerDay)
  let time := t.toNat % microsPerDay
  let micros := time % 1000000
  let seconds := time / 1000000
  String.ofList (
    fixedDigits 10 4 date.year ++ '-' :: (fixedDigits 10 2 date.month ++ '-' ::
    (fixedDigits 10 2 date.day ++ 'T' :: (fixedDigits 10 2 (seconds / 3600) ++ ':' ::
    (fixedDigits 10 2 (seconds / 60 % 60) ++ ':' :: (fixedDigits 10 2 (seconds % 60) ++
    ((if micros = 0 then [] else '.' :: fixedDigits 10 6 micros) ++
    ['+', '0', '0', ':', '0', '0'])))))))

/-- Read a number of fixed width at the start of a text. -/
def readField (width : Nat) (text : List Char) : Option (Nat × List Char) := do
  let n ← readDigits 10 (text.take width)
  if text.length < width then none else some (n, text.drop width)

/-- Read one expected character at the start of a text. -/
def readChar (expected : Char) : List Char → Option (List Char)
  | c :: rest => if c = expected then some rest else none
  | [] => none

/-- Read the optional fraction of a second. -/
def readFraction : List Char → Option (Nat × List Char)
  | '.' :: rest => readField 6 rest
  | rest => some (0, rest)

/-- The instant that an ISO text with a zero offset stands for. -/
def fromIsoformat (text : String) : Option Int := do
  let (year, rest) ← readField 4 text.toList
  let rest ← readChar '-' rest
  let (month, rest) ← readField 2 rest
  let rest ← readChar '-' rest
  let (day, rest) ← readField 2 rest
  let rest ← readChar 'T' rest
  let (hour, rest) ← readField 2 rest
  let rest ← readChar ':' rest
  let (minute, rest) ← readField 2 rest
  let rest ← readChar ':' rest
  let (second, rest) ← readField 2 rest
  let (micros, rest) ← readFraction rest
  if rest = ['+', '0', '0', ':', '0', '0'] ∧ 1 ≤ year ∧ 1 ≤ month ∧ month ≤ 12 ∧ 1 ≤ day ∧
      day ≤ daysInMonth (isLeap year) month ∧ hour < 24 ∧ minute < 60 ∧ second < 60 then
    some ((dayOfDate ⟨year, month, day⟩ * microsPerDay +
      ((hour * 60 + minute) * 60 + second) * 1000000 + micros : Nat) : Int)
  else none

/-- Reading a field written with its width returns the number and the rest of the text. -/
theorem readField_fixedDigits {width n : Nat} (h : n < 10 ^ width) (rest : List Char) :
    readField width (fixedDigits 10 width n ++ rest) = some (n, rest) := by
  have htake : (fixedDigits 10 width n ++ rest).take width = fixedDigits 10 width n := by
    rw [List.take_append_of_le_length (by simp), List.take_of_length_le (by simp)]
  have hdrop : (fixedDigits 10 width n ++ rest).drop width = rest := by
    rw [List.drop_append_of_le_length (by simp), List.drop_of_length_le (by simp),
      List.nil_append]
  simp [readField, htake, hdrop, readDigits_fixedDigits, Nat.mod_eq_of_lt h]

/-- The fraction of a second is read back as it was written. -/
theorem readFraction_written {micros : Nat} (h : micros < 1000000) :
    readFraction ((if micros = 0 then [] else '.' :: fixedDigits 10 6 micros) ++
      ['+', '0', '0', ':', '0', '0']) = some (micros, ['+', '0', '0', ':', '0', '0']) := by
  by_cases hzero : micros = 0
  · simp [hzero, readFraction]
  · simp only [hzero, ↓reduceIte, List.cons_append, readFraction]
    exact readField_fixedDigits (by omega) _

/-- The text of a valid date and time of day is read back field by field. -/
theorem fromIsoformat_fields {date : Date} {time : Nat} (hyear : 1 ≤ date.year)
    (hyear' : date.year ≤ 9999) (hmonth : 1 ≤ date.month) (hmonth' : date.month ≤ 12)
    (hday : 1 ≤ date.day) (hday' : date.day ≤ daysInMonth (isLeap date.year) date.month)
    (hday'' : date.day < 100) (htime : time < microsPerDay) :
    fromIsoformat (String.ofList (
      fixedDigits 10 4 date.year ++ '-' :: (fixedDigits 10 2 date.month ++ '-' ::
      (fixedDigits 10 2 date.day ++ 'T' :: (fixedDigits 10 2 (time / 1000000 / 3600) ++ ':' ::
      (fixedDigits 10 2 (time / 1000000 / 60 % 60) ++ ':' ::
      (fixedDigits 10 2 (time / 1000000 % 60) ++
      ((if time % 1000000 = 0 then [] else '.' :: fixedDigits 10 6 (time % 1000000)) ++
      ['+', '0', '0', ':', '0', '0'])))))))) =
      some ((dayOfDate date * microsPerDay + time : Nat) : Int) := by
  rw [microsPerDay] at htime
  have hhour : time / 1000000 / 3600 < 10 ^ 2 := by omega
  have hminute : time / 1000000 / 60 % 60 < 10 ^ 2 := by omega
  have hsecond : time / 1000000 % 60 < 10 ^ 2 := by omega
  have hmicros : time % 1000000 < 1000000 := Nat.mod_lt _ (by decide)
  rw [fromIsoformat, String.toList_ofList, readField_fixedDigits (by omega)]
  simp only [readChar, Option.bind_eq_bind, Option.bind_some, ↓reduceIte]
  rw [readField_fixedDigits (show date.month < 10 ^ 2 by omega)]
  simp only [Option.bind_some, ↓reduceIte]
  rw [readField_fixedDigits (show date.day < 10 ^ 2 by omega)]
  simp only [Option.bind_some, ↓reduceIte]
  rw [readField_fixedDigits hhour]
  simp only [Option.bind_some, ↓reduceIte]
  rw [readField_fixedDigits hminute]
  simp only [Option.bind_some, ↓reduceIte]
  rw [readField_fixedDigits hsecond]
  simp only [Option.bind_some]
  rw [readFraction_written hmicros]
  simp only [Option.bind_some]
  rw [if_pos ⟨trivial, hyear, hmonth, hmonth', hday, hday', by omega, by omega, by omega⟩]
  have htotal : ((time / 1000000 / 3600 * 60 + time / 1000000 / 60 % 60) * 60 +
      time / 1000000 % 60) * 1000000 + time % 1000000 = time := by omega
  rw [Nat.add_assoc, htotal]

theorem daysInMonth_lt (leap : Bool) {month : Nat} (hmonth' : month ≤ 12) :
    daysInMonth leap month < 100 := by
  have hall : ∀ leap : Bool, ∀ month : Fin 13, daysInMonth leap month < 100 := by decide
  exact hall leap ⟨month, by omega⟩

/-- An instant survives the round trip through its text. -/
theorem fromIsoformat_isoformat {t : Int} (h : InRange t) :
    fromIsoformat (isoformat t) = some t := by
  obtain ⟨hnonneg, hlt⟩ := h
  have hlt' : t < 3652059 * 86400000000 := hlt
  have hday : t.toNat / microsPerDay < 3652059 := by
    rw [microsPerDay]
    omega
  obtain ⟨hyear, hyear', hmonth, hmonth', hdate, hdate'⟩ := dateOfDay_valid hday
  have hshort := daysInMonth_lt (isLeap (dateOfDay (t.toNat / microsPerDay)).year) hmonth'
  have hback := dayOfDate_dateOfDay (t.toNat / microsPerDay)
  have hsplit := Nat.div_add_mod' t.toNat microsPerDay
  have hread := fromIsoformat_fields hyear hyear' hmonth hmonth' hdate hdate' (by omega)
    (Nat.mod_lt t.toNat (show 0 < microsPerDay by decide))
  rw [hback, hsplit, Int.toNat_of_nonneg hnonneg] at hread
  exact hread

/-- The zero offset at the end of an ISO text. -/
def zeroOffset : List Char :=
  ['+', '0', '0', ':', '0', '0']

/-- The ISO text of an instant with the zero offset written as the letter of it. -/
def utcText (t : Int) : String :=
  String.ofList ((isoformat t).toList.take ((isoformat t).toList.length - 6) ++ ['Z'])

/-- The instant that an ISO text with the letter of the zero offset stands for. -/
def readUtcText (text : String) : Option Int :=
  if text.toList.getLast? = some 'Z' then
    fromIsoformat (String.ofList (text.toList.dropLast ++ zeroOffset))
  else none

theorem isoformat_offset (t : Int) : ∃ body, (isoformat t).toList = body ++ zeroOffset := by
  rw [isoformat, String.toList_ofList]
  simp only [← List.append_assoc, ← List.cons_append]
  exact ⟨_, rfl⟩

/-- An instant survives the round trip through its text with the letter. -/
theorem readUtcText_utcText {t : Int} (h : InRange t) : readUtcText (utcText t) = some t := by
  obtain ⟨body, hbody⟩ := isoformat_offset t
  have hlength : zeroOffset.length = 6 := rfl
  have htext : (utcText t).toList = body ++ ['Z'] := by
    rw [utcText, String.toList_ofList, hbody, List.length_append, hlength, Nat.add_sub_cancel,
      List.take_left]
  rw [readUtcText, htext, List.getLast?_concat, if_pos rfl, List.dropLast_concat, ← hbody,
    String.ofList_toList]
  exact fromIsoformat_isoformat h

/-! ## Dates -/

def Date.isValid (date : Date) : Bool :=
  decide (1 ≤ date.year ∧ date.year ≤ 9999 ∧ 1 ≤ date.month ∧ date.month ≤ 12 ∧ 1 ≤ date.day ∧
    date.day ≤ daysInMonth (isLeap date.year) date.month)

/-- The date that an ISO text stands for. -/
def readDate (text : String) : Option Date := do
  let (year, rest) ← readField 4 text.toList
  let rest ← readChar '-' rest
  let (month, rest) ← readField 2 rest
  let rest ← readChar '-' rest
  let (day, rest) ← readField 2 rest
  if rest = [] ∧ Date.isValid ⟨year, month, day⟩ then some ⟨year, month, day⟩ else none

/-- A date of the calendar is read back from its ISO text. -/
theorem readDate_written {date : Date} (h : date.isValid = true) :
    readDate (String.ofList (fixedDigits 10 4 date.year ++ '-' ::
      (fixedDigits 10 2 date.month ++ '-' :: fixedDigits 10 2 date.day))) = some date := by
  have hvalid := h
  simp only [Date.isValid, decide_eq_true_eq] at hvalid
  obtain ⟨-, hyear, -, hmonth, -, hday⟩ := hvalid
  have hshort := daysInMonth_lt (isLeap date.year) hmonth
  have hlast := readField_fixedDigits (show date.day < 10 ^ 2 by omega) []
  rw [List.append_nil] at hlast
  rw [readDate, String.toList_ofList, readField_fixedDigits (by omega)]
  simp only [readChar, Option.bind_eq_bind, Option.bind_some, ↓reduceIte]
  rw [readField_fixedDigits (show date.month < 10 ^ 2 by omega)]
  simp only [Option.bind_some, ↓reduceIte, hlast, h, and_self]

end Calendar

end Foundation
