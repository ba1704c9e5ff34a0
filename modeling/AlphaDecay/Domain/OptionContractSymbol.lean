import AlphaDecay.Foundation.DecimalDigits
import AlphaDecay.Foundation.Pattern
import AlphaDecay.Selection.PilotPairs

/-!
# Option contract symbols

A contract symbol is read by a pattern, by the patterns of a date, and as a decimal. The pattern of
the root names the letters and digits of ASCII; the digits behind it may be decimal digits of any
script, as far as the patterns of the date take them: not in a month, and in a day only behind a one
or a two. `parse_canonical_iff` says that exactly the symbols with such a digit are read although
they are not canonical, and that every other symbol that is read is written from what was read.
-/

namespace AlphaDecay.Domain

open Foundation Decimal Text Pattern
open Policy (divide)
open Selection (OptionContractSymbol)

/-! ## Patterns -/

def characters (first last : Char) (c : Char) : Bool :=
  decide (first.toNat ≤ c.toNat ∧ c.toNat ≤ last.toNat)

/-- The shapes of a root: letters, letters with a digit behind, and a digit with letters behind. -/
def rootShapes : Alternatives Char :=
  (downFrom 6 1).map (fun n => times n (characters 'A' 'Z')) ++
    (downFrom 5 1).map (fun n => times n (characters 'A' 'Z') ++ [characters '0' '9']) ++
    (downFrom 5 1).map (fun n => characters '0' '9' :: times n (characters 'A' 'Z'))

/-- A call or a put. -/
def isRight (c : Char) : Bool :=
  c == 'C' || c == 'P'

/-- The pattern of a symbol: the root, the digits of an expiration, the right and the digits of a
strike. -/
def symbolPattern : List (Alternatives Char) :=
  [rootShapes, [times 6 isDecimal], [[isRight]], [times 8 isDecimal]]

/-- The pattern of two digits of a year. -/
def yearShapes : Alternatives Char :=
  [times 2 isDecimal]

/-- The pattern of a month. -/
def monthShapes : Alternatives Char :=
  [[characters '1' '1', characters '0' '2'], [characters '0' '0', characters '1' '9'],
    [characters '1' '9']]

/-- The pattern of a day. -/
def dayShapes : Alternatives Char :=
  [[characters '3' '3', characters '0' '1'], [characters '1' '2', isDecimal],
    [characters '0' '0', characters '1' '9'], [characters '1' '9'],
    [characters ' ' ' ', characters '1' '9']]

/-! ## Reading -/

/-- The date of the digits of a year, a month and a day. Years up to sixty-eight are of the
twenty-first century. -/
def dateOf (year month day : List Char) : Calendar.Date where
  year := if decimalNumber year ≤ 68 then 2000 + decimalNumber year else 1900 + decimalNumber year
  month := decimalNumber month
  day := decimalNumber day

/-- Read a date of two digits each for the year, the month and the day. Nothing may be left of the
text once the preferred match is found. -/
def readDate (text : List Char) : Option Calendar.Date :=
  match firstMatch [yearShapes, monthShapes, dayShapes] text with
  | some ([year, month, day], []) =>
      if (dateOf year month day).isValid then some (dateOf year month day) else none
  | _ => none

def parseOptionContractSymbol (symbol : String) : Except Failure OptionContractSymbol :=
  match fullMatch symbolPattern symbol.toList with
  | some [root, expiration, right, strike] => do
      let expirationDate ← require (readDate expiration)
        (.value "OPTION_CONTRACT_SYMBOL_MALFORMED")
      let strikePrice ← divide ⟨false, decimalNumber strike, 0⟩ (.ofInt 1000)
      return {
        symbol := symbol
        rootSymbol := String.ofList root
        expirationDate := expirationDate
        right := String.ofList right
        strikePrice := strikePrice
        isAdjusted := root.head?.any isDecimal || root.getLast?.any isDecimal }
  | _ => .error (.value "OPTION_CONTRACT_SYMBOL_MALFORMED")

/-- A symbol of a standard contract, of an underlying where one is given. -/
def requireStandard (parsed : OptionContractSymbol) (underlyingSymbol : Option String) :
    Except Failure OptionContractSymbol := do
  raiseIf parsed.isAdjusted (.value "NON_STANDARD_CONTRACT_UNSUPPORTED")
  raiseIf (underlyingSymbol.any fun underlying => parsed.rootSymbol != underlying)
    (.value "OPTION_CONTRACT_SYMBOL_MALFORMED")
  return parsed

def parseStandardOptionContractSymbol (symbol : String) (underlyingSymbol : Option String) :
    Except Failure OptionContractSymbol := do
  let parsed ← parseOptionContractSymbol symbol
  requireStandard parsed underlyingSymbol

/-! ## Canonical symbols -/

/-- A root: up to six letters, or up to five with a digit behind them or in front of them. -/
def IsRoot (root : List Char) : Prop :=
  ∃ letters : List Char, 1 ≤ letters.length ∧ (∀ c ∈ letters, characters 'A' 'Z' c = true) ∧
    (root = letters ∧ letters.length ≤ 6 ∨
      ∃ digit, characters '0' '9' digit = true ∧ letters.length ≤ 5 ∧
        (root = letters ++ [digit] ∨ root = digit :: letters))

/-- A date is written with two digits each for the year, the month and the day. -/
def writeDate (date : Calendar.Date) : List Char :=
  fixedDigits 10 2 (date.year % 100) ++ fixedDigits 10 2 date.month ++ fixedDigits 10 2 date.day

/-- The dates that two digits of a year can be read as. -/
def IsExpiration (date : Calendar.Date) : Prop :=
  date.isValid = true ∧ 1969 ≤ date.year ∧ date.year ≤ 2068

/-- A canonical symbol: a root, a date, the right and eight digits of ASCII. -/
def IsCanonical (symbol : String) : Prop :=
  ∃ root date right strike, symbol.toList = root ++ writeDate date ++ right :: strike ∧
    IsRoot root ∧ IsExpiration date ∧ isRight right = true ∧ strike.length = 8 ∧
    ∀ c ∈ strike, isDigit c = true

/-- The text of a symbol from what was read: the root, the date, the right and the strike in
thousandths, with eight digits. -/
def renderSymbol (parsed : OptionContractSymbol) : String :=
  String.ofList (parsed.rootSymbol.toList ++ writeDate parsed.expirationDate ++
    parsed.right.toList ++ fixedDigits 10 8 ⌊parsed.strikePrice.value * 1000⌋.toNat)

/-- A month of two digits of ASCII. -/
def IsMonth (tens units : Char) : Prop :=
  characters '1' '1' tens = true ∧ characters '0' '2' units = true ∨
    characters '0' '0' tens = true ∧ characters '1' '9' units = true

/-- A day of two digits, the second behind a one or a two as the digits of the year. -/
def IsDay (digit : Char → Bool) (tens units : Char) : Prop :=
  characters '3' '3' tens = true ∧ characters '0' '1' units = true ∨
    characters '1' '2' tens = true ∧ digit units = true ∨
    characters '0' '0' tens = true ∧ characters '1' '9' units = true

instance instDecidableIsMonth (tens units : Char) : Decidable (IsMonth tens units) :=
  inferInstanceAs (Decidable (_ ∨ _))

instance instDecidableIsDay (digit : Char → Bool) (tens units : Char) :
    Decidable (IsDay digit tens units) :=
  inferInstanceAs (Decidable (_ ∨ _))

/-- A text is written as a symbol, with digits of a kind in the year, behind a one or a two in the
day, and in the strike. -/
def WrittenWith (digit : Char → Bool) (text : List Char) : Prop :=
  ∃ root y y' m m' d d' right strike,
    text = root ++ [y, y', m, m', d, d'] ++ right :: strike ∧
    IsRoot root ∧ digit y = true ∧ digit y' = true ∧ IsMonth m m' ∧ IsDay digit d d' ∧
    (dateOf [y, y'] [m, m'] [d, d']).isValid = true ∧ isRight right = true ∧
    strike.length = 8 ∧ ∀ c ∈ strike, digit c = true

/-- A symbol is foreign when it is written as a symbol with decimal digits of any script, and one of
them is not of ASCII. -/
def IsForeign (symbol : String) : Prop :=
  WrittenWith isDecimal symbol.toList ∧
    ∃ c ∈ symbol.toList, isDecimal c = true ∧ isDigit c = false

/-! ## The shapes of the parts -/

variable {text root strike : List Char} {symbol : String} {tens units : Char} {date : Calendar.Date}
  {parsed : OptionContractSymbol}

/-- The shapes of a root are those of the pattern. -/
theorem isRoot_iff : IsRoot root ↔ ∃ shape ∈ rootShapes, HasShape shape root := by
  simp only [rootShapes, List.mem_append, List.mem_map, mem_downFrom]
  constructor
  · rintro ⟨letters, hsome, hletters, ⟨rfl, hmost⟩ | ⟨digit, hdigit, hmost, rfl | rfl⟩⟩
    · exact ⟨_, .inl (.inl ⟨root.length, ⟨hsome, hmost⟩, rfl⟩), hasShape_times.mpr ⟨rfl, hletters⟩⟩
    · exact ⟨_, .inl (.inr ⟨letters.length, ⟨hsome, hmost⟩, rfl⟩), hasShape_append.mpr
        ⟨letters, [digit], rfl, hasShape_times.mpr ⟨rfl, hletters⟩, .cons hdigit .nil⟩⟩
    · exact ⟨_, .inr ⟨letters.length, ⟨hsome, hmost⟩, rfl⟩,
        .cons hdigit (hasShape_times.mpr ⟨rfl, hletters⟩)⟩
  · rintro ⟨_, (⟨n, ⟨hsome, hmost⟩, rfl⟩ | ⟨n, ⟨hsome, hmost⟩, rfl⟩) | ⟨n, ⟨hsome, hmost⟩, rfl⟩,
      hshape⟩
    · obtain ⟨hlength, hletters⟩ := hasShape_times.mp hshape
      exact ⟨root, by omega, hletters, .inl ⟨rfl, by omega⟩⟩
    · obtain ⟨letters, back, rfl, hletters, hback⟩ := hasShape_append.mp hshape
      obtain ⟨hlength, hletters⟩ := hasShape_times.mp hletters
      obtain ⟨digit, hdigit, rfl⟩ : ∃ digit, characters '0' '9' digit = true ∧ back = [digit] := by
        cases hback with
        | cons hdigit hnone =>
            cases hnone
            exact ⟨_, hdigit, rfl⟩
      exact ⟨letters, by omega, hletters, .inr ⟨digit, hdigit, by omega, .inl rfl⟩⟩
    · cases hshape with
      | @cons _ digit _ letters hdigit hletters =>
          obtain ⟨hlength, hletters⟩ := hasShape_times.mp hletters
          exact ⟨letters, by omega, hletters, .inr ⟨digit, hdigit, by omega, .inr rfl⟩⟩

/-- The parts of a symbol: the root, six digits, the right and eight digits. -/
structure HasParts (text root expiration : List Char) (right : Char) (strike : List Char) :
    Prop where
  text : text = root ++ expiration ++ right :: strike
  root : IsRoot root
  expirationLength : expiration.length = 6
  expirationDigits : ∀ c ∈ expiration, isDecimal c = true
  right : isRight right = true
  strikeLength : strike.length = 8
  strikeDigits : ∀ c ∈ strike, isDecimal c = true

/-- The parts of a match of the pattern of a symbol. -/
theorem hasShapes_symbolPattern {parts : List (List Char)} :
    HasShapes symbolPattern parts ↔ ∃ root expiration right strike,
      parts = [root, expiration, [right], strike] ∧
        HasParts parts.flatten root expiration right strike := by
  constructor
  · intro h
    obtain ⟨root, first, hroot, hfirst, rfl⟩ := List.forall₂_cons_left_iff.mp h
    obtain ⟨expiration, second, hexpiration, hsecond, rfl⟩ :=
      List.forall₂_cons_left_iff.mp hfirst
    obtain ⟨rights, third, hright, hthird, rfl⟩ := List.forall₂_cons_left_iff.mp hsecond
    obtain ⟨strike, last, hstrike, hlast, rfl⟩ := List.forall₂_cons_left_iff.mp hthird
    obtain rfl := List.forall₂_nil_left_iff.mp hlast
    obtain ⟨shape, hshape, hexpiration⟩ := hexpiration
    obtain rfl := List.mem_singleton.mp hshape
    obtain ⟨shape, hshape, hright⟩ := hright
    obtain rfl := List.mem_singleton.mp hshape
    obtain ⟨shape, hshape, hstrike⟩ := hstrike
    obtain rfl := List.mem_singleton.mp hshape
    obtain ⟨right, none, hside, hnone, rfl⟩ := List.forall₂_cons_left_iff.mp hright
    obtain rfl := List.forall₂_nil_left_iff.mp hnone
    obtain ⟨hlength, hdigits⟩ := hasShape_times.mp hexpiration
    obtain ⟨hlength', hdigits'⟩ := hasShape_times.mp hstrike
    exact ⟨root, expiration, right, strike, rfl, by simp, isRoot_iff.mpr hroot, hlength, hdigits,
      hside, hlength', hdigits'⟩
  · rintro ⟨root, expiration, right, strike, rfl, h⟩
    refine .cons (isRoot_iff.mp h.root) (.cons ⟨_, List.mem_singleton.mpr rfl, ?_⟩
      (.cons ⟨_, List.mem_singleton.mpr rfl, .cons h.right .nil⟩
        (.cons ⟨_, List.mem_singleton.mpr rfl, ?_⟩ .nil)))
    · exact hasShape_times.mpr ⟨h.expirationLength, h.expirationDigits⟩
    · exact hasShape_times.mpr ⟨h.strikeLength, h.strikeDigits⟩

/-- A text has its parts in one way: from its end they have fixed lengths. -/
theorem HasParts.unique {root' expiration expiration' strike' : List Char} {right right' : Char}
    (h : HasParts text root expiration right strike)
    (h' : HasParts text root' expiration' right' strike') :
    root' = root ∧ expiration' = expiration ∧ right' = right ∧ strike' = strike := by
  obtain ⟨hfront, hback⟩ := List.append_inj' (h'.text.symm.trans h.text) (by
    rw [List.length_cons, List.length_cons, h.strikeLength, h'.strikeLength])
  obtain ⟨hroot, hexpiration⟩ := List.append_inj' hfront
    (h'.expirationLength.trans h.expirationLength.symm)
  obtain ⟨hright, hstrike⟩ := List.cons.inj hback
  exact ⟨hroot, hexpiration, hright, hstrike⟩

/-- The pattern of a symbol matches a text exactly in its parts. -/
theorem fullMatch_symbolPattern {parts : List (List Char)} :
    fullMatch symbolPattern text = some parts ↔ ∃ root expiration right strike,
      parts = [root, expiration, [right], strike] ∧
        HasParts text root expiration right strike := by
  constructor
  · intro h
    obtain ⟨rfl, hshapes⟩ := hasShapes_of_fullMatch h
    exact hasShapes_symbolPattern.mp hshapes
  · rintro ⟨root, expiration, right, strike, rfl, h⟩
    have hflatten : [root, expiration, [right], strike].flatten = text := by
      rw [h.text]
      simp
    obtain ⟨found, hfound⟩ := exists_fullMatch (hasShapes_symbolPattern.mpr
      ⟨root, expiration, right, strike, rfl, hflatten ▸ h⟩)
    rw [hflatten] at hfound
    obtain ⟨hsame, hshapes⟩ := hasShapes_of_fullMatch hfound
    obtain ⟨root', expiration', right', strike', rfl, h'⟩ := hasShapes_symbolPattern.mp hshapes
    rw [← hsame] at h'
    obtain ⟨rfl, rfl, rfl, rfl⟩ := h.unique h'
    exact hfound

/-! ## Dates -/

theorem isMonth_iff : IsMonth tens units ↔ ∃ shape ∈ monthShapes, HasShape shape [tens, units] := by
  simp [IsMonth, monthShapes, HasShape]

theorem isDigit_of_characters {first last c : Char} (hfirst : '0'.toNat ≤ first.toNat)
    (hlast : last.toNat ≤ '9'.toNat) (h : characters first last c = true) : isDigit c = true := by
  have hrange := of_decide_eq_true h
  exact decide_eq_true ⟨hfirst.trans hrange.1, hrange.2.trans hlast⟩

theorem IsMonth.isDigit (h : IsMonth tens units) :
    Decimal.isDigit tens = true ∧ Decimal.isDigit units = true := by
  rcases h with ⟨htens, hunits⟩ | ⟨htens, hunits⟩
  · exact ⟨isDigit_of_characters (by decide) (by decide) htens,
      isDigit_of_characters (by decide) (by decide) hunits⟩
  · exact ⟨isDigit_of_characters (by decide) (by decide) htens,
      isDigit_of_characters (by decide) (by decide) hunits⟩

/-- The first digit of a day is of ASCII, and so is the second or it is one of the digits of the
year. -/
theorem IsDay.digits {digit : Char → Bool} (h : IsDay digit tens units) :
    Decimal.isDigit tens = true ∧ (Decimal.isDigit units = true ∨ digit units = true) := by
  rcases h with ⟨htens, hunits⟩ | ⟨htens, hunits⟩ | ⟨htens, hunits⟩
  · exact ⟨isDigit_of_characters (by decide) (by decide) htens,
      .inl (isDigit_of_characters (by decide) (by decide) hunits)⟩
  · exact ⟨isDigit_of_characters (by decide) (by decide) htens, .inr hunits⟩
  · exact ⟨isDigit_of_characters (by decide) (by decide) htens,
      .inl (isDigit_of_characters (by decide) (by decide) hunits)⟩

/-- The digits of a day are decimal digits. -/
theorem IsDay.isDecimal (h : IsDay Text.isDecimal tens units) :
    Text.isDecimal tens = true ∧ Text.isDecimal units = true := by
  obtain ⟨htens, hunits⟩ := h.digits
  refine ⟨isDecimal_of_isDigit htens, ?_⟩
  rcases hunits with hunits | hunits
  · exact isDecimal_of_isDigit hunits
  · exact hunits

theorem not_isDecimal_of_blank {c : Char} (h : characters ' ' ' ' c = true) :
    ¬isDecimal c = true := by
  have hrange := of_decide_eq_true h
  obtain rfl : c = ' ' := Char.toNat_inj.mp (by omega)
  decide

theorem isDay_iff (htens : isDecimal tens = true) :
    IsDay isDecimal tens units ↔ ∃ shape ∈ dayShapes, HasShape shape [tens, units] := by
  have hblank : ¬characters ' ' ' ' tens = true := fun h => not_isDecimal_of_blank h htens
  simp [IsDay, dayShapes, HasShape, hblank]

theorem longestFirst_month : LongestFirst (fun c => isDecimal c = true) monthShapes := by
  simp [LongestFirst, monthShapes]

/-- The shapes of a day become no longer, but for the last one, which has a blank. -/
theorem longestFirst_day : LongestFirst (fun c => isDecimal c = true) dayShapes := by
  have hblank : ∀ part, HasShape [characters ' ' ' ', characters '1' '9'] part →
      ∃ c ∈ part, ¬isDecimal c = true := by
    intro part hpart
    obtain ⟨tens, rest, htens, -, rfl⟩ := List.forall₂_cons_left_iff.mp hpart
    exact ⟨tens, by simp, not_isDecimal_of_blank htens⟩
  simpa [LongestFirst, dayShapes] using hblank

theorem length_le_two {shapes : Alternatives Char} {part : List Char}
    (hshapes : shapes.all (fun shape => shape.length ≤ 2) = true)
    (h : ∃ shape ∈ shapes, HasShape shape part) : part.length ≤ 2 := by
  obtain ⟨shape, hshape, hpart⟩ := h
  rw [hpart.length]
  exact of_decide_eq_true (List.all_eq_true.mp hshapes shape hshape)

theorem longest_of_all {shapes : Alternatives Char}
    (hshapes : shapes.all (fun shape => shape.length ≤ 2) = true) (first second : Char) :
    ∀ shape ∈ shapes, shape.length ≤ [first, second].length :=
  fun shape hshape => of_decide_eq_true (List.all_eq_true.mp hshapes shape hshape)

/-- A text of six decimal digits is read as a date exactly when its digits are those of a month and
a day of the calendar. -/
theorem readDate_eq_some (hlength : text.length = 6) (hdigits : ∀ c ∈ text, isDecimal c = true) :
    readDate text = some date ↔ ∃ y y' m m' d d', text = [y, y', m, m', d, d'] ∧
      IsMonth m m' ∧ IsDay isDecimal d d' ∧ date = dateOf [y, y'] [m, m'] [d, d'] ∧
      date.isValid = true := by
  unfold readDate
  constructor
  · intro h
    split at h
    · rename_i year month day hmatch
      have hmem : ([year, month, day], []) ∈ allMatches [yearShapes, monthShapes, dayShapes] text :=
        List.mem_of_head? hmatch
      obtain ⟨htext, hshapes⟩ := mem_allMatches.mp hmem
      obtain ⟨hyear, hshapes⟩ := List.forall₂_cons.mp hshapes
      obtain ⟨hmonth, hshapes⟩ := List.forall₂_cons.mp hshapes
      obtain ⟨hday, -⟩ := List.forall₂_cons.mp hshapes
      have hlengths := congrArg List.length htext
      rw [hlength] at hlengths
      simp only [List.flatten_cons, List.flatten_nil, List.append_nil, List.length_append]
        at hlengths
      have hyearLength := length_le_two (by decide) hyear
      have hmonthLength := length_le_two (by decide) hmonth
      have hdayLength := length_le_two (by decide) hday
      obtain ⟨y, y', rfl⟩ := List.length_eq_two.mp (show year.length = 2 by omega)
      obtain ⟨m, m', rfl⟩ := List.length_eq_two.mp (show month.length = 2 by omega)
      obtain ⟨d, d', rfl⟩ := List.length_eq_two.mp (show day.length = 2 by omega)
      split at h
      · rename_i hvalid
        obtain rfl := Option.some.inj h
        rw [htext] at hdigits
        exact ⟨y, y', m, m', d, d', htext, isMonth_iff.mpr hmonth,
          (isDay_iff (hdigits d (by simp))).mpr hday, rfl, hvalid⟩
      · cases h
    · cases h
  · rintro ⟨y, y', m, m', d, d', rfl, hmonth, hday, rfl, hvalid⟩
    have hyear : ∃ shape ∈ yearShapes, HasShape shape [y, y'] :=
      ⟨_, List.mem_singleton.mpr rfl, .cons (hdigits y (by simp))
        (.cons (hdigits y' (by simp)) .nil)⟩
    have hmatch : firstMatch [yearShapes, monthShapes, dayShapes]
        [[y, y'], [m, m'], [d, d']].flatten = some ([[y, y'], [m, m'], [d, d']], []) :=
      firstMatch_of_longest hdigits
        (.cons ⟨List.pairwise_singleton _ _, hyear, longest_of_all (by decide) y y'⟩
          (.cons ⟨longestFirst_month, isMonth_iff.mp hmonth, longest_of_all (by decide) m m'⟩
            (.cons ⟨longestFirst_day, (isDay_iff (hdigits d (by simp))).mp hday,
              longest_of_all (by decide) d d'⟩ .nil)))
    have hflatten : [[y, y'], [m, m'], [d, d']].flatten = [y, y', m, m', d, d'] := rfl
    rw [hflatten] at hmatch
    rw [hmatch]
    exact if_pos hvalid

/-! ## What is read -/

/-- What a symbol is read as: its parts, and the numbers that their digits stand for. -/
structure ReadAs (symbol : String) (parsed : OptionContractSymbol) (root expiration : List Char)
    (right : Char) (strike : List Char) : Prop where
  parts : HasParts symbol.toList root expiration right strike
  rootSymbol : parsed.rootSymbol = String.ofList root
  expirationDate : readDate expiration = some parsed.expirationDate
  right : parsed.right = String.ofList [right]
  strikePrice : parsed.strikePrice.value = decimalNumber strike / 1000

/-- A strike of eight digits is its number of thousandths. -/
theorem value_strike {price : Decimal} (hlength : strike.length = 8)
    (h : divide ⟨false, decimalNumber strike, 0⟩ (.ofInt 1000) = .ok price) :
    price.value = decimalNumber strike / 1000 := by
  have hlt := decimalNumber_lt strike
  rw [hlength] at hlt
  have hpos : 0 < (Decimal.ofInt 1000).value := by
    rw [value_ofInt]
    norm_num
  have hquotient : (⟨false, decimalNumber strike, 0⟩ : Decimal).value /
      (Decimal.ofInt 1000).value = decimalNumber strike / 1000 := by
    rw [value_of_positive rfl, magnitude, value_ofInt, zpow_zero, mul_one]
    norm_num
  have hfits : Decimal.Representable ((decimalNumber strike : ℚ) / 1000) :=
    Selection.representable_thousandths (m := decimalNumber strike)
      (lt_trans hlt (by norm_num))
  rw [← hquotient] at hfits ⊢
  exact hfits.value_div hpos (require_ok.mp h)

/-- A symbol that is read is read as its parts. -/
theorem readAs_of_ok (h : parseOptionContractSymbol symbol = .ok parsed) :
    ∃ root expiration right strike, ReadAs symbol parsed root expiration right strike := by
  unfold parseOptionContractSymbol at h
  split at h
  · rename_i root expiration rights strike hmatch
    obtain ⟨date, hdate, h⟩ := bind_ok.mp h
    obtain ⟨price, hprice, h⟩ := bind_ok.mp h
    obtain rfl := Except.ok.inj h
    obtain ⟨root', expiration', right, strike', hparts, hread⟩ := fullMatch_symbolPattern.mp hmatch
    simp only [List.cons.injEq, and_true] at hparts
    obtain ⟨rfl, rfl, rfl, rfl⟩ := hparts
    exact ⟨root, expiration, right, strike, hread, rfl, require_ok.mp hdate, rfl,
      value_strike hread.strikeLength hprice⟩
  · cases h

/-- A symbol with parts whose expiration is a date is read. -/
theorem HasParts.parses {expiration : List Char} {right : Char}
    (h : HasParts symbol.toList root expiration right strike)
    (hdate : readDate expiration = some date) :
    ∃ parsed, parseOptionContractSymbol symbol = .ok parsed := by
  have hmatch := fullMatch_symbolPattern.mpr ⟨root, expiration, right, strike, rfl, h⟩
  obtain ⟨price, hprice⟩ := Policy.divide_isSome (a := ⟨false, decimalNumber strike, 0⟩)
    (show 0 < (Decimal.ofInt 1000).value by rw [value_ofInt]; norm_num)
  unfold parseOptionContractSymbol
  rw [hmatch]
  exact ⟨_, bind_ok.mpr ⟨date, require_ok.mpr hdate, bind_ok.mpr ⟨price, hprice, rfl⟩⟩⟩

/-- The symbols that are read are those that are written with decimal digits of any script. -/
theorem parses_iff :
    (∃ parsed, parseOptionContractSymbol symbol = .ok parsed) ↔
      WrittenWith isDecimal symbol.toList := by
  constructor
  · rintro ⟨parsed, h⟩
    obtain ⟨root, expiration, right, strike, h⟩ := readAs_of_ok h
    obtain ⟨y, y', m, m', d, d', rfl, hmonth, hday, hdate, hvalid⟩ :=
      (readDate_eq_some h.parts.expirationLength h.parts.expirationDigits).mp h.expirationDate
    exact ⟨root, y, y', m, m', d, d', right, strike, h.parts.text, h.parts.root,
      h.parts.expirationDigits y (by simp), h.parts.expirationDigits y' (by simp), hmonth, hday,
      hdate ▸ hvalid, h.parts.right, h.parts.strikeLength, h.parts.strikeDigits⟩
  · rintro ⟨root, y, y', m, m', d, d', right, strike, htext, hroot, hy, hy', hmonth, hday, hvalid,
      hright, hlength, hstrike⟩
    have hdigits : ∀ c ∈ [y, y', m, m', d, d'], isDecimal c = true := by
      obtain ⟨hm, hm'⟩ := hmonth.isDigit
      obtain ⟨hd, hd'⟩ := hday.isDecimal
      simp only [List.mem_cons, List.not_mem_nil, or_false]
      rintro c (rfl | rfl | rfl | rfl | rfl | rfl)
      · exact hy
      · exact hy'
      · exact isDecimal_of_isDigit hm
      · exact isDecimal_of_isDigit hm'
      · exact hd
      · exact hd'
    have hparts : HasParts symbol.toList root [y, y', m, m', d, d'] right strike :=
      ⟨htext, hroot, rfl, hdigits, hright, hlength, hstrike⟩
    exact hparts.parses ((readDate_eq_some rfl hdigits).mpr
      ⟨y, y', m, m', d, d', rfl, hmonth, hday, rfl, hvalid⟩)

/-! ## Symbols with digits of ASCII -/

theorem fixedDigits_two (n : Nat) :
    fixedDigits 10 2 n = [digitChar (n / 10 % 10), digitChar (n % 10)] := rfl

theorem isMonth_digits {month : Nat} (hlow : 1 ≤ month) (hhigh : month ≤ 12) :
    IsMonth (digitChar (month / 10 % 10)) (digitChar (month % 10)) := by
  have hall : ∀ n : Fin 13, 1 ≤ n.val →
      IsMonth (digitChar (n.val / 10 % 10)) (digitChar (n.val % 10)) := by decide
  exact hall ⟨month, by omega⟩ hlow

theorem isDay_digits {day : Nat} (hlow : 1 ≤ day) (hhigh : day ≤ 31) :
    IsDay isDigit (digitChar (day / 10 % 10)) (digitChar (day % 10)) := by
  have hall : ∀ n : Fin 32, 1 ≤ n.val →
      IsDay isDigit (digitChar (n.val / 10 % 10)) (digitChar (n.val % 10)) := by decide
  exact hall ⟨day, by omega⟩ hlow

/-- A valid date has a month of the year and a day of a month. -/
theorem isValid_bounds (h : date.isValid = true) :
    1 ≤ date.month ∧ date.month ≤ 12 ∧ 1 ≤ date.day ∧ date.day ≤ 31 := by
  simp only [Calendar.Date.isValid, decide_eq_true_eq] at h
  obtain ⟨-, -, hlow, hmonth, hday, hlast⟩ := h
  have hall : ∀ leap : Bool, ∀ n : Fin 13, Calendar.daysInMonth leap n ≤ 31 := by decide
  exact ⟨hlow, hmonth, hday,
    hlast.trans (hall (Calendar.isLeap date.year) ⟨date.month, by omega⟩)⟩

/-- A date that two digits of a year can be read as is read back from its digits. -/
theorem dateOf_digits (h : IsExpiration date) :
    dateOf (fixedDigits 10 2 (date.year % 100)) (fixedDigits 10 2 date.month)
      (fixedDigits 10 2 date.day) = date := by
  obtain ⟨hvalid, hfirst, hlast⟩ := h
  obtain ⟨-, hmonth, -, hday⟩ := isValid_bounds hvalid
  unfold dateOf
  simp only [decimalNumber_fixedDigits, Nat.reducePow, Nat.mod_mod]
  rw [Nat.mod_eq_of_lt (show date.month < 100 by omega),
    Nat.mod_eq_of_lt (show date.day < 100 by omega)]
  have hyear : (if date.year % 100 ≤ 68 then 2000 + date.year % 100
      else 1900 + date.year % 100) = date.year := by
    split <;> omega
  rw [hyear]

/-- A date of digits of ASCII is written with them. -/
theorem writeDate_dateOf {y y' m m' d d' : Char}
    (h : ∀ c ∈ [y, y', m, m', d, d'], isDigit c = true) :
    writeDate (dateOf [y, y'] [m, m'] [d, d']) = [y, y', m, m', d, d'] := by
  have hpair : ∀ first second, first ∈ [y, y', m, m', d, d'] → second ∈ [y, y', m, m', d, d'] →
      fixedDigits 10 2 (decimalNumber [first, second]) = [first, second] := by
    intro first second hfirst hsecond
    show fixedDigits 10 [first, second].length (decimalNumber [first, second]) = _
    refine fixedDigits_decimalNumber ?_
    intro c hc
    rcases List.mem_pair.mp hc with rfl | rfl
    · exact h _ hfirst
    · exact h _ hsecond
  have hyear : (dateOf [y, y'] [m, m'] [d, d']).year % 100 = decimalNumber [y, y'] := by
    have hlt : decimalNumber [y, y'] < 100 := decimalNumber_lt [y, y']
    unfold dateOf
    dsimp only
    split <;> omega
  unfold writeDate
  rw [hyear, hpair y y' (by simp) (by simp)]
  show [y, y'] ++ fixedDigits 10 2 (decimalNumber [m, m']) ++
    fixedDigits 10 2 (decimalNumber [d, d']) = _
  rw [hpair m m' (by simp) (by simp), hpair d d' (by simp) (by simp)]
  rfl

/-- The dates of two digits of a year are from 1969 to 2068. -/
theorem isExpiration_dateOf {y y' m m' d d' : Char}
    (h : (dateOf [y, y'] [m, m'] [d, d']).isValid = true) :
    IsExpiration (dateOf [y, y'] [m, m'] [d, d']) := by
  have hlt : decimalNumber [y, y'] < 100 := decimalNumber_lt [y, y']
  refine ⟨h, ?_, ?_⟩
  · unfold dateOf
    dsimp only
    split <;> omega
  · unfold dateOf
    dsimp only
    split <;> omega

/-- A canonical symbol is written with digits of ASCII. -/
theorem isCanonical_iff : IsCanonical symbol ↔ WrittenWith isDigit symbol.toList := by
  constructor
  · rintro ⟨root, date, right, strike, htext, hroot, hdate, hright, hlength, hstrike⟩
    obtain ⟨hmonthLow, hmonth, hdayLow, hday⟩ := isValid_bounds hdate.1
    have hread := dateOf_digits hdate
    have hyear := fixedDigits_isDigit 2 (date.year % 100)
    rw [fixedDigits_two, fixedDigits_two, fixedDigits_two] at hread
    rw [fixedDigits_two] at hyear
    refine ⟨root, _, _, _, _, _, _, right, strike, htext, hroot, hyear _ (by simp),
      hyear _ (by simp), isMonth_digits hmonthLow hmonth, isDay_digits hdayLow hday, ?_, hright,
      hlength, hstrike⟩
    rw [hread]
    exact hdate.1
  · rintro ⟨root, y, y', m, m', d, d', right, strike, htext, hroot, hy, hy', hmonth, hday, hvalid,
      hright, hlength, hstrike⟩
    refine ⟨root, dateOf [y, y'] [m, m'] [d, d'], right, strike, ?_, hroot,
      isExpiration_dateOf hvalid, hright, hlength, hstrike⟩
    rw [htext, writeDate_dateOf]
    obtain ⟨hm, hm'⟩ := hmonth.isDigit
    obtain ⟨hd, hd'⟩ := hday.digits
    simp only [List.mem_cons, List.not_mem_nil, or_false]
    rintro c (rfl | rfl | rfl | rfl | rfl | rfl)
    · exact hy
    · exact hy'
    · exact hm
    · exact hm'
    · exact hd
    · exact hd'.elim id id

theorem isDigit_of_characters_isDecimal {first last c : Char} (hlast : last.toNat < 0x660)
    (h : characters first last c = true) (hdecimal : isDecimal c = true) : isDigit c = true := by
  have hrange := of_decide_eq_true h
  exact isDigit_of_isDecimal hdecimal (by omega)

theorem IsRoot.isDigit (h : IsRoot root) :
    ∀ c ∈ root, isDecimal c = true → Decimal.isDigit c = true := by
  obtain ⟨letters, -, hletters, ⟨rfl, -⟩ | ⟨digit, hdigit, -, hroot⟩⟩ := h
  · intro c hc hdecimal
    exact isDigit_of_characters_isDecimal (by decide) (hletters c hc) hdecimal
  · intro c hc hdecimal
    have hcases : c ∈ letters ∨ c = digit := by
      rcases hroot with rfl | rfl
      · simpa using hc
      · simpa [or_comm] using hc
    rcases hcases with hletter | rfl
    · exact isDigit_of_characters_isDecimal (by decide) (hletters c hletter) hdecimal
    · exact hdigit

/-- A symbol written with digits of ASCII has no other decimal digit. -/
theorem WrittenWith.isDigit (h : WrittenWith Decimal.isDigit text) :
    ∀ c ∈ text, isDecimal c = true → Decimal.isDigit c = true := by
  obtain ⟨root, y, y', m, m', d, d', right, strike, rfl, hroot, hy, hy', hmonth, hday, -, hright,
    -, hstrike⟩ := h
  obtain ⟨hm, hm'⟩ := hmonth.isDigit
  obtain ⟨hd, hd'⟩ := hday.digits
  intro c hc hdecimal
  simp only [List.append_assoc, List.mem_append, List.mem_cons, List.not_mem_nil, or_false] at hc
  rcases hc with hc | (rfl | rfl | rfl | rfl | rfl | rfl) | rfl | hc
  · exact hroot.isDigit c hc hdecimal
  · exact hy
  · exact hy'
  · exact hm
  · exact hm'
  · exact hd
  · exact hd'.elim id id
  · simp only [isRight, Bool.or_eq_true, beq_iff_eq] at hright
    rcases hright with rfl | rfl
    · exact isDigit_of_isDecimal hdecimal (by decide)
    · exact isDigit_of_isDecimal hdecimal (by decide)
  · exact hstrike c hc

/-- A symbol that is written with decimal digits is canonical when all of them are of ASCII. -/
theorem WrittenWith.ascii (h : WrittenWith isDecimal text)
    (hascii : ∀ c ∈ text, isDecimal c = true → Decimal.isDigit c = true) :
    WrittenWith Decimal.isDigit text := by
  obtain ⟨root, y, y', m, m', d, d', right, strike, rfl, hroot, hy, hy', hmonth, hday, hvalid,
    hright, hlength, hstrike⟩ := h
  have hday' : IsDay Decimal.isDigit d d' := by
    refine hday.imp_right (Or.imp_left fun htens => ⟨htens.1, ?_⟩)
    exact hascii d' (by simp) htens.2
  exact ⟨root, y, y', m, m', d, d', right, strike, rfl, hroot, hascii y (by simp) hy,
    hascii y' (by simp) hy', hmonth, hday', hvalid, hright, hlength,
    fun c hc => hascii c (by simp [hc]) (hstrike c hc)⟩

/-- A symbol that is written with digits of ASCII is written with decimal digits. -/
theorem WrittenWith.decimal (h : WrittenWith Decimal.isDigit text) :
    WrittenWith isDecimal text := by
  obtain ⟨root, y, y', m, m', d, d', right, strike, htext, hroot, hy, hy', hmonth, hday, hvalid,
    hright, hlength, hstrike⟩ := h
  exact ⟨root, y, y', m, m', d, d', right, strike, htext, hroot, isDecimal_of_isDigit hy,
    isDecimal_of_isDigit hy', hmonth,
    hday.imp_right (Or.imp_left fun htens => ⟨htens.1, isDecimal_of_isDigit htens.2⟩), hvalid,
    hright, hlength, fun c hc => isDecimal_of_isDigit (hstrike c hc)⟩

theorem isCanonical_of_written (h : WrittenWith isDecimal symbol.toList)
    (hnative : ¬IsForeign symbol) : IsCanonical symbol := by
  refine isCanonical_iff.mpr (h.ascii fun c hc hdecimal => ?_)
  by_contra hforeign
  exact hnative ⟨h, c, hc, hdecimal, by simpa using hforeign⟩

/-! ## What is read is written back -/

/-- A canonical symbol is written from what it is read as. -/
theorem renderSymbol_of_canonical (h : parseOptionContractSymbol symbol = .ok parsed)
    (hcanonical : IsCanonical symbol) : renderSymbol parsed = symbol := by
  obtain ⟨root, expiration, right, strike, h⟩ := readAs_of_ok h
  have hascii := (isCanonical_iff.mp hcanonical).isDigit
  rw [h.parts.text] at hascii
  obtain ⟨y, y', m, m', d, d', rfl, -, -, hdate, -⟩ :=
    (readDate_eq_some h.parts.expirationLength h.parts.expirationDigits).mp h.expirationDate
  have hexpiration : writeDate parsed.expirationDate = [y, y', m, m', d, d'] := by
    rw [hdate]
    exact writeDate_dateOf fun c hc =>
      hascii c (List.mem_append_left _ (List.mem_append_right _ hc))
        (h.parts.expirationDigits c hc)
  have hdigits : ∀ c ∈ strike, isDigit c = true := fun c hc =>
    hascii c (List.mem_append_right _ (List.mem_cons_of_mem _ hc)) (h.parts.strikeDigits c hc)
  have hstrike : fixedDigits 10 8 ⌊parsed.strikePrice.value * 1000⌋.toNat = strike := by
    have hfloor : ⌊parsed.strikePrice.value * 1000⌋ = (decimalNumber strike : Int) := by
      rw [h.strikePrice, div_mul_cancel₀ _ (by norm_num)]
      exact Int.floor_natCast _
    rw [hfloor, Int.toNat_natCast, ← h.parts.strikeLength]
    exact fixedDigits_decimalNumber hdigits
  unfold renderSymbol
  rw [h.rootSymbol, h.right, hexpiration, hstrike, String.toList_ofList, String.toList_ofList]
  have htext : root ++ [y, y', m, m', d, d'] ++ [right] ++ strike = symbol.toList := by
    rw [h.parts.text, List.append_assoc _ [right] strike, List.singleton_append]
  rw [htext, String.ofList_toList]

/-- Two symbols are read as the same contract. -/
def SameContract (parsed parsed' : OptionContractSymbol) : Prop :=
  parsed.rootSymbol = parsed'.rootSymbol ∧ parsed.expirationDate = parsed'.expirationDate ∧
    parsed.right = parsed'.right ∧ parsed.strikePrice.value = parsed'.strikePrice.value

theorem SameContract.renderSymbol {parsed' : OptionContractSymbol}
    (h : SameContract parsed parsed') :
    Domain.renderSymbol parsed = Domain.renderSymbol parsed' := by
  obtain ⟨hroot, hdate, hright, hstrike⟩ := h
  unfold Domain.renderSymbol
  rw [hroot, hdate, hright, hstrike]

/-- A symbol is read exactly when it is canonical, and is written from what was read. -/
def ReadsCanonically (symbol : String) : Prop :=
  ((∃ parsed, parseOptionContractSymbol symbol = .ok parsed) ↔ IsCanonical symbol) ∧
    ∀ parsed, parseOptionContractSymbol symbol = .ok parsed → renderSymbol parsed = symbol

/-- A symbol is read exactly when it is canonical, and is written from what was read, if and only if
it is not foreign. No two symbols that are not foreign are read as one contract. -/
theorem parse_canonical_iff (symbol : String) :
    (ReadsCanonically symbol ↔ ¬IsForeign symbol) ∧
      ∀ symbol' parsed parsed', ¬IsForeign symbol → ¬IsForeign symbol' →
        parseOptionContractSymbol symbol = .ok parsed →
        parseOptionContractSymbol symbol' = .ok parsed' → SameContract parsed parsed' →
          symbol = symbol' := by
  have hrender : ∀ symbol parsed, ¬IsForeign symbol →
      parseOptionContractSymbol symbol = .ok parsed → renderSymbol parsed = symbol := by
    intro symbol parsed hnative h
    exact renderSymbol_of_canonical h (isCanonical_of_written (parses_iff.mp ⟨parsed, h⟩) hnative)
  refine ⟨⟨?_, fun hnative => ⟨⟨?_, ?_⟩, fun parsed => hrender symbol parsed hnative⟩⟩, ?_⟩
  · rintro ⟨hreads, -⟩ ⟨hwritten, c, hc, hdecimal, hforeign⟩
    have hcanonical := hreads.mp (parses_iff.mpr hwritten)
    rw [(isCanonical_iff.mp hcanonical).isDigit c hc hdecimal] at hforeign
    cases hforeign
  · exact fun hread => isCanonical_of_written (parses_iff.mp hread) hnative
  · exact fun hcanonical => parses_iff.mpr (isCanonical_iff.mp hcanonical).decimal
  · intro symbol' parsed parsed' hnative hnative' h h' hsame
    rw [← hrender symbol parsed hnative h, ← hrender symbol' parsed' hnative' h',
      hsame.renderSymbol]

/-! ## Symbols with digits of ASCII only -/

section Rehearsed

/-- The symbol of a contract with digits of ASCII. -/
def nativeSymbol : String :=
  "SPY260116C00500000"

/-- The symbol of the contract with the year written in digits of another script. -/
def foreignSymbol : String :=
  "SPY\u0662\u06660116C00500000"

/-- Both symbols are read, one has no digit that is not of ASCII, and the other has one. -/
theorem rehearsed_symbols :
    (parseOptionContractSymbol nativeSymbol).toOption.isSome = true ∧
      (parseOptionContractSymbol foreignSymbol).toOption.isSome = true ∧
      (nativeSymbol.toList.all fun c => !isDecimal c || isDigit c) = true ∧
      (foreignSymbol.toList.any fun c => isDecimal c && !isDigit c) = true := by
  decide +kernel

theorem exists_of_toOption {result : Except Failure OptionContractSymbol}
    (h : result.toOption.isSome = true) : ∃ parsed, result = .ok parsed := by
  cases result with
  | ok parsed => exact ⟨parsed, rfl⟩
  | error failure => cases h

theorem isForeign_foreignSymbol : IsForeign foreignSymbol := by
  refine ⟨parses_iff.mp (exists_of_toOption rehearsed_symbols.2.1), ?_⟩
  obtain ⟨c, hc, hforeign⟩ := List.any_eq_true.mp rehearsed_symbols.2.2.2
  simp only [Bool.and_eq_true, Bool.not_eq_true'] at hforeign
  exact ⟨c, hc, hforeign⟩

theorem not_isForeign_nativeSymbol : ¬IsForeign nativeSymbol := by
  rintro ⟨-, c, hc, hdecimal, hforeign⟩
  have hall := List.all_eq_true.mp rehearsed_symbols.2.2.1 c hc
  rw [hdecimal, hforeign] at hall
  cases hall

/-- In the rehearsal the symbol with digits of ASCII is read as it is written, and the one with
digits of another script is not. -/
theorem parse_canonical_iff_rehearsed :
    ReadsCanonically nativeSymbol ∧ ¬ReadsCanonically foreignSymbol :=
  ⟨(parse_canonical_iff nativeSymbol).1.mpr not_isForeign_nativeSymbol,
    fun h => (parse_canonical_iff foreignSymbol).1.mp h isForeign_foreignSymbol⟩

/-- A symbol with digits of another script is read, although it is not canonical. -/
theorem not_readsCanonically_foreignSymbol : ¬∀ symbol, ReadsCanonically symbol := by
  intro hclaim
  obtain ⟨hwritten, c, hc, hdecimal, hforeign⟩ := isForeign_foreignSymbol
  have hcanonical := (hclaim foreignSymbol).1.mp (parses_iff.mpr hwritten)
  rw [(isCanonical_iff.mp hcanonical).isDigit c hc hdecimal] at hforeign
  cases hforeign

end Rehearsed

end AlphaDecay.Domain
