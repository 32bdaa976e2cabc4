import TrueMark.Ecma.JsonRoundTrip

namespace Ecma

/-- The value of a digit, if it is one in the given radix. -/
def digitIn (radix : Nat) (c : CodeUnit) : Option Nat := (hexValue c).filter (· < radix)

def radixValue (radix : Nat) (digits : JsString) : Nat :=
  digits.foldl (fun value c => value * radix + (digitIn radix c).getD 0) 0

/-- The letter of the prefixes `0x`, `0o` and `0b`. -/
def radixOf (letter : CodeUnit) : Option Nat :=
  if letter ∈ js "xX" then some 16 else if letter ∈ js "oO" then some 8 else if letter ∈ js "bB" then some 2 else none

/-- `NonDecimalIntegerLiteral`. It takes no sign. -/
def nonDecimal : JsString → Option Number
  | zero :: letter :: digits =>
    if zero = digitUnit 0 then
      (radixOf letter).bind fun radix =>
        if digits ≠ [] ∧ digits.all fun c => (digitIn radix c).isSome then some (.ofInt (radixValue radix digits))
        else none
    else none
  | _ => none

/-- The optional fraction of a decimal literal. It may be a bare point, unlike in JSON. -/
def looseFraction : JsString → JsString × JsString
  | [] => ([], [])
  | c :: rest =>
    if c = Literal.point then (rest.takeWhile isDigit, rest.dropWhile isDigit) else ([], c :: rest)

def signedDecimal (text : JsString) : Option Number :=
  let (negative, text) := Json.parseExponentSign text
  if text = js "Infinity" then some (.infinity negative)
  else
    let integer := text.takeWhile isDigit
    let (fraction, text) := looseFraction (text.dropWhile isDigit)
    if integer = [] ∧ fraction = [] then none
    else
      match Json.parseExponent text with
      | some (exponent, []) => some (Literal.value ⟨negative, integer, fraction, exponent⟩)
      | _ => none

/-- `StringToNumber`. -/
def stringToNumber (text : JsString) : Number :=
  if trim text = [] then .ofInt 0 else ((nonDecimal (trim text)).or (signedDecimal (trim text))).getD .nan

def isNaN : Number → Bool
  | .nan => true
  | _ => false

theorem isNaN_value (literal : Literal) : isNaN literal.value = false := by
  unfold Literal.value Floating.ofDecimal Floating.ofUnits
  split <;> rfl

/-- `parseInt` without a radix argument. -/
def parseInt (text : JsString) : Number :=
  let (negative, text) := Json.parseExponentSign (text.dropWhile whiteSpace)
  let (radix, text) :=
    match text with
    | zero :: letter :: rest => if zero = digitUnit 0 ∧ letter ∈ js "xX" then (16, rest) else (10, text)
    | _ => (10, text)
  let digits := text.takeWhile fun c => (digitIn radix c).isSome
  if digits = [] then .nan else .ofUnits negative (radixValue radix digits * binary64.one) 1

theorem digitIn_digit {c : CodeUnit} (digit : isDigit c = true) : digitIn 10 c = some (digitValue c) := by
  rw [digitIn, hexValue, if_pos digit, Option.filter_some, if_pos (by simpa using digitValue_lt digit)]

theorem radixValue_digits {digits : JsString} (all : ∀ c ∈ digits, isDigit c = true) :
    radixValue 10 digits = digitsValue digits := by
  unfold radixValue digitsValue
  refine List.foldl_ext _ _ _ fun value c member => ?_
  rw [digitIn_digit (all c member), Option.getD_some]

section Digits

variable {digits : JsString}

theorem parseExponentSign_digits (nonempty : digits ≠ []) (all : ∀ c ∈ digits, isDigit c = true) :
    Json.parseExponentSign digits = (false, digits) := by
  obtain ⟨c, rest, rfl⟩ := List.exists_cons_of_ne_nil nonempty
  have digit := all c List.mem_cons_self
  have minus : c ≠ Literal.minus := by rintro rfl; cases digit
  have plus : c ≠ Literal.plus := by rintro rfl; cases digit
  rw [Json.parseExponentSign, if_neg minus, if_neg plus]

theorem radixOf_digit {c : CodeUnit} (digit : isDigit c = true) : c ∉ js "xX" ∧ radixOf c = none := by
  have other {letters : JsString} (dark : letters.all (fun letter => !isDigit letter) = true) : c ∉ letters := by
    intro member
    have none := List.all_eq_true.mp dark c member
    rw [digit] at none
    cases none
  rw [radixOf, if_neg (other rfl), if_neg (other rfl), if_neg (other rfl)]
  exact ⟨other rfl, rfl⟩

/-- On digits, `parseInt` is their value, rounded once. -/
theorem parseInt_digits (nonempty : digits ≠ []) (all : ∀ c ∈ digits, isDigit c = true) :
    parseInt digits = .ofUnits false (digitsValue digits * binary64.one) 1 := by
  have untrimmed : digits.dropWhile whiteSpace = digits := by
    have dark : ∀ c ∈ digits.head?, whiteSpace c = false := fun c member =>
      digit_not_white (all c (List.mem_of_mem_head? member))
    exact @dropWhile_append_dark [] digits dark
  have taken : (digits.takeWhile fun c => (digitIn 10 c).isSome) = digits :=
    List.takeWhile_eq_self_iff.mpr fun c member => by rw [digitIn_digit (all c member), Option.isSome_some]
  unfold parseInt
  rw [untrimmed, parseExponentSign_digits nonempty all]
  dsimp only
  split
  · rename_i zero letter rest
    have decimal : ¬(zero = digitUnit 0 ∧ letter ∈ js "xX") := fun hex => (radixOf_digit (all letter (by simp))).1 hex.2
    rw [if_neg decimal, taken, if_neg nonempty, radixValue_digits all]
  · rw [taken, if_neg nonempty, radixValue_digits all]

/-- On digits, the conversion of the language agrees with `parseInt`. -/
theorem stringToNumber_digits (nonempty : digits ≠ []) (all : ∀ c ∈ digits, isDigit c = true) :
    stringToNumber digits = parseInt digits := by
  have trimmed : trim digits = digits := by
    simpa using trim_append nonempty (fun c member => digit_not_white (all c member)) [] []
  have decimal : nonDecimal digits = none := by
    unfold nonDecimal
    split
    · rename_i zero letter rest
      rw [(radixOf_digit (all letter (by simp))).2]
      split <;> rfl
    · rfl
  have finite : digits ≠ js "Infinity" := by
    rintro rfl
    exact absurd (all 0x49 (by decide)) (by decide)
  have taken : digits.takeWhile isDigit = digits := List.takeWhile_eq_self_iff.mpr all
  have dropped : digits.dropWhile isDigit = [] := List.dropWhile_eq_nil_iff.mpr all
  have signed : signedDecimal digits = some (Literal.value ⟨false, digits, [], none⟩) := by
    simp only [signedDecimal, parseExponentSign_digits nonempty all, if_neg finite, taken, dropped, looseFraction,
      nonempty, false_and, if_false, Json.parseExponent]
  have value : (Literal.value ⟨false, digits, [], none⟩ : Number) =
      .ofUnits false (digitsValue digits * binary64.one) 1 := by
    rw [Literal.value, Floating.ofDecimal]
    simp only [List.append_nil, Literal.exponentValue, List.length_nil, Nat.cast_zero, sub_zero, neg_zero,
      Int.toNat_zero, pow_zero, mul_one]
  rw [stringToNumber, trimmed, if_neg nonempty, decimal, signed, parseInt_digits nonempty all, value, Option.none_or,
    Option.getD_some]

/-- Up to the precision, nothing is rounded. -/
theorem parseInt_natural (nonempty : digits ≠ []) (all : ∀ c ∈ digits, isDigit c = true)
    (small : digitsValue digits ≤ 2 ^ binary64.precision) : (parseInt digits).natural = some (digitsValue digits) := by
  rw [parseInt_digits nonempty all]
  exact Floating.natural_ofUnits.mpr (Format.representable_integer small)

end Digits

namespace JsValue

/-- `ToBoolean`. -/
def truthy : JsValue → Bool
  | .undefined | .null => false
  | .boolean value => value
  | .number .nan => false
  | .number (.infinity _) => true
  | .number (.finite _ m) => m.units != 0
  | .string value => value != []
  | .array _ | .object _ => true

/-- Reading a property of a name that no prototype, string or array has.
There is no value for the `TypeError` of `null` and `undefined`. -/
def getField (value : JsValue) (key : JsString) : Option JsValue :=
  match value with
  | .undefined | .null => none
  | .object properties => some (Properties.get properties key)
  | _ => some .undefined

mutual

/-- `ToString`, with no value for a `TypeError`. An own property that hides
`Object.prototype.toString` is data here and cannot be called. -/
def toText : JsValue → Option JsString
  | .undefined => some (js "undefined")
  | .null => some (js "null")
  | .boolean value => some (if value then js "true" else js "false")
  | .number value => some value.toText
  | .string value => some value
  | .array items => (joinTexts items).map Json.joined
  | .object properties => if js "toString" ∈ properties.map Prod.fst then none else some (js "[object Object]")

/-- The texts that `Array.prototype.join` puts together. -/
def joinTexts : List JsValue → Option (List JsString)
  | [] => some []
  | .undefined :: rest | .null :: rest => (joinTexts rest).map ([] :: ·)
  | item :: rest => (toText item).bind fun text => (joinTexts rest).map (text :: ·)

end

theorem truthy_finite (negative : Bool) {m : Magnitude binary64} (nonzero : m.units ≠ 0) :
    (JsValue.number (.finite negative m)).truthy = true := by
  rw [truthy]
  simpa using nonzero

/-- `ToNumber`, with no value for a `TypeError`. -/
def toNumber : JsValue → Option Number
  | .undefined => some .nan
  | .null => some (.ofInt 0)
  | .boolean value => some (.ofInt (if value then 1 else 0))
  | .number value => some value
  | .string value => some (stringToNumber value)
  | .array items => (toText (.array items)).map stringToNumber
  | .object properties => (toText (.object properties)).map stringToNumber

end JsValue

/-- What a clock of the language can return. -/
structure TimeValue where
  milliseconds : Int
  bounded : milliseconds.natAbs ≤ 8640000000000000

namespace TimeValue

def number (time : TimeValue) : Number := .ofInt time.milliseconds

theorem bound_precision {n : Nat} (bound : n ≤ 8640000000000000) : n ≤ 2 ^ binary64.precision := by
  have precision : binary64.precision = 53 := by rw [binary64]
  rw [precision]
  omega

/-- Time values are exact, so their differences are rounded at most once. -/
theorem number_sub (now time : TimeValue) :
    now.number.sub time.number = .ofInt (now.milliseconds - time.milliseconds) :=
  Floating.sub_ofInt (bound_precision now.bounded) (bound_precision time.bounded)

theorem number_finite {time : TimeValue} (nonzero : time.milliseconds ≠ 0) :
    ∃ (negative : Bool) (m : Magnitude binary64), time.number = .finite negative m ∧ m.units ≠ 0 :=
  ⟨_, _, Floating.ofInt_exact (bound_precision time.bounded), (Nat.mul_pos (by omega) Format.one_pos).ne'⟩

/-- A time other than the epoch survives its text and is no zero, which would count as missing. -/
theorem number_nonzero {time : TimeValue} (nonzero : time.milliseconds ≠ 0) :
    Json.recovered (.number time.number) = .number time.number ∧ Json.Rigid (.number time.number) ∧
      (JsValue.number time.number).truthy = true := by
  obtain ⟨negative, m, value, units⟩ := number_finite nonzero
  rw [value]
  exact ⟨Json.recovered_finite negative units, Json.rigid_finite negative units, JsValue.truthy_finite negative units⟩

end TimeValue

end Ecma
