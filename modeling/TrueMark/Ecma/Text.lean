import Mathlib.Data.Nat.Digits.Lemmas

namespace Ecma

/-- ECMAScript strings are sequences of 16-bit code units. Lone surrogates
are ordinary members of this type, exactly as in the language. -/
abbrev CodeUnit := UInt16

abbrev JsString := List CodeUnit

/-- The UTF-16 encoding of one Unicode scalar value. -/
def utf16 (c : Char) : JsString :=
  if c.toNat < 0x10000 then [UInt16.ofNat c.toNat]
  else [UInt16.ofNat (0xD800 + (c.toNat - 0x10000) / 0x400), UInt16.ofNat (0xDC00 + (c.toNat - 0x10000) % 0x400)]

/-- A string literal of the source program. -/
def js (literal : String) : JsString := literal.toList.flatMap utf16

def leadSurrogate (c : CodeUnit) : Bool := 0xD800 ≤ c.toNat && c.toNat < 0xDC00

def trailSurrogate (c : CodeUnit) : Bool := 0xDC00 ≤ c.toNat && c.toNat < 0xE000

/-- The scalar values of well-formed UTF-16. -/
def decodeUtf16 : JsString → Option (List Char)
  | [] => some []
  | c :: rest =>
    if leadSurrogate c then
      match rest with
      | d :: more =>
        if trailSurrogate d then
          (decodeUtf16 more).map (.ofNat (0x10000 + (c.toNat - 0xD800) * 0x400 + (d.toNat - 0xDC00)) :: ·)
        else none
      | [] => none
    else if trailSurrogate c then none
    else (decodeUtf16 rest).map (.ofNat c.toNat :: ·)

theorem decodeUtf16_utf16 (c : Char) (rest : JsString) :
    decodeUtf16 (utf16 c ++ rest) = (decodeUtf16 rest).map (c :: ·) := by
  -- Scalar values leave a gap where the surrogates are.
  have range : c.toNat < 0xD800 ∨ 0xDFFF < c.toNat ∧ c.toNat < 0x110000 := c.valid
  unfold utf16
  split
  · rename_i basic
    have unit : (UInt16.ofNat c.toNat).toNat = c.toNat := UInt16.toNat_ofNat_of_lt basic
    have notLead : leadSurrogate (UInt16.ofNat c.toNat) = false := by
      simp only [leadSurrogate, unit, Bool.and_eq_false_iff, decide_eq_false_iff_not]
      omega
    have notTrail : trailSurrogate (UInt16.ofNat c.toNat) = false := by
      simp only [trailSurrogate, unit, Bool.and_eq_false_iff, decide_eq_false_iff_not]
      omega
    rw [List.singleton_append, decodeUtf16.eq_def]
    simp only [notLead, notTrail, Bool.false_eq_true, if_false, unit, Char.ofNat_toNat]
  · generalize leadEq : 0xD800 + (c.toNat - 0x10000) / 0x400 = lead
    generalize trailEq : 0xDC00 + (c.toNat - 0x10000) % 0x400 = trail
    have first : (UInt16.ofNat lead).toNat = lead := UInt16.toNat_ofNat_of_lt (show lead < 65536 by omega)
    have second : (UInt16.ofNat trail).toNat = trail := UInt16.toNat_ofNat_of_lt (show trail < 65536 by omega)
    have isLead : leadSurrogate (UInt16.ofNat lead) = true := by
      simp only [leadSurrogate, first, Bool.and_eq_true, decide_eq_true_eq]
      omega
    have isTrail : trailSurrogate (UInt16.ofNat trail) = true := by
      simp only [trailSurrogate, second, Bool.and_eq_true, decide_eq_true_eq]
      omega
    have whole : 0x10000 + (lead - 0xD800) * 0x400 + (trail - 0xDC00) = c.toNat := by omega
    rw [List.cons_append, List.singleton_append, decodeUtf16.eq_def]
    simp only [isLead, isTrail, if_true, first, second, whole, Char.ofNat_toNat]

theorem decodeUtf16_js (text : String) : decodeUtf16 (js text) = some text.toList := by
  unfold js
  induction text.toList with
  | nil => rfl
  | cons c rest ih => rw [List.flatMap_cons, decodeUtf16_utf16, ih, Option.map_some]

theorem js_ne_nil {text : String} (nonempty : text ≠ "") : js text ≠ [] := by
  intro empty
  have decoded := decodeUtf16_js text
  rw [empty, decodeUtf16] at decoded
  exact nonempty (String.toList_eq_nil_iff.mp (Option.some.inj decoded).symm)

/-- `WhiteSpace` and `LineTerminator` of the language, the class that `trim` removes. -/
def whiteSpace (c : CodeUnit) : Bool :=
  (9 ≤ c.toNat && c.toNat ≤ 13) || c.toNat == 0x20 || c.toNat == 0xA0 || c.toNat == 0x1680 ||
    (0x2000 ≤ c.toNat && c.toNat ≤ 0x200A) || c.toNat == 0x2028 || c.toNat == 0x2029 ||
    c.toNat == 0x202F || c.toNat == 0x205F || c.toNat == 0x3000 || c.toNat == 0xFEFF

def trim (text : JsString) : JsString :=
  ((text.dropWhile whiteSpace).reverse.dropWhile whiteSpace).reverse

/-- The class `[0-9]`, which is also what `\d` matches without the unicode flags. -/
def isDigit (c : CodeUnit) : Bool := 48 ≤ c.toNat && c.toNat ≤ 57

theorem digit_not_white {c : CodeUnit} (digit : isDigit c = true) : whiteSpace c = false := by
  simp only [isDigit, Bool.and_eq_true, decide_eq_true_eq] at digit
  simp only [whiteSpace, Bool.or_eq_false_iff, Bool.and_eq_false_iff, decide_eq_false_iff_not, beq_eq_false_iff_ne]
  omega

theorem dropWhile_append_dark {front rest : JsString} (dark : ∀ c ∈ rest.head?, whiteSpace c = false) :
    (front ++ rest).dropWhile whiteSpace = front.dropWhile whiteSpace ++ rest := by
  have stop : rest.dropWhile whiteSpace = rest := by
    cases rest with
    | nil => rfl
    | cons c tail => exact List.dropWhile_cons_of_neg (by simp [dark c rfl])
  rw [List.dropWhile_append]
  split
  · rename_i empty
    rw [List.isEmpty_iff.mp empty, stop, List.nil_append]
  · rfl

/-- Trimming a text around a core without white space works on the two sides apart. -/
theorem trim_append {core : JsString} (nonempty : core ≠ []) (dark : ∀ c ∈ core, whiteSpace c = false)
    (front back : JsString) :
    trim (front ++ core ++ back) =
      front.dropWhile whiteSpace ++ core ++ (back.reverse.dropWhile whiteSpace).reverse := by
  have first : ∀ c ∈ (core ++ back).head?, whiteSpace c = false := by
    intro c member
    rw [List.head?_append_of_ne_nil _ nonempty] at member
    exact dark c (List.mem_of_mem_head? member)
  have last : ∀ c ∈ (core.reverse ++ (front.dropWhile whiteSpace).reverse).head?, whiteSpace c = false := by
    intro c member
    rw [List.head?_append_of_ne_nil _ (by simpa using nonempty)] at member
    exact dark c (List.mem_reverse.mp (List.mem_of_mem_head? member))
  rw [trim, List.append_assoc, dropWhile_append_dark first, List.reverse_append, List.reverse_append, List.append_assoc,
    dropWhile_append_dark last]
  simp

/-- What trimming removes is white space on either side. -/
theorem trim_split (text : JsString) :
    ∃ front back, text = front ++ trim text ++ back ∧ (∀ c ∈ front, whiteSpace c = true) ∧
      ∀ c ∈ back, whiteSpace c = true := by
  refine ⟨text.takeWhile whiteSpace, ((text.dropWhile whiteSpace).reverse.takeWhile whiteSpace).reverse, ?_, ?_, ?_⟩
  · have inner := List.takeWhile_append_dropWhile (p := whiteSpace) (l := (text.dropWhile whiteSpace).reverse)
    have whole := List.takeWhile_append_dropWhile (p := whiteSpace) (l := text)
    have mirrored := congrArg List.reverse inner
    rw [List.reverse_append, List.reverse_reverse] at mirrored
    rw [List.append_assoc, trim, mirrored, whole]
  · intro c member
    exact List.all_eq_true.mp List.all_takeWhile c member
  · intro c member
    exact List.all_eq_true.mp List.all_takeWhile c (List.mem_reverse.mp member)

def digitUnit (d : Nat) : CodeUnit := UInt16.ofNat (48 + d)

def digitValue (c : CodeUnit) : Nat := c.toNat - 48

theorem digitUnit_toNat {d : Nat} (small : d < 10) : (digitUnit d).toNat = 48 + d := by
  rw [digitUnit, UInt16.toNat_ofNat']
  exact Nat.mod_eq_of_lt (by omega)

theorem isDigit_digitUnit {d : Nat} (small : d < 10) : isDigit (digitUnit d) = true := by
  simp only [isDigit, digitUnit_toNat small, Bool.and_eq_true, decide_eq_true_eq]
  omega

theorem digitValue_digitUnit {d : Nat} (small : d < 10) : digitValue (digitUnit d) = d := by
  rw [digitValue, digitUnit_toNat small]
  omega

/-- The mathematical value of a run of decimal digits, most significant first. -/
def digitsValue (digits : JsString) : Nat :=
  digits.foldl (fun value c => value * 10 + digitValue c) 0

theorem digitsValue_foldl (digits : JsString) (start : Nat) :
    digits.foldl (fun value c => value * 10 + digitValue c) start =
      start * 10 ^ digits.length + digitsValue digits := by
  induction digits generalizing start with
  | nil => simp [digitsValue]
  | cons c rest ih =>
    have atZero := ih (digitValue c)
    simp only [digitsValue, List.foldl_cons, List.length_cons, Nat.zero_mul, Nat.zero_add] at *
    rw [ih (start * 10 + digitValue c), atZero]
    ring

theorem digitsValue_append (high low : JsString) :
    digitsValue (high ++ low) = digitsValue high * 10 ^ low.length + digitsValue low := by
  rw [digitsValue, List.foldl_append]
  exact digitsValue_foldl low _

theorem digitsValue_zeros (count : Nat) : digitsValue (List.replicate count (digitUnit 0)) = 0 := by
  induction count with
  | zero => rfl
  | succ count ih =>
    rw [List.replicate_succ', digitsValue_append, ih]
    rfl

/-- Decimal notation without leading zeros. -/
def decimalText (n : Nat) : JsString :=
  if n = 0 then [digitUnit 0] else (Nat.digits 10 n).reverse.map digitUnit

theorem decimalText_ne_nil (n : Nat) : decimalText n ≠ [] := by
  unfold decimalText
  split
  · simp
  · rename_i nonzero
    simpa only [ne_eq, List.map_eq_nil_iff, List.reverse_eq_nil_iff] using Nat.digits_ne_nil_iff_ne_zero.mpr nonzero

theorem decimalText_isDigit (n : Nat) : ∀ c ∈ decimalText n, isDigit c = true := by
  intro c member
  unfold decimalText at member
  split at member
  · rw [List.mem_singleton] at member
    subst c
    exact isDigit_digitUnit (by decide)
  · obtain ⟨d, digit, rfl⟩ := List.mem_map.mp member
    exact isDigit_digitUnit (Nat.digits_lt_base (by decide) (List.mem_reverse.mp digit))

theorem digitsValue_map_reverse (digits : List Nat) (small : ∀ d ∈ digits, d < 10) :
    digitsValue (digits.reverse.map digitUnit) = Nat.ofDigits 10 digits := by
  induction digits with
  | nil => rfl
  | cons d rest ih =>
    have low := small d (List.mem_cons_self ..)
    have high := ih (fun e member => small e (List.mem_cons_of_mem _ member))
    simp only [List.reverse_cons, List.map_append, List.map_cons, List.map_nil]
    rw [digitsValue_append, high, Nat.ofDigits_cons]
    simp only [List.length_singleton, digitsValue, List.foldl_cons, List.foldl_nil,
      digitValue_digitUnit low]
    push_cast
    ring

theorem digitsValue_decimalText (n : Nat) : digitsValue (decimalText n) = n := by
  unfold decimalText
  split
  · rename_i zero
    subst n
    rfl
  · rw [digitsValue_map_reverse _ (fun d member => Nat.digits_lt_base (by decide) member)]
    exact Nat.ofDigits_digits 10 n

/-- A positive number is written with a nonzero leading digit. -/
theorem decimalText_head {n : Nat} (positive : 0 < n) :
    ∃ d rest, decimalText n = digitUnit d :: rest ∧ 0 < d ∧ d < 10 := by
  have nonempty : Nat.digits 10 n ≠ [] := Nat.digits_ne_nil_iff_ne_zero.mpr positive.ne'
  refine ⟨(Nat.digits 10 n).getLast nonempty, ((Nat.digits 10 n).dropLast.reverse).map digitUnit, ?_, ?_, ?_⟩
  · rw [decimalText, if_neg positive.ne']
    conv_lhs => rw [← List.dropLast_append_getLast nonempty]
    simp
  · exact Nat.pos_of_ne_zero (Nat.getLast_digit_ne_zero 10 positive.ne')
  · exact Nat.digits_lt_base (by decide) (List.getLast_mem nonempty)

theorem digitUnit_digitValue {c : CodeUnit} (digit : isDigit c = true) : digitUnit (digitValue c) = c := by
  simp only [isDigit, Bool.and_eq_true, decide_eq_true_eq] at digit
  have whole : 48 + (c.toNat - 48) = c.toNat := by omega
  rw [digitUnit, digitValue, whole, UInt16.ofNat_toNat]

theorem digitValue_lt {c : CodeUnit} (digit : isDigit c = true) : digitValue c < 10 := by
  simp only [isDigit, Bool.and_eq_true, decide_eq_true_eq] at digit
  rw [digitValue]
  omega

/-- Digits without a leading zero are the decimal notation of their value. -/
theorem decimalText_digitsValue {digits : JsString} (nonempty : digits ≠ []) (all : ∀ c ∈ digits, isDigit c = true)
    (canonical : digits.head? = some (digitUnit 0) → digits.length = 1) :
    decimalText (digitsValue digits) = digits := by
  obtain ⟨c, rest, rfl⟩ := List.exists_cons_of_ne_nil nonempty
  have digit := all c List.mem_cons_self
  rcases Nat.eq_zero_or_pos (digitValue c) with zero | positive
  · have leading : c = digitUnit 0 := by rw [← digitUnit_digitValue digit, zero]
    subst leading
    have alone : rest = [] := List.length_eq_zero_iff.mp (Nat.succ.inj (canonical rfl))
    rw [alone]
    rfl
  · let values : List Nat := (c :: rest).reverse.map digitValue
    have small : ∀ d ∈ values, d < 10 := by
      intro d member
      obtain ⟨unit, inside, rfl⟩ := List.mem_map.mp member
      exact digitValue_lt (all unit (List.mem_reverse.mp inside))
    have written : values.reverse.map digitUnit = c :: rest := by
      rw [← List.map_reverse, List.reverse_reverse, List.map_map]
      conv_rhs => rw [← List.map_id (c :: rest)]
      exact List.map_congr_left fun unit member => digitUnit_digitValue (all unit member)
    have value : digitsValue (c :: rest) = Nat.ofDigits 10 values := by
      rw [← digitsValue_map_reverse values small, written]
    have last : ∀ h : values ≠ [], values.getLast h ≠ 0 := by
      intro h
      simp only [values, List.reverse_cons, List.map_append, List.map_cons, List.map_nil, List.getLast_append_singleton]
      exact positive.ne'
    have digits : Nat.digits 10 (digitsValue (c :: rest)) = values := by
      rw [value]
      exact Nat.digits_ofDigits 10 (by decide) values small last
    have nonzero : digitsValue (c :: rest) ≠ 0 := by
      intro zero
      rw [zero, Nat.digits_zero] at digits
      simp [values] at digits
    rw [decimalText, if_neg nonzero, digits, written]

/-- Lower-case hexadecimal, as `UnicodeEscape` writes it. -/
def hexUnit (d : Nat) : CodeUnit := if d < 10 then digitUnit d else UInt16.ofNat (87 + d)

def hexValue (c : CodeUnit) : Option Nat :=
  if isDigit c then some (digitValue c)
  else if 97 ≤ c.toNat && c.toNat ≤ 102 then some (c.toNat - 87)
  else if 65 ≤ c.toNat && c.toNat ≤ 70 then some (c.toNat - 55)
  else none

theorem hexValue_hexUnit : ∀ d < 16, hexValue (hexUnit d) = some d := by decide

end Ecma
