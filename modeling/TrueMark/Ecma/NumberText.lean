import TrueMark.Ecma.Binary
import Mathlib.Data.List.DropRight

namespace Ecma

namespace Floating

variable {f : Format}

/-- Only the ratio of units matters, not the terms it is written in. -/
theorem ofUnits_ratio {a b c d : Nat} (negative : Bool) (left : 0 < b) (right : 0 < d) (same : a * d = c * b) :
    (ofUnits negative a b : Floating f) = ofUnits negative c d := by
  rw [← ofUnits_scale negative a b right, ← ofUnits_scale negative c d left]
  rw [Nat.mul_comm d a, Nat.mul_comm b c, same, Nat.mul_comm d b]

/-- Trailing zeros of the digits move into the exponent. -/
theorem ofDecimal_shift (negative : Bool) (digits zeros : Nat) (exponent : Int) :
    (ofDecimal negative (digits * 10 ^ zeros) exponent : Floating f) =
      ofDecimal negative digits (exponent + zeros) := by
  refine ofUnits_ratio negative (Nat.pow_pos (by decide)) (Nat.pow_pos (by decide)) ?_
  have balance : zeros + exponent.toNat + (-(exponent + zeros)).toNat =
      (exponent + zeros).toNat + (-exponent).toNat := by omega
  have powers : 10 ^ zeros * 10 ^ exponent.toNat * 10 ^ (-(exponent + zeros)).toNat =
      10 ^ (exponent + zeros).toNat * 10 ^ (-exponent).toNat := by
    rw [← Nat.pow_add, ← Nat.pow_add, ← Nat.pow_add, balance]
  calc digits * 10 ^ zeros * 10 ^ exponent.toNat * f.one * 10 ^ (-(exponent + zeros)).toNat
      = digits * f.one * (10 ^ zeros * 10 ^ exponent.toNat * 10 ^ (-(exponent + zeros)).toNat) := by ring
    _ = digits * 10 ^ (exponent + zeros).toNat * f.one * 10 ^ (-exponent).toNat := by rw [powers]; ring

/-- The decimal `digits * 10 ^ (drop - fraction)`, written over the common denominator of all finite values. -/
theorem ofDecimal_fraction (negative : Bool) (digits drop : Nat) :
    (ofDecimal negative digits (drop - f.fraction) : Floating f) =
      ofUnits negative (digits * 10 ^ drop) (5 ^ f.fraction) := by
  refine ofUnits_ratio negative (Nat.pow_pos (by decide)) (Nat.pow_pos (by decide)) ?_
  have balance : ((drop : Int) - f.fraction).toNat + f.fraction = drop + (-((drop : Int) - f.fraction)).toNat := by
    omega
  have powers : 10 ^ ((drop : Int) - f.fraction).toNat * (2 ^ f.fraction * 5 ^ f.fraction) =
      10 ^ drop * 10 ^ (-((drop : Int) - f.fraction)).toNat := by
    rw [← Nat.mul_pow, ← Nat.pow_add, ← Nat.pow_add, balance]
  calc digits * 10 ^ ((drop : Int) - f.fraction).toNat * f.one * 5 ^ f.fraction
      = digits * (10 ^ ((drop : Int) - f.fraction).toNat * (2 ^ f.fraction * 5 ^ f.fraction)) := by
        rw [Format.one]; ring
    _ = digits * 10 ^ drop * 10 ^ (-((drop : Int) - f.fraction)).toNat := by rw [powers]; ring

end Floating

/-- A decimal literal in the shape shared by JSON and by `Number::toString`:
an integer part without superfluous zeros, a fraction and a signed exponent. -/
structure Literal where
  negative : Bool
  integer : JsString
  fraction : JsString
  exponent : Option (Bool × JsString)

namespace Literal

def minus : CodeUnit := 0x2D
def plus : CodeUnit := 0x2B
def point : CodeUnit := 0x2E
def lowerE : CodeUnit := 0x65
def upperE : CodeUnit := 0x45

def fractionText (fraction : JsString) : JsString := if fraction = [] then [] else point :: fraction

def exponentText : Option (Bool × JsString) → JsString
  | none => []
  | some (negative, digits) => lowerE :: (if negative then minus else plus) :: digits

def text (literal : Literal) : JsString :=
  (if literal.negative then [minus] else []) ++
    (literal.integer ++ (fractionText literal.fraction ++ exponentText literal.exponent))

def exponentValue : Option (Bool × JsString) → Int
  | none => 0
  | some (true, digits) => -digitsValue digits
  | some (false, digits) => digitsValue digits

/-- The Number value of the literal, rounded once from its mathematical value. -/
def value {f : Format} (literal : Literal) : Floating f :=
  .ofDecimal literal.negative (digitsValue (literal.integer ++ literal.fraction))
    (exponentValue literal.exponent - literal.fraction.length)

/-- The integer part is a single zero or starts with another digit. -/
def IntegerPart (digits : JsString) : Prop :=
  digits ≠ [] ∧ (∀ c ∈ digits, isDigit c = true) ∧ (digits.head? = some (digitUnit 0) → digits.length = 1)

structure WellFormed (literal : Literal) : Prop where
  integer : IntegerPart literal.integer
  fraction : ∀ c ∈ literal.fraction, isDigit c = true
  exponent : ∀ negative digits, literal.exponent = some (negative, digits) →
    digits ≠ [] ∧ ∀ c ∈ digits, isDigit c = true

end Literal

namespace Floating

variable {f : Format}

/-- The decimal `digits * 10 ^ drop`, over the common denominator, rounds to the magnitude. -/
def roundsTo (m : Magnitude f) (digits drop : Nat) : Bool :=
  f.round (digits * 10 ^ drop) (5 ^ f.fraction) == m.units

/-- The digits of a magnitude with `drop` of them left off: the closer of the
two neighbours that still rounds back, if one does. -/
def candidate (m : Magnitude f) (drop : Nat) : Option Nat :=
  let exact := m.units * 5 ^ f.fraction
  let near := roundHalfEven exact (10 ^ drop)
  let far := if near = exact / 10 ^ drop then near + 1 else exact / 10 ^ drop
  [near, far].find? (roundsTo m · drop)

/-- The fewest digits that still round back, searched from one digit up to the exact expansion. -/
def shortest (m : Magnitude f) : Nat → Nat × Nat
  | 0 => (m.units * 5 ^ f.fraction, 0)
  | drop + 1 =>
    match candidate m (drop + 1) with
    | some digits => (digits, drop + 1)
    | none => shortest m drop

theorem shortest_rounds (m : Magnitude f) (drop : Nat) :
    roundsTo m (shortest m drop).1 (shortest m drop).2 = true := by
  induction drop with
  | zero =>
    simp only [shortest, roundsTo, Nat.pow_zero, Nat.mul_one, beq_iff_eq]
    exact Format.round_exact m.representable (Nat.pow_pos (by decide))
  | succ drop ih =>
    unfold shortest
    split
    · rename_i digits found
      exact List.find?_some (p := (roundsTo m · (drop + 1))) found
    · exact ih

/-- The significant digits of a nonzero magnitude and the position of its decimal point. -/
def significand (m : Magnitude f) : JsString × Int :=
  let found := shortest m ((Nat.digits 10 (m.units * 5 ^ f.fraction)).length - 1)
  let digits := decimalText found.1
  (digits.rdropWhile (· == digitUnit 0), (digits.length : Int) + found.2 - f.fraction)

theorem shortest_ofDecimal (negative : Bool) (m : Magnitude f) (drop : Nat) :
    ofDecimal negative (shortest m drop).1 ((shortest m drop).2 - f.fraction) = .finite negative m := by
  have rounds := shortest_rounds m drop
  simp only [roundsTo, beq_iff_eq] at rounds
  rw [ofDecimal_fraction, ofUnits, dif_pos (by rw [rounds]; exact m.representable.1)]
  simp only [rounds]

theorem shortest_pos {m : Magnitude f} (nonzero : m.units ≠ 0) (drop : Nat) : 0 < (shortest m drop).1 := by
  have rounds := shortest_rounds m drop
  refine Nat.pos_of_ne_zero ?_
  intro zero
  simp only [roundsTo, zero, Nat.zero_mul, beq_iff_eq] at rounds
  refine nonzero (rounds.symm.trans ?_)
  simp [Format.round, roundHalfEven]

/-- Dropping the zeros at the end of a digit text, and how many were dropped. -/
theorem rdropWhile_zeros (digits : JsString) :
    ∃ zeros, digits = digits.rdropWhile (· == digitUnit 0) ++ List.replicate zeros (digitUnit 0) := by
  induction digits using List.reverseRecOn with
  | nil => exact ⟨0, by simp⟩
  | append_singleton front last ih =>
    by_cases zero : last = digitUnit 0
    · obtain ⟨zeros, split⟩ := ih
      refine ⟨zeros + 1, ?_⟩
      rw [List.rdropWhile_concat_pos _ _ _ (by simpa using zero), List.replicate_succ', ← List.append_assoc,
        ← split, zero]
    · exact ⟨0, by rw [List.rdropWhile_concat_neg _ _ _ (by simpa using zero)]; simp⟩

/-- What `significand` promises: digits only, a nonzero first one, and the exact value after rounding. -/
theorem significand_spec {m : Magnitude f} (nonzero : m.units ≠ 0) :
    (∃ d rest, (significand m).1 = digitUnit d :: rest ∧ 0 < d ∧ d < 10) ∧
      (∀ c ∈ (significand m).1, isDigit c = true) ∧
      ∀ negative, ofDecimal negative (digitsValue (significand m).1)
        ((significand m).2 - (significand m).1.length) = .finite negative m := by
  unfold significand
  dsimp only
  generalize (Nat.digits 10 (m.units * 5 ^ f.fraction)).length - 1 = drop
  obtain ⟨d, rest, head, lower, upper⟩ := decimalText_head (shortest_pos nonzero drop)
  obtain ⟨zeros, split⟩ := rdropWhile_zeros (decimalText (shortest m drop).1)
  have all := decimalText_isDigit (shortest m drop).1
  have total := digitsValue_decimalText (shortest m drop).1
  have value := fun negative => shortest_ofDecimal negative m drop
  have length := congrArg List.length split
  rw [split, digitsValue_append, digitsValue_zeros, List.length_replicate, Nat.add_zero] at total
  rw [List.length_append, List.length_replicate] at length
  generalize (decimalText (shortest m drop).1).rdropWhile (· == digitUnit 0) = kept at *
  refine ⟨?_, ?_, ?_⟩
  · cases kept with
    | nil =>
      rw [split] at head
      cases zeros with
      | zero => simp at head
      | succ zeros =>
        rw [List.replicate_succ, List.nil_append] at head
        have same := congrArg digitValue (List.cons.inj head).1
        rw [digitValue_digitUnit (by decide), digitValue_digitUnit upper] at same
        omega
    | cons c tail =>
      rw [split, List.cons_append] at head
      exact ⟨d, tail, by rw [(List.cons.inj head).1], lower, upper⟩
  · intro c member
    refine all c ?_
    rw [split]
    exact List.mem_append_left _ member
  · intro negative
    have shifted := ofDecimal_shift (f := f) negative (digitsValue kept) zeros ((shortest m drop).2 - f.fraction)
    rw [total, value negative] at shifted
    rw [shifted]
    congr 1
    omega

/-- The four layouts of `Number::toString` in base ten, by the position `n` of the decimal point. -/
def layout (negative : Bool) (digits : JsString) (n : Int) : Literal :=
  if digits.length ≤ n ∧ n ≤ 21 then
    ⟨negative, digits ++ List.replicate (n - digits.length).toNat (digitUnit 0), [], none⟩
  else if 0 < n ∧ n ≤ 21 then
    ⟨negative, digits.take n.toNat, digits.drop n.toNat, none⟩
  else if -6 < n ∧ n ≤ 0 then
    ⟨negative, [digitUnit 0], List.replicate (-n).toNat (digitUnit 0) ++ digits, none⟩
  else
    ⟨negative, digits.take 1, digits.drop 1, some (decide (n - 1 < 0), decimalText (n - 1).natAbs)⟩

/-- `Number::toString` in base ten. -/
def toText : Floating f → JsString
  | .nan => js "NaN"
  | .infinity negative => if negative then js "-Infinity" else js "Infinity"
  | .finite negative m =>
    if m.units = 0 then [digitUnit 0]
    else (layout negative (significand m).1 (significand m).2).text

theorem layout_wellFormed {digits rest : JsString} {d : Nat} (negative : Bool) (n : Int)
    (head : digits = digitUnit d :: rest) (lower : 0 < d) (upper : d < 10)
    (all : ∀ c ∈ digits, isDigit c = true) : (layout negative digits n).WellFormed := by
  have zero : isDigit (digitUnit 0) = true := by decide
  have different : digitUnit d ≠ digitUnit 0 := by
    intro same
    have values := congrArg digitValue same
    rw [digitValue_digitUnit upper, digitValue_digitUnit (by decide)] at values
    omega
  have first (more : JsString) : (digitUnit d :: more).head? = some (digitUnit 0) → (digitUnit d :: more).length = 1 :=
    fun same => absurd (Option.some.inj same) different
  unfold layout
  split
  · refine ⟨⟨by simp [head], ?_, ?_⟩, by simp, by simp⟩
    · intro c member
      rcases List.mem_append.mp member with old | padding
      · exact all c old
      · rw [List.eq_of_mem_replicate padding]
        exact zero
    · rw [head]
      exact first _
  split
  · rename_i inside
    obtain ⟨k, size⟩ : ∃ k, n.toNat = k + 1 := ⟨n.toNat - 1, by omega⟩
    refine ⟨⟨by simp [head, size], fun c member => all c (List.mem_of_mem_take member), ?_⟩,
      fun c member => all c (List.mem_of_mem_drop member), by simp⟩
    rw [head, size]
    exact first _
  split
  · refine ⟨⟨by simp, by simpa using zero, by simp⟩, ?_, by simp⟩
    intro c member
    rcases List.mem_append.mp member with padding | old
    · rw [List.eq_of_mem_replicate padding]
      exact zero
    · exact all c old
  · refine ⟨⟨by simp [head], fun c member => all c (List.mem_of_mem_take member), by simp [head]⟩,
      fun c member => all c (List.mem_of_mem_drop member), ?_⟩
    rintro _ _ ⟨⟩
    exact ⟨decimalText_ne_nil _, decimalText_isDigit _⟩

/-- Every layout denotes the same decimal, whatever it does with point and exponent. -/
theorem layout_value {digits : JsString} (negative : Bool) (n : Int) (nonempty : digits ≠ []) :
    ((layout negative digits n).value : Floating f) =
      ofDecimal negative (digitsValue digits) (n - digits.length) := by
  have positive : 0 < digits.length := List.length_pos_iff.mpr nonempty
  unfold layout
  split
  · rename_i inside
    simp only [Literal.value, Literal.exponentValue, List.append_nil, List.length_nil, digitsValue_append,
      digitsValue_zeros, List.length_replicate, Nat.add_zero]
    rw [ofDecimal_shift]
    congr 1
    omega
  split
  · simp only [Literal.value, Literal.exponentValue, List.take_append_drop, List.length_drop]
    congr 1
    omega
  split
  · have leading : digitsValue ([digitUnit 0] ++ (List.replicate (-n).toNat (digitUnit 0) ++ digits)) =
        digitsValue digits := by
      rw [← List.append_assoc, digitsValue_append]
      have zeros := digitsValue_zeros ((-n).toNat + 1)
      rw [List.replicate_succ] at zeros
      rw [List.singleton_append, zeros, Nat.zero_mul, Nat.zero_add]
    simp only [Literal.value, Literal.exponentValue, leading, List.length_append, List.length_replicate]
    congr 1
    omega
  · have exponent : Literal.exponentValue (some (decide (n - 1 < 0), decimalText (n - 1).natAbs)) = n - 1 := by
      rcases lt_or_ge (n - 1) 0 with below | above
      · rw [decide_eq_true below, Literal.exponentValue, digitsValue_decimalText]
        omega
      · rw [decide_eq_false (not_lt.mpr above), Literal.exponentValue, digitsValue_decimalText]
        omega
    simp only [Literal.value, exponent, List.take_append_drop, List.length_drop]
    congr 1
    omega

/-- The text of a nonzero finite value is a literal with exactly that value. -/
theorem toText_literal (negative : Bool) {m : Magnitude f} (nonzero : m.units ≠ 0) :
    ∃ literal : Literal, literal.WellFormed ∧ toText (.finite negative m) = literal.text ∧
      literal.value = .finite negative m := by
  obtain ⟨⟨d, rest, head, lower, upper⟩, all, value⟩ := significand_spec nonzero
  refine ⟨_, layout_wellFormed negative (significand m).2 head lower upper all, if_neg nonzero, ?_⟩
  rw [layout_value negative _ (by simp [head])]
  exact value negative

end Floating

end Ecma
