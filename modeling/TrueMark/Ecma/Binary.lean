import TrueMark.Ecma.Text

namespace Ecma

/-- A binary floating-point format. Magnitudes are counted in units of the
least positive one, `2 ^ -fraction`, keep `precision` significant bits and
stay below `2 ^ range`. -/
structure Format where
  precision : Nat
  fraction : Nat
  range : Nat
  positive : 0 < precision
  wide : precision < range

namespace Format

variable (f : Format)

/-- The number of units in the number one. -/
def one : Nat := 2 ^ f.fraction

/-- The first magnitude past the finite range, in units. -/
def overflow : Nat := 2 ^ f.range * f.one

/-- The number of low bits that a magnitude of this size cannot keep. -/
def excess (units : Nat) : Nat := units.log2 + 1 - f.precision

/-- The finite magnitudes of the format. -/
def Representable (units : Nat) : Prop := units < f.overflow ∧ 2 ^ f.excess units ∣ units

instance (units : Nat) : Decidable (f.Representable units) := inferInstanceAs (Decidable (_ ∧ _))

end Format

structure Magnitude (f : Format) where
  units : Nat
  representable : f.Representable units
deriving DecidableEq

/-- The values of a format. Both zeros are finite, told apart by the sign. -/
inductive Floating (f : Format)
  | nan
  | infinity (negative : Bool)
  | finite (negative : Bool) (magnitude : Magnitude f)
deriving DecidableEq

def roundHalfEven (num den : Nat) : Nat :=
  if 2 * (num % den) < den ∨ 2 * (num % den) = den ∧ num / den % 2 = 0 then num / den else num / den + 1

theorem roundHalfEven_bounds (num den : Nat) :
    num / den ≤ roundHalfEven num den ∧ roundHalfEven num den ≤ num / den + 1 := by
  unfold roundHalfEven
  split <;> omega

theorem roundHalfEven_exact {den : Nat} (quotient : Nat) (positive : 0 < den) :
    roundHalfEven (quotient * den) den = quotient := by
  unfold roundHalfEven
  rw [Nat.mul_mod_left, Nat.mul_div_cancel _ positive]
  exact if_pos (Or.inl (by omega))

theorem roundHalfEven_scale {c : Nat} (num den : Nat) (positive : 0 < c) :
    roundHalfEven (c * num) (c * den) = roundHalfEven num den := by
  have less : 2 * (c * (num % den)) < c * den ↔ 2 * (num % den) < den := by
    rw [Nat.mul_left_comm]
    exact Nat.mul_lt_mul_left positive
  have tie : 2 * (c * (num % den)) = c * den ↔ 2 * (num % den) = den := by
    rw [Nat.mul_left_comm]
    exact Nat.mul_right_inj positive.ne'
  unfold roundHalfEven
  rw [Nat.mul_mod_mul_left, Nat.mul_div_mul_left _ _ positive]
  simp only [less, tie]

namespace Format

variable {f : Format}

theorem one_pos : 0 < f.one := Nat.two_pow_pos _

theorem overflow_pos : 0 < f.overflow := Nat.mul_pos (Nat.two_pow_pos _) one_pos

/-- `num / den` units, rounded to the precision of the format, ties to even. -/
def round (f : Format) (num den : Nat) : Nat :=
  roundHalfEven num (den * 2 ^ f.excess (num / den)) * 2 ^ f.excess (num / den)

theorem excess_quotient_lt (units : Nat) : units / 2 ^ f.excess units < 2 ^ f.precision := by
  rw [Nat.div_lt_iff_lt_mul (Nat.two_pow_pos _), ← Nat.pow_add]
  refine lt_of_lt_of_le Nat.lt_log2_self (Nat.pow_le_pow_right (by decide) ?_)
  unfold excess
  omega

theorem excess_quotient_pos {units : Nat} (positive : 0 < units) : 0 < units / 2 ^ f.excess units := by
  refine Nat.div_pos ?_ (Nat.two_pow_pos _)
  refine le_trans (Nat.pow_le_pow_right (by decide) ?_) (Nat.log2_self_le positive.ne')
  have bits := f.positive
  unfold excess
  omega

/-- A multiple `mantissa * 2 ^ shift` that fits the precision keeps its low bits. -/
theorem granular_of_mantissa {mantissa shift : Nat} (upper : mantissa ≤ 2 ^ f.precision) :
    2 ^ f.excess (mantissa * 2 ^ shift) ∣ mantissa * 2 ^ shift := by
  rcases Nat.eq_zero_or_pos mantissa with rfl | positive
  · simp
  rcases upper.lt_or_eq with below | rfl
  · refine Dvd.dvd.mul_left (Nat.pow_dvd_pow 2 ?_) mantissa
    have bits : (mantissa * 2 ^ shift).log2 < f.precision + shift := by
      rw [Nat.log2_lt (Nat.mul_pos positive (Nat.two_pow_pos _)).ne', Nat.pow_add]
      exact Nat.mul_lt_mul_of_pos_right below (Nat.two_pow_pos _)
    unfold excess
    omega
  · rw [← Nat.pow_add]
    refine Nat.pow_dvd_pow 2 ?_
    have bits := f.positive
    rw [excess, Nat.log2_two_pow]
    omega

theorem round_granular (num den : Nat) : 2 ^ f.excess (f.round num den) ∣ f.round num den := by
  refine granular_of_mantissa ?_
  have bounds := roundHalfEven_bounds num (den * 2 ^ f.excess (num / den))
  rw [← Nat.div_div_eq_div_mul] at bounds
  have below := excess_quotient_lt (f := f) (num / den)
  omega

theorem round_scale {c : Nat} (num den : Nat) (positive : 0 < c) :
    f.round (c * num) (c * den) = f.round num den := by
  unfold round
  rw [Nat.mul_div_mul_left _ _ positive, Nat.mul_assoc, roundHalfEven_scale _ _ positive]

/-- Rounding is exact on every value that the format already contains. -/
theorem round_exact {units den : Nat} (member : f.Representable units) (positive : 0 < den) :
    f.round (units * den) den = units := by
  obtain ⟨mantissa, value⟩ := member.2
  have shape : units = mantissa * 2 ^ f.excess units := by
    rw [Nat.mul_comm]
    exact value
  unfold round
  rw [Nat.mul_div_cancel _ positive]
  have numerator : units * den = mantissa * (den * 2 ^ f.excess units) := by
    conv_lhs => rw [shape]
    ring
  rw [numerator, roundHalfEven_exact mantissa (Nat.mul_pos positive (Nat.two_pow_pos _)), ← shape]

theorem round_pos {num den : Nat} (positive : 0 < den) (large : den ≤ num) : 0 < f.round num den := by
  have quotient : 0 < num / den := Nat.div_pos large positive
  refine Nat.mul_pos ?_ (Nat.two_pow_pos _)
  refine lt_of_lt_of_le ?_ (roundHalfEven_bounds _ _).1
  rw [← Nat.div_div_eq_div_mul]
  exact excess_quotient_pos quotient

/-- Integers up to `2 ^ precision` in absolute value are exact. -/
theorem representable_integer {n : Nat} (bound : n ≤ 2 ^ f.precision) : f.Representable (n * f.one) := by
  refine ⟨?_, granular_of_mantissa bound⟩
  refine Nat.mul_lt_mul_of_pos_right (lt_of_le_of_lt bound ?_) one_pos
  exact Nat.pow_lt_pow_right (by decide) f.wide

end Format

def Magnitude.zero {f : Format} : Magnitude f := ⟨0, Format.overflow_pos, Nat.dvd_zero _⟩

namespace Floating

variable {f : Format}

/-- The value for `± num / den` units; values past the range become infinite. -/
def ofUnits (negative : Bool) (num den : Nat) : Floating f :=
  if bounded : f.round num den < f.overflow then
    .finite negative ⟨f.round num den, bounded, Format.round_granular num den⟩
  else .infinity negative

/-- The value for the decimal `± digits * 10 ^ exponent`. -/
def ofDecimal (negative : Bool) (digits : Nat) (exponent : Int) : Floating f :=
  ofUnits negative (digits * 10 ^ exponent.toNat * f.one) (10 ^ (-exponent).toNat)

def ofInt (z : Int) : Floating f := ofUnits (decide (z < 0)) (z.natAbs * f.one) 1

theorem ofUnits_scale {c : Nat} (negative : Bool) (num den : Nat) (positive : 0 < c) :
    (ofUnits negative (c * num) (c * den) : Floating f) = ofUnits negative num den := by
  simp only [ofUnits, Format.round_scale num den positive]

theorem ofUnits_exact {den : Nat} (negative : Bool) (m : Magnitude f) (positive : 0 < den) :
    ofUnits negative (m.units * den) den = .finite negative m := by
  have value := Format.round_exact m.representable positive
  have bounded : f.round (m.units * den) den < f.overflow := by
    rw [value]
    exact m.representable.1
  rw [ofUnits, dif_pos bounded]
  simp only [value]

/-- The natural number that a value is, if it is one. -/
def natural : Floating f → Option Nat
  | .finite false m => if f.one ∣ m.units then some (m.units / f.one) else none
  | _ => none

/-- Rounding keeps a natural number exactly if the format contains it. -/
theorem natural_ofUnits {n : Nat} :
    (ofUnits false (n * f.one) 1 : Floating f).natural = some n ↔ f.Representable (n * f.one) := by
  constructor
  · intro kept
    unfold ofUnits at kept
    split at kept
    · rename_i bounded
      rw [natural] at kept
      split at kept
      · rename_i whole
        have same : f.round (n * f.one) 1 = n * f.one := Nat.eq_mul_of_div_eq_left whole (Option.some.inj kept)
        rw [← same]
        exact ⟨bounded, Format.round_granular _ _⟩
      · cases kept
    · cases kept
  · intro member
    have exact := ofUnits_exact false ⟨n * f.one, member⟩ Nat.one_pos
    rw [Nat.mul_one] at exact
    rw [exact, natural, if_pos (Dvd.intro_left n rfl), Nat.mul_div_cancel n Format.one_pos]

def signedUnits (negative : Bool) (m : Magnitude f) : Int := if negative then -m.units else m.units

def sub : Floating f → Floating f → Floating f
  | .nan, _ | _, .nan => .nan
  | .infinity a, .infinity b => if a = b then .nan else .infinity a
  | .infinity a, .finite .. => .infinity a
  | .finite .., .infinity b => .infinity !b
  | .finite a x, .finite b y =>
    if signedUnits a x = signedUnits b y then .finite (a && !b) .zero
    else ofUnits (decide (signedUnits a x < signedUnits b y)) (signedUnits a x - signedUnits b y).natAbs 1

/-- The ordering `<`; every comparison with NaN is false. -/
def lt : Floating f → Floating f → Bool
  | .nan, _ | _, .nan => false
  | .infinity a, .infinity b => a && !b
  | .infinity a, .finite .. => a
  | .finite .., .infinity b => !b
  | .finite a x, .finite b y => signedUnits a x < signedUnits b y

theorem ofInt_exact {z : Int} (bound : z.natAbs ≤ 2 ^ f.precision) :
    ofInt z = .finite (decide (z < 0)) ⟨z.natAbs * f.one, Format.representable_integer bound⟩ := by
  have value := ofUnits_exact (decide (z < 0)) ⟨z.natAbs * f.one, Format.representable_integer bound⟩ Nat.one_pos
  rwa [Nat.mul_one] at value

theorem signedUnits_ofInt {z : Int} (bound : z.natAbs ≤ 2 ^ f.precision) :
    signedUnits (decide (z < 0)) ⟨z.natAbs * f.one, Format.representable_integer bound⟩ = z * f.one := by
  rcases lt_or_ge z 0 with negative | nonneg
  · have size : (z.natAbs : Int) = -z := by omega
    simp only [signedUnits, decide_eq_true negative, if_true, Nat.cast_mul, size]
    ring
  · have size : (z.natAbs : Int) = z := by omega
    simp only [signedUnits, decide_eq_false (not_lt.mpr nonneg), Bool.false_eq_true, if_false, Nat.cast_mul, size]

/-- A difference of two exact integers is rounded only once. -/
theorem sub_ofInt {a b : Int} (left : a.natAbs ≤ 2 ^ f.precision) (right : b.natAbs ≤ 2 ^ f.precision) :
    sub (ofInt a) (ofInt b) = (ofInt (a - b) : Floating f) := by
  have scale : (0 : Int) < f.one := by exact_mod_cast Format.one_pos
  rw [ofInt_exact left, ofInt_exact right]
  simp only [sub, signedUnits_ofInt left, signedUnits_ofInt right, mul_left_inj' scale.ne',
    mul_lt_mul_iff_left₀ scale]
  split
  · rename_i same
    subst b
    rw [sub_self, ofInt_exact (by simp)]
    simp [Magnitude.zero]
  · rw [← sub_mul, Int.natAbs_mul, Int.natAbs_natCast, ofInt]
    simp only [sub_neg]

theorem ofInt_lt_ofInt {a b : Int} (left : a.natAbs ≤ 2 ^ f.precision) (right : b.natAbs ≤ 2 ^ f.precision) :
    lt (ofInt a : Floating f) (ofInt b) = decide (a < b) := by
  have scale : (0 : Int) < f.one := by exact_mod_cast Format.one_pos
  rw [ofInt_exact left, ofInt_exact right]
  simp only [lt, signedUnits_ofInt left, signedUnits_ofInt right, mul_lt_mul_iff_left₀ scale]

/-- Rounding never moves a negative integer up to zero. -/
theorem ofInt_negative {z : Int} (negative : z < 0) :
    (ofInt z : Floating f) = .infinity true ∨ ∃ m : Magnitude f, ofInt z = .finite true m ∧ 0 < m.units := by
  have large : 1 ≤ z.natAbs * f.one := Nat.mul_pos (by omega) Format.one_pos
  rw [ofInt, decide_eq_true negative, ofUnits]
  split
  · exact Or.inr ⟨_, rfl, Format.round_pos (by decide) large⟩
  · exact Or.inl rfl

theorem ofInt_negative_lt {z b : Int} (negative : z < 0) (nonneg : 0 ≤ b) (bound : b.natAbs ≤ 2 ^ f.precision) :
    lt (ofInt z : Floating f) (ofInt b) = true ∧ lt (ofInt b : Floating f) (ofInt z) = false := by
  have scaled : 0 ≤ b * f.one := mul_nonneg nonneg (Int.natCast_nonneg _)
  rw [ofInt_exact bound]
  rcases ofInt_negative (f := f) negative with infinite | ⟨m, value, positive⟩
  · simp [infinite, lt]
  · have below : signedUnits true m < 0 := by simpa [signedUnits] using positive
    simp only [value, lt, signedUnits_ofInt bound, decide_eq_true_eq, decide_eq_false_iff_not, not_lt]
    exact ⟨below.trans_le scaled, below.le.trans scaled⟩

end Floating

end Ecma
