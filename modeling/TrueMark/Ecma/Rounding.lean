import TrueMark.Ecma.Binary

namespace Ecma

theorem roundHalfEven_mono {num more : Nat} (less : num ≤ more) (den : Nat) :
    roundHalfEven num den ≤ roundHalfEven more den := by
  have quotients := Nat.div_le_div_right (c := den) less
  rcases quotients.lt_or_eq with below | same
  · have upper := (roundHalfEven_bounds num den).2
    have lower := (roundHalfEven_bounds more den).1
    omega
  · have remainders : num % den ≤ more % den := by
      have split := Nat.div_add_mod num den
      have splitMore := Nat.div_add_mod more den
      rw [← same] at splitMore
      omega
    unfold roundHalfEven
    rw [← same]
    split <;> split <;> omega

namespace Format

variable {f : Format}

theorem excess_mono {units more : Nat} (less : units ≤ more) : f.excess units ≤ f.excess more := by
  rcases Nat.eq_zero_or_pos units with rfl | positive
  · rw [excess, Nat.log2_zero]
    have bits := f.positive
    omega
  have bits : units.log2 ≤ more.log2 :=
    (Nat.le_log2 (by omega)).mpr ((Nat.log2_self_le positive.ne').trans less)
  unfold excess
  omega

/-- What lies on a finer grid is rounded to no more than the first value of the coarser one. -/
theorem round_le_binade {num den coarse : Nat} (finer : f.excess (num / den) < coarse) :
    f.round num den ≤ 2 ^ (f.precision + coarse - 1) := by
  have small : num / den < 2 ^ (f.precision + coarse - 1) := by
    refine lt_of_lt_of_le Nat.lt_log2_self (Nat.pow_le_pow_right (by decide) ?_)
    have bits := f.positive
    unfold excess at finer
    omega
  have grid : 2 ^ (f.precision + coarse - 1) =
      2 ^ (f.precision + coarse - 1 - f.excess (num / den)) * 2 ^ f.excess (num / den) := by
    rw [← Nat.pow_add]
    congr 1
    omega
  have quotient : num / den / 2 ^ f.excess (num / den) < 2 ^ (f.precision + coarse - 1 - f.excess (num / den)) := by
    rw [Nat.div_lt_iff_lt_mul (Nat.two_pow_pos _), ← grid]
    exact small
  rw [Nat.div_div_eq_div_mul] at quotient
  rw [round, grid]
  refine Nat.mul_le_mul_right _ ?_
  have upper := (roundHalfEven_bounds num (den * 2 ^ f.excess (num / den))).2
  omega

/-- What lies on a coarse grid is rounded to no less than its first value. -/
theorem binade_le_round {num den : Nat} (coarse : 0 < f.excess (num / den)) :
    2 ^ (f.precision + f.excess (num / den) - 1) ≤ f.round num den := by
  have bits := f.positive
  have large : 2 ^ (f.precision + f.excess (num / den) - 1) ≤ num / den := by
    have nonzero : num / den ≠ 0 := by
      intro zero
      rw [zero, excess, Nat.log2_zero] at coarse
      omega
    refine le_trans (Nat.pow_le_pow_right (by decide) ?_) (Nat.log2_self_le nonzero)
    unfold excess at coarse ⊢
    omega
  have grid : 2 ^ (f.precision + f.excess (num / den) - 1) =
      2 ^ (f.precision - 1) * 2 ^ f.excess (num / den) := by
    rw [← Nat.pow_add]
    congr 1
    omega
  rw [grid] at large ⊢
  refine Nat.mul_le_mul_right _ (le_trans ?_ (roundHalfEven_bounds _ _).1)
  rw [← Nat.div_div_eq_div_mul]
  exact (Nat.le_div_iff_mul_le (Nat.two_pow_pos _)).mpr large

/-- Rounding keeps the order, also from one grid to the next. -/
theorem round_mono {num more : Nat} (less : num ≤ more) (den : Nat) :
    f.round num den ≤ f.round more den := by
  have grids := excess_mono (f := f) (Nat.div_le_div_right (c := den) less)
  rcases grids.lt_or_eq with finer | same
  · exact (round_le_binade finer).trans (binade_le_round (Nat.zero_lt_of_lt finer))
  · unfold round
    rw [← same]
    exact Nat.mul_le_mul_right _ (roundHalfEven_mono less _)

theorem round_representable {units : Nat} (member : f.Representable units) : f.round units 1 = units := by
  have exact := round_exact member Nat.one_pos
  rwa [Nat.mul_one] at exact

end Format

namespace Floating

variable {f : Format}

theorem sub_nan (x : Floating f) : sub x .nan = .nan := by
  cases x <;> rfl

theorem lt_nan (x : Floating f) : lt x .nan = false := by
  cases x <;> rfl

/-- A rounded value against a bound that the format holds exactly. -/
theorem lt_ofUnits {bound units : Nat} (small : bound ≤ 2 ^ f.precision) :
    lt (ofInt bound : Floating f) (ofUnits false units 1) = decide (bound * f.one < f.round units 1) := by
  have exact : (bound : Int).natAbs ≤ 2 ^ f.precision := small
  have size := signedUnits_ofInt (f := f) exact
  rw [ofInt_exact exact, ofUnits]
  split
  · simp only [lt, size]
    simp only [signedUnits, Bool.false_eq_true, if_false]
    exact decide_eq_decide.mpr (by norm_cast)
  · rename_i infinite
    have finite := (Format.representable_integer (f := f) small).1
    simp only [lt, Bool.not_false]
    exact (decide_eq_true (by omega)).symm

theorem ofUnits_negative {units : Nat} (positive : 0 < units) :
    (ofUnits true units 1 : Floating f) = .infinity true ∨
      ∃ m : Magnitude f, ofUnits true units 1 = .finite true m ∧ 0 < m.units := by
  rw [ofUnits]
  split
  · exact Or.inr ⟨_, rfl, Format.round_pos Nat.one_pos positive⟩
  · exact Or.inl rfl

/-- A negative value stays below every natural number. -/
theorem ofUnits_negative_lt {bound units : Nat} (positive : 0 < units) (small : bound ≤ 2 ^ f.precision) :
    lt (ofUnits true units 1 : Floating f) (ofInt bound) = true ∧
      lt (ofInt bound : Floating f) (ofUnits true units 1) = false := by
  have exact : (bound : Int).natAbs ≤ 2 ^ f.precision := small
  have scaled : 0 ≤ (bound : Int) * f.one := by positivity
  rw [ofInt_exact exact]
  rcases ofUnits_negative (f := f) positive with infinite | ⟨m, value, nonzero⟩
  · simp [infinite, lt]
  · have below : signedUnits true m < 0 := by simpa [signedUnits] using nonzero
    simp only [value, lt, signedUnits_ofInt exact, decide_eq_true_eq, decide_eq_false_iff_not, not_lt]
    exact ⟨below.trans_le scaled, below.le.trans scaled⟩

section Difference

variable {integer : Int} {negative : Bool} {m : Magnitude f}

/-- A difference is exact up to one rounding, and its sign is always right. -/
theorem ofInt_sub_cases (exact : integer.natAbs ≤ 2 ^ f.precision) (negative : Bool) (m : Magnitude f) :
    integer * f.one = signedUnits negative m ∧ (∃ sign, sub (ofInt integer) (.finite negative m) = .finite sign .zero) ∨
      integer * f.one < signedUnits negative m ∧ sub (ofInt integer) (.finite negative m) =
        ofUnits true (integer * f.one - signedUnits negative m).natAbs 1 ∨
      signedUnits negative m < integer * f.one ∧ sub (ofInt integer) (.finite negative m) =
        ofUnits false (integer * f.one - signedUnits negative m).natAbs 1 := by
  rw [ofInt_exact exact]
  simp only [sub, signedUnits_ofInt exact]
  rcases lt_trichotomy (integer * f.one) (signedUnits negative m) with below | same | above
  · rw [if_neg below.ne, decide_eq_true below]
    exact Or.inr (Or.inl ⟨below, rfl⟩)
  · rw [if_pos same]
    exact Or.inl ⟨same, _, rfl⟩
  · rw [if_neg above.ne', decide_eq_false (not_lt.mpr above.le)]
    exact Or.inr (Or.inr ⟨above, rfl⟩)

theorem ofInt_lt_zero {bound : Nat} (small : bound ≤ 2 ^ f.precision) (sign : Bool) :
    lt (ofInt bound : Floating f) (.finite sign .zero) = false ∧
      lt (.finite sign .zero) (ofInt bound : Floating f) = decide (0 < bound) := by
  have exact : (bound : Int).natAbs ≤ 2 ^ f.precision := small
  have zero : signedUnits sign (.zero : Magnitude f) = 0 := by cases sign <;> rfl
  have scale : (0 : Int) < f.one := by exact_mod_cast Format.one_pos
  rw [ofInt_exact exact]
  simp only [lt, signedUnits_ofInt exact, zero, decide_eq_false_iff_not, not_lt, mul_pos_iff_of_pos_right scale]
  exact ⟨by positivity, by norm_cast⟩

theorem ofInt_lt_sub {bound : Nat} (small : bound ≤ 2 ^ f.precision) (exact : integer.natAbs ≤ 2 ^ f.precision) :
    lt (ofInt bound) (sub (ofInt integer) (.finite negative m)) =
      decide (bound * f.one < f.round (integer * f.one - signedUnits negative m).toNat 1) := by
  have nothing : f.round 0 1 = 0 := Format.round_representable ⟨Format.overflow_pos, Nat.dvd_zero _⟩
  rcases ofInt_sub_cases exact negative m with ⟨same, sign, value⟩ | ⟨below, value⟩ | ⟨above, value⟩
  · rw [value, (ofInt_lt_zero small sign).1, same, sub_self, Int.toNat_zero, nothing]
    exact (decide_eq_false (Nat.not_lt_zero _)).symm
  · have none : (integer * f.one - signedUnits negative m).toNat = 0 := by omega
    rw [value, (ofUnits_negative_lt (by omega) small).2, none, nothing]
    exact (decide_eq_false (Nat.not_lt_zero _)).symm
  · have size : (integer * f.one - signedUnits negative m).natAbs =
        (integer * f.one - signedUnits negative m).toNat := by omega
    rw [value, lt_ofUnits small, size]

theorem sub_lt_zero (exact : integer.natAbs ≤ 2 ^ f.precision) :
    lt (sub (ofInt integer) (.finite negative m)) (ofInt 0) = decide (integer * f.one < signedUnits negative m) := by
  rcases ofInt_sub_cases exact negative m with ⟨same, sign, value⟩ | ⟨below, value⟩ | ⟨above, value⟩
  · rw [value, same, decide_eq_false (lt_irrefl _)]
    exact (ofInt_lt_zero (Nat.zero_le _) sign).2
  · rw [value, decide_eq_true below]
    exact (ofUnits_negative_lt (by omega) (Nat.zero_le _)).1
  · have whole : ((0 : Int).natAbs ≤ 2 ^ f.precision) := Nat.zero_le _
    rw [value, decide_eq_false (not_lt.mpr above.le), ofInt_exact whole, ofUnits]
    split
    · simp only [lt, signedUnits_ofInt whole]
      simp [signedUnits]
    · rfl

end Difference

end Floating

end Ecma
