import TrueMark.Ecma.Rounding
import TrueMark.Qr.Verify

namespace TrueMark.Qr
open Ecma

section Age

variable {negative : Bool} {m : Magnitude binary64}

/-- The first millisecond at or after a timestamp. -/
def opening (negative : Bool) (m : Magnitude binary64) : Int := -(-Floating.signedUnits negative m / binary64.one)

theorem lt_opening (time : Int) :
    time < opening negative m ↔ time * binary64.one < Floating.signedUnits negative m := by
  have scale : (0 : Int) < binary64.one := by exact_mod_cast Format.one_pos
  have reached : -time ≤ -Floating.signedUnits negative m / binary64.one ↔
      -time * binary64.one ≤ -Floating.signedUnits negative m := Int.le_ediv_iff_mul_le scale
  rw [Int.neg_mul, Int.neg_le_neg_iff] at reached
  rw [opening, ← not_le (a := Floating.signedUnits negative m), ← reached]
  omega

/-- The rounded age of a code is over the limit. -/
def Expired (negative : Bool) (m : Magnitude binary64) (time : Int) : Prop :=
  maxQrAge.toNat * binary64.one < binary64.round (time * binary64.one - Floating.signedUnits negative m).toNat 1

theorem Expired.later {time later : Int} (expired : Expired negative m time) (after : time ≤ later) :
    Expired negative m later := by
  refine expired.trans_le (Format.round_mono (Int.toNat_le_toNat ?_) 1)
  have scale : (0 : Int) ≤ binary64.one := Int.natCast_nonneg _
  exact Int.sub_le_sub_right (Int.mul_le_mul_of_nonneg_right after scale) _

theorem maxQrAge_toNat : (maxQrAge.toNat : Int) = maxQrAge := rfl

/-- Rounding moves the end of the period by less than a millisecond. -/
theorem expired_after {time : Int} (late : opening negative m + maxQrAge < time) : Expired negative m time := by
  have reached : Floating.signedUnits negative m ≤ opening negative m * binary64.one :=
    not_lt.mp fun early => lt_irrefl _ ((lt_opening _).mpr early)
  have exact : maxQrAge.toNat + 1 ≤ 2 ^ binary64.precision := TimeValue.bound_precision (by decide)
  have old : (maxQrAge.toNat + 1) * binary64.one ≤
      (time * binary64.one - Floating.signedUnits negative m).toNat := by
    have ages : (maxQrAge + 1) * binary64.one ≤ (time - opening negative m) * binary64.one :=
      Int.mul_le_mul_of_nonneg_right (by omega) (Int.natCast_nonneg _)
    rw [Int.sub_mul] at ages
    zify
    rw [maxQrAge_toNat]
    omega
  have rounded := Format.round_mono (f := binary64) old 1
  rw [Format.round_representable (Format.representable_integer exact), Nat.succ_mul] at rounded
  have scale := Format.one_pos (f := binary64)
  unfold Expired
  omega

theorem not_expired_before {time : Int} (within : time < opening negative m + maxQrAge) : ¬Expired negative m time := by
  have before : (opening negative m - 1) * binary64.one < Floating.signedUnits negative m :=
    (lt_opening _).mp (by omega)
  have exact : maxQrAge.toNat ≤ 2 ^ binary64.precision := TimeValue.bound_precision (by decide)
  have young : (time * binary64.one - Floating.signedUnits negative m).toNat ≤ maxQrAge.toNat * binary64.one := by
    have ages : (time - (opening negative m - 1)) * binary64.one ≤ maxQrAge * binary64.one :=
      Int.mul_le_mul_of_nonneg_right (by omega) (Int.natCast_nonneg _)
    rw [Int.sub_mul] at ages
    rw [Int.toNat_le, Nat.cast_mul, maxQrAge_toNat]
    omega
  have rounded := Format.round_mono (f := binary64) young 1
  rw [Format.round_representable (Format.representable_integer exact)] at rounded
  exact not_lt.mpr rounded

/-- A code expires once, a day after its timestamp up to a millisecond. -/
theorem exists_closing (negative : Bool) (m : Magnitude binary64) :
    ∃ closes : Int, (closes = opening negative m + maxQrAge - 1 ∨ closes = opening negative m + maxQrAge) ∧
      ∀ time, Expired negative m time ↔ closes < time := by
  by_cases last : Expired negative m (opening negative m + maxQrAge)
  · refine ⟨_, Or.inl rfl, fun time => ⟨fun expired => ?_, fun late => last.later (by omega)⟩⟩
    by_contra within
    exact not_expired_before (by omega) expired
  · refine ⟨_, Or.inr rfl, fun time => ⟨fun expired => ?_, expired_after⟩⟩
    by_contra within
    exact last (expired.later (by omega))

/-- The two checks of the age, as the code makes them. -/
theorem age_finite (now : TimeValue) :
    (Floating.lt (.ofInt maxQrAge) (now.number.sub (.finite negative m)) = true ↔
        Expired negative m now.milliseconds) ∧
      ((now.number.sub (.finite negative m)).lt (.ofInt 0) = true ↔ now.milliseconds < opening negative m) := by
  have exact := TimeValue.bound_precision now.bounded
  have small : maxQrAge.toNat ≤ 2 ^ binary64.precision := TimeValue.bound_precision (by decide)
  constructor
  · rw [← maxQrAge_toNat, TimeValue.number, Floating.ofInt_lt_sub small exact, decide_eq_true_iff]
    rfl
  · rw [TimeValue.number, Floating.sub_lt_zero exact, decide_eq_true_iff, lt_opening]

end Age

section Verdict

variable {engine : Engine} {signer : Signer} {properties : Properties} {timestamp : Number}

/-- A complete payload goes through the two checks of its age to its signature. -/
theorem verifyQRCode_complete (complete : missingField (.object properties) requiredFields = some none)
    (number : (properties.get (js "timestamp")).toNumber = some timestamp) (now : TimeValue) :
    verifyQRCode engine signer now (.object properties) =
      if Floating.lt (.ofInt maxQrAge) (now.number.sub timestamp) then
        invalid (js "QR code has expired. Please request a new one.")
      else if (now.number.sub timestamp).lt (.ofInt 0) then invalid (js "Invalid QR code timestamp")
      else checkSignature signer properties := by
  simp only [verifyQRCode, complete, ownProperties, number]

/-- An infinite timestamp is always out of its period. -/
theorem age_infinite (now : TimeValue) (negative : Bool) :
    Floating.lt (.ofInt maxQrAge) (now.number.sub (.infinity negative)) = negative ∧
      (now.number.sub (.infinity negative)).lt (.ofInt 0) = !negative := by
  have maximum : maxQrAge.natAbs ≤ 2 ^ binary64.precision := TimeValue.bound_precision (by decide)
  have zero : (0 : Int).natAbs ≤ 2 ^ binary64.precision := Nat.zero_le _
  rw [TimeValue.number, Floating.ofInt_exact (TimeValue.bound_precision now.bounded), Floating.ofInt_exact maximum,
    Floating.ofInt_exact zero]
  simp [Floating.sub, Floating.lt]

/-- A timestamp that is no number gives no age, and both comparisons fail. -/
theorem age_nan (now : TimeValue) :
    Floating.lt (.ofInt maxQrAge) (now.number.sub .nan) = false ∧ (now.number.sub .nan).lt (.ofInt 0) = false := by
  rw [Floating.sub_nan]
  exact ⟨Floating.lt_nan _, rfl⟩

/-- The period in which the signature of a complete payload counts. -/
theorem verifyQRCode_period {negative : Bool} {m : Magnitude binary64}
    (complete : missingField (.object properties) requiredFields = some none)
    (number : (properties.get (js "timestamp")).toNumber = some (.finite negative m)) :
    ∃ opens closes : Int, (closes = opens + maxQrAge - 1 ∨ closes = opens + maxQrAge) ∧
      ∀ now : TimeValue, verifyQRCode engine signer now (.object properties) =
        if now.milliseconds < opens then invalid (js "Invalid QR code timestamp")
        else if closes < now.milliseconds then invalid (js "QR code has expired. Please request a new one.")
        else checkSignature signer properties := by
  obtain ⟨closes, near, expires⟩ := exists_closing negative m
  have maximum : maxQrAge = 86400000 := rfl
  refine ⟨opening negative m, closes, near, fun now => ?_⟩
  rw [verifyQRCode_complete complete number, if_congr ((age_finite now).1.trans (expires _)) rfl
    (if_congr (age_finite now).2 rfl rfl)]
  split
  · rw [if_neg (by omega)]
  · rfl

end Verdict

/-- The verdict on a payload over time. It is refused for good, or it has no age and only its signature
counts for ever, or it has one period of a day, less one millisecond at most, in which its signature counts.
Before that it is from the future, and after it has expired. -/
theorem verifyQRCode_timeline (engine : Engine) (signer : Signer) (qrData : JsValue) :
    (∃ verdict : VerificationResult, verdict.isValid = false ∧ ∀ now, verifyQRCode engine signer now qrData = verdict) ∨
    ∃ properties : Properties, qrData = .object properties ∧
      ((properties.get (js "timestamp")).toNumber = some .nan ∧
          (∀ now, verifyQRCode engine signer now qrData = checkSignature signer properties) ∨
        ∃ opens closes : Int, (closes = opens + maxQrAge - 1 ∨ closes = opens + maxQrAge) ∧
          ∀ now : TimeValue, verifyQRCode engine signer now qrData =
            if now.milliseconds < opens then invalid (js "Invalid QR code timestamp")
            else if closes < now.milliseconds then invalid (js "QR code has expired. Please request a new one.")
            else checkSignature signer properties) := by
  rcases missing : missingField qrData requiredFields with _ | _ | field
  · exact Or.inl ⟨_, rfl, fun now => by rw [verifyQRCode, missing]⟩
  · obtain ⟨properties, rfl, _⟩ := missingField_none missing
    cases number : (properties.get (js "timestamp")).toNumber with
    | none =>
      refine Or.inl ⟨thrown engine.primitiveMessage, rfl, fun now => ?_⟩
      simp only [verifyQRCode, missing, ownProperties, number]
    | some timestamp =>
      cases timestamp with
      | nan =>
        refine Or.inr ⟨properties, rfl, Or.inl ⟨number, fun now => ?_⟩⟩
        rw [verifyQRCode_complete missing number, (age_nan now).1, (age_nan now).2]
        rfl
      | infinity negative =>
        refine Or.inl ⟨if negative then invalid (js "QR code has expired. Please request a new one.")
          else invalid (js "Invalid QR code timestamp"), by cases negative <;> rfl, fun now => ?_⟩
        rw [verifyQRCode_complete missing number, (age_infinite now negative).1, (age_infinite now negative).2]
        cases negative <;> rfl
      | finite negative m => exact Or.inr ⟨properties, rfl, Or.inr (verifyQRCode_period missing number)⟩
  · exact Or.inl ⟨_, rfl, fun now => by rw [verifyQRCode, missing]⟩

end TrueMark.Qr
