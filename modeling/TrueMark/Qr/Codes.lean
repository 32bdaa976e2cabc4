import TrueMark.Qr.RoundTrip
import TrueMark.Qr.Timeline

namespace TrueMark.Qr
open Ecma

/-- What `verifyQRCode` says to a code, in terms of what it was issued for and with which secrets. -/
def issuedVerdict (issuer verifier : Signer) (product : Product) (issued now : TimeValue) : VerificationResult :=
  if product.id.truthy = false then invalid (js "Invalid QR code: missing id")
  else if product.name = [] then invalid (js "Invalid QR code: missing name")
  else if product.manufacturer = [] then invalid (js "Invalid QR code: missing manufacturer")
  else if issued.milliseconds + maxQrAge < now.milliseconds then
    invalid (js "QR code has expired. Please request a new one.")
  else if now.milliseconds < issued.milliseconds then invalid (js "Invalid QR code timestamp")
  else if issuer.sign (productData product issued) = verifier.sign (productData product issued) then ⟨true, none⟩
  else invalid (js "Invalid signature - this QR code may be counterfeit")

section Age

variable {time now : TimeValue}

/-- For a code from after the epoch, both checks of the age are exact. -/
theorem age_expired (positive : 0 < time.milliseconds) :
    Floating.lt (.ofInt maxQrAge) (now.number.sub time.number) =
      decide (time.milliseconds + maxQrAge < now.milliseconds) := by
  have upper := now.bounded
  have maximum : maxQrAge.natAbs ≤ 2 ^ binary64.precision := TimeValue.bound_precision (by decide)
  have age : maxQrAge = 86400000 := rfl
  rw [TimeValue.number_sub]
  rcases lt_or_ge (now.milliseconds - time.milliseconds) 0 with future | past
  · rw [(Floating.ofInt_negative_lt future (by decide) maximum).2]
    exact (decide_eq_false (by omega)).symm
  · rw [Floating.ofInt_lt_ofInt maximum (TimeValue.bound_precision (by omega))]
    exact decide_eq_decide.mpr (by omega)

theorem age_future (positive : 0 < time.milliseconds) :
    (now.number.sub time.number).lt (.ofInt 0) = decide (now.milliseconds < time.milliseconds) := by
  have upper := now.bounded
  have zero : (0 : Int).natAbs ≤ 2 ^ binary64.precision := Nat.zero_le _
  rw [TimeValue.number_sub]
  rcases lt_or_ge (now.milliseconds - time.milliseconds) 0 with future | past
  · rw [(Floating.ofInt_negative_lt future le_rfl zero).1]
    exact (decide_eq_true (by omega)).symm
  · rw [Floating.ofInt_lt_ofInt (TimeValue.bound_precision (by omega)) zero]
    exact decide_eq_decide.mpr (by omega)

theorem number_injective (same : time.number = now.number) : time.milliseconds = now.milliseconds := by
  have left := TimeValue.bound_precision time.bounded
  have right := TimeValue.bound_precision now.bounded
  have below := Floating.ofInt_lt_ofInt (f := binary64) left right
  have above := Floating.ofInt_lt_ofInt (f := binary64) right left
  have self := Floating.ofInt_lt_ofInt (f := binary64) left left
  rw [TimeValue.number, TimeValue.number] at same
  rw [← same, self, decide_eq_decide] at below above
  omega

end Age

section Issued

variable {product : Product} {time : TimeValue}

theorem checkSignature_issued (issuer verifier : Signer) (carried : Carried product.id)
    (nonzero : time.milliseconds ≠ 0) :
    checkSignature verifier (signedData issuer product time).defined =
      if issuer.sign (productData product time) = verifier.sign (productData product time) then ⟨true, none⟩
      else invalid (js "Invalid signature - this QR code may be counterfeit") := by
  simp only [checkSignature, signature_get, sign_without issuer verifier carried nonzero]

/-- The whole verdict on a scanned code, message by message, for any two secrets and at any time. -/
theorem scanned_verdict (engine : Engine) {issuer : Signer} (verifier : Signer) (carried : Carried product.id)
    (positive : 0 < time.milliseconds) (nonempty : ∀ message, issuer.hmacSHA256 message issuer.signingSecret ≠ [])
    (now : TimeValue) :
    ∃ scanned, Json.parse (qrData issuer product time) = some scanned ∧
      verifyQRCode engine verifier now scanned = issuedVerdict issuer verifier product time now := by
  refine ⟨_, parse_qrData issuer carried positive.ne', ?_⟩
  have missing := @missingField_issued product time issuer positive.ne' nonempty
  unfold issuedVerdict
  by_cases id : product.id.truthy = false
  · rw [if_pos id] at missing ⊢
    simp only [verifyQRCode, missing]
    rfl
  rw [if_neg id] at missing ⊢
  by_cases name : product.name = []
  · rw [if_pos name] at missing ⊢
    simp only [verifyQRCode, missing]
    rfl
  rw [if_neg name] at missing ⊢
  by_cases maker : product.manufacturer = []
  · rw [if_pos maker] at missing ⊢
    simp only [verifyQRCode, missing]
    rfl
  rw [if_neg maker] at missing ⊢
  rw [verifyQRCode_complete missing (signedData_age ..), age_expired positive, age_future positive,
    checkSignature_issued issuer verifier carried positive.ne']
  simp only [decide_eq_true_eq]

end Issued

/-- The same code, verified under the secret that it was signed with and under another one. -/
theorem scanned_verdict_premiumHeadphones :
    (∃ scanned, Json.parse (qrData sampleSigner premiumHeadphones sampleTime) = some scanned ∧
      verifyQRCode sampleEngine sampleSigner sampleTime scanned = ⟨true, none⟩) ∧
    ∃ scanned, Json.parse (qrData sampleSigner premiumHeadphones sampleTime) = some scanned ∧
      verifyQRCode sampleEngine { sampleSigner with signingSecret := js "other" } sampleTime scanned =
        invalid (js "Invalid signature - this QR code may be counterfeit") := by
  have verdict (verifier : Signer) := @scanned_verdict premiumHeadphones sampleTime sampleEngine sampleSigner
    verifier (carried_string _) (by decide) sampleSigner_nonempty sampleTime
  have complete (verifier : Signer) : issuedVerdict sampleSigner verifier premiumHeadphones sampleTime sampleTime =
      if sampleSigner.sign (productData premiumHeadphones sampleTime) =
        verifier.sign (productData premiumHeadphones sampleTime) then ⟨true, none⟩
      else invalid (js "Invalid signature - this QR code may be counterfeit") := by
    have name : premiumHeadphones.name ≠ [] := js_ne_nil (by decide)
    have maker : premiumHeadphones.manufacturer ≠ [] := js_ne_nil (by decide)
    rw [issuedVerdict, if_neg (by decide), if_neg name, if_neg maker, if_neg (by decide), if_neg (by decide)]
  have different : sampleSigner.sign (productData premiumHeadphones sampleTime) ≠
      Signer.sign { sampleSigner with signingSecret := js "other" } (productData premiumHeadphones sampleTime) := by
    have foreign : js "other" ≠ js "secret" := by decide
    simp only [Signer.sign, sampleSigner, and_self, foreign, and_false, and_true, if_true, if_false]
    decide
  constructor
  · obtain ⟨scanned, parsed, result⟩ := verdict sampleSigner
    exact ⟨scanned, parsed, by rw [result, complete, if_pos rfl]⟩
  · obtain ⟨scanned, parsed, result⟩ := verdict { sampleSigner with signingSecret := js "other" }
    exact ⟨scanned, parsed, by rw [result, complete, if_neg different]⟩

theorem optional_injective {value other : Option JsString} (same : optional value = optional other) :
    value = other := by
  cases value <;> cases other <;> cases same <;> rfl

/-- What a code depends on. Two codes are the same text exactly if they agree in everything that the
signature covers and in the signature itself, so the date of registration and the status are in no code. -/
theorem qrData_eq_iff {signer other : Signer} {product copy : Product} {issued again : TimeValue}
    (carried : Carried product.id) (carriedCopy : Carried copy.id) (nonzero : issued.milliseconds ≠ 0)
    (nonzeroAgain : again.milliseconds ≠ 0) :
    qrData signer product issued = qrData other copy again ↔
      (product.id = copy.id ∧ product.name = copy.name ∧ product.manufacturer = copy.manufacturer ∧
        product.category = copy.category ∧ product.description = copy.description ∧ product.price = copy.price ∧
        product.batchNumber = copy.batchNumber ∧ product.expiryDate = copy.expiryDate ∧
        issued.milliseconds = again.milliseconds) ∧
      signer.sign (productData product issued) = other.sign (productData copy again) := by
  constructor
  · intro same
    have parsed := parse_qrData signer carried nonzero
    rw [same, parse_qrData other carriedCopy nonzeroAgain, Option.some.injEq, JsValue.object.injEq] at parsed
    have agree (i : Nat) {key : JsString} {value value' : JsValue}
        (left : (productData product issued)[i]? = some (key, value))
        (right : (productData copy again)[i]? = some (key, value')) : value = value' := by
      have read : (signedData signer product issued).defined.get key = value :=
        productData_get (List.mem_of_getElem? left)
      rw [← parsed] at read
      exact read.symm.trans (productData_get (List.mem_of_getElem? right))
    have signed : (JsValue.string (other.sign (productData copy again))) =
        .string (signer.sign (productData product issued)) := by
      rw [← signature_get, ← signature_get, parsed]
    exact ⟨⟨agree 0 rfl rfl, JsValue.string.inj (agree 1 rfl rfl), JsValue.string.inj (agree 2 rfl rfl),
      JsValue.string.inj (agree 3 rfl rfl), JsValue.string.inj (agree 4 rfl rfl), JsValue.string.inj (agree 5 rfl rfl),
      optional_injective (agree 6 rfl rfl), optional_injective (agree 7 rfl rfl),
      number_injective (JsValue.number.inj (agree 8 rfl rfl))⟩, (JsValue.string.inj signed).symm⟩
  · rintro ⟨⟨id, name, manufacturer, category, description, price, batchNumber, expiryDate, time⟩, signature⟩
    have data : productData product issued = productData copy again := by
      simp only [productData, TimeValue.number, id, name, manufacturer, category, description, price, batchNumber,
        expiryDate, time]
    rw [qrData, qrData, signedData_eq, signedData_eq, signature, data]

/-- A product that is withdrawn keeps its code. -/
theorem qrData_eq_withdrawn :
    qrData sampleSigner { premiumHeadphones with status := .inactive } sampleTime =
      qrData sampleSigner premiumHeadphones sampleTime :=
  (qrData_eq_iff (carried_string _) (carried_string _) (by decide) (by decide)).mpr
    ⟨⟨rfl, rfl, rfl, rfl, rfl, rfl, rfl, rfl, rfl⟩, rfl⟩

end TrueMark.Qr
