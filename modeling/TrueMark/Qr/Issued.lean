import TrueMark.Ecma.JsonData
import TrueMark.Qr.RoundTrip

namespace TrueMark.Qr
open Ecma

/-- A product that the verifier will not find incomplete. -/
structure Issuable (product : Product) : Prop where
  data : Json.IsData product.id
  identified : product.id.truthy = true
  named : product.name ≠ []
  made : product.manufacturer ≠ []

/-- The product with its id as texts carry it. -/
def written (product : Product) : Product := { product with id := Json.recovered product.id }

variable {product : Product} {time : TimeValue}

theorem objectText_recovered {key : JsString} {value : JsValue} (rest : Properties) (defined : value ≠ .undefined) :
    objectText ((key, Json.recovered value) :: rest) = objectText ((key, value) :: rest) := by
  obtain ⟨text, stringified⟩ := Json.stringify_defined defined
  have again := (Json.stringify_recovered value defined).trans stringified
  rw [objectText, objectText, Json.stringify, Json.stringify, Json.memberTexts_cons rest stringified,
    Json.memberTexts_cons rest again]

/-- The code of a product does not show what its id loses in the text. -/
theorem qrData_written (signer : Signer) (defined : product.id ≠ .undefined) (time : TimeValue) :
    qrData signer (written product) time = qrData signer product time := by
  have signed : signer.sign (productData (written product) time) = signer.sign (productData product time) := by
    rw [Signer.sign, Signer.sign]
    exact congrArg (signer.hmacSHA256 · signer.signingSecret) (objectText_recovered _ defined)
  rw [qrData, qrData, signedData_eq, signedData_eq, signed]
  exact objectText_recovered _ defined

theorem carried_written (data : Json.IsData product.id) : Carried (written product).id := by
  obtain ⟨wellFormed, kept⟩ := Json.recovered_recovered data.wellFormed data.defined
  exact ⟨wellFormed, kept⟩

/-- The code of an issuable product is accepted for a day, and carries the
product's id, up to the signs of zeros in it, its name and its manufacturer. -/
theorem qrData_accepted (engine : Engine) {signer : Signer} (issuable : Issuable product)
    (nonzero : time.milliseconds ≠ 0) (nonempty : ∀ message, signer.hmacSHA256 message signer.signingSecret ≠ []) :
    ∃ scanned : Properties, Json.parse (qrData signer product time) = some (.object scanned) ∧
      (∀ now : TimeValue, time.milliseconds ≤ now.milliseconds → now.milliseconds ≤ time.milliseconds + 86400000 →
        (verifyQRCode engine signer now (.object scanned)).isValid = true) ∧
      scanned.get (js "id") = Json.unsigned product.id ∧ scanned.get (js "name") = .string product.name ∧
      scanned.get (js "manufacturer") = .string product.manufacturer := by
  have carried := carried_written issuable.data
  have recovered := Json.recovered_data product.id issuable.data
  have identified : (written product).id.truthy = true := by
    rw [written, recovered, Json.truthy_unsigned]
    exact issuable.identified
  refine ⟨(signedData signer (written product) time).defined, ?_, fun now after before => ?_, ?_,
    productData_get (by simp [productData, written]), productData_get (by simp [productData, written])⟩
  · rw [← qrData_written signer issuable.data.defined time]
    exact parse_qrData signer carried nonzero
  · rw [verifyQRCode_issued engine now carried nonzero nonempty]
    exact ⟨⟨identified, issuable.named, issuable.made⟩, age_within after before⟩
  · rw [← recovered]
    exact productData_get (by simp [productData, written])

end TrueMark.Qr
