import TrueMark.Qr.Payload

namespace TrueMark.Qr
open Ecma

/-- The messages of the engine's own errors. The language leaves their wording open. -/
structure Engine where
  nullMessage : JsString
  primitiveMessage : JsString
  syntaxMessage : JsString → JsString
  syntaxMessage_nonempty : ∀ text, syntaxMessage text ≠ []

structure VerificationResult where
  isValid : Bool
  error : Option JsString

def maxQrAge : Int := 24 * 60 * 60 * 1000

def requiredFields : List JsString := ["id", "name", "manufacturer", "timestamp", "signature"].map js

/-- The validation loop: the first required field that is missing or falsy,
or no value when reading a field throws. -/
def missingField (qrData : JsValue) : List JsString → Option (Option JsString)
  | [] => some none
  | field :: rest =>
    match qrData.getField field with
    | none => none
    | some value => if value.truthy then missingField qrData rest else some (some field)

def invalid (error : JsString) : VerificationResult := ⟨false, some error⟩

/-- The handler of `verifyQRCode`. All that its body throws are `TypeError`s. -/
def thrown (message : JsString) : VerificationResult := invalid (js "Error verifying QR code: " ++ message)

/-- The own properties of a destructured value. A truthy value that is no object of the text has none with a name. -/
def ownProperties : JsValue → Properties
  | .object properties => properties
  | _ => []

/-- The last check of `verifyQRCode`, the only one that can accept. -/
def checkSignature (signer : Signer) (properties : Properties) : VerificationResult :=
  let dataWithoutSignature := properties.without (js "signature")
  let expectedSignature := signer.sign dataWithoutSignature
  match properties.get (js "signature") with
  | .string signature =>
    if signature = expectedSignature then ⟨true, none⟩
    else invalid (js "Invalid signature - this QR code may be counterfeit")
  | _ => invalid (js "Invalid signature - this QR code may be counterfeit")

def verifyQRCode (engine : Engine) (signer : Signer) (now : TimeValue) (qrData : JsValue) : VerificationResult :=
  match missingField qrData requiredFields with
  | none => thrown engine.nullMessage
  | some (some field) => invalid (js "Invalid QR code: missing " ++ field)
  | some none =>
    let properties := ownProperties qrData
    match (properties.get (js "timestamp")).toNumber with
    | none => thrown engine.primitiveMessage
    | some timestamp =>
      let age := now.number.sub timestamp
      if Floating.lt (.ofInt maxQrAge) age then invalid (js "QR code has expired. Please request a new one.")
      else if age.lt (.ofInt 0) then invalid (js "Invalid QR code timestamp")
      else checkSignature signer properties

theorem missingField_object (properties : Properties) (fields : List JsString) :
    missingField (.object properties) fields = some (fields.find? fun field => !(properties.get field).truthy) := by
  induction fields with
  | nil => rfl
  | cons field rest ih =>
    simp only [missingField, JsValue.getField, List.find?_cons]
    cases (properties.get field).truthy with
    | true => simpa using ih
    | false => rfl

theorem missingField_complete {properties : Properties} {fields : List JsString} :
    missingField (.object properties) fields = some none ↔ ∀ field ∈ fields, (properties.get field).truthy = true := by
  rw [missingField_object, Option.some.injEq, List.find?_eq_none]
  simp

/-- Only objects get past the required fields. -/
theorem missingField_none {qrData : JsValue} (complete : missingField qrData requiredFields = some none) :
    ∃ properties : Properties, qrData = .object properties ∧
      ∀ field ∈ requiredFields, (properties.get field).truthy = true := by
  cases qrData with
  | object properties => exact ⟨properties, rfl, missingField_complete.mp complete⟩
  | _ => cases complete

/-- An exact age passes both comparisons within the validity period. -/
theorem age_exact {age : Int} (past : 0 ≤ age) (exact : age.natAbs ≤ 2 ^ binary64.precision) :
    (Floating.lt (.ofInt maxQrAge) (.ofInt age : Number) = false ∧
        (Floating.ofInt age : Number).lt (.ofInt 0) = false) ↔
      age ≤ maxQrAge := by
  have maximum : maxQrAge.natAbs ≤ 2 ^ binary64.precision := TimeValue.bound_precision (by decide)
  have zero : (0 : Int).natAbs ≤ 2 ^ binary64.precision := Nat.zero_le _
  rw [Floating.ofInt_lt_ofInt maximum exact, Floating.ofInt_lt_ofInt exact zero]
  simp only [decide_eq_false_iff_not]
  omega

/-- An age in whole milliseconds passes both comparisons exactly within the validity period. -/
theorem age_checks {time : TimeValue} (now : TimeValue) (positive : 0 < time.milliseconds) :
    (Floating.lt (.ofInt maxQrAge) (now.number.sub time.number) = false ∧
        (now.number.sub time.number).lt (.ofInt 0) = false) ↔
      time.milliseconds ≤ now.milliseconds ∧ now.milliseconds ≤ time.milliseconds + maxQrAge := by
  have upper := now.bounded
  rw [TimeValue.number_sub]
  rcases lt_or_ge (now.milliseconds - time.milliseconds) 0 with future | past
  · rw [(Floating.ofInt_negative_lt future le_rfl (Nat.zero_le _)).1]
    simp only [Bool.true_eq_false, and_false, false_iff]
    omega
  · rw [age_exact past (TimeValue.bound_precision (by omega))]
    omega

/-- Within the validity period the age is exact, whatever the time of issue. -/
theorem age_within {time now : TimeValue} (after : time.milliseconds ≤ now.milliseconds)
    (before : now.milliseconds ≤ time.milliseconds + maxQrAge) :
    Floating.lt (.ofInt maxQrAge) (now.number.sub time.number) = false ∧
      (now.number.sub time.number).lt (.ofInt 0) = false := by
  have maximum : maxQrAge = 86400000 := rfl
  rw [TimeValue.number_sub, age_exact (by omega) (TimeValue.bound_precision (by omega))]
  omega

theorem checkSignature_valid {signer : Signer} {properties : Properties} :
    (checkSignature signer properties).isValid = true ↔
      properties.get (js "signature") = .string (signer.sign (properties.without (js "signature"))) := by
  unfold checkSignature
  split
  · rename_i signature read
    rw [read, JsValue.string.injEq]
    dsimp only
    split
    · rename_i same
      exact iff_of_true rfl same
    · rename_i other
      exact iff_of_false Bool.false_ne_true other
  · rename_i other
    exact iff_of_false Bool.false_ne_true fun read => other _ read

/-- Acceptance, check by check. -/
theorem verifyQRCode_valid {engine : Engine} {signer : Signer} {now : TimeValue} {qrData : JsValue} :
    (verifyQRCode engine signer now qrData).isValid = true ↔
      ∃ (properties : Properties) (timestamp : Number), qrData = .object properties ∧
        (∀ field ∈ requiredFields, (properties.get field).truthy = true) ∧
        (properties.get (js "timestamp")).toNumber = some timestamp ∧
        Floating.lt (.ofInt maxQrAge) (now.number.sub timestamp) = false ∧
        (now.number.sub timestamp).lt (.ofInt 0) = false ∧
        properties.get (js "signature") = .string (signer.sign (properties.without (js "signature"))) := by
  constructor
  · intro valid
    unfold verifyQRCode at valid
    split at valid
    · cases valid
    · cases valid
    · rename_i complete
      obtain ⟨properties, rfl, truthy⟩ := missingField_none complete
      dsimp only [ownProperties] at valid
      split at valid
      · cases valid
      · rename_i timestamp number
        split at valid
        · cases valid
        · rename_i young
          split at valid
          · cases valid
          · rename_i past
            exact ⟨properties, timestamp, rfl, truthy, number, by simpa using young, by simpa using past,
              checkSignature_valid.mp valid⟩
  · rintro ⟨properties, timestamp, rfl, truthy, number, young, past, signed⟩
    have complete : missingField (.object properties) requiredFields = some none := missingField_complete.mpr truthy
    simp only [verifyQRCode, complete, ownProperties, number, young, past, Bool.false_eq_true, if_false]
    exact checkSignature_valid.mpr signed

end TrueMark.Qr
