import TrueMark.Qr.Verify

namespace TrueMark.Qr
open Ecma

/-- A value that comes back from its text as it was, as an id has to. -/
structure Carried (value : JsValue) : Prop where
  wellFormed : Json.WellFormed value
  kept : Json.recovered value = value

theorem carried_string (text : JsString) : Carried (.string text) := ⟨trivial, rfl⟩

/- Products whose id is carried by texts, signed at another time than the epoch. -/
variable {product : Product} {id : JsString} {time : TimeValue}

theorem optional_kept (value : Option JsString) :
    (optional value).isUndefined = true ∨ Json.recovered (optional value) = optional value := by
  cases value with
  | none => exact Or.inl rfl
  | some text => exact Or.inr rfl

/-- Behind the id, the text of the signed data keeps every value that is defined. -/
theorem productData_tail_kept (product : Product) (nonzero : time.milliseconds ≠ 0) :
    ∀ member ∈ (productData product time).tail, member.2.isUndefined = true ∨ Json.recovered member.2 = member.2 := by
  simp only [productData, List.tail_cons, List.forall_mem_cons, List.not_mem_nil, false_implies, implies_true,
    and_true]
  exact ⟨.inr rfl, .inr rfl, .inr rfl, .inr rfl, .inr rfl, optional_kept _, optional_kept _,
    .inr (TimeValue.number_nonzero nonzero).1⟩

theorem productData_kept (carried : Carried product.id) (nonzero : time.milliseconds ≠ 0) :
    ∀ member ∈ productData product time, member.2.isUndefined = true ∨ Json.recovered member.2 = member.2 :=
  List.forall_mem_cons.mpr ⟨.inr carried.kept, productData_tail_kept product nonzero⟩

theorem optional_wellFormed (value : Option JsString) : Json.WellFormed (optional value) := by
  cases value with
  | none => trivial
  | some text => trivial

theorem productData_wellFormed (wellFormed : Json.WellFormed product.id) (time : TimeValue) :
    Json.WellFormed (.object (productData product time)) := by
  refine ⟨productData_ordered product time, wellFormed, ?_⟩
  simp [Json.WellFormedMembers, Json.WellFormed, optional_wellFormed]

theorem signedData_wellFormed (signer : Signer) (carried : Carried product.id) (time : TimeValue) :
    Json.WellFormed (.object (signedData signer product time)) := by
  refine ⟨signedData_ordered signer product time, ?_⟩
  rw [signedData_eq]
  refine ⟨carried.wellFormed, ?_⟩
  simp [Json.WellFormedMembers, Json.WellFormed, optional_wellFormed]

/-- The scanner recovers exactly the defined properties of the signed object. -/
theorem parse_qrData (signer : Signer) (carried : Carried product.id) (nonzero : time.milliseconds ≠ 0) :
    Json.parse (qrData signer product time) = some (.object (signedData signer product time).defined) := by
  rw [qrData, Json.parse_stringify (signedData_wellFormed signer carried time) (stringify_object _), Json.recovered,
    Json.recoveredMembers_defined]
  rw [signedData_eq]
  intro member inside
  rcases List.mem_append.mp inside with old | new
  · exact productData_kept carried nonzero member old
  · rw [List.mem_singleton] at new
    exact Or.inr (by rw [new]; rfl)

theorem productData_unsigned : ∀ property ∈ productData product time, property.1 ≠ js "signature" := by
  intro property member same
  have key : property.1 ∈ signedKeys.take 9 := List.mem_map_of_mem member
  rw [same] at key
  revert key
  decide

/-- Taking the signature away again leaves what was signed. -/
theorem signedData_without (signer : Signer) (product : Product) (time : TimeValue) :
    (signedData signer product time).defined.without (js "signature") = (productData product time).defined := by
  have others : ∀ property ∈ (productData product time).defined, property.1 ≠ js "signature" :=
    fun property member => productData_unsigned property (List.mem_filter.mp member).1
  rw [signedData_eq, Properties.defined, List.filter_append, ← Properties.defined, Properties.without,
    List.filter_append, List.filter_eq_self.mpr (by simpa using others)]
  simp [JsValue.isUndefined]

/-- The re-serialised object has the signed text, byte for byte. -/
theorem objectText_defined (carried : Carried product.id) (nonzero : time.milliseconds ≠ 0) :
    objectText (productData product time).defined = objectText (productData product time) := by
  have same := Json.stringify_recovered (.object (productData product time)) nofun
  rw [Json.recovered, Json.recoveredMembers_defined (productData_kept carried nonzero)] at same
  exact congrArg (Option.getD · []) same

/-- An object that has the signed properties next to its signature reads as what was signed. -/
theorem get_of_without {scanned : Properties}
    (data : scanned.without (js "signature") = (productData product time).defined) {key : JsString} {value : JsValue}
    (member : (key, value) ∈ productData product time) : scanned.get key = value := by
  have distinct : ((productData product time).map Prod.fst).Nodup := by
    change (signedKeys.take 9).Nodup
    exact signedKeys_distinct.sublist (List.take_sublist ..)
  rw [← Properties.get_without (productData_unsigned _ member), data, Properties.get_defined distinct]
  exact Properties.get_of_mem distinct member

theorem productData_get {signer : Signer} {key : JsString} {value : JsValue}
    (member : (key, value) ∈ productData product time) : (signedData signer product time).defined.get key = value :=
  get_of_without (signedData_without signer product time) member

theorem signature_get (signer : Signer) (product : Product) (time : TimeValue) :
    (signedData signer product time).defined.get (js "signature") =
      .string (signer.sign (productData product time)) := by
  have distinct : ((signedData signer product time).map Prod.fst).Nodup := by
    rw [signedData_keys]
    exact signedKeys_distinct
  rw [Properties.get_defined distinct]
  refine Properties.get_of_mem distinct ?_
  rw [signedData_eq]
  exact List.mem_append_right _ List.mem_cons_self

section Read

variable (signer : Signer) (product : Product) (time : TimeValue)

theorem signedData_id : (signedData signer product time).defined.get (js "id") = product.id :=
  productData_get (by simp [productData])

theorem signedData_name : (signedData signer product time).defined.get (js "name") = .string product.name :=
  productData_get (by simp [productData])

theorem signedData_manufacturer :
    (signedData signer product time).defined.get (js "manufacturer") = .string product.manufacturer :=
  productData_get (by simp [productData])

theorem signedData_timestamp :
    (signedData signer product time).defined.get (js "timestamp") = .number time.number :=
  productData_get (by simp [productData])

theorem signedData_age :
    ((signedData signer product time).defined.get (js "timestamp")).toNumber = some time.number := by
  rw [signedData_timestamp, JsValue.toNumber]

end Read

/-- The verifier signs what was signed, also under a secret of its own. -/
theorem sign_without (issuer verifier : Signer) (carried : Carried product.id) (nonzero : time.milliseconds ≠ 0) :
    verifier.sign ((signedData issuer product time).defined.without (js "signature")) =
      verifier.sign (productData product time) := by
  rw [signedData_without, Signer.sign, Signer.sign, objectText_defined carried nonzero]

/-- The first of the required fields that an issued code lacks. -/
theorem missingField_issued {signer : Signer} (nonzero : time.milliseconds ≠ 0)
    (nonempty : ∀ message, signer.hmacSHA256 message signer.signingSecret ≠ []) :
    missingField (.object (signedData signer product time).defined) requiredFields = some
      (if product.id.truthy = false then some (js "id") else if product.name = [] then some (js "name")
        else if product.manufacturer = [] then some (js "manufacturer") else none) := by
  have signature : (JsValue.string (signer.sign (productData product time))).truthy = true := by
    simpa [JsValue.truthy, Signer.sign] using nonempty _
  have text (value : JsString) : (JsValue.string value).truthy = !decide (value = []) := by
    cases value <;> rfl
  rw [missingField_object]
  simp only [requiredFields, List.map_cons, List.map_nil, List.find?_cons, List.find?_nil, signedData_id,
    signedData_name, signedData_manufacturer, signedData_timestamp, signature_get, signature, text,
    (TimeValue.number_nonzero nonzero).2.2]
  cases product.id.truthy <;> by_cases name : product.name = [] <;> by_cases maker : product.manufacturer = [] <;>
    simp [name, maker]

/-- What is issued carries all required fields, unless the product itself lacks one. -/
theorem signedData_required {signer : Signer} (nonzero : time.milliseconds ≠ 0)
    (nonempty : ∀ message, signer.hmacSHA256 message signer.signingSecret ≠ []) :
    (∀ field ∈ requiredFields, ((signedData signer product time).defined.get field).truthy = true) ↔
      product.id.truthy = true ∧ product.name ≠ [] ∧ product.manufacturer ≠ [] := by
  rw [← missingField_complete, missingField_issued nonzero nonempty]
  cases product.id.truthy <;> by_cases name : product.name = [] <;> by_cases maker : product.manufacturer = [] <;>
    simp [name, maker]

/-- What is issued is accepted if it is complete, as long as its age passes. -/
theorem verifyQRCode_issued (engine : Engine) {signer : Signer} (now : TimeValue) (carried : Carried product.id)
    (nonzero : time.milliseconds ≠ 0) (nonempty : ∀ message, signer.hmacSHA256 message signer.signingSecret ≠ []) :
    (verifyQRCode engine signer now (.object (signedData signer product time).defined)).isValid = true ↔
      (product.id.truthy = true ∧ product.name ≠ [] ∧ product.manufacturer ≠ []) ∧
        Floating.lt (.ofInt maxQrAge) (now.number.sub time.number) = false ∧
        (now.number.sub time.number).lt (.ofInt 0) = false := by
  rw [verifyQRCode_valid, ← signedData_required nonzero nonempty]
  constructor
  · rintro ⟨properties, number, same, truthy, read, notOld, notFuture, _⟩
    obtain rfl := JsValue.object.inj same
    rw [signedData_age, Option.some.injEq] at read
    rw [← read] at notOld notFuture
    exact ⟨truthy, notOld, notFuture⟩
  · rintro ⟨truthy, notOld, notFuture⟩
    exact ⟨_, time.number, rfl, truthy, signedData_age .., notOld, notFuture,
      by rw [signature_get, sign_without signer signer carried nonzero]⟩

theorem verifyQRCode_signedData (engine : Engine) {signer : Signer} (now : TimeValue)
    (named : product.id = .string id) (positive : 0 < time.milliseconds)
    (nonempty : ∀ message, signer.hmacSHA256 message signer.signingSecret ≠ []) :
    (verifyQRCode engine signer now (.object (signedData signer product time).defined)).isValid = true ↔
      (id ≠ [] ∧ product.name ≠ [] ∧ product.manufacturer ≠ []) ∧
        time.milliseconds ≤ now.milliseconds ∧ now.milliseconds ≤ time.milliseconds + maxQrAge := by
  have truthy : product.id.truthy = true ↔ id ≠ [] := by simp [named, JsValue.truthy]
  rw [verifyQRCode_issued engine now (named ▸ carried_string id) positive.ne' nonempty, age_checks now positive, truthy]

/-- Scanning what the dashboard issued: accepted for one day, provided that
the required fields are not empty, and read back as it was issued. -/
theorem verifyQRCode_qrData (engine : Engine) (signer : Signer) (now : TimeValue) (named : product.id = .string id)
    (positive : 0 < time.milliseconds) (nonempty : ∀ message, signer.hmacSHA256 message signer.signingSecret ≠ []) :
    ∃ scanned : Properties, Json.parse (qrData signer product time) = some (.object scanned) ∧
      ((verifyQRCode engine signer now (.object scanned)).isValid = true ↔
        (id ≠ [] ∧ product.name ≠ [] ∧ product.manufacturer ≠ []) ∧
          time.milliseconds ≤ now.milliseconds ∧ now.milliseconds ≤ time.milliseconds + 86400000) ∧
      scanned.get (js "id") = .string id ∧ scanned.get (js "name") = .string product.name ∧
      scanned.get (js "manufacturer") = .string product.manufacturer ∧
      scanned.get (js "timestamp") = .number time.number :=
  ⟨_, parse_qrData signer (named ▸ carried_string id) positive.ne',
    verifyQRCode_signedData engine now named positive nonempty, by rw [signedData_id, named], signedData_name ..,
    signedData_manufacturer .., signedData_timestamp ..⟩

def sampleTime : TimeValue := ⟨1737676800000, by decide⟩

/-- The keyed hash of the data of the initial products, issued at the sample time, and of the first one under
another secret as well. On other messages it is some function without collisions. -/
def sampleSigner : Signer where
  hmacSHA256 message secret :=
    if message = objectText (productData premiumHeadphones sampleTime) ∧ secret = js "secret" then
      js "d82bce995f1bc10a3d8496416fd44aacd05cc8549982d72a2da68482474399f2"
    else if message = objectText (productData organicGreenTea sampleTime) ∧ secret = js "secret" then
      js "aa5b0c1e8bd46a84b6b592c4c26a4cf02346ad9f3fd68f5e3ff5ce8b356a64a3"
    else if message = objectText (productData premiumHeadphones sampleTime) ∧ secret = js "other" then
      js "ae7e1284dd91f32cc6f811b21f14e121f41cd03f505ca05f615114def878d0eb"
    else 0x78 :: message
  signingSecret := js "secret"

theorem sampleSigner_nonempty (message : JsString) :
    sampleSigner.hmacSHA256 message sampleSigner.signingSecret ≠ [] := by
  simp only [sampleSigner]
  split
  · decide
  · split
    · decide
    · split
      · decide
      · exact List.cons_ne_nil _ _

def sampleEngine : Engine where
  nullMessage := js "Cannot read properties of null (reading 'id')"
  primitiveMessage := js "Cannot convert object to primitive value"
  syntaxMessage _ := js "Unexpected end of JSON input"
  syntaxMessage_nonempty _ := by decide

theorem verifyQRCode_premiumHeadphones :
    ∃ scanned : Properties, Json.parse (qrData sampleSigner premiumHeadphones sampleTime) = some (.object scanned) ∧
      (verifyQRCode sampleEngine sampleSigner ⟨1737763200000, by decide⟩ (.object scanned)).isValid = true := by
  obtain ⟨scanned, parsed, valid, _⟩ := @verifyQRCode_qrData premiumHeadphones (js "1") sampleTime sampleEngine
    sampleSigner ⟨1737763200000, by decide⟩ rfl (by decide) sampleSigner_nonempty
  exact ⟨scanned, parsed, valid.mpr (by decide)⟩

end TrueMark.Qr
