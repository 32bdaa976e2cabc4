import TrueMark.Ecma.JsonParse
import TrueMark.Qr.RoundTrip

namespace TrueMark.Qr
open Ecma

variable {product : Product} {time : TimeValue}

theorem optional_rigid (value : Option JsString) :
    (optional value).isUndefined = false → Json.Rigid (optional value) := by
  intro shown
  cases value with
  | none => cases shown
  | some text => exact Json.rigid_string text

/-- All that the dashboard signs behind the id can be recovered from nothing but itself. -/
theorem productData_tail_rigid (product : Product) (positive : 0 < time.milliseconds) :
    ∀ member ∈ Properties.defined (productData product time).tail, Json.Rigid member.2 := by
  have literal : ∀ member ∈ (productData product time).tail, member.2.isUndefined = false → Json.Rigid member.2 := by
    simp only [productData, List.tail_cons, List.forall_mem_cons, List.not_mem_nil, false_implies, implies_true,
      and_true]
    exact ⟨fun _ => Json.rigid_string _, fun _ => Json.rigid_string _, fun _ => Json.rigid_string _,
      fun _ => Json.rigid_string _, fun _ => Json.rigid_string _, optional_rigid _, optional_rigid _,
      fun _ => (TimeValue.number_nonzero positive.ne').2.1⟩
  intro member inside
  obtain ⟨present, shown⟩ := List.mem_filter.mp inside
  exact literal member present (by simpa using shown)

/-- The properties that a code with the signed text has, other than its signature. -/
theorem without_recovered {text : JsString} {scanned : Properties}
    (parsed : Json.parse text = some (.object scanned)) (wellFormed : Json.WellFormed product.id)
    (same : objectText (scanned.without (js "signature")) = objectText (productData product time)) :
    (∀ member ∈ scanned.without (js "signature"), member.2 ≠ .undefined) ∧
      Json.recoveredMembers (scanned.without (js "signature")) = Json.recoveredMembers (productData product time) := by
  obtain ⟨ordered, members⟩ := Json.parse_wellFormed parsed
  have rest : Json.WellFormed (.object (scanned.without (js "signature"))) :=
    ⟨ordered.sublist List.filter_sublist, Json.wellFormedMembers_iff.mpr fun member inside =>
      Json.wellFormedMembers_iff.mp members member (List.mem_filter.mp inside).1⟩
  have recovered := Json.recovered_eq_of_stringify rest (productData_wellFormed wellFormed time) (stringify_object _)
    (same ▸ stringify_object _)
  exact ⟨fun member inside => Json.parse_object_defined parsed member (List.mem_filter.mp inside).1,
    JsValue.object.inj recovered⟩

/-- A scanned object whose remaining properties have the signed text has the signed properties, with an id of the
same text. -/
theorem eq_productData_of_objectText {text : JsString} {scanned : Properties}
    (parsed : Json.parse text = some (.object scanned)) (wellFormed : Json.WellFormed product.id)
    (positive : 0 < time.milliseconds)
    (same : objectText (scanned.without (js "signature")) = objectText (productData product time)) :
    ∃ id, Json.stringify id = Json.stringify product.id ∧
      (Carried product.id → Json.Rigid product.id → id = product.id) ∧
      scanned.without (js "signature") = (productData { product with id } time).defined := by
  obtain ⟨defined, recovered⟩ := without_recovered parsed wellFormed same
  have tail := Json.recoveredMembers_defined (productData_tail_kept product positive.ne')
  have rigid := productData_tail_rigid product positive
  by_cases absent : product.id = .undefined
  · have hidden : (productData product time).defined = Properties.defined (productData product time).tail :=
      List.filter_cons_of_neg (by simp [absent, JsValue.isUndefined])
    have skipped : Json.recoveredMembers (productData product time) =
        Json.recoveredMembers (productData product time).tail := by
      rw [productData, absent]
      rfl
    refine ⟨product.id, rfl, fun _ _ => rfl, ?_⟩
    rw [skipped, tail] at recovered
    exact (Json.eq_of_recoveredMembers defined rigid recovered).trans hidden.symm
  · have kept : Json.recoveredMembers (productData product time) =
        (js "id", Json.recovered product.id) :: Properties.defined (productData product time).tail := by
      rw [← tail]
      exact Json.recoveredMembers_cons _ absent
    rw [kept] at recovered
    obtain ⟨id, others, equal, present, again, rest⟩ := Json.recoveredMembers_eq_cons defined recovered
    have behind : others = Properties.defined (productData product time).tail :=
      Json.eq_of_recoveredMembers (fun member inside => defined member
        (equal ▸ List.mem_cons_of_mem _ inside)) rigid rest
    have shown : id.isUndefined = false := by
      cases id with
      | undefined => exact absurd rfl present
      | _ => rfl
    refine ⟨id, ?_, fun carried rigidId => rigidId id (again.trans carried.kept), ?_⟩
    · rw [← Json.stringify_recovered id present, again, Json.stringify_recovered product.id absent]
    · rw [equal, behind]
      exact (List.filter_cons_of_pos (by simp [shown])).symm

/-- Whoever reuses an issued signature can only present the issued product data, whatever the text around it, and
only within the validity period. The id is the issued one up to its text, which is nothing to the ids that a text
shows completely. -/
theorem verifyQRCode_untampered (engine : Engine) {signer : Signer}
    (injective : ∀ message other, signer.hmacSHA256 message signer.signingSecret =
      signer.hmacSHA256 other signer.signingSecret → message = other)
    (wellFormed : Json.WellFormed product.id) (positive : 0 < time.milliseconds) {now : TimeValue} {text : JsString}
    {scanned : Properties} (parsed : Json.parse text = some (.object scanned))
    (reused : scanned.get (js "signature") = .string (signer.sign (productData product time)))
    (valid : (verifyQRCode engine signer now (.object scanned)).isValid = true) :
    (∃ id, Json.stringify id = Json.stringify product.id ∧
        (Carried product.id → Json.Rigid product.id → id = product.id) ∧
        scanned.without (js "signature") = (productData { product with id } time).defined) ∧
      time.milliseconds ≤ now.milliseconds ∧ now.milliseconds ≤ time.milliseconds + 86400000 := by
  obtain ⟨properties, timestamp, same, _, number, notOld, notFuture, signed⟩ := verifyQRCode_valid.mp valid
  obtain rfl := JsValue.object.inj same
  rw [reused] at signed
  have text := injective _ _ (JsValue.string.inj signed)
  obtain ⟨id, sameText, exact, data⟩ := eq_productData_of_objectText parsed wellFormed positive text.symm
  refine ⟨⟨id, sameText, exact, data⟩, (age_checks now positive).mp ?_⟩
  have read : scanned.get (js "timestamp") = .number time.number := get_of_without data (by simp [productData])
  rw [read, JsValue.toNumber, Option.some.injEq] at number
  rw [number]
  exact ⟨notOld, notFuture⟩

/-- The ids that the dashboard gives to new products, arrays of one text, are shown completely. -/
example (text : JsString) : Carried (.array [.string text]) ∧ Json.Rigid (.array [.string text]) := by
  refine ⟨⟨⟨trivial, trivial⟩, rfl⟩, Json.rigid_array fun item member => ?_⟩
  rw [List.mem_singleton.mp member]
  exact Json.rigid_string text

/-- The message of a digest of the sample function. -/
def sampleMessage (digest : JsString) : JsString :=
  if digest.head? = some 0x78 then digest.tail
  else if digest.head? = some 0x64 then objectText (productData premiumHeadphones sampleTime)
  else objectText (productData organicGreenTea sampleTime)

theorem sampleMessage_hmacSHA256 (message : JsString) :
    sampleMessage (sampleSigner.hmacSHA256 message sampleSigner.signingSecret) = message := by
  simp only [sampleSigner]
  split
  · rename_i known
    exact known.1.symm
  · split
    · rename_i known
      exact known.1.symm
    · split
      · rename_i known
        exact absurd known.2 (by decide)
      · rfl

theorem sampleSigner_injective (message other : JsString)
    (same : sampleSigner.hmacSHA256 message sampleSigner.signingSecret =
      sampleSigner.hmacSHA256 other sampleSigner.signingSecret) : message = other := by
  rw [← sampleMessage_hmacSHA256 message, same, sampleMessage_hmacSHA256]

theorem verifyQRCode_untampered_premiumHeadphones :
    (verifyQRCode sampleEngine sampleSigner ⟨1737763200000, by decide⟩
        (.object (signedData sampleSigner premiumHeadphones sampleTime).defined)).isValid = true ∧
      (signedData sampleSigner premiumHeadphones sampleTime).defined.without (js "signature") =
        (productData premiumHeadphones sampleTime).defined := by
  have valid := (@verifyQRCode_signedData premiumHeadphones (js "1") sampleTime sampleEngine sampleSigner
    ⟨1737763200000, by decide⟩ rfl (by decide) sampleSigner_nonempty).mpr (by decide)
  have parsed := @parse_qrData premiumHeadphones sampleTime sampleSigner (carried_string _) (by decide)
  obtain ⟨⟨id, _, exact, data⟩, _⟩ := @verifyQRCode_untampered premiumHeadphones sampleTime sampleEngine sampleSigner
    sampleSigner_injective trivial (by decide) _ _ _ parsed (signature_get ..) valid
  obtain rfl := exact (carried_string _) (Json.rigid_string _)
  exact ⟨valid, data⟩

end TrueMark.Qr
