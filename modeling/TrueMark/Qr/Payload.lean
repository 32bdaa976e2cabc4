import TrueMark.Ecma.Convert

namespace TrueMark.Qr
open Ecma

inductive ProductStatus
  | active
  | inactive
deriving DecidableEq

/-- A product of the dashboard's list. The id is declared a string, but a new
product's id is whatever the node answered, behind an unchecked cast. -/
structure Product where
  id : JsValue
  name : JsString
  manufacturer : JsString
  category : JsString
  description : JsString
  price : JsString
  dateRegistered : JsString
  status : ProductStatus
  batchNumber : Option JsString
  expiryDate : Option JsString

def premiumHeadphones : Product where
  id := .string (js "1")
  name := js "Premium Headphones"
  manufacturer := js "AudioTech Inc."
  category := js "Electronics"
  description := js "High-quality wireless headphones with noise cancellation"
  price := js "299.99"
  dateRegistered := js "2025-01-24"
  status := .active
  batchNumber := some (js "BATCH001")
  expiryDate := some (js "2027-01-24")

def organicGreenTea : Product where
  id := .string (js "2")
  name := js "Organic Green Tea"
  manufacturer := js "Natural Beverages Co."
  category := js "Food & Beverages"
  description := js "Premium organic green tea from selected estates"
  price := js "19.99"
  dateRegistered := js "2025-01-23"
  status := .active
  batchNumber := some (js "BATCH002")
  expiryDate := some (js "2026-01-23")

def initialProducts : List Product := [premiumHeadphones, organicGreenTea]

def optional : Option JsString → JsValue
  | some value => .string value
  | none => .undefined

/-- The object literal that `generateQRCode` signs. -/
def productData (product : Product) (time : TimeValue) : Properties :=
  [(js "id", product.id), (js "name", .string product.name), (js "manufacturer", .string product.manufacturer),
    (js "category", .string product.category), (js "description", .string product.description),
    (js "price", .string product.price), (js "batchNumber", optional product.batchNumber),
    (js "expiryDate", optional product.expiryDate), (js "timestamp", .number time.number)]

/-- `JSON.stringify` of an object, which always has a text. -/
def objectText (properties : Properties) : JsString := (Json.stringify (.object properties)).getD []

theorem stringify_object (properties : Properties) :
    Json.stringify (.object properties) = some (objectText properties) := rfl

/-- What the two apps share: the keyed hash of the library, as lower-case
hexadecimal text of a message and a secret, and the configured secret. -/
structure Signer where
  hmacSHA256 : JsString → JsString → JsString
  signingSecret : JsString

def Signer.sign (signer : Signer) (properties : Properties) : JsString :=
  signer.hmacSHA256 (objectText properties) signer.signingSecret

/-- The object with its signature, in the order of the spread literal. -/
def signedData (signer : Signer) (product : Product) (time : TimeValue) : Properties :=
  (productData product time).set (js "signature") (.string (signer.sign (productData product time)))

/-- The text that `generateQRCode` turns into an image. -/
def qrData (signer : Signer) (product : Product) (time : TimeValue) : JsString :=
  objectText (signedData signer product time)

def signedKeys : List JsString :=
  ["id", "name", "manufacturer", "category", "description", "price", "batchNumber", "expiryDate", "timestamp",
    "signature"].map js

theorem signedData_eq (signer : Signer) (product : Product) (time : TimeValue) :
    signedData signer product time =
      productData product time ++ [(js "signature", .string (signer.sign (productData product time)))] := by
  have fresh : js "signature" ∉ (productData product time).map Prod.fst := by
    change js "signature" ∉ signedKeys.take 9
    decide
  rw [signedData, Properties.set, if_neg fresh, arrayIndex_plain (c := 0x73) (by decide) (by decide)]

theorem signedData_keys (signer : Signer) (product : Product) (time : TimeValue) :
    (signedData signer product time).map Prod.fst = signedKeys := by
  rw [signedData_eq]
  rfl

theorem signedKeys_distinct : signedKeys.Nodup := by decide

theorem signedData_ordered (signer : Signer) (product : Product) (time : TimeValue) :
    (signedData signer product time).Ordered := by
  refine Properties.ordered_plain ?_ ?_
  · rw [signedData_keys]
    exact signedKeys_distinct
  · rw [signedData_keys]
    decide

theorem productData_ordered (product : Product) (time : TimeValue) : (productData product time).Ordered :=
  (signedData_ordered ⟨fun _ _ => [], []⟩ product time).sublist
    (by rw [signedData_eq]; exact List.sublist_append_left ..)

end TrueMark.Qr
