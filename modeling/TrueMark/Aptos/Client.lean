import TrueMark.Ecma.Convert

namespace TrueMark.Aptos
open Ecma

/-- The pattern that `validateContractAddress` demands of the configuration. -/
structure ContractAddress where
  digits : JsString
  length : digits.length = 64
  hexadecimal : ∀ c ∈ digits, (hexValue c).isSome = true

def ContractAddress.text (address : ContractAddress) : JsString := js "0x" ++ address.digits

/-- An address of the demanded form. -/
def sampleAddress : ContractAddress :=
  ⟨List.replicate 64 (digitUnit 1), rfl, fun _ member => List.eq_of_mem_replicate member ▸ rfl⟩

/-- How a call to the node settles. -/
inductive Reply
  | resolved (value : JsValue)
  | rejected (message : JsString)

structure ViewPayload where
  function : JsString
  arguments : List JsValue

/-- What a transaction calls, before it is signed and submitted. -/
structure EntryFunctionPayload where
  function : JsString
  arguments : List JsValue

end TrueMark.Aptos
