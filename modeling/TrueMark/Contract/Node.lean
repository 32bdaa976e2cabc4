import TrueMark.Aptos.Client
import TrueMark.Contract.Registry

namespace TrueMark.Contract
open Ecma Aptos Move

/-- The part before the first pair of colons, and the part behind it. -/
def splitColons : JsString → Option (JsString × JsString)
  | c :: d :: rest =>
    if c = Json.colon ∧ d = Json.colon then some ([], rest)
    else (splitColons (d :: rest)).map fun (front, back) => (c :: front, back)
  | _ => none

/-- The name of a function, `address::module::function`. -/
structure MemberId where
  address : JsString
  moduleName : JsString
  functionName : JsString

def memberId (text : JsString) : Option MemberId := do
  let (address, rest) ← splitColons text
  let (moduleName, functionName) ← splitColons rest
  return ⟨address, moduleName, functionName⟩

def parseAddress : JsString → Option Address
  | zero :: x :: digits =>
    if [zero, x] = js "0x" ∧ digits ≠ [] ∧ digits.length ≤ 64 ∧ digits.all fun c => (hexValue c).isSome then
      some (BitVec.ofNat 256 (radixValue 16 digits))
    else none
  | _ => none

def addressArgument : JsValue → Option Address
  | .string text => parseAddress text
  | _ => none

def stringArgument : JsValue → Option String
  | .string text => (decodeUtf16 text).map String.ofList
  | _ => none

/-- A node that serves a state in which the module is published at one
address. Its messages are its own. -/
structure Node where
  published : Address
  state : GlobalState
  rejection : ViewPayload → JsString

/-- The view calls that the node answers: `verify_product` is the only view
function of the module, and takes an address and a string. -/
def Node.view (node : Node) (payload : ViewPayload) : Reply :=
  let answer : Option Reply := do
    let member ← memberId payload.function
    let address ← parseAddress member.address
    if address = node.published ∧ member.moduleName = js "registry" ∧ member.functionName = js "verify_product" then
      match payload.arguments with
      | [registryAddr, productId] =>
        match verifyProduct node.state (← addressArgument registryAddr) (← stringArgument productId) with
        | .ok isAuthentic => some (.resolved (.array [.boolean isAuthentic]))
        | .error _ => none
      | _ => none
    else none
  answer.getD (.rejected (node.rejection payload))

theorem splitColons_skip {c : CodeUnit} (other : c ≠ Json.colon) (rest : JsString) :
    splitColons (c :: rest) = (splitColons rest).map fun (front, back) => (c :: front, back) := by
  cases rest with
  | nil => rfl
  | cons d rest => rw [splitColons, if_neg fun both => other both.1]

theorem splitColons_append {front : JsString} (plain : Json.colon ∉ front) (back : JsString) :
    splitColons (front ++ js "::" ++ back) = some (front, back) := by
  induction front with
  | nil => rfl
  | cons c front ih =>
    obtain ⟨other, rest⟩ := not_or.mp (List.mem_cons.not.mp plain)
    rw [List.cons_append, List.cons_append, splitColons_skip (Ne.symm other), ih rest]
    rfl

theorem memberId_append {address moduleName : JsString} (plainAddress : Json.colon ∉ address)
    (plainModule : Json.colon ∉ moduleName) (functionName : JsString) :
    memberId (address ++ js "::" ++ (moduleName ++ js "::" ++ functionName)) =
      some ⟨address, moduleName, functionName⟩ := by
  simp only [memberId, splitColons_append plainAddress, splitColons_append plainModule, Option.bind_eq_bind,
    Option.bind_some, Option.pure_def]

section Configured

variable (address : ContractAddress)

def configuredAddress : Address := BitVec.ofNat 256 (radixValue 16 address.digits)

theorem parseAddress_text : parseAddress address.text = some (configuredAddress address) := by
  have length := address.length
  have nonempty : address.digits ≠ [] := by
    intro empty
    rw [empty] at length
    cases length
  have bounded : address.digits.length ≤ 64 := by omega
  exact if_pos ⟨rfl, nonempty, bounded, List.all_eq_true.mpr address.hexadecimal⟩

theorem colon_notMem_text : Json.colon ∉ address.text := by
  intro member
  rcases List.mem_append.mp member with start | digit
  · revert start
    decide
  · exact absurd (address.hexadecimal Json.colon digit) (by decide)

/-- What the module offers: the scan of the contract, on the served state. -/
theorem Node.view_verifyProduct {node : Node} (published : node.published = configuredAddress address)
    {payload : ViewPayload} {productId : String} {isAuthentic : Bool}
    (function : payload.function = address.text ++ js "::registry::verify_product")
    (arguments : payload.arguments = [.string address.text, .string (js productId)])
    (answer : verifyProduct node.state (configuredAddress address) productId = .ok isAuthentic) :
    node.view payload = .resolved (.array [.boolean isAuthentic]) := by
  have member : memberId payload.function = some ⟨address.text, js "registry", js "verify_product"⟩ := by
    have split := memberId_append (colon_notMem_text address) (show Json.colon ∉ js "registry" by decide)
      (js "verify_product")
    rw [List.append_assoc] at split
    rw [function]
    exact split
  simp only [Node.view, member, parseAddress_text, published, arguments, addressArgument, stringArgument,
    decodeUtf16_js, Option.bind_eq_bind, Option.bind_some, Option.map_some, String.ofList_toList, answer, and_self,
    if_true, Option.getD_some]

/-- No other name is answered. -/
theorem Node.view_unpublished {node : Node} {payload : ViewPayload} {moduleName functionName : JsString}
    (function : payload.function = address.text ++ js "::" ++ (moduleName ++ js "::" ++ functionName))
    (plain : Json.colon ∉ moduleName) (other : moduleName ≠ js "registry" ∨ functionName ≠ js "verify_product") :
    node.view payload = .rejected (node.rejection payload) := by
  have member := memberId_append (colon_notMem_text address) plain functionName
  have unknown : ¬(configuredAddress address = node.published ∧ moduleName = js "registry" ∧
      functionName = js "verify_product") := by tauto
  simp only [Node.view, function, member, parseAddress_text, Option.bind_eq_bind, Option.bind_some, if_neg unknown,
    Option.getD_none]

end Configured

end TrueMark.Contract
