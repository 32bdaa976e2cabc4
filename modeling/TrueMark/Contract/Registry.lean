import TrueMark.Move.Storage

namespace TrueMark.Contract
open Move

/-- Declared by the module and raised by none of its functions. -/
def eProductExists : Nat := 2

structure Product where
  id : String
  name : String
  manufacturer : Address
  timestamp : UInt64
  isAuthentic : Bool
deriving DecidableEq

structure ProductRegistry where
  products : Vec Product

abbrev GlobalState := Storage ProductRegistry

def initRegistry (state : GlobalState) (account : Address) : Except Status GlobalState :=
  let registry : ProductRegistry := { products := .empty }
  state.moveTo account registry

/-- The clock value is what `timestamp::now_seconds` returns during the call. -/
def registerProduct (state : GlobalState) (account : Address) (id name : String) (nowSeconds : UInt64) :
    Except Status GlobalState := do
  let accountAddr := account
  let registry ← state.borrowGlobal accountAddr
  let product : Product := { id, name, manufacturer := accountAddr, timestamp := nowSeconds, isAuthentic := true }
  let products ← registry.products.pushBack product
  return state.write accountAddr { registry with products }

/-- The `while` loop of `verify_product`, with its early return. -/
def verifyLoop (products : Vec Product) (productId : String) (len i : Nat) : Except Status Bool :=
  if _inside : i < len then
    match products.borrow i with
    | .error status => .error status
    | .ok product =>
      if product.id = productId then .ok product.isAuthentic
      else
        match _step : addU64 i 1 with
        | .error status => .error status
        | .ok next => verifyLoop products productId len next
  else .ok false
termination_by len - i
decreasing_by
  have next := addU64_ok _step
  omega

def verifyProduct (state : GlobalState) (registryAddr : Address) (productId : String) : Except Status Bool := do
  let registry ← state.borrowGlobal registryAddr
  verifyLoop registry.products productId registry.products.length 0

/-- The answer of the scan, as a function of the stored list: the flag of the first entry with the id. -/
def firstMatch (products : List Product) (productId : String) : Bool :=
  ((products.find? (·.id = productId)).map Product.isAuthentic).getD false

/-- The loop reads no element out of range and never overflows its counter. -/
theorem verifyLoop_eq (products : Vec Product) (productId : String) {i : Nat} (inside : i ≤ products.length) :
    verifyLoop products productId products.length i = .ok (firstMatch (products.items.drop i) productId) := by
  obtain ⟨remaining, total⟩ : ∃ remaining, remaining + i = products.length := ⟨products.length - i, by omega⟩
  induction remaining generalizing i with
  | zero =>
    have done : products.items.drop i = [] := List.drop_eq_nil_of_le (by rw [Vec.length] at total; omega)
    rw [verifyLoop, dif_neg (by omega), done]
    rfl
  | succ remaining ih =>
    have within : i < products.items.length := by rw [Vec.length] at total; omega
    have bounded := products.bounded
    have added : addU64 i 1 = .ok (i + 1) := by rw [addU64, if_pos (by omega)]
    have rest := ih (i := i + 1) (by omega) (by omega)
    rw [verifyLoop, dif_pos (by omega), List.drop_eq_getElem_cons within]
    simp only [Vec.borrow, List.getElem?_eq_getElem within]
    unfold firstMatch at rest ⊢
    rw [List.find?_cons]
    by_cases found : (products.items[i]).id = productId
    · simp [found]
    · simp only [if_neg found, decide_eq_false found]
      split
      · rename_i status failed
        rw [added] at failed
        cases failed
      · rename_i next step
        rw [added] at step
        cases step
        exact rest

theorem verifyProduct_absent {state : GlobalState} {address : Address} (productId : String)
    (absent : state address = none) : verifyProduct state address productId = .error .missingData := by
  simp only [verifyProduct, Storage.borrowGlobal, absent]
  rfl

theorem verifyProduct_present {state : GlobalState} {address : Address} {registry : ProductRegistry}
    (productId : String) (present : state address = some registry) :
    verifyProduct state address productId = .ok (firstMatch registry.products.items productId) := by
  simp only [verifyProduct, Storage.borrowGlobal_ok.mpr present]
  exact verifyLoop_eq registry.products productId (Nat.zero_le _)

theorem initRegistry_ok {state next : GlobalState} {account : Address} (run : initRegistry state account = .ok next) :
    state account = none ∧ next = state.write account { products := .empty } :=
  Storage.moveTo_ok run

/-- All that a successful registration does: one entry at the end of the signer's own vector. -/
theorem registerProduct_ok {state next : GlobalState} {account : Address} {id name : String} {nowSeconds : UInt64}
    (run : registerProduct state account id name nowSeconds = .ok next) :
    ∃ before after, state account = some before ∧ next = state.write account after ∧
      after.products.items = before.products.items ++ [⟨id, name, account, nowSeconds, true⟩] := by
  obtain ⟨before, found, run⟩ := bind_ok run
  obtain ⟨products, pushed, run⟩ := bind_ok run
  cases run
  exact ⟨before, _, Storage.borrowGlobal_ok.mp found, rfl, Vec.pushBack_ok pushed⟩

theorem registerProduct_absent {state : GlobalState} {account : Address} (id name : String) (nowSeconds : UInt64)
    (absent : state account = none) : registerProduct state account id name nowSeconds = .error .missingData := by
  simp only [registerProduct, Storage.borrowGlobal, absent]
  rfl

end TrueMark.Contract
