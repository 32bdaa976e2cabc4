import Mathlib.Algebra.Group.Nat.Defs
import Mathlib.Logic.Function.Basic

namespace Move

abbrev Address := BitVec 256

/-- The ways in which the virtual machine ends a transaction early. -/
inductive Status
  | aborted (code : Nat)
  | missingData
  | resourceAlreadyExists
  | vectorOperationError
  | arithmeticError
  | memoryLimitExceeded
deriving DecidableEq

/-- A computation that went through did so step by step. -/
theorem bind_ok {α β : Type} {first : Except Status α} {second : α → Except Status β} {result : β}
    (run : first >>= second = .ok result) : ∃ middle, first = .ok middle ∧ second middle = .ok result := by
  cases first with
  | ok middle => exact ⟨middle, rfl, run⟩
  | error status => cases run

/-- A vector never holds more elements than a `u64` length can count. -/
structure Vec (Element : Type) where
  items : List Element
  bounded : items.length < 2 ^ 64

namespace Vec

variable {Element : Type}

def empty : Vec Element := ⟨[], Nat.two_pow_pos 64⟩

def length (v : Vec Element) : Nat := v.items.length

def borrow (v : Vec Element) (i : Nat) : Except Status Element :=
  match v.items[i]? with
  | some element => .ok element
  | none => .error .vectorOperationError

def pushBack (v : Vec Element) (element : Element) : Except Status (Vec Element) :=
  if room : v.items.length + 1 < 2 ^ 64 then .ok ⟨v.items ++ [element], by simpa using room⟩
  else .error .memoryLimitExceeded

theorem pushBack_ok {v w : Vec Element} {element : Element} (run : v.pushBack element = .ok w) :
    w.items = v.items ++ [element] := by
  unfold pushBack at run
  split at run
  · cases run
    rfl
  · cases run

end Vec

/-- The checked addition of `u64`. -/
def addU64 (a b : Nat) : Except Status Nat := if a + b < 2 ^ 64 then .ok (a + b) else .error .arithmeticError

theorem addU64_ok {a b c : Nat} (run : addU64 a b = .ok c) : c = a + b := by
  unfold addU64 at run
  split at run
  · cases run
    rfl
  · cases run

/-- Global storage of one resource type. -/
abbrev Storage (Resource : Type) := Address → Option Resource

namespace Storage

variable {Resource : Type}

def empty : Storage Resource := fun _ => none

def moveTo (storage : Storage Resource) (account : Address) (resource : Resource) :
    Except Status (Storage Resource) :=
  match storage account with
  | some _ => .error .resourceAlreadyExists
  | none => .ok (Function.update storage account (some resource))

def borrowGlobal (storage : Storage Resource) (address : Address) : Except Status Resource :=
  match storage address with
  | some resource => .ok resource
  | none => .error .missingData

/-- The effect of writing through a reference from `borrow_global_mut`. -/
def write (storage : Storage Resource) (address : Address) (resource : Resource) : Storage Resource :=
  Function.update storage address (some resource)

theorem moveTo_ok {storage next : Storage Resource} {account : Address} {resource : Resource}
    (run : storage.moveTo account resource = .ok next) :
    storage account = none ∧ next = storage.write account resource := by
  unfold moveTo at run
  split at run
  · cases run
  · rename_i absent
    cases run
    exact ⟨absent, rfl⟩

theorem borrowGlobal_ok {storage : Storage Resource} {address : Address} {resource : Resource} :
    storage.borrowGlobal address = .ok resource ↔ storage address = some resource := by
  unfold borrowGlobal
  split
  · rename_i found present
    simp [present]
  · rename_i absent
    simp [absent]

@[simp] theorem write_self (storage : Storage Resource) (address : Address) (resource : Resource) :
    storage.write address resource address = some resource :=
  Function.update_self ..

theorem write_other {address other : Address} (storage : Storage Resource) (resource : Resource)
    (different : other ≠ address) : storage.write address resource other = storage other :=
  Function.update_of_ne different ..

end Storage

end Move
