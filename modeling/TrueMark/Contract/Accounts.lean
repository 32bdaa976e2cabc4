import TrueMark.Contract.Provenance
import TrueMark.Runs.Local

namespace TrueMark.Contract
open Move Runs

theorem moveTo_local {state other : GlobalState} {account : Address} {registry : ProductRegistry}
    (same : state account = other account) :
    (state.moveTo account registry).map (fun next => next account) =
      (other.moveTo account registry).map (fun next => next account) := by
  unfold Storage.moveTo
  rw [same]
  cases other account with
  | some held => rfl
  | none => simp only [Except.map, Function.update_self]

theorem registerProduct_local {state other : GlobalState} {account : Address} (same : state account = other account)
    (id name : String) (nowSeconds : UInt64) :
    (registerProduct state account id name nowSeconds).map (fun next => next account) =
      (registerProduct other account id name nowSeconds).map (fun next => next account) := by
  cases present : state account with
  | none => rw [registerProduct_absent _ _ _ present, registerProduct_absent _ _ _ (same ▸ present)]
  | some registry =>
    simp only [registerProduct, Storage.borrowGlobal_ok.mpr present, Storage.borrowGlobal_ok.mpr (same ▸ present)]
    change ((registry.products.pushBack _ >>= _ : Except Status GlobalState)).map _ =
      ((registry.products.pushBack _ >>= _ : Except Status GlobalState)).map _
    cases registry.products.pushBack ⟨id, name, account, nowSeconds, true⟩ with
    | error status => rfl
    | ok products => exact congrArg Except.ok ((Storage.write_self ..).trans (Storage.write_self ..).symm)

/-- A transaction deals with the registry of its signer and with no other. -/
theorem execute_local : Local execute Transaction.account where
  frame {state next transaction key} run foreign := by
    have kept : attempt execute state transaction key = state key := attempt_other foreign
    rwa [attempt_ok run] at kept
  own {state other transaction} same := by
    obtain ⟨account, function, nowSeconds⟩ := transaction
    cases function with
    | initRegistry => exact moveTo_local same
    | registerProduct id name => exact registerProduct_local same id name nowSeconds

/-- The transactions that an account has signed, in their order. -/
def ofAccount (account : Address) (history : List Transaction) : List Transaction :=
  history.filter fun transaction => transaction.account = account

theorem stateAfter_ofAccount (account : Address) (history : List Transaction) :
    stateAfter history account = stateAfter (ofAccount account history) account ∧
      ofAccount account (successes history) = successes (ofAccount account history) :=
  execute_local.replay_filter account history

/-- The accounts cannot get in each other's way. However their transactions are interleaved, as long as
each account's own ones keep their order, the same state is reached by the same successes of each account,
and what an address holds follows from its own transactions alone. -/
theorem interleaving_irrelevant {history other : List Transaction}
    (same : ∀ account, ofAccount account history = ofAccount account other) :
    stateAfter history = stateAfter other ∧
      ∀ account, ofAccount account (successes history) = ofAccount account (successes other) ∧
        stateAfter history account = stateAfter (ofAccount account history) account := by
  refine ⟨funext fun account => ?_, fun account => ⟨?_, (stateAfter_ofAccount account history).1⟩⟩
  · rw [(stateAfter_ofAccount account history).1, same account, ← (stateAfter_ofAccount account other).1]
  · rw [(stateAfter_ofAccount account history).2, same account, ← (stateAfter_ofAccount account other).2]

/-- One account after the other, instead of interleaved. -/
theorem interleaving_irrelevant_twoSigners :
    stateAfter twoSigners = stateAfter (ofAccount 2 twoSigners ++ ofAccount 1 twoSigners) := by
  refine (interleaving_irrelevant fun account => ?_).1
  by_cases first : account = 1
  · subst first
    rfl
  by_cases second : account = 2
  · subst second
    rfl
  have nobody {list : List Transaction}
      (known : ∀ transaction ∈ list, transaction.account = 1 ∨ transaction.account = 2) :
      ofAccount account list = [] := by
    refine List.filter_eq_nil_iff.mpr fun transaction member own => ?_
    obtain rfl := of_decide_eq_true own
    exact (known transaction member).elim first second
  rw [nobody (by decide), nobody (by decide)]

/-- The outcome of a transaction, read off the attempts before it without any state. -/
def outcome (history : List Transaction) (transaction : Transaction) : Except Status Unit :=
  let opened := history.any fun earlier => earlier.Opens transaction.account
  match transaction.function with
  | .initRegistry => if opened then .error .resourceAlreadyExists else .ok ()
  | .registerProduct _ _ => if opened then .ok () else .error .missingData

theorem execute_open {state : GlobalState} {transaction : Transaction} {address : Address}
    (absent : state address = none) (opens : transaction.Opens address) :
    ∃ next, execute state transaction = .ok next := by
  obtain ⟨rfl, function⟩ := opens
  exact ⟨_, by simp only [execute, function, initRegistry, Storage.moveTo, absent]; rfl⟩

section Outcome

variable {history : List Transaction} {address : Address}

/-- The first attempt to open a registry succeeds, so attempts are as good as successes. -/
theorem stateAfter_unopened (history : List Transaction) (address : Address) :
    stateAfter history address = none ↔ ¬∃ transaction ∈ history, transaction.Opens address := by
  rw [stateAfter_none, happened_iff]
  refine not_congr ⟨?_, ?_⟩
  · rintro ⟨transaction, member, opens⟩
    exact ⟨transaction, (committed_sublist history).mem member, opens⟩
  rintro ⟨transaction, member, opens⟩
  obtain ⟨earlier, later, rfl⟩ := List.append_of_mem member
  by_contra closed
  have before : stateAfter earlier address = none := by
    refine stateAfter_none.mpr fun happened => closed ?_
    obtain ⟨first, inside, is⟩ := happened_iff.mp happened
    exact ⟨first, by rw [committed_append]; exact List.mem_append_left _ inside, is⟩
  exact closed ⟨transaction, mem_committed.mpr ⟨earlier, later, rfl, execute_open before opens⟩, opens⟩

/-- Nobody has registered more products than there were transactions. -/
theorem stored_le_history {registry : ProductRegistry} (present : stateAfter history address = some registry) :
    registry.products.items.length ≤ history.length := by
  have transactions : (successes history).length ≤ history.length := (committed_sublist history).length_le
  rw [stateAfter_some present]
  exact Nat.le_trans (List.length_filterMap_le _ _) transactions

end Outcome

theorem registerProduct_room {state : GlobalState} {account : Address} {registry : ProductRegistry}
    (present : state account = some registry) (room : registry.products.items.length + 1 < 2 ^ 64) (id name : String)
    (nowSeconds : UInt64) : ∃ next, registerProduct state account id name nowSeconds = .ok next := by
  obtain ⟨products, pushed⟩ :
      ∃ products, registry.products.pushBack ⟨id, name, account, nowSeconds, true⟩ = .ok products :=
    ⟨_, dif_pos room⟩
  refine ⟨state.write account { registry with products }, ?_⟩
  simp only [registerProduct, Storage.borrowGlobal_ok.mpr present]
  change (registry.products.pushBack _ >>= _) = _
  rw [pushed]
  rfl

/-- What becomes of a transaction. The contract refuses a second opening and a registration without one,
and nothing else, unless so many transactions have gone before it that a `u64` could not count them. -/
theorem transaction_outcome {history : List Transaction} (few : history.length + 1 < 2 ^ 64)
    (transaction : Transaction) :
    (execute (stateAfter history) transaction).map (fun _ => ()) = outcome history transaction := by
  have attempts := stateAfter_unopened history transaction.account
  cases present : stateAfter history transaction.account with
  | none =>
    have unopened : (history.any fun earlier => earlier.Opens transaction.account) = false := by
      simpa using attempts.mp present
    obtain ⟨account, function, nowSeconds⟩ := transaction
    cases function with
    | initRegistry =>
      obtain ⟨next, run⟩ := execute_open present ⟨rfl, rfl⟩
      rw [run, outcome, unopened]
      rfl
    | registerProduct id name =>
      rw [execute_unopened present ⟨rfl, name, rfl⟩, outcome, unopened]
      rfl
  | some registry =>
    have opened : (history.any fun earlier => earlier.Opens transaction.account) = true := by
      by_contra never
      rw [attempts.mpr (by simpa using never)] at present
      cases present
    have room := stored_le_history present
    obtain ⟨account, function, nowSeconds⟩ := transaction
    cases function with
    | initRegistry =>
      rw [execute_reopen present ⟨rfl, rfl⟩, outcome, opened]
      rfl
    | registerProduct id name =>
      obtain ⟨next, run⟩ := registerProduct_room present (by omega) id name nowSeconds
      simp only [execute, run, outcome, opened]
      rfl

/-- The last transaction of the sample history goes through, and a further opening would not. -/
theorem transaction_outcome_twoSigners :
    ((execute (stateAfter (twoSigners.take 6)) ⟨1, .registerProduct "2" "Designer Bag", 14⟩).map fun _ => ()) = .ok () ∧
      ((execute (stateAfter twoSigners) ⟨2, .initRegistry, 15⟩).map fun _ => ()) = .error .resourceAlreadyExists :=
  ⟨transaction_outcome (by decide) _, transaction_outcome (by decide) _⟩

/-- How far a question has come: no registry, not registered, registered. -/
def standing : Except Status Bool → Nat
  | .error _ => 0
  | .ok false => 1
  | .ok true => 2

/-- The transactions that can change the answer to a question. -/
def Transaction.Concerns (address : Address) (id : String) (transaction : Transaction) : Prop :=
  transaction.Opens address ∨ transaction.Registers address id

theorem happened_append {earlier later : List Transaction} {kind : Transaction → Prop} :
    Happened execute .empty (earlier ++ later) kind ↔ Happened execute .empty earlier kind ∨
      ∃ transaction ∈ committed execute (stateAfter earlier) later, kind transaction := by
  rw [happened_iff, happened_iff, committed_append, stateAfter]
  simp only [List.mem_append, or_and_right, exists_or]

/-- The standing of a question, read off the successes. -/
theorem standing_eq (history : List Transaction) (address : Address) (id : String) :
    standing (verifyProduct (stateAfter history) address id) = 0 ∧
        ¬Happened execute .empty history (·.Opens address) ∨
      standing (verifyProduct (stateAfter history) address id) = 1 ∧
        Happened execute .empty history (·.Opens address) ∧
        ¬Happened execute .empty history (·.Registers address id) ∨
      standing (verifyProduct (stateAfter history) address id) = 2 ∧
        Happened execute .empty history (·.Opens address) ∧
        Happened execute .empty history (·.Registers address id) := by
  obtain ⟨closed, yes, no⟩ := verifyProduct_history history address id
  cases answer : verifyProduct (stateAfter history) address id with
  | error status => exact Or.inl ⟨rfl, closed.mp ⟨status, answer⟩⟩
  | ok flag =>
    cases flag with
    | false => exact Or.inr (Or.inl ⟨rfl, no.mp answer⟩)
    | true => exact Or.inr (Or.inr ⟨rfl, yes.mp answer⟩)

/-- The answers of `verify_product` only ever rise, from an abort over `false` to `true`: what was
registered is never taken back. And none of them rises without a transaction of that very address
that opens its registry or registers that very id. -/
theorem answers_rise (earlier later : List Transaction) (address : Address) (id : String) :
    standing (verifyProduct (stateAfter earlier) address id) ≤
        standing (verifyProduct (stateAfter (earlier ++ later)) address id) ∧
      (standing (verifyProduct (stateAfter earlier) address id) <
          standing (verifyProduct (stateAfter (earlier ++ later)) address id) →
        ∃ transaction ∈ later, transaction.Concerns address id) := by
  have opened := @happened_append earlier later (·.Opens address)
  have registered := @happened_append earlier later (·.Registers address id)
  have before := standing_eq earlier address id
  have after := standing_eq (earlier ++ later) address id
  generalize standing (verifyProduct (stateAfter earlier) address id) = old at before ⊢
  generalize standing (verifyProduct (stateAfter (earlier ++ later)) address id) = new at after ⊢
  refine ⟨?_, fun risen => ?_⟩
  · have keepOpened := opened.mpr ∘ Or.inl
    have keepRegistered := registered.mpr ∘ Or.inl
    grind
  · by_contra silent
    have others {kind : Transaction → Prop}
        (concerns : ∀ transaction, kind transaction → transaction.Concerns address id) :
        ¬∃ transaction ∈ committed execute (stateAfter earlier) later, kind transaction :=
      fun ⟨transaction, member, is⟩ =>
        silent ⟨transaction, (committed_sublist later).mem member, concerns transaction is⟩
    rw [or_iff_left (others fun _ => Or.inl)] at opened
    rw [or_iff_left (others fun _ => Or.inr)] at registered
    rw [opened, registered] at after
    grind

end TrueMark.Contract
