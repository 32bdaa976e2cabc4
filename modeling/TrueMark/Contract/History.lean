import TrueMark.Contract.Registry
import TrueMark.Runs.Atomic

namespace TrueMark.Contract
open Move Runs

inductive EntryFunction
  | initRegistry
  | registerProduct (id name : String)
deriving DecidableEq

/-- A submitted transaction, with the clock value that its execution sees. -/
structure Transaction where
  account : Address
  function : EntryFunction
  nowSeconds : UInt64
deriving DecidableEq

def execute (state : GlobalState) (transaction : Transaction) : Except Status GlobalState :=
  match transaction.function with
  | .initRegistry => initRegistry state transaction.account
  | .registerProduct id name => registerProduct state transaction.account id name transaction.nowSeconds

/-- The state that a history reaches from the empty one. An aborted transaction changes nothing. -/
def stateAfter (history : List Transaction) : GlobalState := replay execute .empty history

def successes (history : List Transaction) : List Transaction := committed execute .empty history

def Transaction.Opens (address : Address) (transaction : Transaction) : Prop :=
  transaction.account = address ∧ transaction.function = .initRegistry

instance (address : Address) : DecidablePred (Transaction.Opens address) :=
  fun _ => inferInstanceAs (Decidable (_ ∧ _))

def Transaction.Registers (address : Address) (id : String) (transaction : Transaction) : Prop :=
  transaction.account = address ∧ ∃ name, transaction.function = .registerProduct id name

/-- What a successful transaction adds to the log of an address. -/
def Transaction.entry (address : Address) (transaction : Transaction) : Option Product :=
  match transaction.function with
  | .initRegistry => none
  | .registerProduct id name =>
    if transaction.account = address then some ⟨id, name, address, transaction.nowSeconds, true⟩ else none

/-- The purpose of the contract: one append-only log for each manufacturer,
opened by the manufacturer and read off the successful transactions alone. -/
def ledger (done : List Transaction) (address : Address) : Option (List Product) :=
  if ∃ transaction ∈ done, transaction.Opens address then some (done.filterMap (·.entry address)) else none

/-- The stored resources, as such logs. -/
def logOf (state : GlobalState) (address : Address) : Option (List Product) :=
  (state address).map fun registry => registry.products.items

theorem Transaction.entry_eq_some {address : Address} {transaction : Transaction} {product : Product} :
    transaction.entry address = some product ↔ transaction.account = address ∧
      ∃ id name, transaction.function = .registerProduct id name ∧
        product = ⟨id, name, address, transaction.nowSeconds, true⟩ := by
  obtain ⟨account, function, nowSeconds⟩ := transaction
  cases function with
  | initRegistry => simp [entry]
  | registerProduct id name => simp [entry, eq_comm]

theorem Transaction.Opens.entry {address : Address} {transaction : Transaction} (opens : transaction.Opens address) :
    transaction.entry address = none := by
  simp [Transaction.entry, opens.2]

theorem ledger_eq_none {done : List Transaction} {address : Address} :
    ledger done address = none ↔ ¬∃ transaction ∈ done, transaction.Opens address := by
  simp [ledger]

theorem ledger_eq_some {done : List Transaction} {address : Address} {log : List Product}
    (found : ledger done address = some log) : log = done.filterMap (·.entry address) := by
  unfold ledger at found
  split at found
  · exact (Option.some.inj found).symm
  · cases found

/-- A further transaction moves the log of its signer and no other. -/
theorem ledger_concat (done : List Transaction) (last : Transaction) (address : Address) :
    ledger (done ++ [last]) address =
      if (∃ transaction ∈ done, transaction.Opens address) ∨ last.Opens address then
        some (done.filterMap (·.entry address) ++ (last.entry address).toList)
      else none := by
  simp only [ledger, List.mem_append, List.mem_singleton, or_and_right, exists_or, exists_eq_left,
    List.filterMap_append, List.filterMap_cons, List.filterMap_nil]
  cases last.entry address <;> rfl

/-- What a successful transaction does to the log of an address: it opens it, extends it or leaves it alone. -/
inductive LogStep (transaction : Transaction) (address : Address) : Option (List Product) → Option (List Product) → Prop
  | opened : transaction.Opens address → LogStep transaction address none (some [])
  | extended {log product} : transaction.entry address = some product → ¬transaction.Opens address →
      LogStep transaction address (some log) (some (log ++ [product]))
  | foreign {log} : transaction.account ≠ address → transaction.entry address = none →
      ¬transaction.Opens address → LogStep transaction address log log

theorem execute_log {state next : GlobalState} {transaction : Transaction}
    (run : execute state transaction = .ok next) (address : Address) :
    LogStep transaction address (logOf state address) (logOf next address) := by
  obtain ⟨account, function, nowSeconds⟩ := transaction
  cases function with
  | initRegistry =>
    obtain ⟨absent, rfl⟩ := initRegistry_ok run
    by_cases own : account = address
    · subst own
      simp only [logOf, absent, Storage.write_self, Option.map_none, Option.map_some]
      exact .opened ⟨rfl, rfl⟩
    · rw [logOf, logOf, Storage.write_other _ _ (Ne.symm own)]
      exact .foreign own rfl fun opens => own opens.1
  | registerProduct id name =>
    obtain ⟨before, after, present, rfl, items⟩ := registerProduct_ok run
    by_cases own : account = address
    · subst own
      simp only [logOf, present, Storage.write_self, Option.map_some, items]
      exact .extended (Transaction.entry_eq_some.mpr ⟨rfl, id, name, rfl, rfl⟩) fun opens => by cases opens.2
    · rw [logOf, logOf, Storage.write_other _ _ (Ne.symm own)]
      exact .foreign own (if_neg own) fun opens => own opens.1

/-- An abort changes no state, so only the successful transactions show. -/
theorem stateAfter_concat (history : List Transaction) (last : Transaction) :
    (∃ next, execute (stateAfter history) last = .ok next ∧ stateAfter (history ++ [last]) = next ∧
        successes (history ++ [last]) = successes history ++ [last]) ∨
      (∃ status, execute (stateAfter history) last = .error status) ∧
        stateAfter (history ++ [last]) = stateAfter history ∧ successes (history ++ [last]) = successes history := by
  cases run : execute (stateAfter history) last with
  | ok next =>
    exact Or.inl ⟨next, rfl, (replay_concat history last).trans (attempt_ok run), committed_concat_ok run⟩
  | error status =>
    exact Or.inr ⟨⟨status, rfl⟩, (replay_concat history last).trans (attempt_error run), committed_concat_error run⟩

/-- The contract refines the ledger. An address whose log was never opened
has no entries either, since a registration without a registry aborts. -/
theorem stateAfter_ledger (history : List Transaction) (address : Address) :
    logOf (stateAfter history) address = ledger (successes history) address ∧
      (logOf (stateAfter history) address = none → (successes history).filterMap (·.entry address) = []) := by
  induction history using List.reverseRecOn with
  | nil => exact ⟨by simp [successes, committed, ledger]; rfl, fun _ => rfl⟩
  | append_singleton history last ih =>
    obtain ⟨same, silent⟩ := ih
    rcases stateAfter_concat history last with ⟨next, run, rfl, done⟩ | ⟨_, unchanged, done⟩
    · have moved := execute_log run address
      rw [done, ledger_concat, List.filterMap_append]
      generalize before : logOf (stateAfter history) address = log at moved same silent
      generalize logOf (stateAfter (history ++ [last])) address = log' at moved
      cases moved with
      | opened opens => simp [opens, opens.entry, silent rfl]
      | extended entry other =>
        have opened : ∃ transaction ∈ successes history, transaction.Opens address := by
          by_contra closed
          rw [ledger_eq_none.mpr closed] at same
          cases same
        simp [opened, entry, ledger_eq_some same.symm]
      | foreign _ entry other =>
        refine ⟨?_, fun absent => by simp [silent absent, entry]⟩
        simp only [other, or_false, entry, Option.toList_none, List.append_nil]
        exact same
    · rw [unchanged, done]
      exact ⟨same, silent⟩

theorem stateAfter_some {history : List Transaction} {address : Address} {registry : ProductRegistry}
    (present : stateAfter history address = some registry) :
    registry.products.items = (successes history).filterMap (·.entry address) := by
  refine ledger_eq_some ?_
  rw [← (stateAfter_ledger history address).1, logOf, present, Option.map_some]

theorem stateAfter_none {history : List Transaction} {address : Address} :
    stateAfter history address = none ↔ ¬Happened execute .empty history (·.Opens address) := by
  have refined := (stateAfter_ledger history address).1
  rw [happened_iff, ← successes, ← ledger_eq_none, ← refined, logOf, Option.map_eq_none_iff]

/-- Every stored entry is authentic, so the first match is as good as any. -/
theorem firstMatch_entries (done : List Transaction) (address : Address) (id : String) :
    firstMatch (done.filterMap (·.entry address)) id = true ↔
      ∃ transaction ∈ done, transaction.Registers address id := by
  unfold firstMatch
  cases search : (done.filterMap (·.entry address)).find? (·.id = id) with
  | none =>
    refine iff_of_false (by simp) ?_
    rintro ⟨transaction, member, own, name, function⟩
    have entry := Transaction.entry_eq_some.mpr ⟨own, id, name, function, rfl⟩
    have missed := List.find?_eq_none.mp search _ (List.mem_filterMap.mpr ⟨transaction, member, entry⟩)
    simp at missed
  | some product =>
    obtain ⟨transaction, member, entry⟩ := List.mem_filterMap.mp (List.mem_of_find?_eq_some search)
    obtain ⟨own, other, name, function, rfl⟩ := Transaction.entry_eq_some.mp entry
    have same : other = id := by simpa using List.find?_some search
    subst same
    exact iff_of_true rfl ⟨transaction, member, own, name, function⟩

/-- The answer of `verify_product`, read off the history: an abort as long
as the address has opened no registry, and otherwise whether the address
has registered that very id. -/
theorem verifyProduct_history (history : List Transaction) (address : Address) (id : String) :
    ((∃ status, verifyProduct (stateAfter history) address id = .error status) ↔
      ¬Happened execute .empty history (·.Opens address)) ∧
    (verifyProduct (stateAfter history) address id = .ok true ↔
      Happened execute .empty history (·.Opens address) ∧ Happened execute .empty history (·.Registers address id)) ∧
    (verifyProduct (stateAfter history) address id = .ok false ↔
      Happened execute .empty history (·.Opens address) ∧
        ¬Happened execute .empty history (·.Registers address id)) := by
  cases present : stateAfter history address with
  | none =>
    have closed := stateAfter_none.mp present
    simp [verifyProduct_absent id present, closed]
  | some registry =>
    have opened : Happened execute .empty history (·.Opens address) := by
      by_contra closed
      rw [stateAfter_none.mpr closed] at present
      cases present
    have answer := firstMatch_entries (successes history) address id
    rw [successes, ← happened_iff, ← successes, ← stateAfter_some present] at answer
    simp only [verifyProduct_present id present, opened, ← answer]
    simp

end TrueMark.Contract
