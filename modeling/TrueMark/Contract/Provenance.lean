import TrueMark.Contract.History

namespace TrueMark.Contract
open Move Runs

theorem successes_append (earlier later : List Transaction) :
    successes (earlier ++ later) = successes earlier ++ committed execute (stateAfter earlier) later :=
  committed_append earlier later

/-- The clock values of a log are taken, in order, from the transactions. -/
theorem timestamps_sublist (done : List Transaction) (address : Address) :
    ((done.filterMap (·.entry address)).map Product.timestamp).Sublist (done.map Transaction.nowSeconds) := by
  induction done with
  | nil => exact .slnil
  | cons transaction rest ih =>
    rw [List.filterMap_cons, List.map_cons]
    split
    · exact .cons _ ih
    · rename_i product entry
      obtain ⟨_, id, name, _, rfl⟩ := Transaction.entry_eq_some.mp entry
      exact .cons_cons _ ih

theorem timestamps_ordered {history : List Transaction} (clock : (history.map Transaction.nowSeconds).Pairwise (· ≤ ·))
    (address : Address) :
    (((successes history).filterMap (·.entry address)).map Product.timestamp).Pairwise (· ≤ ·) :=
  clock.sublist ((timestamps_sublist _ address).trans ((committed_sublist history).map _))

/-- A held registry goes back to one opening, and nothing was logged before it. -/
theorem stateAfter_since_init {history : List Transaction} {address : Address} {registry : ProductRegistry}
    (present : stateAfter history address = some registry) :
    ∃ before init after, history = before ++ init :: after ∧ init.Opens address ∧
      Succeeds execute .empty before init ∧
      registry.products.items =
        (committed execute (stateAfter (before ++ [init])) after).filterMap (·.entry address) := by
  have opened : Happened execute .empty history (·.Opens address) := by
    by_contra closed
    rw [stateAfter_none.mpr closed] at present
    cases present
  obtain ⟨before, init, after, rfl, opens, success⟩ := opened
  obtain ⟨next, run⟩ := success
  have moved : LogStep init address (logOf (stateAfter before) address) (logOf next address) := execute_log run address
  have silent := (stateAfter_ledger before address).2
  refine ⟨before, init, after, rfl, opens, ⟨next, run⟩, ?_⟩
  rw [stateAfter_some present, List.append_cons, successes_append, successes, committed_concat_ok run,
    List.filterMap_append, List.filterMap_append]
  generalize logOf (stateAfter before) address = log at moved silent
  generalize logOf next address = log' at moved
  cases moved with
  | opened => rw [← successes, silent rfl, List.filterMap_cons, opens.entry]; rfl
  | extended _ other => exact absurd opens other
  | foreign other => exact absurd opens.1 other

theorem stateAfter_prefix {earlier later : List Transaction} {address : Address} {old new : ProductRegistry}
    (past : stateAfter earlier address = some old) (present : stateAfter (earlier ++ later) address = some new) :
    old.products.items <+: new.products.items := by
  rw [stateAfter_some past, stateAfter_some present, successes_append, List.filterMap_append]
  exact List.prefix_append ..

/-- The frame of a transaction: only its signer's registry can change. -/
theorem attempt_other {state : GlobalState} {transaction : Transaction} {address : Address}
    (foreign : transaction.account ≠ address) : attempt execute state transaction address = state address := by
  cases run : execute state transaction with
  | error status => rw [attempt_error run]
  | ok next =>
    rw [attempt_ok run]
    obtain ⟨account, function, nowSeconds⟩ := transaction
    cases function with
    | initRegistry =>
      obtain ⟨_, rfl⟩ := initRegistry_ok run
      exact Storage.write_other _ _ (Ne.symm foreign)
    | registerProduct id name =>
      obtain ⟨_, _, _, rfl, _⟩ := registerProduct_ok run
      exact Storage.write_other _ _ (Ne.symm foreign)

theorem execute_reopen {state : GlobalState} {transaction : Transaction} {address : Address}
    {registry : ProductRegistry} (present : state address = some registry) (opens : transaction.Opens address) :
    execute state transaction = .error .resourceAlreadyExists := by
  obtain ⟨rfl, function⟩ := opens
  simp only [execute, function, initRegistry, Storage.moveTo, present]

theorem execute_unopened {state : GlobalState} {transaction : Transaction} {address : Address} {id : String}
    (absent : state address = none) (registers : transaction.Registers address id) :
    execute state transaction = .error .missingData := by
  obtain ⟨rfl, name, function⟩ := registers
  simp only [execute, function]
  exact registerProduct_absent id name _ absent

/-- What the registry of an address holds, and what can change it. -/
theorem registry_provenance (history : List Transaction)
    (clock : (history.map Transaction.nowSeconds).Pairwise (· ≤ ·)) (address : Address) :
    (∀ registry, stateAfter history address = some registry →
      (∃ before init after, history = before ++ init :: after ∧ init.Opens address ∧
        Succeeds execute .empty before init ∧
        registry.products.items =
          (committed execute (stateAfter (before ++ [init])) after).filterMap (·.entry address)) ∧
      (registry.products.items.map Product.timestamp).Pairwise (· ≤ ·) ∧
      (∀ earlier later old, history = earlier ++ later → stateAfter earlier address = some old →
        old.products.items <+: registry.products.items) ∧
      (∀ transaction : Transaction, transaction.Opens address →
        execute (stateAfter history) transaction = .error .resourceAlreadyExists)) ∧
    (∀ transaction : Transaction, transaction.account ≠ address →
      attempt execute (stateAfter history) transaction address = stateAfter history address) ∧
    (∀ transaction status, execute (stateAfter history) transaction = .error status →
      attempt execute (stateAfter history) transaction address = stateAfter history address) ∧
    (∀ (transaction : Transaction) id, transaction.Registers address id → stateAfter history address = none →
      execute (stateAfter history) transaction = .error .missingData) := by
  refine ⟨fun registry present => ⟨stateAfter_since_init present, ?_, ?_, ?_⟩, ?_, ?_, ?_⟩
  · rw [stateAfter_some present]
    exact timestamps_ordered clock address
  · rintro earlier later old rfl past
    exact stateAfter_prefix past present
  · exact fun transaction opens => execute_reopen present opens
  · exact fun transaction foreign => attempt_other foreign
  · exact fun transaction status run => by rw [attempt_error run]
  · exact fun transaction id registers absent => execute_unopened absent registers

/-- Two manufacturers, interleaved, with a registration that comes too early and a second opening. -/
def twoSigners : List Transaction :=
  [⟨1, .registerProduct "7" "early", 10⟩, ⟨1, .initRegistry, 10⟩, ⟨2, .initRegistry, 11⟩,
    ⟨1, .registerProduct "1" "Luxury Watch", 12⟩, ⟨2, .registerProduct "1" "Bag", 12⟩,
    ⟨1, .initRegistry, 13⟩, ⟨1, .registerProduct "2" "Designer Bag", 14⟩]

theorem registry_provenance_twoSigners :
    ∃ registry, stateAfter twoSigners 1 = some registry ∧
      registry.products.items = [⟨"1", "Luxury Watch", 1, 12, true⟩, ⟨"2", "Designer Bag", 1, 14, true⟩] ∧
      (registry.products.items.map Product.timestamp).Pairwise (· ≤ ·) :=
  ⟨_, rfl, rfl, ((registry_provenance twoSigners (by decide) 1).1 _ rfl).2.1⟩

end TrueMark.Contract
