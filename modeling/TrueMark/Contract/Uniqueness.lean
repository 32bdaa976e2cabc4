import TrueMark.Contract.History

namespace TrueMark.Contract
open Move Runs

def UniqueIds (state : GlobalState) : Prop :=
  ∀ address registry, state address = some registry → (registry.products.items.map Product.id).Nodup

/-- A registration under an id that the signer's registry already holds. -/
def Transaction.Repeats (state : GlobalState) (transaction : Transaction) : Prop :=
  ∃ id name registry, transaction.function = .registerProduct id name ∧ state transaction.account = some registry ∧
    id ∈ registry.products.items.map Product.id

/-- The reading of the error code `E_PRODUCT_EXISTS`: such a registration is refused and changes nothing. -/
def RefusesRepeat (state : GlobalState) (transaction : Transaction) : Prop :=
  transaction.Repeats state → execute state transaction = .error (.aborted eProductExists) ∧
    attempt execute state transaction = state

/-- Ids stay unique at every point of a history, and every repetition in it is refused. -/
def KeepsIdsUnique (history : List Transaction) : Prop :=
  (∀ earlier later, history = earlier ++ later → UniqueIds (stateAfter earlier)) ∧
    ∀ earlier transaction later, history = earlier ++ transaction :: later →
      RefusesRepeat (stateAfter earlier) transaction

theorem pushBack_not_aborted {Element : Type} (v : Vec Element) (element : Element) (code : Nat) :
    v.pushBack element ≠ .error (.aborted code) := by
  unfold Vec.pushBack
  split <;> simp

/-- `register_product` has no check that could raise an error of the module. -/
theorem registerProduct_not_aborted (state : GlobalState) (account : Address) (id name : String) (nowSeconds : UInt64)
    (code : Nat) : registerProduct state account id name nowSeconds ≠ .error (.aborted code) := by
  cases present : state account with
  | none => simp [registerProduct_absent id name nowSeconds present]
  | some registry =>
    intro run
    simp only [registerProduct, Storage.borrowGlobal_ok.mpr present] at run
    change (registry.products.pushBack _ >>= _) = _ at run
    cases pushed : registry.products.pushBack ⟨id, name, account, nowSeconds, true⟩ with
    | ok products => rw [pushed] at run; cases run
    | error status =>
      rw [pushed] at run
      cases run
      exact pushBack_not_aborted _ _ _ pushed

theorem not_refusesRepeat {state : GlobalState} {transaction : Transaction} (repeats : transaction.Repeats state) :
    ¬RefusesRepeat state transaction := by
  intro refuses
  have run := (refuses repeats).1
  obtain ⟨id, name, _, function, _⟩ := repeats
  simp only [execute, function] at run
  exact registerProduct_not_aborted _ _ _ _ _ _ run

/-- A registration under a fresh id keeps every registry free of repetitions. -/
theorem UniqueIds.step {state next : GlobalState} {transaction : Transaction} (unique : UniqueIds state)
    (fresh : ¬transaction.Repeats state) (run : execute state transaction = .ok next) : UniqueIds next := by
  intro address registry present
  obtain ⟨account, function, nowSeconds⟩ := transaction
  cases function with
  | initRegistry =>
    obtain ⟨_, rfl⟩ := initRegistry_ok run
    by_cases own : address = account
    · subst own
      rw [Storage.write_self] at present
      cases present
      exact List.nodup_nil
    · rw [Storage.write_other _ _ own] at present
      exact unique address registry present
  | registerProduct id name =>
    obtain ⟨before, after, held, rfl, items⟩ := registerProduct_ok run
    by_cases own : address = account
    · subst own
      rw [Storage.write_self] at present
      cases present
      have absent : id ∉ before.products.items.map Product.id := fun member =>
        fresh ⟨id, name, before, rfl, held, member⟩
      rw [items, List.map_append, List.nodup_append]
      refine ⟨unique address before held, by simp, ?_⟩
      intro a old b new
      rw [List.map_singleton, List.mem_singleton] at new
      change b = id at new
      rintro rfl
      exact absent (new ▸ old)
    · rw [Storage.write_other _ _ own] at present
      exact unique address registry present

theorem uniqueIds_stateAfter {history : List Transaction}
    (fresh : ∀ earlier transaction later, history = earlier ++ transaction :: later →
      ¬transaction.Repeats (stateAfter earlier)) : UniqueIds (stateAfter history) := by
  induction history using List.reverseRecOn with
  | nil => intro address registry present; cases present
  | append_singleton history last ih =>
    have unique := ih fun earlier transaction later split =>
      fresh earlier transaction (later ++ [last]) (by rw [split]; simp)
    rcases stateAfter_concat history last with ⟨next, run, rfl, _⟩ | ⟨_, unchanged, _⟩
    · exact unique.step (fresh history last [] rfl) run
    · rw [unchanged]
      exact unique

/-- The contract keeps ids unique exactly as long as its callers do. -/
theorem keepsIdsUnique_iff (history : List Transaction) :
    KeepsIdsUnique history ↔ ∀ earlier transaction later, history = earlier ++ transaction :: later →
      ¬transaction.Repeats (stateAfter earlier) := by
  constructor
  · intro keeps earlier transaction later split repeats
    exact not_refusesRepeat repeats (keeps.2 earlier transaction later split)
  · intro fresh
    refine ⟨?_, fun earlier transaction later split repeats => absurd repeats (fresh earlier transaction later split)⟩
    rintro earlier later rfl
    refine uniqueIds_stateAfter fun front transaction rest split => fresh front transaction (rest ++ later) ?_
    rw [split, List.append_assoc, List.cons_append]

/-- One manufacturer registers the same id twice, and both entries are stored. -/
theorem registerProduct_twice :
    ∃ registry, stateAfter [⟨1, .initRegistry, 1⟩, ⟨1, .registerProduct "1" "Luxury Watch", 2⟩,
        ⟨1, .registerProduct "1" "Designer Bag", 3⟩] 1 = some registry ∧
      registry.products.items.map Product.id = ["1", "1"] ∧
      ¬KeepsIdsUnique [⟨1, .initRegistry, 1⟩, ⟨1, .registerProduct "1" "Luxury Watch", 2⟩,
        ⟨1, .registerProduct "1" "Designer Bag", 3⟩] := by
  refine ⟨_, rfl, rfl, fun keeps => ?_⟩
  have unique := keeps.1 _ [] (List.append_nil _).symm 1 _ rfl
  exact absurd unique (by decide)

end TrueMark.Contract
