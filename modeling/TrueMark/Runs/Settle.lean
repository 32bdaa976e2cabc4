import TrueMark.Runs.Tickets
import TrueMark.Runs.Reach
import Mathlib.Algebra.BigOperators.Group.List.Basic
import Mathlib.Algebra.GroupWithZero.Nat

namespace Runs

section Weight

variable {Item : Type} {items : List Item} {item : Item} (weight : Item → Nat)

/-- The one item that is hit takes its weight along. -/
theorem weight_eraseP {hit : Item → Bool} (only : ∀ other ∈ items, hit other = true ↔ other = item)
    (member : item ∈ items) :
    ((items.eraseP hit).map weight).sum + weight item = (items.map weight).sum := by
  induction items with
  | nil => cases member
  | cons head rest ih =>
    have here := only head List.mem_cons_self
    by_cases same : head = item
    · subst same
      rw [List.eraseP_cons_of_pos (here.mpr rfl), List.map_cons, List.sum_cons]
      omega
    · have inside := (List.mem_cons.mp member).resolve_left (Ne.symm same)
      have left := ih (fun other listed => only other (List.mem_cons_of_mem _ listed)) inside
      rw [List.eraseP_cons_of_neg (mt here.mp same), List.map_cons, List.map_cons, List.sum_cons, List.sum_cons]
      omega

/-- The one item that is changed puts its new weight in the place of the old one. -/
theorem weight_change {hit : Item → Prop} [DecidablePred hit] (change : Item → Item) (distinct : items.Nodup)
    (only : ∀ other ∈ items, hit other ↔ other = item) (member : item ∈ items) :
    ((items.map fun other => if hit other then change other else other).map weight).sum + weight item =
      (items.map weight).sum + weight (change item) := by
  induction items with
  | nil => cases member
  | cons head rest ih =>
    obtain ⟨fresh, distinctRest⟩ := List.nodup_cons.mp distinct
    have here := only head List.mem_cons_self
    simp only [List.map_cons, List.sum_cons]
    by_cases same : head = item
    · subst same
      have unchanged : (rest.map fun other => if hit other then change other else other) = rest := by
        refine (List.map_congr_left fun other listed => ?_).trans (List.map_id _)
        have missed : ¬hit other := fun struck =>
          fresh (((only other (List.mem_cons_of_mem _ listed)).mp struck) ▸ listed)
        rw [if_neg missed, id_eq]
      rw [unchanged, if_pos (here.mpr rfl)]
      omega
    · have inside := (List.mem_cons.mp member).resolve_left (Ne.symm same)
      have left := ih distinctRest (fun other listed => only other (List.mem_cons_of_mem _ listed)) inside
      rw [if_neg (mt here.mp same)]
      omega

end Weight

/-- A settlement lowers the rank of what is left to do. All other steps pay for what they add to it. -/
structure Settling {State Event : Type} (step : State → Event → Option State) (I : State → Prop)
    (rank credit : State → Nat) (settles : Event → Bool) : Prop where
  kept : ∀ {before event after}, I before → step before event = some after → I after
  lowers : ∀ {before event after}, I before → settles event = true → step before event = some after →
    rank after < rank before ∧ credit before ≤ credit after
  pays : ∀ {before event after}, settles event = false → step before event = some after →
    rank after + credit before ≤ rank before + credit after

namespace Settling

variable {State Event : Type} {step : State → Event → Option State} {guard : State → Event → Prop}
  {I : State → Prop} {rank credit : State → Nat} {settles : Event → Bool} {start state : State} {events : List Event}

/-- A run has no more settlements than it has paid for. -/
theorem bounded (settling : Settling step I rank credit settles) (holds : I start) (initial : rank start ≤ credit start)
    (reach : Reach step guard start events state) :
    I state ∧ events.countP settles + rank state ≤ credit state := by
  induction reach with
  | start => exact ⟨holds, by simpa using initial⟩
  | @next events before event after _ _ run ih =>
    refine ⟨settling.kept ih.1 run, ?_⟩
    rw [List.countP_append, List.countP_singleton]
    cases moves : settles event with
    | true =>
      have lower := settling.lowers ih.1 moves run
      rw [if_pos rfl]
      omega
    | false =>
      have paid := settling.pays moves run
      rw [if_neg Bool.false_ne_true]
      omega

/-- If something can be settled as long as there is work left, all work can be settled. -/
theorem drained {busy J : State → Prop} (settling : Settling step I rank credit settles) (holds : I state)
    (mounted : J state)
    (keeps : ∀ {before event after}, J before → settles event = true → step before event = some after → J after)
    (enabled : ∀ {state}, I state → J state → busy state →
      ∃ event after, settles event = true ∧ step state event = some after) :
    ∃ events after, Reach step (fun _ event => settles event = true) state events after ∧ I after ∧ J after ∧
      ¬busy after := by
  generalize size : rank state = left
  induction left using Nat.strongRecOn generalizing state with
  | ind left ih =>
    by_cases working : busy state
    · obtain ⟨event, next, moves, run⟩ := enabled holds mounted working
      have lower := (settling.lowers holds moves run).1
      obtain ⟨events, after, reach, done⟩ :=
        ih (rank next) (size ▸ lower) (settling.kept holds run) (keeps mounted moves run) rfl
      exact ⟨event :: events, after, .prepend moves run reach, done⟩
    · exact ⟨[], state, .start, holds, mounted, working⟩

end Settling

end Runs
