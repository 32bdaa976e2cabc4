import Mathlib.Data.List.Induction

namespace Runs

variable {State Event : Type}

/-- The states that a sequence of events reaches. Every event is enabled,
and every step meets the guard. -/
inductive Reach (step : State → Event → Option State) (guard : State → Event → Prop) (start : State) :
    List Event → State → Prop
  | start : Reach step guard start [] start
  | next {events before event after} : Reach step guard start events before → guard before event →
      step before event = some after → Reach step guard start (events ++ [event]) after

/-- The guard of the runs in which anything may happen. -/
def anything (_ : State) (_ : Event) : Prop := True

variable {step : State → Event → Option State} {guard : State → Event → Prop} {start : State}

theorem Reach.invariant {P : State → Prop} {events : List Event} {state : State} (initial : P start)
    (preserved : ∀ {before event after}, P before → guard before event → step before event = some after → P after)
    (reach : Reach step guard start events state) : P state := by
  induction reach with
  | start => exact initial
  | next _ allowed run ih => exact preserved ih allowed run

theorem Reach.weaken {weaker : State → Event → Prop} {events : List Event} {state : State}
    (implied : ∀ {before event}, guard before event → weaker before event)
    (reach : Reach step guard start events state) : Reach step weaker start events state := by
  induction reach with
  | start => exact .start
  | next _ allowed run ih => exact .next ih (implied allowed) run

theorem Reach.unguarded {events : List Event} {state : State} (reach : Reach step guard start events state) :
    Reach step anything start events state :=
  reach.weaken fun _ => trivial

/-- Events that are allowed in every state need no run to be looked at. -/
theorem Reach.guarded {events : List Event} {state : State} (reach : Reach step anything start events state)
    (allowed : ∀ event ∈ events, ∀ before, guard before event) : Reach step guard start events state := by
  induction reach with
  | start => exact .start
  | @next events before event after _ _ run ih =>
    exact .next (ih fun other member => allowed other (List.mem_append_left _ member))
      (allowed event (List.mem_append_right _ List.mem_cons_self) before) run

/-- A run may also be put together from its first step on. -/
theorem Reach.prepend {events : List Event} {event : Event} {middle state : State} (allowed : guard start event)
    (run : step start event = some middle) (reach : Reach step guard middle events state) :
    Reach step guard start (event :: events) state := by
  induction reach with
  | start => exact @Reach.next _ _ _ _ _ [] _ _ _ .start allowed run
  | next _ later taken ih => exact .next ih later taken

theorem Reach.append {first second : List Event} {middle state : State} (reach : Reach step guard start first middle)
    (more : Reach step guard middle second state) : Reach step guard start (first ++ second) state := by
  induction more with
  | start =>
    rw [List.append_nil]
    exact reach
  | next _ allowed run ih =>
    rw [← List.append_assoc]
    exact .next ih allowed run

/-- Every state that the events pass through has this property. -/
def Throughout (step : State → Event → Option State) (start : State) (events : List Event) (P : State → Prop) : Prop :=
  ∀ earlier later state, events = earlier ++ later → Reach step anything start earlier state → P state

/-- Running a list of events from the left. -/
def follow (step : State → Event → Option State) (state : State) : List Event → Option State
  | [] => some state
  | event :: rest => (step state event).bind fun next => follow step next rest

theorem follow_append (first second : List Event) (state : State) :
    follow step state (first ++ second) = (follow step state first).bind fun middle => follow step middle second := by
  induction first generalizing state with
  | nil => rfl
  | cons event rest ih =>
    simp only [List.cons_append, follow]
    cases step state event with
    | none => rfl
    | some next => exact ih next

/-- The unguarded runs are exactly what `follow` computes. -/
theorem reach_iff_follow {events : List Event} {state : State} :
    Reach step anything start events state ↔ follow step start events = some state := by
  constructor
  · intro reach
    induction reach with
    | start => rfl
    | next _ _ run ih =>
      rw [follow_append, ih, Option.bind_some]
      simp only [follow, run, Option.bind_some]
  · intro run
    induction events using List.reverseRecOn generalizing state with
    | nil =>
      cases run
      exact .start
    | append_singleton front last ih =>
      rw [follow_append] at run
      obtain ⟨middle, first, second⟩ := Option.bind_eq_some_iff.mp run
      simp only [follow] at second
      rw [Option.bind_fun_some] at second
      exact .next (ih first) trivial second

theorem Reach.unique {events : List Event} {state other : State} (reach : Reach step anything start events state)
    (again : Reach step anything start events other) : state = other :=
  Option.some.inj ((reach_iff_follow.mp reach).symm.trans (reach_iff_follow.mp again))

theorem Throughout.front {events more : List Event} {P : State → Prop}
    (throughout : Throughout step start (events ++ more) P) : Throughout step start events P := by
  intro earlier later state split reach
  exact throughout earlier (later ++ more) state (by rw [split, List.append_assoc]) reach

/-- A run that ends with an event had a state before it. -/
theorem Reach.last {events : List Event} {event : Event} {after : State}
    (reach : Reach step guard start (events ++ [event]) after) :
    ∃ before, Reach step guard start events before ∧ guard before event ∧ step before event = some after := by
  generalize whole : events ++ [event] = all at reach
  cases reach with
  | start => simp at whole
  | @next front before last _ previous allowed run =>
    obtain ⟨rfl, same⟩ := List.append_inj' whole rfl
    obtain rfl : event = last := List.singleton_inj.mp same
    exact ⟨before, previous, allowed, run⟩

/-- A property whose loss is a matter of the guard of one step holds
throughout a run exactly if all its steps meet the guard. -/
theorem throughout_iff {P : State → Prop} {events : List Event} {state : State} (initial : P start)
    (decided : ∀ {before event after}, P before → step before event = some after → (P after ↔ guard before event))
    (reach : Reach step anything start events state) :
    Throughout step start events P ↔ Reach step guard start events state := by
  induction reach with
  | start =>
    refine ⟨fun _ => .start, fun _ earlier later state split reach => ?_⟩
    obtain ⟨rfl, _⟩ := List.append_eq_nil_iff.mp split.symm
    cases reach_iff_follow.mp reach
    exact initial
  | @next events before event after previous _ run ih =>
    constructor
    · intro throughout
      have holds := throughout events [event] before rfl previous
      have last := throughout (events ++ [event]) [] after (List.append_nil _).symm (.next previous trivial run)
      exact .next (ih.mp throughout.front) ((decided holds run).mp last) run
    · intro guarded earlier later state split reach
      obtain ⟨before', previous', allowed, _⟩ := guarded.last
      have sameBefore : before' = before := previous'.unguarded.unique previous
      subst sameBefore
      have holds := ih.mpr previous'
      rcases List.eq_nil_or_concat later with rfl | ⟨middle, last, rfl⟩
      · rw [List.append_nil] at split
        subst split
        cases reach.unique (.next previous trivial run)
        exact (decided (holds events [] before' (List.append_nil _).symm previous) run).mpr allowed
      · rw [List.concat_eq_append, ← List.append_assoc] at split
        obtain ⟨front, _⟩ := List.append_inj' split rfl
        exact holds earlier middle state front reach

/-- The same next to an invariant of all runs. -/
theorem throughout_iff_of_invariant {I P : State → Prop} {events : List Event} {state : State} (invariant : I start)
    (kept : ∀ {before event after}, I before → step before event = some after → I after) (initial : P start)
    (decided : ∀ {before event after}, I before → P before → step before event = some after →
      (P after ↔ guard before event))
    (reach : Reach step anything start events state) :
    Throughout step start events P ↔ Reach step guard start events state := by
  have always {earlier : List Event} {state : State} (reach : Reach step anything start earlier state) : I state :=
    reach.invariant invariant fun holds _ run => kept holds run
  have both : Throughout step start events P ↔ Throughout step start events fun state => I state ∧ P state :=
    ⟨fun holds earlier later state split reach => ⟨always reach, holds earlier later state split reach⟩,
      fun holds earlier later state split reach => (holds earlier later state split reach).2⟩
  rw [both]
  refine throughout_iff ⟨invariant, initial⟩ (fun holds run => ?_) reach
  exact (and_iff_right (kept holds.1 run)).trans (decided holds.1 holds.2 run)

/-- No event of the run, where it happens, is of this kind. -/
def Never (step : State → Event → Option State) (start : State) (events : List Event) (kind : State → Event → Prop) :
    Prop :=
  ∀ earlier event later before, events = earlier ++ event :: later → Reach step anything start earlier before →
    ¬kind before event

/-- If along the allowed runs an event is of a kind exactly when it misses the
guard, then the guarded ones of these runs are those without such an event. -/
theorem never_iff {P : State → Prop} {allowed kind : State → Event → Prop} {events : List Event} {state : State}
    (initial : P start)
    (decided : ∀ {before event after}, P before → allowed before event → step before event = some after →
      P after ∧ (¬kind before event ↔ guard before event))
    (reach : Reach step allowed start events state) :
    Never step start events kind ↔ Reach step guard start events state := by
  induction reach with
  | start => exact ⟨fun _ => .start, fun _ earlier event later before split => by simp at split⟩
  | @next events before event after previous legal run ih =>
    have holdsBefore : P before := previous.invariant initial fun holds legal run => (decided holds legal run).1
    have unkind := (decided holdsBefore legal run).2
    constructor
    · intro never
      refine .next (ih.mp ?_) (unkind.mp (never events event [] before rfl previous.unguarded)) run
      intro earlier event' later state split
      exact never earlier event' (later ++ [event]) state (by rw [split, List.append_assoc]; rfl)
    · intro guarded earlier event' later state split reach
      obtain ⟨before', previous', met, _⟩ := guarded.last
      rcases List.eq_nil_or_concat later with rfl | ⟨middle, last, rfl⟩
      · obtain ⟨rfl, same⟩ := List.append_inj' split rfl
        obtain rfl : event = event' := List.singleton_inj.mp same
        obtain rfl := reach.unique previous.unguarded
        obtain rfl := reach.unique previous'.unguarded
        exact unkind.mpr met
      · have front : events = earlier ++ event' :: middle := by
          rw [List.concat_eq_append, ← List.cons_append, ← List.append_assoc] at split
          exact (List.append_inj' split rfl).1
        obtain rfl := previous'.unguarded.unique previous.unguarded
        exact ih.mpr previous' earlier event' middle state front reach

end Runs
