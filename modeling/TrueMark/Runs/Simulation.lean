import TrueMark.Runs.Reach

namespace Runs

/-- The words that a labelled relation can spell between two of its nodes. -/
inductive Path {Node Label : Type} (move : Node → Label → Node → Prop) (origin : Node) : List Label → Node → Prop
  | start : Path move origin [] origin
  | next {word before label after} : Path move origin word before → move before label after →
      Path move origin (word ++ [label]) after

section Path

variable {Node Label : Type} {move : Node → Label → Node → Prop} {origin middle node : Node} {word more : List Label}
  {label : Label}

theorem Path.single (moved : move origin label node) : Path move origin [label] node :=
  @Path.next _ _ _ _ [] _ _ _ .start moved

theorem Path.append (path : Path move origin word middle) (further : Path move middle more node) :
    Path move origin (word ++ more) node := by
  induction further with
  | start =>
    rw [List.append_nil]
    exact path
  | next _ moved ih =>
    rw [← List.append_assoc]
    exact .next ih moved

end Path

section Simulation

variable {State Event Node Label : Type} {step : State → Event → Option State} {guard : State → Event → Prop}
  {start state : State} {events : List Event}

/-- If every step spells a word between related nodes, so does every run. -/
theorem Reach.simulate {move : Node → Label → Node → Prop} {origin : Node} (related : State → Node → Prop)
    (log : State → List Label) (initial : related start origin) (silent : log start = [])
    (simulated : ∀ {before event after node}, related before node → guard before event →
      step before event = some after →
      ∃ word next, log after = log before ++ word ∧ Path move node word next ∧ related after next)
    (reach : Reach step guard start events state) :
    ∃ node, Path move origin (log state) node ∧ related state node := by
  induction reach with
  | start => exact ⟨origin, silent ▸ .start, initial⟩
  | next _ allowed run ih =>
    obtain ⟨node, path, holds⟩ := ih
    obtain ⟨word, next, logged, further, stays⟩ := simulated holds allowed run
    exact ⟨next, logged ▸ path.append further, stays⟩

/-- What holds wherever a guarded run leads holds all along such a run. -/
theorem Reach.throughout {P : State → Prop} (reach : Reach step guard start events state)
    (holds : ∀ {earlier state}, Reach step guard start earlier state → P state) :
    Throughout step start events P := by
  induction reach with
  | start =>
    intro earlier later state split prior
    obtain ⟨rfl, _⟩ := List.append_eq_nil_iff.mp split.symm
    cases reach_iff_follow.mp prior
    exact holds .start
  | @next events before event after previous allowed run ih =>
    intro earlier later state split prior
    rcases List.eq_nil_or_concat later with rfl | ⟨middle, last, rfl⟩
    · rw [List.append_nil] at split
      subst split
      have whole := Reach.next previous allowed run
      rw [prior.unique whole.unguarded]
      exact holds whole
    · rw [List.concat_eq_append, ← List.append_assoc] at split
      exact ih earlier middle state (List.append_inj' split rfl).1 prior

/-- A part of a system runs by itself: an event either is one of the part, or leaves it alone. -/
theorem Reach.project {Part PartEvent : Type} {stepPart : Part → PartEvent → Option Part}
    {guardPart : Part → PartEvent → Prop} (part : State → Part) (select : Event → Option PartEvent)
    (own : ∀ {before event after partEvent}, select event = some partEvent → guard before event →
      step before event = some after →
      guardPart (part before) partEvent ∧ stepPart (part before) partEvent = some (part after))
    (foreign : ∀ {before event after}, select event = none → step before event = some after →
      part after = part before)
    (reach : Reach step guard start events state) :
    Reach stepPart guardPart (part start) (events.filterMap select) (part state) := by
  induction reach with
  | start => exact .start
  | @next events before event after _ allowed run ih =>
    rw [List.filterMap_append]
    cases selected : select event with
    | none =>
      rw [List.filterMap_cons_none selected, List.filterMap_nil, List.append_nil, foreign selected run]
      exact ih
    | some partEvent =>
      obtain ⟨met, taken⟩ := own selected allowed run
      rw [List.filterMap_cons_some selected, List.filterMap_nil]
      exact .next ih met taken

end Simulation

end Runs
