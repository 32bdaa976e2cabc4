import Mathlib.Logic.Basic

namespace React

/- A function component with hook state. Rendering may throw, so a render is
only ever on the screen for a state that it accepts. -/
variable {State : Type} {paintable : State → Bool}

structure Screen (paintable : State → Bool) where
  state : State
  painted : paintable state = true

/-- The state after all queued updates, next to the last render. A component
whose rendering threw is unmounted and has no render left. -/
structure Component (paintable : State → Bool) where
  queued : State
  screen : Option (Screen paintable)

/-- Updates of a click or a key press are rendered before the next event.
Those made after an `await` or in a foreign callback wait for a later render. -/
inductive Lane
  | discrete
  | deferred
deriving DecidableEq

namespace Component

def paint (component : Component paintable) (next : State) : Component paintable :=
  if accepted : paintable next = true then { component with screen := some ⟨next, accepted⟩ }
  else { component with screen := none }

def render (component : Component paintable) : Component paintable := component.paint component.queued

/-- A discrete update is rendered alone, on top of the last render: what is
still waiting in the deferred lane is skipped there and stays queued. -/
def setState (lane : Lane) (update : State → State) (component : Component paintable) : Component paintable :=
  match lane, component.screen with
  | .discrete, some screen => { component with queued := update component.queued }.paint (update screen.state)
  | _, _ => { component with queued := update component.queued }

/-- A fact about the queued state and about what is on the screen. -/
def Holds (P : State → Prop) (component : Component paintable) : Prop :=
  P component.queued ∧ ∀ screen, component.screen = some screen → P screen.state

/-- The component is mounted, and its next render does not throw. -/
def Safe (component : Component paintable) : Prop :=
  (∃ screen, component.screen = some screen) ∧ paintable component.queued = true

variable {P : State → Prop} {component : Component paintable}

@[simp] theorem paint_queued (next : State) : (component.paint next).queued = component.queued := by
  unfold paint
  split <;> rfl

theorem paint_screen {next : State} {screen : Screen paintable} (shown : (component.paint next).screen = some screen) :
    screen.state = next := by
  unfold paint at shown
  split at shown
  · cases shown
    rfl
  · cases shown

@[simp] theorem render_queued : component.render.queued = component.queued := paint_queued _

theorem render_screen (accepted : paintable component.queued = true) :
    component.render.screen = some ⟨component.queued, accepted⟩ := by
  rw [render, paint, dif_pos accepted]

@[simp] theorem setState_queued (lane : Lane) (update : State → State) :
    (component.setState lane update).queued = update component.queued := by
  unfold setState
  split
  · exact paint_queued _
  · rfl

/-- Whatever is on the screen after an update was there before, or is the update of what was there. -/
theorem setState_screen {lane : Lane} {update : State → State} {screen : Screen paintable}
    (shown : (component.setState lane update).screen = some screen) :
    ∃ before, component.screen = some before ∧
      (lane = .deferred ∧ screen = before ∨ lane = .discrete ∧ screen.state = update before.state) := by
  cases lane with
  | deferred => exact ⟨screen, shown, Or.inl ⟨rfl, rfl⟩⟩
  | discrete =>
    cases present : component.screen with
    | none =>
      simp only [setState, present] at shown
      cases shown
    | some before =>
      simp only [setState, present] at shown
      exact ⟨before, rfl, Or.inr ⟨rfl, paint_screen shown⟩⟩

/-- A discrete update is on the screen at once. -/
theorem setState_discrete {update : State → State} {screen : Screen paintable} (shown : component.screen = some screen)
    (accepted : paintable (update screen.state) = true) :
    (component.setState .discrete update).screen = some ⟨update screen.state, accepted⟩ := by
  simp only [setState, shown, paint, accepted, dif_pos]

/-- An update whose renders do not throw leaves the component mounted. -/
theorem setState_mounted {lane : Lane} {update : State → State} {screen : Screen paintable}
    (shown : component.screen = some screen)
    (keeps : ∀ state, paintable state = true → paintable (update state) = true) :
    ∃ next, (component.setState lane update).screen = some next := by
  cases lane with
  | deferred => exact ⟨screen, shown⟩
  | discrete =>
    have accepted := keeps screen.state screen.painted
    exact ⟨⟨update screen.state, accepted⟩, by simp only [setState, shown, paint, accepted, dif_pos]⟩

/-- A machine around the component can render it now, and the component survives it. -/
def Renders {Machine : Type} (view : Machine → Component paintable) (render : Machine → Option Machine)
    (machine : Machine) : Prop :=
  ∃ after screen, render machine = some after ∧ (view after).screen = some screen

/-- If the machine renders while the component is mounted and not otherwise, this is what `Safe` says. -/
theorem renders_iff_safe {Machine : Type} {view : Machine → Component paintable} {render : Machine → Option Machine}
    {machine : Machine} (unmounted : (view machine).screen = none → render machine = none)
    (mounted : ∀ screen, (view machine).screen = some screen →
      ∃ after, render machine = some after ∧ view after = (view machine).render) :
    Renders view render machine ↔ (view machine).Safe := by
  constructor
  · rintro ⟨after, screen, run, shown⟩
    cases before : (view machine).screen with
    | none =>
      rw [unmounted before] at run
      cases run
    | some old =>
      obtain ⟨next, again, same⟩ := mounted old before
      obtain rfl : after = next := Option.some.inj (run.symm.trans again)
      rw [same] at shown
      have painted := screen.painted
      rw [paint_screen shown] at painted
      exact ⟨⟨old, before⟩, painted⟩
  · rintro ⟨⟨screen, shown⟩, accepted⟩
    obtain ⟨after, run, same⟩ := mounted screen shown
    refine ⟨after, ⟨(view machine).queued, accepted⟩, run, ?_⟩
    rw [same]
    exact render_screen accepted

theorem safe_mount {state : State} (painted : paintable state = true) :
    Safe (⟨state, some ⟨state, painted⟩⟩ : Component paintable) :=
  ⟨⟨_, rfl⟩, painted⟩

theorem Safe.render (safe : Safe component) : Safe component.render :=
  ⟨⟨_, render_screen safe.2⟩, by rw [render_queued]; exact safe.2⟩

theorem Safe.setState {lane : Lane} {update : State → State} (safe : Safe component)
    (keeps : ∀ state, paintable state = true → paintable (update state) = true) :
    Safe (component.setState lane update) := by
  obtain ⟨⟨screen, shown⟩, accepted⟩ := safe
  exact ⟨setState_mounted shown keeps, by rw [setState_queued]; exact keeps _ accepted⟩

/-- A deferred update is safe exactly if its own result can be rendered. -/
theorem Safe.setState_deferred {update : State → State} (safe : Safe component) :
    Safe (component.setState .deferred update) ↔ paintable (update component.queued) = true :=
  and_iff_right safe.1

/-- At the first render, the queued state is on the screen. -/
theorem holds_mount {state : State} (holds : P state) (painted : paintable state = true) :
    Holds P ⟨state, some ⟨state, painted⟩⟩ := by
  refine ⟨holds, fun screen shown => ?_⟩
  cases shown
  exact holds

theorem Holds.render (holds : Holds P component) : Holds P component.render := by
  refine ⟨by simpa using holds.1, fun screen shown => ?_⟩
  rw [paint_screen shown]
  exact holds.1

theorem Holds.setState {lane : Lane} {update : State → State} (holds : Holds P component)
    (preserved : ∀ state, P state → P (update state)) : Holds P (component.setState lane update) := by
  refine ⟨by simpa using preserved _ holds.1, fun screen shown => ?_⟩
  obtain ⟨before, present, ⟨_, rfl⟩ | ⟨_, same⟩⟩ := setState_screen shown
  · exact holds.2 _ present
  · rw [same]
    exact preserved _ (holds.2 before present)

/-- A discrete update that establishes a fact establishes it on the screen as well. -/
theorem holds_discrete {update : State → State} (always : ∀ state, P (update state)) :
    Holds P (component.setState .discrete update) := by
  refine ⟨by simpa using always _, fun screen shown => ?_⟩
  obtain ⟨before, _, ⟨other, _⟩ | ⟨_, same⟩⟩ := setState_screen shown
  · cases other
  · rw [same]
    exact always _

theorem holds_setState_deferred {update : State → State} :
    Holds P (component.setState .deferred update) ↔
      P (update component.queued) ∧ ∀ screen, component.screen = some screen → P screen.state :=
  Iff.rfl

/-- A discrete update that keeps the component mounted is on the screen at once. -/
theorem holds_setState_discrete {update : State → State}
    (keeps : ∀ state, paintable state = true → paintable (update state) = true) :
    Holds P (component.setState .discrete update) ↔
      P (update component.queued) ∧ ∀ screen, component.screen = some screen → P (update screen.state) := by
  unfold Holds
  rw [setState_queued]
  refine and_congr_right fun _ => ?_
  constructor
  · intro holds screen shown
    have accepted := keeps screen.state screen.painted
    exact holds ⟨update screen.state, accepted⟩ (by simp only [setState, shown, paint, accepted, dif_pos])
  · intro holds screen shown
    obtain ⟨before, present, ⟨other, _⟩ | ⟨_, same⟩⟩ := setState_screen shown
    · cases other
    · rw [same]
      exact holds before present

theorem Holds.mono {Q : State → Prop} (holds : Holds P component) (weaker : ∀ state, P state → Q state) :
    Holds Q component :=
  ⟨weaker _ holds.1, fun screen shown => weaker _ (holds.2 screen shown)⟩

end Component

end React
