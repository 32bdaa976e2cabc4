import TrueMark.UserApp.Reconnection

namespace TrueMark.UserApp
open Ecma Aptos Qr React Runs

/-- The node is down: every connection check that settles is rejected. -/
def Outage (_ : App) (event : Event) : Prop :=
  ∀ retryCount reply, event.check = some (retryCount, reply) → ∃ message, reply = .rejected message

theorem outage_offline (app : App) (retryCount : Nat) : Outage app (.checked retryCount offline) := by
  intro _ _ settles
  cases settles
  exact ⟨_, rfl⟩

theorem outage_unchecked {app : App} {event : Event} (none : event.check = none) : Outage app event := by
  intro _ _ settles
  rw [none] at settles
  cases settles

/-- A rejected check of a render that counts a retry left. -/
def Event.retries (event : Event) : Bool :=
  match event.check with
  | some (retryCount, .rejected _) => retryCount < maxRetries
  | _ => false

/-- A check of that render is under way, or a timer will start one. -/
def Pending (retryCount : Nat) (app : App) : Prop := retryCount ∈ app.checks ∨ retryCount ∈ app.timers

/-- A change that drops no check and no timer. -/
structure KeepsChecks (app after : App) : Prop where
  checks : app.checks ⊆ after.checks
  timers : app.timers ⊆ after.timers

section KeepsChecks

variable {app after : App} {retryCount : Nat}

theorem KeepsChecks.pending (keeps : KeepsChecks app after) (pending : Pending retryCount app) :
    Pending retryCount after := pending.imp (fun member => keeps.checks member) fun member => keeps.timers member

theorem keepsChecks_commit (app : App) (next : Component paintable) : KeepsChecks app (app.commit next) := by
  refine ⟨?_, by rw [App.commit_timers]; exact List.Subset.refl _⟩
  unfold App.commit
  split
  · dsimp only
    split
    · exact List.Subset.refl _
    · exact List.subset_append_left _ _
  · exact List.Subset.refl _

theorem Updates.keepsChecks {lane : Lane} {update : Cells → Cells} (updates : Updates app lane update after) :
    KeepsChecks app after := by
  have kept := (keepsChecks_commit app (app.component.setState lane update)).checks
  exact ⟨updates.checks ▸ kept, updates.timers ▸ List.Subset.refl _⟩

end KeepsChecks

section Step

variable {environment : Environment} {app after : App} {event : Event} {retryCount : Nat}

/-- A chain of retries passes from check to timer and back. It never counts more failures than its first
render did, so it does not come to an end. -/
theorem pending_tick (pending : Pending retryCount app) (early : retryCount < maxRetries) (down : Outage app event) :
    Pending retryCount (app.tick event) := by
  cases event with
  | interval => exact pending.imp_left (List.mem_append_left _)
  | timer fired =>
    rcases pending with running | waiting
    · exact Or.inl (List.mem_append_left _ running)
    · by_cases same : retryCount = fired
      · exact Or.inl (List.mem_append_right _ (List.mem_singleton.mpr same))
      · exact Or.inr ((List.mem_erase_of_ne same).mpr waiting)
  | checked settled reply =>
    rcases pending with running | waiting
    · by_cases same : retryCount = settled
      · subst same
        obtain ⟨message, rfl⟩ := down retryCount reply rfl
        refine Or.inr (List.mem_append_right _ ?_)
        rw [retryTimers, if_pos early]
        exact List.mem_cons_self
      · exact Or.inl ((List.mem_erase_of_ne same).mpr running)
    · exact Or.inr (List.mem_append_left _ waiting)
  | connection => exact pending.imp_right (List.mem_append_left _)
  | _ => exact pending

theorem pending_step (pending : Pending retryCount app) (early : retryCount < maxRetries) (down : Outage app event)
    (run : step environment app event = some after) : Pending retryCount after := by
  rcases step_updates run with ⟨rfl, rfl⟩ | updates
  · exact (keepsChecks_commit app _).pending pending
  · exact updates.keepsChecks.pending (pending_tick pending early down)

/-- In an outage the counter counts the retries, and nothing resets it. -/
theorem retryCount_step (down : Outage app event) (run : step environment app event = some after) :
    after.component.queued.retryCount =
      app.component.queued.retryCount + if event.retries then 1 else 0 := by
  cases step_retry run with
  | kept late keeps =>
    have silent : event.retries = false := by
      unfold Event.retries
      split
      · rename_i settled message settles
        exact decide_eq_false (Nat.not_lt.mpr (late settled message settles))
      · rfl
    rw [keeps.queued, silent]
    rfl
  | reset settles =>
    obtain ⟨message, other⟩ := down _ _ settles
    cases other
  | retried settles early component =>
    have retries : event.retries = true := by
      simp only [Event.retries, settles]
      exact decide_eq_true early
    rw [component, Component.setState_queued, retries]
    rfl

/-- A further failure of a chain. -/
theorem retry_check {screen : Closure} (shown : app.component.screen = some screen) (running : retryCount ∈ app.checks)
    (early : retryCount < maxRetries) :
    ∃ later, Reach (step environment) Outage app [.checked retryCount offline] later ∧ Pending retryCount later ∧
      later.component.screen = some screen ∧
      later.component.queued.retryCount = app.component.queued.retryCount + 1 := by
  have run : step environment app (.checked retryCount offline) =
      some (checkBlockchainConnection retryCount offline { app with checks := app.checks.erase retryCount }).2 := by
    simp only [step, shown, if_pos running]
  have down := outage_offline app retryCount
  have retries : (Event.checked retryCount offline).retries = true := decide_eq_true early
  refine ⟨_, .prepend down run .start, pending_step (Or.inl running) early down run, ?_, ?_⟩
  · simp only [checkBlockchainConnection, offline, early, if_true, App.setState_component]
    exact shown
  · rw [retryCount_step down run, retries]
    rfl

/-- The same, where the timer may have to fire first. -/
theorem retry_round {screen : Closure} (shown : app.component.screen = some screen) (pending : Pending retryCount app)
    (early : retryCount < maxRetries) :
    ∃ more later, Reach (step environment) Outage app more later ∧ Pending retryCount later ∧
      later.component.screen = some screen ∧
      later.component.queued.retryCount = app.component.queued.retryCount + 1 := by
  rcases pending with running | waiting
  · obtain ⟨later, round⟩ := retry_check shown running early
    exact ⟨_, later, round⟩
  · let fired : App := { app with timers := app.timers.erase retryCount, checks := app.checks ++ [retryCount] }
    have run : step environment app (.timer retryCount) = some fired := by
      simp only [step, shown, if_pos waiting, fired]
    have mounted : fired.component.screen = some screen := shown
    have running : retryCount ∈ fired.checks := List.mem_append_right app.checks List.mem_cons_self
    obtain ⟨later, reach, round⟩ := retry_check mounted running early
    exact ⟨_, later, .prepend (outage_unchecked rfl) run reach, round⟩

theorem retries_unbounded {screen : Closure} (shown : app.component.screen = some screen)
    (pending : Pending retryCount app) (early : retryCount < maxRetries) (count : Nat) :
    ∃ more later, Reach (step environment) Outage app more later ∧ Pending retryCount later ∧
      later.component.screen = some screen ∧
      later.component.queued.retryCount = app.component.queued.retryCount + count := by
  induction count with
  | zero => exact ⟨[], app, .start, pending, shown, rfl⟩
  | succ count ih =>
    obtain ⟨more, middle, reach, still, mounted, counted⟩ := ih
    obtain ⟨round, later, further, stillLater, shownLater, again⟩ := retry_round mounted still early
    exact ⟨more ++ round, later, reach.append further, stillLater, shownLater, by rw [again, counted, Nat.add_assoc]⟩

end Step

/-- While the node is down, the app never gives up. The chain that the first render started is always
there to go on, the counter has counted every retry since the start, and from a mounted app it can still
rise by any number, with `maxRetries` nowhere in the way. -/
theorem outage_never_ends {environment : Environment} {events : List Event} {app : App}
    (reach : Reach (step environment) Outage .initial events app) :
    Pending 0 app ∧ app.component.queued.retryCount = events.countP Event.retries ∧
      ∀ screen, app.component.screen = some screen → ∀ count, ∃ more later,
        Reach (step environment) Outage app more later ∧
        later.component.queued.retryCount = app.component.queued.retryCount + count := by
  have pending : Pending 0 app :=
    reach.invariant (P := Pending 0) (Or.inl List.mem_cons_self) fun holds down run =>
      pending_step holds (by decide) down run
  refine ⟨pending, ?_, fun screen shown count => ?_⟩
  · clear pending
    induction reach with
    | start => rfl
    | next _ down run ih =>
      rw [List.countP_append, List.countP_singleton, ← ih]
      exact retryCount_step down run
  · obtain ⟨more, later, further, _, _, counted⟩ := retries_unbounded shown pending (by decide) count
    exact ⟨more, later, further, counted⟩

/-- After the last of its three retries the app is as ready as before. -/
theorem outage_never_ends_threeFailures :
    ∃ app more later, Reach (step sampleEnvironment) Outage .initial threeFailures app ∧
      app.component.queued.retryCount = maxRetries ∧ Reach (step sampleEnvironment) Outage app more later ∧
      later.component.queued.retryCount = maxRetries + 1000 := by
  obtain ⟨app, screen, reach, counted, shown⟩ : ∃ app screen,
      Reach (step sampleEnvironment) Outage .initial threeFailures app ∧
      app.component.queued.retryCount = maxRetries ∧ app.component.screen = some screen :=
    ⟨_, _, .prepend (outage_offline _ _) rfl (.prepend (outage_unchecked rfl) rfl (.prepend (outage_offline _ _) rfl
      (.prepend (outage_unchecked rfl) rfl (.prepend (outage_offline _ _) rfl .start)))), rfl, rfl⟩
  obtain ⟨more, later, further, again⟩ := (outage_never_ends reach).2.2 screen shown 1000
  exact ⟨app, more, later, reach, counted, further, by rw [again, counted]⟩

end TrueMark.UserApp
