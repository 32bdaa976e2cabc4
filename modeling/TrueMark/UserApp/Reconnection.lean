import TrueMark.UserApp.Display

namespace TrueMark.UserApp
open Ecma Aptos Qr React Runs

def RetriesBounded (app : App) : Prop := app.component.Holds fun cells => cells.retryCount ≤ maxRetries

/-- A failed check that would retry finds that there is a retry left. -/
def FreshCheck (app : App) (event : Event) : Prop :=
  ∀ retryCount message, event.check = some (retryCount, .rejected message) → retryCount < maxRetries →
    app.component.queued.retryCount < maxRetries

/-- A run without a single successful check. -/
def AllFail (_ : App) (event : Event) : Prop :=
  ∀ retryCount reply, event.check = some (retryCount, reply) → checkFails reply = true

/-- The event leaves one more retry timer behind. -/
def Schedules (environment : Environment) (app : App) (event : Event) : Prop :=
  ∃ after, step environment app event = some after ∧ app.timers.length < after.timers.length

/-- A change that leaves the counter as it is, queued and shown, and sets no timer. -/
structure KeepsRetries (app after : App) : Prop where
  queued : after.component.queued.retryCount = app.component.queued.retryCount
  holds : ∀ P : Nat → Prop, app.component.Holds (fun cells => P cells.retryCount) →
    after.component.Holds fun cells => P cells.retryCount
  timers : after.timers.length ≤ app.timers.length

section Update

variable (environment : Environment) (app : App) {event : Event}

/-- Only the outcome of a connection check changes the counter. -/
theorem updateOf_retryCount (unchecked : event.check = none) (cells : Cells) :
    (updateOf environment app event cells).retryCount = cells.retryCount := by
  cases event with
  | clickVerify =>
    rw [updateOf]
    cases app.component.screen with
    | none => rfl
    | some screen => exact (verifyUpdate_frame cells screen).2.2
  | scan decodedText now =>
    rw [updateOf]
    cases app.scanner with
    | none => rfl
    | some closure => exact (scanUpdate_frame cells environment closure decodedText now).2
  | resumed verification isConnected now =>
    rw [updateOf]
    cases earlyOutcome environment verification isConnected now with
    | none => rfl
    | some outcome => exact (finishUpdate_frame cells outcome).2.2
  | response verification reply now => exact (finishUpdate_frame cells _).2.2
  | checked => cases unchecked
  | connection => cases unchecked
  | _ => rfl

theorem tick_unchecked (unchecked : event.check = none) : (app.tick event).timers.length ≤ app.timers.length := by
  cases event with
  | timer retryCount => exact List.length_erase_le ..
  | checked => cases unchecked
  | connection => cases unchecked
  | _ => exact le_rfl

theorem updateOf_checked {retryCount : Nat} {reply : Reply} (settles : event.check = some (retryCount, reply)) :
    event.lane = .deferred ∧ updateOf environment app event = checkUpdate retryCount reply ∧
      (app.tick event).timers = app.timers ++ retryTimers retryCount reply := by
  cases event with
  | checked =>
    cases settles
    exact ⟨rfl, rfl, rfl⟩
  | connection =>
    cases settles
    exact ⟨rfl, rfl, rfl⟩
  | _ => cases settles

end Update

/-- All that an event can do to the retries. -/
inductive Retry (app after : App) (event : Event) : Prop
  | kept : (∀ retryCount message, event.check = some (retryCount, .rejected message) → maxRetries ≤ retryCount) →
      KeepsRetries app after → Retry app after event
  | reset {retryCount ledgerInfo} : event.check = some (retryCount, .resolved ledgerInfo) → ledgerInfo.truthy = true →
      after.component = app.component.setState .deferred (·.setRetryCount fun _ => 0) → after.timers = app.timers →
      Retry app after event
  | retried {retryCount message} : event.check = some (retryCount, .rejected message) → retryCount < maxRetries →
      after.component = app.component.setState .deferred (·.setRetryCount (· + 1)) →
      after.timers = app.timers ++ [retryCount] → Retry app after event

section Step

variable {environment : Environment} {app after : App} {event : Event}

theorem KeepsRetries.render : KeepsRetries app (app.commit app.component.render) := by
  refine ⟨?_, fun P holds => ?_, ?_⟩
  · rw [App.commit_component, Component.render_queued]
  · rw [App.commit_component]
    exact holds.render
  · rw [App.commit_timers]

theorem KeepsRetries.update {lane : Lane} {update : Cells → Cells}
    (component : after.component = app.component.setState lane update)
    (kept : ∀ cells, (update cells).retryCount = cells.retryCount) (timers : after.timers.length ≤ app.timers.length) :
    KeepsRetries app after := by
  refine ⟨?_, fun P holds => ?_, timers⟩
  · rw [component, Component.setState_queued, kept]
  · rw [component]
    refine holds.setState fun cells holds => ?_
    rw [kept]
    exact holds

theorem check_retry {retryCount : Nat} {reply : Reply} (settles : event.check = some (retryCount, reply))
    (component : after.component = app.component.setState .deferred (checkUpdate retryCount reply))
    (timers : after.timers = app.timers ++ retryTimers retryCount reply) : Retry app after event := by
  have kept (idle : checkUpdate retryCount reply = id) (none : retryTimers retryCount reply = [])
      (late : ∀ message, reply = .rejected message → maxRetries ≤ retryCount) : Retry app after event := by
    rw [idle] at component
    rw [none, List.append_nil] at timers
    refine .kept (fun settled message other => ?_) (.update component (fun cells => rfl) (timers ▸ le_rfl))
    rw [settles] at other
    cases other
    exact late message rfl
  cases reply with
  | resolved ledgerInfo =>
    cases answered : ledgerInfo.truthy with
    | true =>
      simp only [checkUpdate, retryTimers, answered, if_true, List.append_nil] at component timers
      exact .reset settles answered component timers
    | false =>
      refine kept (by simp [checkUpdate, answered]) rfl fun message same => ?_
      cases same
  | rejected message =>
    by_cases early : retryCount < maxRetries
    · simp only [checkUpdate, retryTimers, early, if_true] at component timers
      exact .retried settles early component timers
    · exact kept (if_neg early) (if_neg early) fun _ _ => Nat.le_of_not_lt early

theorem step_retry (run : step environment app event = some after) : Retry app after event := by
  rcases step_updates run with ⟨rfl, rfl⟩ | updates
  · exact .kept nofun .render
  · have component := updates.component
    have timers := updates.timers
    rw [App.tick_component] at component
    cases settles : event.check with
    | none =>
      refine .kept (by rw [settles]; nofun) (.update component (updateOf_retryCount environment app settles) ?_)
      rw [timers]
      exact tick_unchecked app settles
    | some check =>
      obtain ⟨lane, update, started⟩ := updateOf_checked environment app settles
      rw [lane, update] at component
      exact check_retry settles component (timers.trans started)

/-- The bound survives exactly the fresh checks. -/
theorem retriesBounded_step (bounded : RetriesBounded app) (run : step environment app event = some after) :
    RetriesBounded after ↔ FreshCheck app event := by
  cases step_retry run with
  | kept late keeps =>
    refine iff_of_true (keeps.holds (· ≤ maxRetries) bounded) fun retryCount message settles early => ?_
    exact absurd (late retryCount message settles) (Nat.not_le_of_lt early)
  | reset settles _ component _ =>
    refine iff_of_true ?_ fun retryCount message other => ?_
    · rw [RetriesBounded, component]
      exact bounded.setState fun cells _ => Nat.zero_le _
    · rw [settles] at other
      cases other
  | retried settles early component _ =>
    rw [RetriesBounded, component, Component.holds_setState_deferred]
    constructor
    · intro holds _ _ _ _
      exact holds.1
    · intro fresh
      exact ⟨fresh _ _ settles early, bounded.2⟩

/-- Once the retries are used up, a run of failures keeps them so, and its fresh checks set no timer. -/
theorem exhausted_step (exhausted : maxRetries ≤ app.component.queued.retryCount) (fails : AllFail app event)
    (run : step environment app event = some after) :
    maxRetries ≤ after.component.queued.retryCount ∧ (¬Schedules environment app event ↔ FreshCheck app event) := by
  have schedules : Schedules environment app event ↔ app.timers.length < after.timers.length := by
    rw [Schedules, run]
    simp only [Option.some.injEq, exists_eq_left']
  rw [schedules]
  cases step_retry run with
  | kept late keeps =>
    refine ⟨keeps.queued ▸ exhausted, iff_of_true (Nat.not_lt_of_le keeps.timers) ?_⟩
    intro retryCount message settles early
    exact absurd (late retryCount message settles) (Nat.not_le_of_lt early)
  | reset settles answered _ _ =>
    have failed := fails _ _ settles
    rw [checkFails, answered] at failed
    cases failed
  | retried settles early component timers =>
    refine ⟨?_, iff_of_false ?_ fun fresh => ?_⟩
    · rw [component, Component.setState_queued]
      exact Nat.le_succ_of_le exhausted
    · rw [timers, List.length_append]
      exact not_not_intro (Nat.lt_succ_self _)
    · exact absurd exhausted (Nat.not_le_of_lt (fresh _ _ settles early))

end Step

theorem retriesBounded_initial : RetriesBounded .initial := by
  refine Component.holds_mount ?_ rfl
  exact Nat.zero_le _

/-- The counter keeps its bound exactly along the runs without a stale check,
and these are also the runs of failures that set no timer once it is reached. -/
theorem reconnection_bounded_iff {environment : Environment} {events : List Event} {app : App}
    (reach : Reach (step environment) anything .initial events app) :
    (Throughout (step environment) .initial events RetriesBounded ↔
        Reach (step environment) FreshCheck .initial events app) ∧
      (maxRetries ≤ app.component.queued.retryCount → ∀ more later, Reach (step environment) AllFail app more later →
        (Never (step environment) app more (Schedules environment) ↔
          Reach (step environment) FreshCheck app more later)) := by
  refine ⟨throughout_iff retriesBounded_initial retriesBounded_step reach, fun exhausted more later fails => ?_⟩
  exact never_iff (P := fun app => maxRetries ≤ app.component.queued.retryCount) exhausted exhausted_step fails

def offline : Reply := .rejected (js "Network Error")

/-- The node is not reachable from the start on, and every failure is rendered before the next one. -/
def threeFailures : List Event := [.checked 0 offline, .render, .checked 1 offline, .render, .checked 2 offline]

theorem allFail_offline (app : App) (retryCount : Nat) : AllFail app (.checked retryCount offline) := by
  intro _ _ settles
  cases settles
  rfl

theorem reconnection_bounded_threeFailures :
    ∃ app later, Reach (step sampleEnvironment) anything .initial threeFailures app ∧
      Throughout (step sampleEnvironment) .initial threeFailures RetriesBounded ∧
      app.component.queued.retryCount = maxRetries ∧
      Reach (step sampleEnvironment) AllFail app [.render, .checked 3 offline] later ∧
      Never (step sampleEnvironment) app [.render, .checked 3 offline] (Schedules sampleEnvironment) := by
  have left {app : App} {event : Event} (below : app.component.queued.retryCount < maxRetries) :
      FreshCheck app event := fun _ _ _ _ => below
  have guarded : ∃ app, Reach (step sampleEnvironment) FreshCheck .initial threeFailures app ∧
      app.component.queued.retryCount = maxRetries ∧ ∃ later,
        Reach (step sampleEnvironment) AllFail app [.render, .checked 3 offline] later ∧
        Reach (step sampleEnvironment) FreshCheck app [.render, .checked 3 offline] later := by
    refine ⟨_, .prepend (left (by decide)) rfl (.prepend nofun rfl (.prepend (left (by decide)) rfl (.prepend nofun rfl
      (.prepend (left (by decide)) rfl .start)))), rfl, _,
      .prepend nofun rfl (.prepend (allFail_offline _ _) rfl .start), .prepend nofun rfl (.prepend ?_ rfl .start)⟩
    intro _ _ settles early
    cases settles
    exact absurd early (Nat.lt_irrefl _)
  obtain ⟨app, fresh, count, later, failing, freshLater⟩ := guarded
  obtain ⟨bounded, quiet⟩ := reconnection_bounded_iff fresh.unguarded
  exact ⟨app, later, fresh.unguarded, bounded.mpr fresh, count, failing, (quiet count.ge _ _ failing).mpr freshLater⟩

/-- The timer of the first failure calls the check of the first render, which
still counts no failure: it fails a fourth time, and sets yet another timer. -/
theorem reconnection_staleTimer :
    ∃ app later, Reach (step sampleEnvironment) anything .initial threeFailures app ∧
      app.component.queued.retryCount = maxRetries ∧
      Reach (step sampleEnvironment) AllFail app [.timer 0, .checked 0 offline] later ∧
      later.component.queued.retryCount = 4 ∧ ¬RetriesBounded later ∧
      ¬Never (step sampleEnvironment) app [.timer 0, .checked 0 offline] (Schedules sampleEnvironment) := by
  refine ⟨_, _, reach_iff_follow.mpr rfl, rfl, .prepend nofun rfl (.prepend (allFail_offline _ _) rfl .start), rfl,
    fun bounded => ?_, fun never => ?_⟩
  · exact absurd bounded.1 (by decide)
  · exact never [.timer 0] (.checked 0 offline) [] _ rfl (reach_iff_follow.mpr rfl) ⟨_, rfl, by decide⟩

end TrueMark.UserApp
