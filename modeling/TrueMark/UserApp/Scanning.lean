import TrueMark.UserApp.Progress

namespace TrueMark.UserApp
open Ecma Aptos Qr React Runs

/-- The scanner is there exactly while the render shows it, and belongs to a render that showed it. -/
structure ScannerFollows (app : App) : Prop where
  shown : ∀ screen, app.component.screen = some screen → app.scanner.isSome = screen.state.showScanner
  unmounted : app.component.screen = none → app.scanner = none
  opener : ∀ closure, app.scanner = some closure → closure.state.showScanner = true

section Step

variable {environment : Environment} {app after : App} {event : Event}

theorem ScannerFollows.commit (follows : ScannerFollows app) {next : Component paintable}
    (mounted : ∀ screen, next.screen = some screen → ∃ before, app.component.screen = some before) :
    ScannerFollows (app.commit next) := by
  unfold App.commit
  split
  · rename_i before after wasShown isShown
    have matched := follows.shown before wasShown
    refine ⟨fun screen shown => ?_, fun unmounted => ?_, fun closure opened => ?_⟩
    · obtain rfl : after = screen := Option.some.inj (isShown.symm.trans shown)
      dsimp only
      split
      · rename_i same
        rw [same, matched]
      · split
        · rename_i showing
          rw [showing, Option.isSome_some]
        · rename_i closed
          simpa using closed
    · exact absurd (isShown.symm.trans unmounted) nofun
    · dsimp only at opened
      split at opened
      · exact follows.opener closure opened
      · split at opened
        · rename_i showing
          cases opened
          exact showing
        · cases opened
  · rename_i unseen
    refine ⟨fun screen shown => ?_, fun _ => rfl, nofun⟩
    obtain ⟨before, wasShown⟩ := mounted screen shown
    exact absurd shown (unseen before screen wasShown)

theorem ScannerFollows.setState (follows : ScannerFollows app) (lane : Lane) (update : Cells → Cells) :
    ScannerFollows (app.setState lane update) := by
  refine follows.commit fun screen shown => ?_
  obtain ⟨before, present, _⟩ := Component.setState_screen shown
  exact ⟨before, present⟩

/-- The other fields of the app have no part in it. -/
theorem ScannerFollows.congr (follows : ScannerFollows app) (component : after.component = app.component)
    (scanner : after.scanner = app.scanner) : ScannerFollows after := by
  refine ⟨?_, ?_, ?_⟩
  · rw [component, scanner]
    exact follows.shown
  · rw [component, scanner]
    exact follows.unmounted
  · rw [scanner]
    exact follows.opener

theorem ScannerFollows.step (follows : ScannerFollows app) (run : step environment app event = some after) :
    ScannerFollows after := by
  rcases step_updates run with ⟨rfl, rfl⟩ | updates
  · exact follows.commit fun _ _ => step_mounted run
  · have ticked : ScannerFollows (app.tick event) := follows.congr (app.tick_component event) (app.tick_scanner event)
    refine (ticked.setState event.lane (updateOf environment app event)).congr ?_ updates.scanner
    rw [updates.component, App.setState_component]

end Step

section Reopen

variable {environment : Environment} {app : App} {screen : Closure}

/-- A click is on the screen at once, and opens or closes the scanner if it has to. -/
theorem setState_discrete_scanner (shown : app.component.screen = some screen) (update : Cells → Cells)
    (accepted : paintable (update screen.state) = true) :
    (app.setState .discrete update).component.screen = some ⟨update screen.state, accepted⟩ ∧
      (app.setState .discrete update).scanner =
        if (update screen.state).showScanner = screen.state.showScanner then app.scanner
        else if (update screen.state).showScanner then some ⟨update screen.state, accepted⟩ else none := by
  have painted := Component.setState_discrete shown accepted
  refine ⟨by rw [App.setState_component, painted], ?_⟩
  simp only [App.setState, App.commit, shown, painted]

/-- The user's way to the scanner: out of the old one if it is open, the field emptied, and into a new one. -/
def reopen (screen : Closure) : List Event :=
  (if screen.state.showScanner then [.clickCancel] else []) ++ [.edit [], .clickScan]

theorem edit_open (environment : Environment) (shown : app.component.screen = some screen)
    (closed : screen.state.showScanner = false) :
    ∃ after closure, Reach (step environment) anything app [.edit [], .clickScan] after ∧
      after.component.screen = some closure ∧ after.scanner = some closure ∧ productIdOf closure = [] := by
  let field : Closure := ⟨screen.state.setProductId (.string []), paintable_edit [] screen.painted⟩
  have edited : step environment app (.edit []) = some (app.setState .discrete (·.setProductId (.string []))) := by
    simp only [step, shown]
  have fieldShown : (app.setState .discrete (·.setProductId (.string []))).component.screen = some field :=
    (setState_discrete_scanner shown _ (paintable_edit [] screen.painted)).1
  have clicked : step environment (app.setState .discrete (·.setProductId (.string []))) .clickScan =
      some ((app.setState .discrete (·.setProductId (.string []))).setState .discrete (·.setShowScanner true)) := by
    simp only [step, fieldShown]
  obtain ⟨openShown, opened⟩ := setState_discrete_scanner fieldShown (·.setShowScanner true) field.painted
  have different : (field.state.setShowScanner true).showScanner ≠ field.state.showScanner := by
    rw [show field.state.showScanner = false from closed]
    exact Bool.noConfusion
  rw [if_neg different] at opened
  exact ⟨_, ⟨field.state.setShowScanner true, field.painted⟩,
    .prepend trivial edited (.prepend trivial clicked .start), openShown, opened, rfl⟩

theorem reopen_run (environment : Environment) (shown : app.component.screen = some screen) :
    ∃ after closure, Reach (step environment) anything app (reopen screen) after ∧
      after.component.screen = some closure ∧ after.scanner = some closure ∧ productIdOf closure = [] := by
  cases showing : screen.state.showScanner with
  | false =>
    simp only [reopen, showing, Bool.false_eq_true, if_false, List.nil_append]
    exact edit_open environment shown showing
  | true =>
    have cancelled : step environment app .clickCancel = some (app.setState .discrete (·.setShowScanner false)) := by
      simp only [step, shown, showing, if_true]
    have closedShown := (setState_discrete_scanner shown (·.setShowScanner false) screen.painted).1
    obtain ⟨after, closure, reach, ready⟩ := edit_open environment closedShown rfl
    simp only [reopen, showing, if_true]
    exact ⟨after, closure, .prepend trivial cancelled reach, ready⟩

/-- Over an empty field, an accepted code is observed and puts its own result on display. -/
theorem scan_empty_shows (environment : Environment) {closure : Closure} (opened : app.scanner = some closure)
    (empty : productIdOf closure = []) (shown : app.component.screen = some screen) {decodedText : JsString}
    {now : TimeValue} {properties : Properties}
    (parsed : Json.parse decodedText = some (.object properties))
    (valid : (verifyQRCode environment.engine environment.signer now (.object properties)).isValid = true) :
    ∃ after, step environment app (.scan decodedText now) = some after ∧
      .scanned decodedText now ∈ after.trace ∧
      after.component.queued.result = some (offlineResult environment properties) := by
  have run : step environment app (.scan decodedText now) =
      some (onScan environment closure decodedText now app) := by
    simp only [step, shown, opened, Option.map_some]
  have observed : .scanned decodedText now ∈ (onScan environment closure decodedText now app).trace := by
    obtain ⟨scanned, continues, _, _, _, trace⟩ := onScan_accepted closure app parsed valid
    rw [continues]
    rcases handleVerify_frame .deferred closure scanned with ⟨_, _, _, _, more⟩ | ⟨_, _, _, more⟩ <;>
      simp [more, trace]
  refine ⟨_, run, observed, ?_⟩
  have display := step_queued run
  have written : writeOf environment app (.scan decodedText now) =
      .offline (offlineResult environment properties) (js "Please enter a product ID") := by
    have refused : idError (cleanProductId (productIdOf closure)) = some (js "Please enter a product ID") := by
      rw [empty]
      rfl
    simp only [writeOf, opened, Option.map_some, Option.getD_some, scanWrite, parsed, valid, if_true, refused,
      ownProperties]
  rw [written] at display
  exact congrArg Display.result display

end Reopen

end TrueMark.UserApp
