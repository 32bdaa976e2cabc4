import TrueMark.UserApp.Display

namespace TrueMark.UserApp
open Ecma Aptos Qr React Runs

/-- No verdict next to a failure. -/
def Exclusive (cells : Cells) : Prop := cells.error ≠ [] → cells.result = none

/-- The scanned text parses to a payload that `verifyQRCode` accepts. -/
def acceptsScan (environment : Environment) (decodedText : JsString) (now : TimeValue) : Bool :=
  match Json.parse decodedText with
  | some qrData => (verifyQRCode environment.engine environment.signer now qrData).isValid
  | none => false

/-- The steps that keep verdicts and failures apart. A click that fails the id
checks and a rejected scan find no result, an accepted scan starts a
verification that passes the id checks, and a success finds no error. -/
def Harmless (environment : Environment) (app : App) : Event → Prop
  | .clickVerify => ∀ screen, app.component.screen = some screen →
      idError (cleanProductId (productIdOf screen)) ≠ none →
      app.component.queued.result = none ∧ screen.state.result = none
  | .scan decodedText now => ∀ closure, app.scanner = some closure →
      if acceptsScan environment decodedText now = true then idError (cleanProductId (productIdOf closure)) = none
      else app.component.queued.result = none
  | .resumed _ isConnected _ => isConnected = true → environment.dev = true → app.component.queued.error = []
  | .response _ reply _ => namesProduct reply = true → app.component.queued.error = []
  | _ => True

/-- What a write must find on the display, so as not to leave both behind. -/
def Write.Fits : Write → Display → Prop
  | .warn error, display => error ≠ [] → display.result = none
  | .offline _ error, _ => error = []
  | .succeed _, display => display.error = []
  | _, _ => True

theorem Write.exclusive_iff {write : Write} {update : Cells → Cells} (performs : write.Performs update) {cells : Cells}
    (exclusive : Exclusive cells) : Exclusive (update cells) ↔ write.Fits cells.display := by
  have error : (update cells).error = (write.apply cells.display).error := congrArg Display.error (performs cells)
  have result : (update cells).result = (write.apply cells.display).result := congrArg Display.result (performs cells)
  unfold Exclusive
  rw [error, result]
  cases write with
  | keep => exact iff_of_true exclusive trivial
  | reset => simp [Write.apply, Write.Fits]
  | warn message => exact Iff.rfl
  | offline shown message => simp [Write.apply, Write.Fits]
  | succeed shown => simp [Write.apply, Write.Fits]
  | fail message => simp [Write.apply, Write.Fits]

theorem idError_nonempty {clean error : JsString} (refused : idError clean = some error) : error ≠ [] := by
  unfold idError at refused
  split at refused
  · cases refused
    decide
  · split at refused
    · cases refused
    · cases refused
      decide

theorem scanError_nonempty (result : VerificationResult) : scanError result ≠ [] := by
  unfold scanError
  split
  · split
    · decide
    · assumption
  · decide

theorem verifyWrite_fits (closure : Closure) (display : Display) :
    (verifyWrite closure).Fits display ↔
      (idError (cleanProductId (productIdOf closure)) ≠ none → display.result = none) := by
  unfold verifyWrite
  split
  · rename_i error refused
    have nonempty := idError_nonempty refused
    simp [Write.Fits, nonempty, refused]
  · rename_i passed
    simp [Write.Fits, passed]

theorem scanWrite_fits (environment : Environment) (closure : Closure) (decodedText : JsString) (now : TimeValue)
    (display : Display) :
    (scanWrite environment closure decodedText now).Fits display ↔
      if acceptsScan environment decodedText now = true then idError (cleanProductId (productIdOf closure)) = none
      else display.result = none := by
  cases parsed : Json.parse decodedText with
  | none =>
    have nonempty := environment.engine.syntaxMessage_nonempty decodedText
    simp [scanWrite, acceptsScan, parsed, Write.Fits, nonempty]
  | some qrData =>
    by_cases valid : (verifyQRCode environment.engine environment.signer now qrData).isValid = true
    · simp only [scanWrite, acceptsScan, parsed, valid, if_true]
      cases checked : idError (cleanProductId (productIdOf closure)) with
      | none => simp [Write.Fits]
      | some error =>
        have nonempty := idError_nonempty checked
        simp [Write.Fits, nonempty]
    · have nonempty := scanError_nonempty (verifyQRCode environment.engine environment.signer now qrData)
      simp [scanWrite, acceptsScan, parsed, valid, Write.Fits, nonempty]

theorem readResponse_fits (environment : Environment) (clean : JsString) (reply : Reply) (now : TimeValue)
    (display : Display) :
    (outcomeWrite (readResponse environment clean reply now)).Fits display ↔
      (namesProduct reply = true → display.error = []) := by
  unfold readResponse
  split
  · simp [namesProduct, outcomeWrite, Write.Fits]
  · rename_i name manufacturer flag
    by_cases truthy : (name.truthy && manufacturer.truthy) = true
    · simp only [namesProduct, truthy, if_true, outcomeWrite, Write.Fits, true_implies]
    · simp only [namesProduct, truthy, outcomeWrite, Write.Fits, false_implies, Bool.false_eq_true, if_false]
  · rename_i value other
    have nameless : namesProduct (.resolved value) = false := by
      unfold namesProduct
      split
      · rename_i name manufacturer flag same
        exact absurd (Reply.resolved.inj same) (other name manufacturer flag)
      · rfl
    simp only [nameless, outcomeWrite, Write.Fits, Bool.false_eq_true, false_implies]

theorem earlyOutcome_fits (environment : Environment) (verification : Verification) (isConnected : Bool)
    (now : TimeValue) (display : Display) :
    (((earlyOutcome environment verification isConnected now).map outcomeWrite).getD .keep).Fits display ↔
      (isConnected = true → environment.dev = true → display.error = []) := by
  unfold earlyOutcome
  cases isConnected with
  | false => simp [outcomeWrite, Write.Fits]
  | true =>
    by_cases development : environment.dev = true
    · simp [development, outcomeWrite, Write.Fits]
    · simp [development, Write.Fits]

/-- The condition on a step says what its write needs, on what is queued and on the screen. -/
theorem harmless_iff {environment : Environment} {app after : App} {event : Event}
    (run : step environment app event = some after) :
    Harmless environment app event ↔ (writeOf environment app event).Fits app.component.queued.display ∧
      (event.lane = .discrete → ∀ screen, app.component.screen = some screen →
        (writeOf environment app event).Fits screen.state.display) := by
  cases event with
  | clickVerify =>
    cases step_turn run with
    | verify shown =>
      simp only [Harmless, writeOf, shown, Option.map_some, Option.getD_some, verifyWrite_fits, Event.lane,
        Option.some.injEq, forall_eq', true_implies]
      exact forall_and
  | scan decodedText now =>
    cases step_turn run with
    | scan opened =>
      simp only [Harmless, writeOf, opened, Option.map_some, Option.getD_some, scanWrite_fits, Event.lane,
        Option.some.injEq, forall_eq', reduceCtorEq, false_implies, and_true]
      exact Iff.rfl
  | resumed verification isConnected now =>
    simp only [Harmless, writeOf, earlyOutcome_fits, Event.lane, reduceCtorEq, false_implies, and_true]
    exact Iff.rfl
  | response verification reply now =>
    simp only [Harmless, writeOf, readResponse_fits, Event.lane, reduceCtorEq, false_implies, and_true]
    exact Iff.rfl
  | _ => exact iff_of_true trivial ⟨trivial, fun _ _ _ => trivial⟩

/-- One step keeps verdicts and failures apart exactly if it is harmless. -/
theorem exclusive_step_iff {environment : Environment} {app after : App} {event : Event}
    (exclusive : app.component.Holds Exclusive) (run : step environment app event = some after) :
    after.component.Holds Exclusive ↔ Harmless environment app event := by
  rw [harmless_iff run]
  rcases step_component run with ⟨rfl, component⟩ | ⟨update, component, performs, keeps⟩
  · rw [component]
    exact iff_of_true exclusive.render ⟨trivial, nofun⟩
  · rw [component]
    have queued := Write.exclusive_iff performs exclusive.1
    cases lane : event.lane with
    | deferred =>
      rw [Component.holds_setState_deferred, queued]
      exact and_congr_right fun _ => iff_of_true exclusive.2 nofun
    | discrete =>
      rw [Component.holds_setState_discrete (keeps lane), queued]
      refine and_congr_right fun _ => ?_
      simp only [true_implies]
      exact forall_congr' fun screen => forall_congr' fun shown =>
        Write.exclusive_iff performs (exclusive.2 screen shown)

/-- A run never has a verdict next to a failure, queued or on the screen,
exactly if all its steps are harmless. -/
theorem exclusive_throughout_iff {environment : Environment} {events : List Event} {app : App}
    (reach : Reach (step environment) anything .initial events app) :
    Throughout (step environment) .initial events (fun reached => reached.component.Holds Exclusive) ↔
      Reach (step environment) (Harmless environment) .initial events app := by
  refine throughout_iff (Component.holds_mount ?_ rfl) exclusive_step_iff reach
  exact fun failed => absurd rfl failed

/-- A first verification succeeds, and then the scanner decodes a text that is no JSON. -/
def scanAfterSuccess : List Event :=
  cleanSuccess ++ [.clickScan, .scan (js "counterfeit") sampleTime, .render]

theorem exclusive_violated :
    ∃ app screen result, Reach (step sampleEnvironment) anything .initial scanAfterSuccess app ∧
      app.component.screen = some screen ∧ screen.state.error ≠ [] ∧ screen.state.result = some result ∧
      result.isAuthentic.truthy = true :=
  ⟨_, _, _, reach_iff_follow.mpr rfl, rfl, by decide, rfl, rfl⟩

theorem exclusive_cleanSuccess :
    ∃ app screen result, Throughout (step sampleEnvironment) .initial cleanSuccess
        (fun reached => reached.component.Holds Exclusive) ∧
      Reach (step sampleEnvironment) anything .initial cleanSuccess app ∧ app.component.screen = some screen ∧
      screen.state.result = some result := by
  have guarded : ∃ app, Reach (step sampleEnvironment) (Harmless sampleEnvironment) .initial cleanSuccess app ∧
      ∃ screen result, app.component.screen = some screen ∧ screen.state.result = some result := by
    refine ⟨_, .prepend trivial rfl (.prepend ?_ rfl (.prepend trivial rfl (.prepend ?_ rfl (.prepend ?_ rfl
      (.prepend trivial rfl .start))))), _, _, rfl, rfl⟩
    · rintro screen shown refused
      cases shown
      exact absurd rfl refused
    · exact fun _ _ => rfl
    · exact fun _ => rfl
  obtain ⟨app, harmless, screen, result, shown, panel⟩ := guarded
  have reach := harmless.unguarded
  exact ⟨app, screen, result, (exclusive_throughout_iff reach).mpr harmless, reach, shown, panel⟩

end TrueMark.UserApp
