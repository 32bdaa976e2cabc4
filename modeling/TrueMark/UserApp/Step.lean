import TrueMark.Runs.Reach
import TrueMark.UserApp.Handlers
import TrueMark.Qr.RoundTrip

namespace TrueMark.UserApp
open Ecma Aptos Qr React

/-- Everything that can happen to the app, one event loop turn at a time. -/
inductive Event
  | edit (text : JsString)
  | clickVerify
  | clickScan
  | clickCancel
  | scan (decodedText : JsString) (now : TimeValue)
  | render
  | interval
  | timer (retryCount : Nat)
  | checked (retryCount : Nat) (reply : Reply)
  | connection (verification : Verification) (retryCount : Nat) (reply : Reply)
  | resumed (verification : Verification) (isConnected : Bool) (now : TimeValue)
  | response (verification : Verification) (reply : Reply) (now : TimeValue)

/-- One event, where it is possible. Nothing is left to happen once the app is unmounted. -/
def step (environment : Environment) (app : App) (event : Event) : Option App :=
  match app.component.screen with
  | none => none
  | some screen =>
    match event with
    | .edit text => some (app.setState .discrete (·.setProductId (.string text)))
    | .clickVerify => if trim (productIdOf screen) = [] then none else some (handleVerify .discrete screen app)
    | .clickScan => some (app.setState .discrete (·.setShowScanner true))
    | .clickCancel => if screen.state.showScanner then some (app.setState .discrete (·.setShowScanner false)) else none
    | .scan decodedText now => app.scanner.map fun closure => onScan environment closure decodedText now app
    | .render => some (app.commit app.component.render)
    | .interval => some { app with checks := app.checks ++ [screen.state.retryCount] }
    | .timer retryCount =>
      if retryCount ∈ app.timers then
        some { app with timers := app.timers.erase retryCount, checks := app.checks ++ [retryCount] }
      else none
    | .checked retryCount reply =>
      if retryCount ∈ app.checks then
        some (checkBlockchainConnection retryCount reply { app with checks := app.checks.erase retryCount }).2
      else none
    | .connection verification retryCount reply =>
      if verification ∈ app.verifications ∧ verification.phase = .connecting retryCount then
        let (isConnected, app) := checkBlockchainConnection retryCount reply app
        some (app.advance verification (.connected isConnected))
      else none
    | .resumed verification isConnected now =>
      if verification ∈ app.verifications ∧ verification.phase = .connected isConnected then
        some (resume environment verification isConnected now app)
      else none
    | .response verification reply now =>
      if verification ∈ app.verifications ∧ verification.phase = .querying then
        some (finish verification (readResponse environment verification.cleanProductId reply now)
          (app.observe (.answered verification.ticket reply)))
      else none

/-- The same, as a relation: what has happened, under which conditions, and what it leaves. -/
inductive Turn (environment : Environment) (app : App) : Event → App → Prop
  | edit {text} : Turn environment app (.edit text) (app.setState .discrete (·.setProductId (.string text)))
  | verify {screen} : app.component.screen = some screen → trim (productIdOf screen) ≠ [] →
      Turn environment app .clickVerify (handleVerify .discrete screen app)
  | openScanner : Turn environment app .clickScan (app.setState .discrete (·.setShowScanner true))
  | closeScanner {screen} : app.component.screen = some screen → screen.state.showScanner = true →
      Turn environment app .clickCancel (app.setState .discrete (·.setShowScanner false))
  | scan {closure decodedText now} : app.scanner = some closure →
      Turn environment app (.scan decodedText now) (onScan environment closure decodedText now app)
  | render : Turn environment app .render (app.commit app.component.render)
  | interval {screen} : app.component.screen = some screen →
      Turn environment app .interval { app with checks := app.checks ++ [screen.state.retryCount] }
  | timer {retryCount} : retryCount ∈ app.timers →
      Turn environment app (.timer retryCount)
        { app with timers := app.timers.erase retryCount, checks := app.checks ++ [retryCount] }
  | checked {retryCount reply} : retryCount ∈ app.checks →
      Turn environment app (.checked retryCount reply)
        (checkBlockchainConnection retryCount reply { app with checks := app.checks.erase retryCount }).2
  | connection {verification retryCount reply} : verification ∈ app.verifications →
      verification.phase = .connecting retryCount →
      Turn environment app (.connection verification retryCount reply)
        ((checkBlockchainConnection retryCount reply app).2.advance verification
          (.connected (checkBlockchainConnection retryCount reply app).1))
  | resumed {verification isConnected now} : verification ∈ app.verifications →
      verification.phase = .connected isConnected →
      Turn environment app (.resumed verification isConnected now) (resume environment verification isConnected now app)
  | response {verification reply now} : verification ∈ app.verifications → verification.phase = .querying →
      Turn environment app (.response verification reply now)
        (finish verification (readResponse environment verification.cleanProductId reply now)
          (app.observe (.answered verification.ticket reply)))

theorem step_turn {environment : Environment} {app after : App} {event : Event}
    (run : step environment app event = some after) : Turn environment app event after := by
  unfold step at run
  split at run
  · cases run
  · rename_i screen shown
    -- an event whose guard fails is no step
    cases event <;> dsimp only at run
    case edit text =>
      cases run
      exact .edit
    case clickVerify =>
      split at run
      · cases run
      · rename_i enabled
        cases run
        exact .verify shown enabled
    case clickScan =>
      cases run
      exact .openScanner
    case clickCancel =>
      split at run
      · rename_i scanning
        cases run
        exact .closeScanner shown scanning
      · cases run
    case scan decodedText now =>
      obtain ⟨closure, opened, rfl⟩ := Option.map_eq_some_iff.mp run
      exact .scan opened
    case render =>
      cases run
      exact .render
    case interval =>
      cases run
      exact .interval shown
    case timer retryCount =>
      split at run
      · rename_i armed
        cases run
        exact .timer armed
      · cases run
    case checked retryCount reply =>
      split at run
      · rename_i running
        cases run
        exact .checked running
      · cases run
    case connection verification retryCount reply =>
      split at run
      · rename_i waiting
        cases run
        exact .connection waiting.1 waiting.2
      · cases run
    case resumed verification isConnected now =>
      split at run
      · rename_i waiting
        cases run
        exact .resumed waiting.1 waiting.2
      · cases run
    case response verification reply now =>
      split at run
      · rename_i waiting
        cases run
        exact .response waiting.1 waiting.2
      · cases run

namespace App

variable (app : App) (next : Component paintable) (lane : Lane) (update : Cells → Cells)

@[simp] theorem commit_component : (app.commit next).component = next := by
  unfold commit
  split <;> rfl

@[simp] theorem commit_verifications : (app.commit next).verifications = app.verifications := by
  unfold commit
  split <;> rfl

@[simp] theorem commit_tickets : (app.commit next).tickets = app.tickets := by
  unfold commit
  split <;> rfl

@[simp] theorem commit_trace : (app.commit next).trace = app.trace := by
  unfold commit
  split <;> rfl

@[simp] theorem setState_component : (app.setState lane update).component = app.component.setState lane update :=
  app.commit_component _

@[simp] theorem setState_verifications : (app.setState lane update).verifications = app.verifications :=
  app.commit_verifications _

@[simp] theorem setState_tickets : (app.setState lane update).tickets = app.tickets := app.commit_tickets _

@[simp] theorem setState_trace : (app.setState lane update).trace = app.trace := app.commit_trace _

end App

section Enabled

variable (environment : Environment) {app : App} {screen : Closure} {verification : Verification}

theorem advance_mem (member : verification ∈ app.verifications) (phase : Phase) :
    { verification with phase } ∈ (app.advance verification phase).verifications :=
  List.mem_map.mpr ⟨verification, member, if_pos rfl⟩

/-- The node answers the connection check. -/
def ledgerInfo : Reply := .resolved (.object [(js "block_height", .string (js "1"))])

theorem connection_step (shown : app.component.screen = some screen) (member : verification ∈ app.verifications)
    {retryCount : Nat} (waiting : verification.phase = .connecting retryCount) :
    ∃ after, step environment app (.connection verification retryCount ledgerInfo) = some after ∧
      after.component = app.component.setState .deferred (·.setRetryCount fun _ => 0) ∧
      after.verifications = (app.advance verification (.connected true)).verifications := by
  have check : checkBlockchainConnection retryCount ledgerInfo app =
      (true, app.setState .deferred (·.setRetryCount fun _ => 0)) := rfl
  refine ⟨_, by simp only [step, shown, if_pos (And.intro member waiting), check]; rfl, ?_, ?_⟩
  · exact app.setState_component .deferred _
  · simp only [App.advance, App.setState_verifications]

theorem resumed_step (production : environment.dev = false) (shown : app.component.screen = some screen)
    (member : verification ∈ app.verifications) (waiting : verification.phase = .connected true) (now : TimeValue) :
    ∃ after, step environment app (.resumed verification true now) = some after ∧
      after.component = app.component ∧
      after.verifications = (app.advance verification .querying).verifications ∧
      after.trace =
        app.trace ++ [.called verification.ticket (viewPayload environment verification.cleanProductId)] := by
  refine ⟨_, by simp only [step, shown, if_pos (And.intro member waiting)]; rfl, ?_⟩
  simp [resume, production, App.advance, App.observe]

end Enabled

/-- No verification is in flight, and all updates are rendered. -/
def Settled (app : App) (screen : Closure) : Prop :=
  app.verifications = [] ∧ app.component.screen = some screen ∧ screen.state = app.component.queued

/-- A production build, with an address of the demanded form. -/
def sampleEnvironment : Environment where
  dev := false
  contractAddress := sampleAddress
  signer := sampleSigner
  engine := sampleEngine
  localeString _ := js "1/24/2025, 12:00:00 AM"

/-- The node answers a view call with a product. -/
def productFound : Reply :=
  .resolved (.array [.string (js "Luxury Watch"), .string (js "AudioTech Inc."), .boolean true])

/-- A verification that succeeds on a clean display. -/
def cleanSuccess : List Event :=
  [.edit (js "1"), .clickVerify, .connection ⟨0, js "1", .connecting 0⟩ 0 ledgerInfo,
    .resumed ⟨0, js "1", .connected true⟩ true sampleTime, .response ⟨0, js "1", .querying⟩ productFound sampleTime,
    .render]

end TrueMark.UserApp
