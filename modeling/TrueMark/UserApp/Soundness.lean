import TrueMark.UserApp.Tickets

namespace TrueMark.UserApp
open Ecma Aptos Qr React Runs

/-- The two ways to earn a verdict: a scanned code that was accepted when it
was scanned, or one view call and its own answer. -/
inductive Justified (environment : Environment) (trace : List Observation) (result : ProductResult) : Prop
  | scan {decodedText : JsString} {now : TimeValue} {properties : Properties} :
      .scanned decodedText now ∈ trace → Json.parse decodedText = some (.object properties) →
      (verifyQRCode environment.engine environment.signer now (.object properties)).isValid = true →
      result.serialNumber = properties.get (js "id") → result.productName = properties.get (js "name") →
      result.manufacturer = properties.get (js "manufacturer") → Justified environment trace result
  | view {ticket : Nat} {clean : JsString} {name manufacturer flag : JsValue} :
      [.called ticket (viewPayload environment clean),
        .answered ticket (.resolved (.array [name, manufacturer, flag]))].Sublist trace →
      name.truthy = true → manufacturer.truthy = true → flag.truthy = true →
      result.serialNumber = .string clean → result.productName = name → result.manufacturer = manufacturer →
      Justified environment trace result

theorem Justified.extend {environment : Environment} {trace : List Observation} {result : ProductResult}
    (justified : Justified environment trace result) (more : List Observation) :
    Justified environment (trace ++ more) result := by
  cases justified with
  | scan scanned parsed valid serial name manufacturer =>
    exact .scan (List.mem_append_left _ scanned) parsed valid serial name manufacturer
  | view calls nameTruthy manufacturerTruthy flagTruthy serial name manufacturer =>
    exact .view (calls.trans (List.sublist_append_left ..)) nameTruthy manufacturerTruthy flagTruthy serial name
      manufacturer

/-- Every panel that says authentic has its reason in the trace. -/
def PanelSound (environment : Environment) (trace : List Observation) (cells : Cells) : Prop :=
  ∀ result, cells.result = some result → result.isAuthentic.truthy = true → Justified environment trace result

/-- A verification that waits for an answer has made its own call. -/
def CallsMade (environment : Environment) (app : App) : Prop :=
  ∀ verification ∈ app.verifications, verification.phase = .querying →
    .called verification.ticket (viewPayload environment verification.cleanProductId) ∈ app.trace

theorem pair_sublist {first second : Observation} {trace rest : List Observation} (member : first ∈ trace) :
    [first, second].Sublist (trace ++ second :: rest) :=
  (List.singleton_sublist.mpr member).append (List.singleton_sublist.mpr List.mem_cons_self)

section Step

variable {environment : Environment} {app after : App} {event : Event}

/-- Whatever a step newly shows as authentic, it justifies in the same step. -/
theorem shows_justified (production : environment.dev = false) (calls : CallsMade environment app) {write : Write}
    {verifications : List Verification} {tickets : Nat} {observations : List Observation}
    (progress : Progress environment app event write verifications tickets observations) {result : ProductResult}
    (shows : write.shows = some result) (authentic : result.isAuthentic.truthy = true) :
    Justified environment (app.trace ++ observations) result := by
  cases progress with
  | quiet => cases shows
  | refused => cases shows
  | started => cases shows
  | scanRejected => cases shows
  | scanRefused parsed valid =>
    cases shows
    exact .scan (List.mem_append_right _ List.mem_cons_self) parsed valid rfl rfl rfl
  | scanStarted => cases shows
  | connected => cases shows
  | called => cases shows
  | @ended verification isConnected now outcome member waiting early =>
    -- In production the only end before the view call is a failure.
    rcases earlyOutcome_some early with ⟨_, rfl⟩ | ⟨_, development, _⟩
    · cases shows
    · rw [production] at development
      cases development
  | @answered verification reply now member waiting =>
    cases outcome : readResponse environment verification.cleanProductId reply now with
    | error message =>
      rw [outcome] at shows
      cases shows
    | ok shown =>
      rw [outcome] at shows
      cases shows
      obtain ⟨name, manufacturer, flag, rfl, nameTruthy, manufacturerTruthy, serial, sameName, sameManufacturer,
        sameFlag⟩ := readResponse_ok outcome
      rw [sameFlag] at authentic
      have made := calls verification member waiting
      exact .view (pair_sublist made) nameTruthy manufacturerTruthy authentic serial sameName sameManufacturer

theorem PanelSound.step (production : environment.dev = false) (calls : CallsMade environment app)
    (sound : app.component.Holds (PanelSound environment app.trace)) (run : step environment app event = some after) :
    after.component.Holds (PanelSound environment after.trace) := by
  obtain ⟨observations, trace, progress⟩ := step_progress run
  rw [trace]
  have extended : app.component.Holds (PanelSound environment (app.trace ++ observations)) :=
    sound.mono fun cells holds result shown authentic => (holds result shown authentic).extend observations
  rcases step_component run with ⟨_, component⟩ | ⟨update, component, performs, _⟩
  · rw [component]
    exact extended.render
  · rw [component]
    refine extended.setState fun cells holds result shown authentic => ?_
    have written : ((writeOf environment app event).apply cells.display).result = some result := by
      rw [← performs cells]
      exact shown
    rcases Write.apply_result written with new | old
    · exact shows_justified production calls progress new authentic
    · exact holds result old authentic

theorem CallsMade.step (calls : CallsMade environment app) (run : step environment app event = some after) :
    CallsMade environment after := by
  obtain ⟨observations, trace, progress⟩ := step_progress run
  intro verification member querying
  rw [trace]
  have kept (old : verification ∈ app.verifications) :
      .called verification.ticket (viewPayload environment verification.cleanProductId) ∈ app.trace ++ observations :=
    List.mem_append_left _ (calls verification old querying)
  generalize after.verifications = verifications at progress member
  generalize after.tickets = tickets at progress
  generalize writeOf environment app event = write at progress
  cases progress with
  | quiet => exact kept member
  | refused => exact kept member
  | scanRejected => exact kept member
  | scanRefused => exact kept member
  | started | scanStarted =>
    rcases List.mem_append.mp member with old | new
    · exact kept old
    · rw [List.mem_singleton] at new
      rw [new] at querying
      cases querying
  | connected =>
    rcases mem_advance member with moved | ⟨old, _⟩
    · rw [moved] at querying
      cases querying
    · exact kept old
  | called =>
    rcases mem_advance member with moved | ⟨old, _⟩
    · rw [moved]
      exact List.mem_append_right _ List.mem_cons_self
    · exact kept old
  | ended => exact kept (List.mem_of_mem_erase member)
  | answered => exact kept (List.mem_of_mem_erase member)

end Step

/-- Every verdict on the screen has its reason in what happened before: an
accepted scan with its own values, or one call and the answer to that call. -/
theorem authentic_justified {environment : Environment} (production : environment.dev = false) {events : List Event}
    {app : App} (reach : Reach (step environment) anything .initial events app) {screen : Closure}
    (shown : app.component.screen = some screen) {result : ProductResult}
    (panel : screen.state.result = some result) (authentic : result.isAuthentic.truthy = true) :
    Justified environment app.trace result ∧
      ∀ ticket payload other, .called ticket payload ∈ app.trace → .called ticket other ∈ app.trace →
        payload = other := by
  have sound : app.component.Holds (PanelSound environment app.trace) ∧ CallsMade environment app := by
    refine Reach.invariant (P := fun app =>
      app.component.Holds (PanelSound environment app.trace) ∧ CallsMade environment app) ⟨?_, ?_⟩ ?_ reach
    · refine Component.holds_mount ?_ rfl
      intro result shown
      cases shown
    · intro verification member
      cases member
    · intro before event after holds _ run
      exact ⟨PanelSound.step production holds.2 holds.1 run, holds.2.step run⟩
  have tickets : TicketsDistinct app :=
    Reach.invariant ticketsDistinct_initial (fun holds _ run => holds.step run) reach
  exact ⟨sound.1.2 screen shown result panel authentic, tickets.once⟩

theorem authentic_justified_cleanSuccess :
    ∃ app screen result, Reach (step sampleEnvironment) anything .initial cleanSuccess app ∧
      app.component.screen = some screen ∧ screen.state.result = some result ∧
      Justified sampleEnvironment app.trace result := by
  have reach := reach_iff_follow.mpr (rfl : follow (step sampleEnvironment) .initial cleanSuccess = some _)
  exact ⟨_, _, _, reach, rfl, rfl, (authentic_justified rfl reach rfl rfl rfl).1⟩

end TrueMark.UserApp
