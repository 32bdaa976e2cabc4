import TrueMark.UserApp.Tickets

namespace TrueMark.UserApp
open Ecma Aptos Qr React Runs

/-- In the run `handleVerify` was called on this text: by a click, with the text on the screen, or by an accepted
scan, with the text that was in the field when the scanner was opened. -/
inductive Submitted (environment : Environment) (events : List Event) (text : JsString) : Prop
  | clicked {earlier later before screen} : events = earlier ++ .clickVerify :: later →
      Reach (step environment) anything .initial earlier before → before.component.screen = some screen →
      productIdOf screen = text → Submitted environment events text
  | scanned {earlier later before closure decodedText now qrData} : events = earlier ++ .scan decodedText now :: later →
      Reach (step environment) anything .initial earlier before → before.scanner = some closure →
      Json.parse decodedText = some qrData →
      (verifyQRCode environment.engine environment.signer now qrData).isValid = true → productIdOf closure = text →
      Submitted environment events text

/-- The reasons that the app ever has for an error message, each with what happened in the run. -/
inductive Raised (environment : Environment) (events : List Event) (error : JsString) : Prop
  | refused {text} : Submitted environment events text → idError (cleanProductId text) = some error →
      Raised environment events error
  | unavailable {verification retryCount reply now} : .connection verification retryCount reply ∈ events →
      checkFails reply = true → .resumed { verification with phase := .connected false } false now ∈ events →
      error = js "Blockchain network is not available. Please try again later." → Raised environment events error
  | declined {verification message now} : .response verification (.rejected message) now ∈ events →
      error = js "Blockchain query failed: " ++ message → Raised environment events error
  | malformed {verification value now} : .response verification (.resolved value) now ∈ events →
      (∀ name manufacturer flag, value ≠ .array [name, manufacturer, flag]) →
      error = js "Invalid response format from blockchain" → Raised environment events error
  | unknown {verification name manufacturer flag now} :
      .response verification (.resolved (.array [name, manufacturer, flag])) now ∈ events →
      (name.truthy && manufacturer.truthy) = false → error = js "Product not found on the blockchain" →
      Raised environment events error
  | unreadable {decodedText now} : .scan decodedText now ∈ events → Json.parse decodedText = none →
      error = environment.engine.syntaxMessage decodedText → Raised environment events error
  | rejected {decodedText now qrData} : .scan decodedText now ∈ events → Json.parse decodedText = some qrData →
      (verifyQRCode environment.engine environment.signer now qrData).isValid = false →
      error = scanError (verifyQRCode environment.engine environment.signer now qrData) →
      Raised environment events error

/-- The error that a write puts on display. -/
def Write.message : Write → Option JsString
  | .warn error | .offline _ error | .fail error => some error
  | _ => none

def ErrorExplained (environment : Environment) (events : List Event) (cells : Cells) : Prop :=
  cells.error ≠ [] → Raised environment events cells.error

/-- A verification that is told that there is no connection has had its own check fail. -/
def ChecksFailed (events : List Event) (app : App) : Prop :=
  ∀ verification ∈ app.verifications, verification.phase = .connected false → ∃ retryCount reply,
    .connection { verification with phase := .connecting retryCount } retryCount reply ∈ events ∧
      checkFails reply = true

theorem Write.apply_error {write : Write} {display : Display} (failed : (write.apply display).error ≠ []) :
    write.message = some (write.apply display).error ∨
      (write.apply display).error = display.error ∧ display.error ≠ [] := by
  cases write with
  | keep => exact Or.inr ⟨rfl, failed⟩
  | reset => exact absurd rfl failed
  | warn => exact Or.inl rfl
  | offline => exact Or.inl rfl
  | succeed => exact Or.inr ⟨rfl, failed⟩
  | fail => exact Or.inl rfl

theorem Verification.with_phase {verification : Verification} {phase : Phase} (same : verification.phase = phase) :
    { verification with phase } = verification := by
  rw [← same]

section Step

variable {environment : Environment} {app after : App} {event : Event} {events : List Event} {error : JsString}

theorem Submitted.extend {text : JsString} (submitted : Submitted environment events text) (more : List Event) :
    Submitted environment (events ++ more) text := by
  cases submitted with
  | clicked split reach shown typed => exact .clicked (by rw [split, List.append_assoc]; rfl) reach shown typed
  | scanned split reach opened parsed valid typed =>
    exact .scanned (by rw [split, List.append_assoc]; rfl) reach opened parsed valid typed

theorem Raised.extend (raised : Raised environment events error) (more : List Event) :
    Raised environment (events ++ more) error := by
  cases raised with
  | refused submitted text => exact .refused (submitted.extend more) text
  | unavailable checked fails resumed text =>
    exact .unavailable (List.mem_append_left _ checked) fails (List.mem_append_left _ resumed) text
  | declined seen text => exact .declined (List.mem_append_left _ seen) text
  | malformed seen shape text => exact .malformed (List.mem_append_left _ seen) shape text
  | unknown seen falsy text => exact .unknown (List.mem_append_left _ seen) falsy text
  | unreadable seen parsed text => exact .unreadable (List.mem_append_left _ seen) parsed text
  | rejected seen parsed invalid text => exact .rejected (List.mem_append_left _ seen) parsed invalid text

theorem ChecksFailed.step (failed : ChecksFailed events app) (run : step environment app event = some after) :
    ChecksFailed (events ++ [event]) after := by
  have old {verification : Verification} (member : verification ∈ app.verifications)
      (offline : verification.phase = .connected false) : ∃ retryCount reply,
      .connection { verification with phase := .connecting retryCount } retryCount reply ∈ events ++ [event] ∧
        checkFails reply = true := by
    obtain ⟨retryCount, reply, seen, fails⟩ := failed verification member offline
    exact ⟨retryCount, reply, List.mem_append_left _ seen, fails⟩
  obtain ⟨observations, _, progress⟩ := step_progress run
  intro verification member offline
  generalize after.verifications = list at progress member
  generalize after.tickets = number at progress
  generalize writeOf environment app event = write at progress
  have started {clean : JsString} {retryCount : Nat}
      (member : verification ∈ app.verifications ++ [⟨app.tickets, clean, .connecting retryCount⟩]) :
      verification ∈ app.verifications := by
    refine (List.mem_append.mp member).resolve_right fun new => ?_
    rw [List.mem_singleton.mp new] at offline
    cases offline
  cases progress with
  | started => exact old (started member) offline
  | scanStarted => exact old (started member) offline
  | @connected checked retryCount reply inside waiting =>
    rcases mem_advance member with rfl | ⟨before, _⟩
    · refine ⟨retryCount, reply, List.mem_append_right _ ?_, by simpa using offline⟩
      rw [List.mem_singleton, Verification.with_phase waiting]
    · exact old before offline
  | called =>
    rcases mem_advance member with rfl | ⟨before, _⟩
    · cases offline
    · exact old before offline
  | ended => exact old (List.mem_of_mem_erase member) offline
  | answered => exact old (List.mem_of_mem_erase member) offline
  | _ => exact old member offline

theorem reach_checksFailed (reach : Reach (step environment) anything .initial events app) :
    ChecksFailed events app := by
  induction reach with
  | start => exact fun _ member => absurd member List.not_mem_nil
  | next _ _ run ih => exact ih.step run

theorem response_raised {verification : Verification} {reply : Reply} {now : TimeValue}
    (seen : .response verification reply now ∈ events)
    (failed : readResponse environment verification.cleanProductId reply now = .error error) :
    Raised environment events error := by
  unfold readResponse at failed
  split at failed
  · cases failed
    exact .declined seen rfl
  · split at failed
    · cases failed
    · rename_i falsy
      cases failed
      exact .unknown seen (by simpa using falsy) rfl
  · rename_i other
    cases failed
    exact .malformed seen (fun name manufacturer flag same => other name manufacturer flag (by rw [same])) rfl

theorem scan_raised {closure : Closure} {decodedText : JsString} {now : TimeValue}
    (reach : Reach (step environment) anything .initial events app) (opened : app.scanner = some closure)
    (writes : (scanWrite environment closure decodedText now).message = some error) :
    Raised environment (events ++ [.scan decodedText now]) error := by
  have seen : .scan decodedText now ∈ events ++ [.scan decodedText now] := List.mem_append_right _ List.mem_cons_self
  cases parsed : Json.parse decodedText with
  | none =>
    simp only [scanWrite, parsed] at writes
    cases writes
    exact .unreadable seen parsed rfl
  | some qrData =>
    by_cases valid : (verifyQRCode environment.engine environment.signer now qrData).isValid = true
    · simp only [scanWrite, parsed, valid, if_true] at writes
      cases checked : idError (cleanProductId (productIdOf closure)) with
      | none =>
        rw [checked] at writes
        cases writes
      | some message =>
        rw [checked] at writes
        cases writes
        exact .refused (.scanned rfl reach opened parsed valid rfl) checked
    · simp only [scanWrite, parsed, valid, Bool.false_eq_true, if_false] at writes
      cases writes
      exact .rejected seen parsed (by simpa using valid) rfl

/-- Whatever message a step writes, it has its reason in the run up to this step. -/
theorem message_raised (reach : Reach (step environment) anything .initial events app)
    (run : step environment app event = some after) (writes : (writeOf environment app event).message = some error) :
    Raised environment (events ++ [event]) error := by
  have seen : event ∈ events ++ [event] := List.mem_append_right _ List.mem_cons_self
  cases step_turn run with
  | @verify screen shown =>
    simp only [writeOf, shown, Option.map_some, Option.getD_some, verifyWrite] at writes
    cases checked : idError (cleanProductId (productIdOf screen)) with
    | none =>
      rw [checked] at writes
      cases writes
    | some message =>
      rw [checked] at writes
      cases writes
      exact .refused (.clicked rfl reach shown rfl) checked
  | @scan closure decodedText now opened =>
    simp only [writeOf, opened, Option.map_some, Option.getD_some] at writes
    exact scan_raised reach opened writes
  | @resumed verification isConnected now member waiting =>
    rw [writeOf] at writes
    cases early : earlyOutcome environment verification isConnected now with
    | none =>
      rw [early] at writes
      cases writes
    | some outcome =>
      rw [early] at writes
      rcases earlyOutcome_some early with ⟨rfl, rfl⟩ | ⟨_, _, rfl⟩
      · cases writes
        obtain ⟨retryCount, reply, checked, fails⟩ := reach_checksFailed reach verification member waiting
        have resumed : .resumed { verification with phase := .connected false } false now ∈
            events ++ [.resumed verification false now] := by
          rw [Verification.with_phase waiting]
          exact seen
        exact .unavailable (List.mem_append_left _ checked) fails resumed rfl
      · cases writes
  | @response verification reply now =>
    rw [writeOf] at writes
    cases outcome : readResponse environment verification.cleanProductId reply now with
    | ok result =>
      rw [outcome] at writes
      cases writes
    | error message =>
      rw [outcome] at writes
      cases writes
      exact response_raised seen outcome
  | _ => cases writes

end Step

/-- No error out of nowhere. Every message on the screen, in any build and after any run, is one of the app's own
texts and has its reason in the run: a submitted text that fails the id checks with this message, a
verification whose own connection check failed, the answer that the message reports, or the scan that it rejects. -/
theorem error_explained {environment : Environment} {events : List Event} {app : App}
    (reach : Reach (step environment) anything .initial events app) {screen : Closure}
    (shown : app.component.screen = some screen) (failed : screen.state.error ≠ []) :
    Raised environment events screen.state.error := by
  have explained : app.component.Holds (ErrorExplained environment events) := by
    clear shown failed
    induction reach with
    | start => exact Component.holds_mount (fun failed => absurd rfl failed) rfl
    | @next events before event after reach _ run ih =>
      have extended := ih.mono fun cells holds failed => (holds failed).extend [event]
      rcases step_component run with ⟨_, component⟩ | ⟨update, component, performs, _⟩
      · rw [component]
        exact extended.render
      · rw [component]
        refine extended.setState fun cells holds failed => ?_
        have written : (update cells).error = ((writeOf environment before event).apply cells.display).error :=
          congrArg Display.error (performs cells)
        rw [written] at failed ⊢
        rcases Write.apply_error failed with new | ⟨same, old⟩
        · exact message_raised reach run new
        · rw [same]
          exact holds old
  exact explained.2 screen shown failed

/-- The node declines a view call. -/
theorem error_explained_declined :
    ∃ app screen, Reach (step sampleEnvironment) anything .initial
        [.edit (js "1"), .clickVerify, .connection ⟨0, js "1", .connecting 0⟩ 0 ledgerInfo,
          .resumed ⟨0, js "1", .connected true⟩ true sampleTime,
          .response ⟨0, js "1", .querying⟩ (.rejected (js "Module not found")) sampleTime, .render] app ∧
      app.component.screen = some screen ∧ screen.state.error = js "Blockchain query failed: Module not found" ∧
      Raised sampleEnvironment
        [.edit (js "1"), .clickVerify, .connection ⟨0, js "1", .connecting 0⟩ 0 ledgerInfo,
          .resumed ⟨0, js "1", .connected true⟩ true sampleTime,
          .response ⟨0, js "1", .querying⟩ (.rejected (js "Module not found")) sampleTime, .render]
        screen.state.error := by
  obtain ⟨app, screen, reach, shown, error⟩ : ∃ app screen, Reach (step sampleEnvironment) anything .initial
        [.edit (js "1"), .clickVerify, .connection ⟨0, js "1", .connecting 0⟩ 0 ledgerInfo,
          .resumed ⟨0, js "1", .connected true⟩ true sampleTime,
          .response ⟨0, js "1", .querying⟩ (.rejected (js "Module not found")) sampleTime, .render] app ∧
      app.component.screen = some screen ∧ screen.state.error = js "Blockchain query failed: Module not found" :=
    ⟨_, _, reach_iff_follow.mpr rfl, rfl, rfl⟩
  exact ⟨app, screen, reach, shown, error, error_explained reach shown (error ▸ js_ne_nil (by decide))⟩

end TrueMark.UserApp
