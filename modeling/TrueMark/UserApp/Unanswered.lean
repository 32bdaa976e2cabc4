import TrueMark.UserApp.Exclusion
import TrueMark.UserApp.Progress

namespace TrueMark.UserApp
open Ecma Aptos Qr React Runs

/-- The node never answers a view call. -/
def Declined (_ : App) : Event → Prop
  | .response _ reply _ => ∃ message, reply = .rejected message
  | _ => True

/-- A panel stands next to an error, and shows what an accepted code said. -/
def ScanPanel (environment : Environment) (trace : List Observation) (cells : Cells) : Prop :=
  ∀ result, cells.result = some result → cells.error ≠ [] ∧
    ∃ (decodedText : JsString) (now : TimeValue) (properties : Properties), .scanned decodedText now ∈ trace ∧
      Json.parse decodedText = some (.object properties) ∧
      (verifyQRCode environment.engine environment.signer now (.object properties)).isValid = true ∧
      result = offlineResult environment properties

/-- A write that leaves a result on display next to an error has something to say in that error. -/
def Write.Speaks : Write → Prop
  | .warn error | .offline _ error => error ≠ []
  | _ => True

section Step

variable {environment : Environment} {app after : App} {event : Event}

theorem ScanPanel.extend {trace : List Observation} {cells : Cells} (panel : ScanPanel environment trace cells)
    (more : List Observation) : ScanPanel environment (trace ++ more) cells := by
  intro result shown
  obtain ⟨failed, decodedText, now, properties, scanned, rest⟩ := panel result shown
  exact ⟨failed, decodedText, now, properties, List.mem_append_left _ scanned, rest⟩

theorem verifyWrite_speaks (closure : Closure) : (verifyWrite closure).Speaks := by
  unfold verifyWrite
  split
  · rename_i refused
    exact idError_nonempty refused
  · trivial

theorem scanWrite_speaks (closure : Closure) (decodedText : JsString) (now : TimeValue) :
    (scanWrite environment closure decodedText now).Speaks := by
  unfold scanWrite
  split
  · exact environment.engine.syntaxMessage_nonempty decodedText
  · dsimp only
    split
    · split
      · rename_i refused
        exact idError_nonempty refused
      · trivial
    · exact scanError_nonempty _

theorem writeOf_speaks (environment : Environment) (app : App) (event : Event) :
    (writeOf environment app event).Speaks := by
  cases event with
  | clickVerify =>
    rw [writeOf]
    cases app.component.screen with
    | none => trivial
    | some screen => exact verifyWrite_speaks screen
  | scan decodedText now =>
    rw [writeOf]
    cases app.scanner with
    | none => trivial
    | some closure => exact scanWrite_speaks closure decodedText now
  | resumed verification isConnected now =>
    rw [writeOf]
    rcases earlyOutcome environment verification isConnected now with _ | _ | _ <;> trivial
  | response verification reply now =>
    rw [writeOf]
    cases readResponse environment verification.cleanProductId reply now <;> trivial
  | _ => trivial

theorem ScanPanel.step (production : environment.dev = false) (declined : Declined app event)
    (panels : app.component.Holds (ScanPanel environment app.trace)) (run : step environment app event = some after) :
    after.component.Holds (ScanPanel environment after.trace) := by
  obtain ⟨observations, trace, progress⟩ := step_progress run
  rw [trace]
  have extended := panels.mono fun cells panel => panel.extend observations
  rcases step_component run with ⟨_, component⟩ | ⟨update, component, performs, _⟩
  · rw [component]
    exact extended.render
  · rw [component]
    refine extended.setState fun cells panel result shown => ?_
    have error : (update cells).error = ((writeOf environment app event).apply cells.display).error :=
      congrArg Display.error (performs cells)
    have written : ((writeOf environment app event).apply cells.display).result = some result :=
      (congrArg Display.result (performs cells)).symm.trans shown
    have speaks := writeOf_speaks environment app event
    rw [error]
    generalize after.verifications = verifications at progress
    generalize after.tickets = tickets at progress
    generalize writeOf environment app event = write at progress written speaks
    cases progress with
    | quiet => exact panel result written
    | refused => exact ⟨speaks, (panel result written).2⟩
    | started => cases written
    | scanRejected => exact ⟨speaks, (panel result written).2⟩
    | scanRefused parsed valid =>
      cases written
      exact ⟨speaks, _, _, _, List.mem_append_right _ List.mem_cons_self, parsed, valid, rfl⟩
    | scanStarted => cases written
    | connected => exact panel result written
    | called => exact panel result written
    | @ended verification isConnected now outcome member waiting early =>
      rcases earlyOutcome_some early with ⟨_, rfl⟩ | ⟨_, development, _⟩
      · cases written
      · rw [production] at development
        cases development
    | answered =>
      obtain ⟨message, rfl⟩ := declined
      cases written

end Step

theorem scanPanel_initial (environment : Environment) :
    App.initial.component.Holds (ScanPanel environment App.initial.trace) :=
  Component.holds_mount nofun rfl

end TrueMark.UserApp
