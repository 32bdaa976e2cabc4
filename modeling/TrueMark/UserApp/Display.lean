import TrueMark.UserApp.Updates

namespace TrueMark.UserApp
open Ecma Aptos Qr React

/-- What is on display, apart from the field and the scanner. -/
structure Display where
  error : JsString
  result : Option ProductResult

def Cells.display (cells : Cells) : Display := ⟨cells.error, cells.result⟩

/-- The ways in which the app ever writes to its display. -/
inductive Write
  | keep
  | reset
  | warn (error : JsString)
  | offline (result : ProductResult) (error : JsString)
  | succeed (result : ProductResult)
  | fail (error : JsString)

def Write.apply : Write → Display → Display
  | .keep, display => display
  | .reset, _ => ⟨[], none⟩
  | .warn error, display => { display with error }
  | .offline result error, _ => ⟨error, some result⟩
  | .succeed result, display => { display with result := some result }
  | .fail error, _ => ⟨error, none⟩

/-- The result that a write puts on display. -/
def Write.shows : Write → Option ProductResult
  | .offline result _ | .succeed result => some result
  | _ => none

theorem Write.apply_result {write : Write} {display : Display} {result : ProductResult}
    (shown : (write.apply display).result = some result) :
    write.shows = some result ∨ display.result = some result := by
  cases write with
  | keep => exact Or.inr shown
  | reset => cases shown
  | warn => exact Or.inr shown
  | offline => exact Or.inl shown
  | succeed => exact Or.inl shown
  | fail => cases shown

def verifyWrite (closure : Closure) : Write :=
  match idError (cleanProductId (productIdOf closure)) with
  | some error => .warn error
  | none => .reset

/-- An accepted scan shows its result only if the verification that it starts
is refused: otherwise the reset of that verification comes after it. -/
def scanWrite (environment : Environment) (closure : Closure) (decodedText : JsString) (now : TimeValue) : Write :=
  match Json.parse decodedText with
  | none => .warn (environment.engine.syntaxMessage decodedText)
  | some qrData =>
    let verificationResult := verifyQRCode environment.engine environment.signer now qrData
    if verificationResult.isValid then
      match idError (cleanProductId (productIdOf closure)) with
      | some error => .offline (offlineResult environment (ownProperties qrData)) error
      | none => .reset
    else .warn (scanError verificationResult)

def outcomeWrite : Except JsString ProductResult → Write
  | .ok result => .succeed result
  | .error message => .fail message

/-- An answer with a name and a manufacturer. -/
def namesProduct : Reply → Bool
  | .resolved (.array [name, manufacturer, _]) => name.truthy && manufacturer.truthy
  | _ => false

theorem readResponse_ok {environment : Environment} {clean : JsString} {reply : Reply} {now : TimeValue}
    {result : ProductResult} (run : readResponse environment clean reply now = .ok result) :
    ∃ name manufacturer flag, reply = .resolved (.array [name, manufacturer, flag]) ∧ name.truthy = true ∧
      manufacturer.truthy = true ∧ result.serialNumber = .string clean ∧ result.productName = name ∧
      result.manufacturer = manufacturer ∧ result.isAuthentic = flag := by
  unfold readResponse at run
  split at run
  · cases run
  · rename_i name manufacturer flag
    split at run
    · rename_i truthy
      cases run
      obtain ⟨nameTruthy, manufacturerTruthy⟩ := Bool.and_eq_true_iff.mp truthy
      exact ⟨name, manufacturer, flag, rfl, nameTruthy, manufacturerTruthy, rfl, rfl, rfl, rfl⟩
    · cases run
  · cases run

def writeOf (environment : Environment) (app : App) : Event → Write
  | .clickVerify => (app.component.screen.map verifyWrite).getD .keep
  | .scan decodedText now =>
    (app.scanner.map fun closure => scanWrite environment closure decodedText now).getD .keep
  | .resumed verification isConnected now =>
    ((earlyOutcome environment verification isConnected now).map outcomeWrite).getD .keep
  | .response verification reply now =>
    outcomeWrite (readResponse environment verification.cleanProductId reply now)
  | _ => .keep

/-- An update of the cells that does this to the display. -/
def Write.Performs (write : Write) (update : Cells → Cells) : Prop :=
  ∀ cells, (update cells).display = write.apply cells.display

/-- No render throws because of this update. -/
def KeepsPaintable (update : Cells → Cells) : Prop :=
  ∀ cells, paintable cells = true → paintable (update cells) = true

theorem paintable_reset {cells : Cells} (accepted : paintable cells = true) :
    paintable ((cells.setError []).setResult none) = true := by
  unfold paintable at accepted ⊢
  split at accepted
  · rename_i text string
    simp [string]
  · cases accepted

theorem paintable_edit {cells : Cells} (text : JsString) (accepted : paintable cells = true) :
    paintable (cells.setProductId (.string text)) = true := by
  unfold paintable at accepted ⊢
  split at accepted
  · exact accepted
  · cases accepted

theorem verifyUpdate_performs (closure : Closure) : (verifyWrite closure).Performs (verifyUpdate closure) := by
  intro cells
  unfold verifyWrite verifyUpdate
  cases idError (cleanProductId (productIdOf closure)) with
  | some error => rfl
  | none => rfl

theorem verifyUpdate_paintable (closure : Closure) : KeepsPaintable (verifyUpdate closure) := by
  intro cells accepted
  unfold verifyUpdate
  cases idError (cleanProductId (productIdOf closure)) with
  | some error => exact accepted
  | none => exact paintable_reset accepted

theorem checkUpdate_performs (retryCount : Nat) (reply : Reply) :
    Write.keep.Performs (checkUpdate retryCount reply) := by
  intro cells
  rw [checkUpdate_frame]
  rfl

theorem finishUpdate_performs (outcome : Except JsString ProductResult) :
    (outcomeWrite outcome).Performs (finishUpdate outcome) := by
  intro cells
  cases outcome with
  | ok result => rfl
  | error message => rfl

theorem scanUpdate_performs (environment : Environment) (closure : Closure) (decodedText : JsString)
    (now : TimeValue) :
    (scanWrite environment closure decodedText now).Performs (scanUpdate environment closure decodedText now) := by
  intro cells
  unfold scanWrite scanUpdate
  cases Json.parse decodedText with
  | none => rfl
  | some qrData =>
    dsimp only
    split
    · have written := verifyUpdate_performs closure (acceptUpdate environment (ownProperties qrData) cells)
      rw [verifyWrite] at written
      rw [Function.comp_apply, written]
      cases idError (cleanProductId (productIdOf closure)) with
      | some error => rfl
      | none => rfl
    · rfl

theorem updateOf_performs (environment : Environment) (app : App) (event : Event) :
    (writeOf environment app event).Performs (updateOf environment app event) := by
  cases event with
  | clickVerify =>
    rw [writeOf, updateOf]
    cases app.component.screen with
    | none => exact fun cells => rfl
    | some screen => exact verifyUpdate_performs screen
  | scan decodedText now =>
    rw [writeOf, updateOf]
    cases app.scanner with
    | none => exact fun cells => rfl
    | some closure => exact scanUpdate_performs environment closure decodedText now
  | checked retryCount reply => exact checkUpdate_performs retryCount reply
  | connection verification retryCount reply => exact checkUpdate_performs retryCount reply
  | resumed verification isConnected now =>
    rw [writeOf, updateOf]
    cases earlyOutcome environment verification isConnected now with
    | none => exact fun cells => rfl
    | some outcome => exact finishUpdate_performs outcome
  | response verification reply now => exact finishUpdate_performs _
  | _ => exact fun cells => rfl

theorem updateOf_paintable (environment : Environment) (app : App) {event : Event} (click : event.lane = .discrete) :
    KeepsPaintable (updateOf environment app event) := by
  cases event with
  | edit text => exact fun cells => paintable_edit text
  | clickVerify =>
    rw [updateOf]
    cases app.component.screen with
    | none => exact fun cells accepted => accepted
    | some screen => exact verifyUpdate_paintable screen
  | clickScan => exact fun cells accepted => accepted
  | clickCancel => exact fun cells accepted => accepted
  | _ => cases click

/-- Every event but a render makes one update, in its lane, that writes to
the display as `writeOf` says. What the user does never unmounts the app. -/
theorem step_component {environment : Environment} {app after : App} {event : Event}
    (run : step environment app event = some after) :
    event = .render ∧ after.component = app.component.render ∨
      ∃ update, after.component = app.component.setState event.lane update ∧
        (writeOf environment app event).Performs update ∧ (event.lane = .discrete → KeepsPaintable update) := by
  rcases step_updates run with ⟨rfl, rfl⟩ | updates
  · exact Or.inl ⟨rfl, app.commit_component _⟩
  · refine Or.inr ⟨_, ?_, updateOf_performs environment app event, updateOf_paintable environment app⟩
    rw [updates.component, App.tick_component]

/-- Seen from the queued display, a step is its write. -/
theorem step_queued {environment : Environment} {app after : App} {event : Event}
    (run : step environment app event = some after) :
    after.component.queued.display = (writeOf environment app event).apply app.component.queued.display := by
  rcases step_component run with ⟨rfl, component⟩ | ⟨update, component, performs, _⟩
  · rw [component, Component.render_queued]
    rfl
  · rw [component, Component.setState_queued]
    exact performs _

end TrueMark.UserApp
