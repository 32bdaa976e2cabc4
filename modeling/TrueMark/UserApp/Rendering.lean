import TrueMark.UserApp.Display

namespace TrueMark.UserApp
open Ecma Aptos Qr React Runs

/-- React can render the app as it is now, and the app survives it. -/
def Renders (environment : Environment) (app : App) : Prop :=
  Component.Renders App.component (fun app => step environment app .render) app

/-- The steps that put nothing on display that the render cannot show. An accepted code has a string for
its id and, where its result is shown, a name and a manufacturer that can be children; so have the
name and the manufacturer of an answer that counts as a product. -/
def Showable (environment : Environment) (app : App) : Event → Prop
  | .scan decodedText now => ∀ (closure : Closure) (properties : Properties), app.scanner = some closure →
      Json.parse decodedText = some (.object properties) →
      (verifyQRCode environment.engine environment.signer now (.object properties)).isValid = true →
      (∃ id, properties.get (js "id") = .string id) ∧
        (idError (cleanProductId (productIdOf closure)) ≠ none →
          renderable (properties.get (js "name")) = true ∧ renderable (properties.get (js "manufacturer")) = true)
  | .response _ reply _ => ∀ name manufacturer flag, reply = .resolved (.array [name, manufacturer, flag]) →
      name.truthy = true → manufacturer.truthy = true → renderable name = true ∧ renderable manufacturer = true
  | _ => True

theorem paintable_iff {cells : Cells} :
    paintable cells = true ↔ (∃ text, cells.productId = .string text) ∧
      ∀ result, cells.result = some result → renderable result.productName = true ∧
        renderable result.serialNumber = true ∧ renderable result.manufacturer = true := by
  unfold paintable
  split
  · rename_i text typed
    rw [Option.all_eq_true]
    simp [typed, and_assoc]
  · rename_i other
    exact iff_of_false nofun fun ⟨⟨text, typed⟩, _⟩ => other text typed

section Step

variable {environment : Environment} {app after : App} {event : Event}

theorem renders_iff : Renders environment app ↔ app.component.Safe := by
  refine Component.renders_iff_safe (fun unmounted => ?_) fun screen shown => ?_
  · simp only [step, unmounted]
  · exact ⟨_, by simp only [step, shown], app.commit_component _⟩

theorem paintable_result {cells : Cells} (accepted : paintable cells = true) (result : ProductResult) :
    paintable (cells.setResult (some result)) = true ↔ renderable result.productName = true ∧
      renderable result.serialNumber = true ∧ renderable result.manufacturer = true := by
  have typed : ∃ text, (cells.setResult (some result)).productId = .string text := (paintable_iff.mp accepted).1
  rw [paintable_iff, and_iff_right typed]
  simp

theorem paintable_fail {cells : Cells} (accepted : paintable cells = true) (message : JsString) :
    paintable ((cells.setError message).setResult none) = true := by
  rw [paintable_iff]
  exact ⟨(paintable_iff.mp accepted).1, nofun⟩

theorem checkUpdate_paintable (retryCount : Nat) (reply : Reply) : KeepsPaintable (checkUpdate retryCount reply) := by
  intro cells accepted
  rw [checkUpdate_frame]
  exact accepted

/-- The end of a verification can be rendered exactly if its result can be shown. -/
theorem finishUpdate_paintable {cells : Cells} (accepted : paintable cells = true)
    (outcome : Except JsString ProductResult) :
    paintable (finishUpdate outcome cells) = true ↔ ∀ result, outcome = .ok result →
      renderable result.productName = true ∧ renderable result.serialNumber = true ∧
        renderable result.manufacturer = true := by
  cases outcome with
  | ok result =>
    rw [finishUpdate, paintable_result accepted]
    exact ⟨fun shows other same => Except.ok.inj same ▸ shows, fun shows => shows result rfl⟩
  | error message => exact iff_of_true (paintable_fail accepted message) nofun

theorem resumed_paintable {cells : Cells} (accepted : paintable cells = true) (verification : Verification)
    (isConnected : Bool) (now : TimeValue) :
    paintable (updateOf environment app (.resumed verification isConnected now) cells) = true := by
  rw [updateOf]
  cases early : earlyOutcome environment verification isConnected now with
  | none => exact accepted
  | some outcome =>
    refine (finishUpdate_paintable accepted outcome).mpr fun result ok => ?_
    rcases earlyOutcome_some early with ⟨_, failed⟩ | ⟨_, _, mock⟩
    · rw [ok] at failed
      cases failed
    · rw [ok] at mock
      cases mock
      exact ⟨rfl, rfl, rfl⟩

theorem response_paintable {cells : Cells} (accepted : paintable cells = true) (verification : Verification)
    (reply : Reply) (now : TimeValue) :
    paintable (updateOf environment app (.response verification reply now) cells) = true ↔
      Showable environment app (.response verification reply now) := by
  rw [updateOf, finishUpdate_paintable accepted]
  constructor
  · rintro shows name manufacturer flag rfl nameTruthy manufacturerTruthy
    have outcome := shows _ (if_pos (Bool.and_eq_true_iff.mpr ⟨nameTruthy, manufacturerTruthy⟩))
    exact ⟨outcome.1, outcome.2.2⟩
  · intro showable result ok
    obtain ⟨name, manufacturer, flag, rfl, nameTruthy, manufacturerTruthy, serial, sameName, sameManufacturer, _⟩ :=
      readResponse_ok ok
    obtain ⟨nameShown, manufacturerShown⟩ := showable name manufacturer flag rfl nameTruthy manufacturerTruthy
    rw [serial, sameName, sameManufacturer]
    exact ⟨nameShown, rfl, manufacturerShown⟩

/-- What an accepted scan writes, together with the verification that it starts or does not start. -/
theorem accepted_paintable (closure : Closure) (properties : Properties) (cells : Cells) :
    paintable (verifyUpdate closure (acceptUpdate environment properties cells)) = true ↔
      (∃ id, properties.get (js "id") = .string id) ∧
        (idError (cleanProductId (productIdOf closure)) ≠ none →
          renderable (properties.get (js "name")) = true ∧ renderable (properties.get (js "manufacturer")) = true) := by
  cases checked : idError (cleanProductId (productIdOf closure)) with
  | some error =>
    rw [verifyUpdate, checked, paintable_iff]
    refine and_congr_right fun isString => ?_
    obtain ⟨id, typed⟩ := isString
    have string : properties.get (js "id") = .string id := typed
    have serial : renderable (properties.get (js "id")) = true := by
      rw [string]
      rfl
    simp [acceptUpdate, offlineResult, serial]
  | none =>
    rw [verifyUpdate, checked, paintable_iff]
    simp [acceptUpdate]

theorem scan_paintable {cells : Cells} (accepted : paintable cells = true) {closure : Closure}
    (opened : app.scanner = some closure) (decodedText : JsString) (now : TimeValue) :
    paintable (scanUpdate environment closure decodedText now cells) = true ↔
      Showable environment app (.scan decodedText now) := by
  cases parsed : Json.parse decodedText with
  | none =>
    simp only [scanUpdate, parsed]
    refine iff_of_true accepted fun _ _ _ object => ?_
    cases parsed.symm.trans object
  | some qrData =>
    by_cases valid : (verifyQRCode environment.engine environment.signer now qrData).isValid = true
    · obtain ⟨properties, _, rfl, _⟩ := verifyQRCode_valid.mp valid
      simp only [scanUpdate, parsed, valid, if_true, ownProperties, Function.comp_apply]
      rw [accepted_paintable closure properties]
      constructor
      · intro shows other others same object _
        cases opened.symm.trans same
        cases parsed.symm.trans object
        exact shows
      · intro showable
        exact showable closure properties opened parsed valid
    · simp only [scanUpdate, parsed, valid, Bool.false_eq_true, if_false]
      refine iff_of_true accepted fun _ properties _ object valid' => ?_
      cases parsed.symm.trans object
      exact absurd valid' valid

/-- Updates of cells that can be rendered, event by event. -/
theorem updateOf_showable {cells : Cells} (accepted : paintable cells = true) (event : Event) :
    paintable (updateOf environment app event cells) = true ↔ Showable environment app event := by
  cases event with
  | edit => exact iff_of_true (updateOf_paintable environment app rfl cells accepted) trivial
  | clickVerify => exact iff_of_true (updateOf_paintable environment app rfl cells accepted) trivial
  | scan decodedText now =>
    cases opened : app.scanner with
    | none =>
      simp only [updateOf, Showable, opened, Option.map_none, Option.getD_none]
      refine iff_of_true accepted fun closure properties same => ?_
      cases same
    | some closure =>
      simp only [updateOf, opened, Option.map_some, Option.getD_some]
      exact scan_paintable accepted opened decodedText now
  | checked => exact iff_of_true (checkUpdate_paintable _ _ cells accepted) trivial
  | connection => exact iff_of_true (checkUpdate_paintable _ _ cells accepted) trivial
  | resumed => exact iff_of_true (resumed_paintable accepted _ _ _) trivial
  | response => exact response_paintable accepted _ _ _
  | _ => exact iff_of_true accepted trivial

theorem safe_step (safe : app.component.Safe) (run : step environment app event = some after) :
    after.component.Safe ↔ Showable environment app event := by
  rcases step_updates run with ⟨rfl, rfl⟩ | updates
  · rw [App.commit_component]
    exact iff_of_true safe.render trivial
  · rw [updates.component, App.tick_component, ← updateOf_showable safe.2 event]
    cases lane : event.lane with
    | deferred => exact safe.setState_deferred
    | discrete =>
      have keeps := updateOf_paintable environment app lane
      exact iff_of_true (safe.setState keeps) (keeps _ safe.2)

end Step

/-- The app can be rendered throughout a run exactly if all codes and answers in it can be shown. Nothing
that the user types or clicks, and no failure of the node, ever takes it down. -/
theorem renders_throughout_iff {environment : Environment} {events : List Event} {app : App}
    (reach : Reach (step environment) anything .initial events app) :
    Throughout (step environment) .initial events (Renders environment) ↔
      Reach (step environment) (Showable environment) .initial events app := by
  refine throughout_iff (renders_iff.mpr (Component.safe_mount _)) (fun renders run => ?_) reach
  rw [renders_iff, safe_step (renders_iff.mp renders) run]

theorem renders_throughout_cleanSuccess :
    Throughout (step sampleEnvironment) .initial cleanSuccess (Renders sampleEnvironment) := by
  have guarded : ∃ app, Reach (step sampleEnvironment) (Showable sampleEnvironment) .initial cleanSuccess app := by
    refine ⟨_, .prepend trivial rfl (.prepend trivial rfl (.prepend trivial rfl (.prepend trivial rfl
      (.prepend ?_ rfl (.prepend trivial rfl .start)))))⟩
    rintro name manufacturer flag same _ _
    cases same
    exact ⟨rfl, rfl⟩
  obtain ⟨app, reach⟩ := guarded
  exact (renders_throughout_iff reach.unguarded).mpr reach

end TrueMark.UserApp
