import TrueMark.Contract.History
import TrueMark.Contract.Node
import TrueMark.UserApp.Display

namespace TrueMark.UserApp
open Ecma Aptos Qr React Runs Contract

/-- Typing a text into the fresh app and pressing Verify, which does nothing while the button is disabled. -/
def press (environment : Environment) (text : JsString) : App :=
  let typed := App.initial.setState .discrete (·.setProductId (.string text))
  (step environment typed .clickVerify).getD typed

/-- The app left alone with a reachable node: the user does nothing more, all
connection checks succeed, and the node answers the view calls. -/
def Served (environment : Environment) (node : Node) (_ : App) : Event → Prop
  | .checked _ reply | .connection _ _ reply => ∃ ledgerInfo, reply = .resolved ledgerInfo ∧ ledgerInfo.truthy = true
  | .response verification reply _ => reply = node.view (viewPayload environment verification.cleanProductId)
  | .render | .interval | .timer _ | .resumed _ _ _ => True
  | _ => False

/-- A state in which nothing of the pressed verification is left to happen. -/
def Ends (environment : Environment) (node : Node) (id : String) (app : App) (screen : Closure) : Prop :=
  (∃ events, Reach (step environment) (Served environment node) (press environment (js id)) events app) ∧
    Settled app screen

/-- The panel gives the contract's answer for the id, and under the id if it is registered. -/
def AgreesOn (environment : Environment) (node : Node) (id : String) (result : ProductResult) : Prop :=
  let answer := verifyProduct node.state (configuredAddress environment.contractAddress) id
  (result.isAuthentic.truthy = true ↔ answer = .ok true) ∧
    (answer = .ok true → result.serialNumber = .string (js id))

/-- However the pressed verification ends, there is a panel, and it agrees with the contract. -/
def Agrees (environment : Environment) (node : Node) (id : String) : Prop :=
  ∀ app screen, Ends environment node id app screen →
    ∃ result, screen.state.result = some result ∧ AgreesOn environment node id result

/-- The weaker reading: however the pressed verification ends, an authentic panel is there exactly if the id is
registered. -/
def ShowsRegistered (environment : Environment) (node : Node) (id : String) : Prop :=
  ∀ app screen, Ends environment node id app screen →
    ((∃ result, screen.state.result = some result ∧ result.isAuthentic.truthy = true) ↔
      verifyProduct node.state (configuredAddress environment.contractAddress) id = .ok true)

def NoPanel (cells : Cells) : Prop := cells.result = none

section NoPanel

variable {environment : Environment} {node : Node} {app after : App} {event : Event}

theorem noPanel_step (run : step environment app event = some after)
    (silent : (writeOf environment app event).shows = none)
    (empty : app.component.Holds NoPanel) : after.component.Holds NoPanel := by
  rcases step_component run with ⟨_, component⟩ | ⟨update, component, performs, _⟩
  · rw [component]
    exact empty.render
  · rw [component]
    refine empty.setState fun cells none => ?_
    have written : (update cells).result = ((writeOf environment app event).apply cells.display).result :=
      congrArg Display.result (performs cells)
    rw [NoPanel, written, Option.eq_none_iff_forall_ne_some]
    intro result shown
    rcases Write.apply_result shown with new | old
    · rw [silent] at new
      cases new
    · exact absurd old (by rw [show cells.display.result = _ from none]; nofun)

theorem verifyWrite_silent (closure : Closure) : (verifyWrite closure).shows = none := by
  unfold verifyWrite
  split <;> rfl

/-- The node knows no `product::get_product`. -/
theorem view_getProduct (environment : Environment) (node : Node) (clean : JsString) :
    node.view (viewPayload environment clean) = .rejected (node.rejection (viewPayload environment clean)) := by
  have name : (viewPayload environment clean).function =
      environment.contractAddress.text ++ js "::" ++ (js "product" ++ js "::" ++ js "get_product") :=
    (List.append_assoc _ (js "::") (js "product::get_product")).symm
  exact Node.view_unpublished environment.contractAddress name (by decide) (Or.inl (by decide))

theorem served_silent (production : environment.dev = false) (served : Served environment node app event) :
    (writeOf environment app event).shows = none := by
  cases event with
  | clickVerify => exact served.elim
  | scan => exact served.elim
  | resumed verification isConnected now =>
    rw [writeOf]
    cases early : earlyOutcome environment verification isConnected now with
    | none => rfl
    | some outcome =>
      rcases earlyOutcome_some early with ⟨_, rfl⟩ | ⟨_, development, _⟩
      · rfl
      · rw [production] at development
        cases development
  | response verification reply now =>
    rw [Served, view_getProduct] at served
    rw [served]
    rfl
  | _ => rfl

theorem noPanel_press (environment : Environment) (text : JsString) :
    (press environment text).component.Holds NoPanel := by
  have mounted : App.initial.component.Holds NoPanel := Component.holds_mount (show NoPanel .initial from rfl) rfl
  have edited : step environment .initial (.edit text) =
      some (App.initial.setState .discrete (·.setProductId (.string text))) := rfl
  have typed := noPanel_step edited rfl mounted
  rw [press]
  cases run : step environment (App.initial.setState .discrete (·.setProductId (.string text))) .clickVerify with
  | none => exact typed
  | some pressed => exact noPanel_step run (verifyWrite_silent _) typed

/-- In production, no panel ever comes of a pressed verification. -/
theorem noPanel_served (production : environment.dev = false) {text : JsString} {events : List Event}
    (reach : Reach (step environment) (Served environment node) (press environment text) events app) :
    app.component.Holds NoPanel :=
  reach.invariant (P := fun app => app.component.Holds NoPanel) (noPanel_press environment text)
    fun empty served run => noPanel_step run (served_silent production served) empty

end NoPanel

section Settles

variable (environment : Environment) {node : Node} {app : App} {screen : Closure} {verification : Verification}

theorem response_alone (shown : app.component.screen = some screen) (alone : app.verifications = [verification])
    (waiting : verification.phase = .querying) (message : JsString) (now : TimeValue) :
    ∃ after, step environment app (.response verification (.rejected message) now) = some after ∧
      after.component = app.component.setState .deferred
        (fun cells => (cells.setError (js "Blockchain query failed: " ++ message)).setResult none) ∧
      after.verifications = [] := by
  have enabled : verification ∈ app.verifications ∧ verification.phase = .querying :=
    ⟨by rw [alone]; exact List.mem_cons_self, waiting⟩
  refine ⟨_, by simp only [step, shown, if_pos enabled]; rfl, ?_, ?_⟩
  · exact App.setState_component _ .deferred _
  · simp [finish, App.observe, alone]

theorem render_settles (shown : app.component.screen = some screen) (idle : app.verifications = [])
    (accepted : paintable app.component.queued = true) :
    ∃ after, step environment app .render = some after ∧ Settled after ⟨app.component.queued, accepted⟩ := by
  refine ⟨_, by simp only [step, shown]; rfl, ?_, ?_, ?_⟩
  · rw [App.commit_verifications, idle]
  · rw [App.commit_component, Component.render_screen accepted]
  · rw [App.commit_component, Component.render_queued]

/-- A single verification that waits for its connection check comes to its end. -/
theorem alone_settles (production : environment.dev = false) (shown : app.component.screen = some screen)
    (alone : app.verifications = [verification]) {retryCount : Nat}
    (waiting : verification.phase = .connecting retryCount) {text : JsString}
    (typed : app.component.queued.productId = .string text) :
    ∃ events after rendered, Reach (step environment) (Served environment node) app events after ∧
      Settled after rendered := by
  have rejected := view_getProduct environment node verification.cleanProductId
  have member : verification ∈ app.verifications := by
    rw [alone]
    exact List.mem_cons_self
  obtain ⟨first, connected, firstComponent, advanced⟩ := connection_step environment shown member waiting
  have firstAlone : first.verifications = [{ verification with phase := .connected true }] := by
    simp [advanced, App.advance, alone]
  have firstShown : first.component.screen = some screen := by
    rw [firstComponent]
    exact shown
  have firstMember : { verification with phase := .connected true } ∈ first.verifications := by
    rw [firstAlone]
    exact List.mem_cons_self
  obtain ⟨second, called, secondComponent, querying, _⟩ :=
    resumed_step environment production firstShown firstMember rfl sampleTime
  have secondAlone : second.verifications = [{ verification with phase := .querying }] := by
    simp [querying, App.advance, firstAlone]
  have secondShown : second.component.screen = some screen := by
    rw [secondComponent]
    exact firstShown
  obtain ⟨third, answered, thirdComponent, thirdIdle⟩ :=
    response_alone environment secondShown secondAlone rfl _ sampleTime
  have thirdShown : third.component.screen = some screen := by
    rw [thirdComponent]
    exact secondShown
  have accepted : paintable third.component.queued = true := by
    simp [thirdComponent, secondComponent, firstComponent, paintable, typed]
  obtain ⟨last, rendered, settled⟩ := render_settles environment thirdShown thirdIdle accepted
  have reachable : Served environment node app (.connection verification retryCount ledgerInfo) := ⟨_, rfl, rfl⟩
  refine ⟨_, last, _, .prepend reachable connected (.prepend ?_ called (.prepend ?_ answered
    (.prepend ?_ rendered .start))), settled⟩
  · trivial
  · exact rejected.symm
  · trivial

/-- Whatever is typed, the pressed verification comes to its end. -/
theorem press_settles (production : environment.dev = false) (node : Node) (text : JsString) :
    ∃ events app screen, Reach (step environment) (Served environment node) (press environment text) events app ∧
      Settled app screen := by
  let typed := App.initial.setState .discrete (·.setProductId (.string text))
  let screen : Closure := ⟨Cells.initial.setProductId (.string text), rfl⟩
  by_cases disabled : trim text = []
  · have pressed : press environment text = typed := by
      have idle : step environment typed .clickVerify = none := if_pos disabled
      rw [press, idle, Option.getD_none]
    rw [pressed]
    exact ⟨[], typed, screen, .start, rfl, rfl, rfl⟩
  · have pressed : press environment text = handleVerify .discrete screen typed := by
      have clicked : step environment typed .clickVerify = some (handleVerify .discrete screen typed) :=
        if_neg disabled
      rw [press, clicked, Option.getD_some]
    rw [pressed]
    cases checked : idError (cleanProductId text) with
    | some error =>
      refine ⟨[], _, ⟨(Cells.initial.setProductId (.string text)).setError error, rfl⟩, .start, ?_⟩
      rw [handleVerify, show idError (cleanProductId (productIdOf screen)) = some error from checked]
      exact ⟨rfl, rfl, rfl⟩
    | none =>
      rw [handleVerify, show idError (cleanProductId (productIdOf screen)) = none from checked]
      exact alone_settles environment production rfl rfl rfl rfl

end Settles

/-- Whatever is typed and registered, the served app always comes to an end, and without a panel. So it never
agrees with the contract, and in the weaker reading exactly on the ids that are not registered. -/
theorem never_agrees {environment : Environment} (production : environment.dev = false)
    (rejection : ViewPayload → JsString) (history : List Transaction) (id : String) :
    let node : Node := ⟨configuredAddress environment.contractAddress, stateAfter history, rejection⟩
    ¬Agrees environment node id ∧
      (ShowsRegistered environment node id ↔ verifyProduct node.state node.published id ≠ .ok true) := by
  intro node
  obtain ⟨events, app, screen, reach, settled⟩ := press_settles environment production node (js id)
  have noPanel {app : App} {screen : Closure} (ends : Ends environment node id app screen) :
      screen.state.result = none := by
    obtain ⟨⟨_, served⟩, _, shown, _⟩ := ends
    exact (noPanel_served production served).2 screen shown
  constructor
  · intro agrees
    obtain ⟨result, panel, _⟩ := agrees app screen ⟨⟨events, reach⟩, settled⟩
    rw [noPanel ⟨⟨events, reach⟩, settled⟩] at panel
    cases panel
  · constructor
    · intro shows registered
      obtain ⟨result, panel, _⟩ := (shows app screen ⟨⟨events, reach⟩, settled⟩).mpr registered
      rw [noPanel ⟨⟨events, reach⟩, settled⟩] at panel
      cases panel
    · intro unregistered other otherScreen ends
      refine iff_of_false ?_ unregistered
      rintro ⟨result, panel, _⟩
      rw [noPanel ends] at panel
      cases panel

/-- A node after the publisher of the module has registered one product. -/
def oneProductNode (address : Move.Address) : Node where
  published := address
  state := stateAfter [⟨address, .initRegistry, 1⟩, ⟨address, .registerProduct "1" "Luxury Watch", 2⟩]
  rejection _ := js "Function not found"

theorem oneProductNode_verifyProduct (address : Move.Address) (id : String) :
    verifyProduct (oneProductNode address).state address id =
      .ok (firstMatch [⟨"1", "Luxury Watch", address, 2, true⟩] id) := by
  let registry : ProductRegistry := ⟨⟨[⟨"1", "Luxury Watch", address, 2, true⟩], Nat.one_lt_two_pow (by decide)⟩⟩
  have opened : execute .empty ⟨address, .initRegistry, 1⟩ = .ok (.write .empty address ⟨.empty⟩) := rfl
  have registered : execute (.write .empty address ⟨.empty⟩) ⟨address, .registerProduct "1" "Luxury Watch", 2⟩ =
      .ok (.write (.write .empty address ⟨.empty⟩) address registry) := by
    simp only [execute, registerProduct, Move.Storage.borrowGlobal, Move.Storage.write_self]
    rfl
  have present : (oneProductNode address).state address = some registry := by
    simp only [oneProductNode, stateAfter, replay, List.foldl_cons, List.foldl_nil, attempt_ok opened,
      attempt_ok registered, Move.Storage.write_self]
  exact verifyProduct_present id present

def sampleNode : Node := oneProductNode (configuredAddress sampleEnvironment.contractAddress)

theorem never_agrees_unregistered :
    ¬Agrees sampleEnvironment sampleNode "2" ∧
      verifyProduct sampleNode.state sampleNode.published "2" ≠ .ok true ∧
      ShowsRegistered sampleEnvironment sampleNode "2" := by
  have unregistered : verifyProduct sampleNode.state sampleNode.published "2" ≠ .ok true := by
    intro registered
    have answer := oneProductNode_verifyProduct (configuredAddress sampleEnvironment.contractAddress) "2"
    exact Bool.false_ne_true (Except.ok.inj (answer.symm.trans registered))
  obtain ⟨disagrees, weaker⟩ := @never_agrees sampleEnvironment rfl sampleNode.rejection
    [⟨sampleNode.published, .initRegistry, 1⟩, ⟨sampleNode.published, .registerProduct "1" "Luxury Watch", 2⟩] "2"
  exact ⟨disagrees, unregistered, weaker.mpr unregistered⟩

/-- The contract knows the typed id, and the app ends with an error and no panel. -/
theorem registered_disagrees :
    verifyProduct sampleNode.state (configuredAddress sampleEnvironment.contractAddress) "1" = .ok true ∧
      (∃ app screen, Ends sampleEnvironment sampleNode "1" app screen ∧ screen.state.result = none ∧
        screen.state.error = js "Blockchain query failed: Function not found") ∧
      ¬Agrees sampleEnvironment sampleNode "1" ∧ ¬ShowsRegistered sampleEnvironment sampleNode "1" := by
  have ended : ∃ app screen, Ends sampleEnvironment sampleNode "1" app screen ∧ screen.state.result = none ∧
      screen.state.error = js "Blockchain query failed: Function not found" := by
    have rejected := view_getProduct sampleEnvironment sampleNode (js "1")
    refine ⟨_, _, ⟨⟨[.connection ⟨0, js "1", .connecting 0⟩ 0 ledgerInfo,
      .resumed ⟨0, js "1", .connected true⟩ true sampleTime,
      .response ⟨0, js "1", .querying⟩ (.rejected (js "Function not found")) sampleTime, .render],
      .prepend ?_ rfl (.prepend trivial rfl (.prepend rejected.symm rfl (.prepend trivial rfl .start)))⟩,
      rfl, rfl, rfl⟩, rfl, rfl⟩
    exact ⟨_, rfl, rfl⟩
  have registered : verifyProduct sampleNode.state (configuredAddress sampleEnvironment.contractAddress) "1" =
      .ok true := oneProductNode_verifyProduct _ "1"
  refine ⟨registered, ended, fun agrees => ?_, fun shows => ?_⟩
  · obtain ⟨app, screen, ends, empty, _⟩ := ended
    obtain ⟨result, panel, _⟩ := agrees app screen ends
    rw [panel] at empty
    cases empty
  · obtain ⟨app, screen, ends, empty, _⟩ := ended
    obtain ⟨result, panel, _⟩ := (shows app screen ends).mpr registered
    rw [panel] at empty
    cases empty

end TrueMark.UserApp
