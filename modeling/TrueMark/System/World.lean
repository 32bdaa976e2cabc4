import TrueMark.Contract.History
import TrueMark.Dashboard.Step
import TrueMark.Runs.Simulation
import TrueMark.UserApp.Agreement

namespace TrueMark.System
open Ecma Aptos Qr React Runs Contract

/-- One installation of the whole: both apps are built with the same configuration, the user app for
production, and a node serves the chain. -/
structure Deployment where
  contractAddress : ContractAddress
  signer : Signer
  engine : Engine
  localeString : JsValue → JsString
  published : Move.Address
  rejection : ViewPayload → JsString

namespace Deployment

variable (deployment : Deployment)

def dashboard : Dashboard.Environment where
  contractAddress := deployment.contractAddress
  signer := deployment.signer

def userApp : UserApp.Environment where
  dev := false
  contractAddress := deployment.contractAddress
  signer := deployment.signer
  engine := deployment.engine
  localeString := deployment.localeString

/-- The node, once the chain has come this far. -/
def node (history : List Transaction) : Node where
  published := deployment.published
  state := stateAfter history
  rejection := deployment.rejection

end Deployment

/-- The transactions on the chain, and all browsers, each with one of the two apps. -/
structure World where
  history : List Transaction
  pages : Nat → Dashboard.Page
  apps : Nat → UserApp.App

def World.initial : World := ⟨[], fun _ => .initial, fun _ => .initial⟩

inductive Event
  | transaction (transaction : Transaction)
  | page (office : Nat) (event : Dashboard.Event)
  | app (user : Nat) (event : UserApp.Event)

/-- Whatever happens, happens in one place. Neither app submits anything to the chain. -/
def step (deployment : Deployment) (world : World) : Event → Option World
  | .transaction transaction => some { world with history := world.history ++ [transaction] }
  | .page office event => (Dashboard.step deployment.dashboard (world.pages office) event).map fun page =>
      { world with pages := Function.update world.pages office page }
  | .app user event => (UserApp.step deployment.userApp (world.apps user) event).map fun app =>
      { world with apps := Function.update world.apps user app }

/-- A view call fails on its way, or the node answers it from a state that the chain has passed. -/
def Answers (deployment : Deployment) (history : List Transaction) (payload : ViewPayload) (reply : Reply) : Prop :=
  (∃ message, reply = .rejected message) ∨
    ∃ earlier, earlier <+: history ∧ reply = (deployment.node earlier).view payload

/-- A dashboard has signed this text. -/
def Signed (world : World) (text : JsString) : Prop :=
  ∃ office ticket product issued, .drawing ticket product issued ∈ (world.pages office).trace ∧
    text = objectText (productData product issued)

/-- Whoever holds up a code with a valid signature has it from a dashboard: nobody else signs under the secret. -/
def Unforged (deployment : Deployment) (world : World) (decodedText : JsString) : Prop :=
  ∀ properties : Properties, Json.parse decodedText = some (.object properties) →
    properties.get (js "signature") = .string (deployment.signer.sign (properties.without (js "signature"))) →
    Signed world (objectText (properties.without (js "signature")))

/-- What is assumed of the world around the apps: the node answers as the module says, signatures are
not forged, and the clocks have left the epoch behind. -/
def Faithful (deployment : Deployment) (world : World) : Event → Prop
  | .page _ (.counted _ reply _ issued) =>
    Answers deployment world.history (Dashboard.countPayload deployment.dashboard) reply ∧ 0 < issued.milliseconds
  | .page _ (.clickGenerate _ issued) => 0 < issued.milliseconds
  | .app _ (.response verification reply _) =>
    Answers deployment world.history (UserApp.viewPayload deployment.userApp verification.cleanProductId) reply
  | .app _ (.scan decodedText _) => Unforged deployment world decodedText
  | _ => True

section Answers

variable {deployment : Deployment} {history : List Transaction} {reply : Reply}

/-- The module has no `product::get_product_count`. -/
theorem count_rejected (answers : Answers deployment history (Dashboard.countPayload deployment.dashboard) reply) :
    ∃ message, reply = .rejected message := by
  rcases answers with failed | ⟨earlier, _, rfl⟩
  · exact failed
  · have name : (Dashboard.countPayload deployment.dashboard).function =
        deployment.contractAddress.text ++ js "::" ++ (js "product" ++ js "::" ++ js "get_product_count") :=
      (List.append_assoc _ (js "::") (js "product::get_product_count")).symm
    exact ⟨_, Node.view_unpublished deployment.contractAddress name (by decide) (Or.inl (by decide))⟩

/-- Nor has it `product::get_product`. -/
theorem product_rejected {clean : JsString}
    (answers : Answers deployment history (UserApp.viewPayload deployment.userApp clean) reply) :
    ∃ message, reply = .rejected message := by
  rcases answers with failed | ⟨earlier, _, rfl⟩
  · exact failed
  · exact ⟨_, UserApp.view_getProduct deployment.userApp (deployment.node earlier) clean⟩

end Answers

section Parts

variable {deployment : Deployment} {guard : World → Event → Prop} {events : List Event} {world : World}

def Event.ofPage (office : Nat) : Event → Option Dashboard.Event
  | .page other event => if other = office then some event else none
  | _ => none

def Event.ofApp (user : Nat) : Event → Option UserApp.Event
  | .app other event => if other = user then some event else none
  | _ => none

/-- What a step does to the page of one office. -/
theorem step_page {after : World} {event : Event} (office : Nat) (run : step deployment world event = some after) :
    (∃ own, event = .page office own ∧
        Dashboard.step deployment.dashboard (world.pages office) own = some (after.pages office)) ∨
      event.ofPage office = none ∧ after.pages office = world.pages office := by
  cases event with
  | transaction transaction =>
    cases run
    exact Or.inr ⟨rfl, rfl⟩
  | page other event =>
    obtain ⟨page, taken, rfl⟩ := Option.map_eq_some_iff.mp run
    by_cases here : other = office
    · subst here
      have here : Function.update world.pages other page other = page := Function.update_self ..
      exact Or.inl ⟨event, rfl, taken.trans (congrArg some here.symm)⟩
    · exact Or.inr ⟨if_neg here, Function.update_of_ne (Ne.symm here) _ _⟩
  | app user event =>
    obtain ⟨app, _, rfl⟩ := Option.map_eq_some_iff.mp run
    exact Or.inr ⟨rfl, rfl⟩

/-- What a step does to the app of one user. -/
theorem step_app {after : World} {event : Event} (user : Nat) (run : step deployment world event = some after) :
    (∃ own, event = .app user own ∧
        UserApp.step deployment.userApp (world.apps user) own = some (after.apps user)) ∨
      event.ofApp user = none ∧ after.apps user = world.apps user := by
  cases event with
  | transaction transaction =>
    cases run
    exact Or.inr ⟨rfl, rfl⟩
  | page office event =>
    obtain ⟨page, _, rfl⟩ := Option.map_eq_some_iff.mp run
    exact Or.inr ⟨rfl, rfl⟩
  | app other event =>
    obtain ⟨app, taken, rfl⟩ := Option.map_eq_some_iff.mp run
    by_cases here : other = user
    · subst here
      have here : Function.update world.apps other app other = app := Function.update_self ..
      exact Or.inl ⟨event, rfl, taken.trans (congrArg some here.symm)⟩
    · exact Or.inr ⟨if_neg here, Function.update_of_ne (Ne.symm here) _ _⟩

/-- A run of the whole is a run of every page in it. -/
theorem reach_page (guardPage : Dashboard.Page → Dashboard.Event → Prop) (office : Nat)
    (implied : ∀ {world event}, guard world (.page office event) → guardPage (world.pages office) event)
    (reach : Reach (step deployment) guard .initial events world) :
    Reach (Dashboard.step deployment.dashboard) guardPage .initial (events.filterMap (Event.ofPage office))
      (world.pages office) := by
  refine reach.project (fun world => world.pages office) (Event.ofPage office)
    (fun selected allowed run => ?_) fun selected run => ?_
  · rcases step_page office run with ⟨own, rfl, taken⟩ | ⟨other, _⟩
    · simp only [Event.ofPage, if_true, Option.some.injEq] at selected
      subst selected
      exact ⟨implied allowed, taken⟩
    · rw [other] at selected
      cases selected
  · rcases step_page office run with ⟨own, rfl, _⟩ | ⟨_, same⟩
    · simp [Event.ofPage] at selected
    · exact same

/-- And of every app. -/
theorem reach_app (guardApp : UserApp.App → UserApp.Event → Prop) (user : Nat)
    (implied : ∀ {world event}, guard world (.app user event) → guardApp (world.apps user) event)
    (reach : Reach (step deployment) guard .initial events world) :
    Reach (UserApp.step deployment.userApp) guardApp .initial (events.filterMap (Event.ofApp user))
      (world.apps user) := by
  refine reach.project (fun world => world.apps user) (Event.ofApp user)
    (fun selected allowed run => ?_) fun selected run => ?_
  · rcases step_app user run with ⟨own, rfl, taken⟩ | ⟨other, _⟩
    · simp only [Event.ofApp, if_true, Option.some.injEq] at selected
      subst selected
      exact ⟨implied allowed, taken⟩
    · rw [other] at selected
      cases selected
  · rcases step_app user run with ⟨own, rfl, _⟩ | ⟨_, same⟩
    · simp [Event.ofApp] at selected
    · exact same

end Parts

/-- An installation of the sample configuration, with the module at the configured address. -/
def sampleDeployment : Deployment where
  contractAddress := sampleAddress
  signer := sampleSigner
  engine := sampleEngine
  localeString _ := js "1/24/2025, 12:00:00 AM"
  published := configuredAddress sampleAddress
  rejection _ := js "Function not found"

end TrueMark.System
