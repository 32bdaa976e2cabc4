import TrueMark.Dashboard.Registration
import TrueMark.Dashboard.Rendering
import TrueMark.Dashboard.Unregistered
import TrueMark.Qr.Tamper
import TrueMark.System.World
import TrueMark.UserApp.Rendering
import TrueMark.UserApp.Unanswered

namespace TrueMark.System
open Ecma Aptos Qr React Runs Contract

/-- Every code that was scanned with a valid signature was signed by a dashboard. -/
def ScansSigned (deployment : Deployment) (world : World) : Prop :=
  ∀ user decodedText now (properties : Properties), .scanned decodedText now ∈ (world.apps user).trace →
    Json.parse decodedText = some (.object properties) →
    properties.get (js "signature") = .string (deployment.signer.sign (properties.without (js "signature"))) →
    Signed world (objectText (properties.without (js "signature")))

section Runs

variable {deployment : Deployment} {events : List Event} {world after : World} {event : Event}

theorem reach_unregistered (reach : Reach (step deployment) (Faithful deployment) .initial events world)
    (office : Nat) : Dashboard.Unregistered (world.pages office) := by
  refine (reach_page Dashboard.Declined office (fun faithful => ?_) reach).invariant
    Dashboard.unregistered_initial fun holds declined run => holds.step declined run
  rename_i event
  cases event with
  | counted ticket reply now issued => exact count_rejected faithful.1
  | clickGenerate row issued => exact faithful
  | _ => trivial

theorem reach_panels (reach : Reach (step deployment) (Faithful deployment) .initial events world) (user : Nat) :
    (world.apps user).component.Holds (UserApp.ScanPanel deployment.userApp (world.apps user).trace) := by
  refine (reach_app UserApp.Declined user (fun faithful => ?_) reach).invariant
    (P := fun app => app.component.Holds (UserApp.ScanPanel deployment.userApp app.trace))
    (UserApp.scanPanel_initial _) fun holds declined run => UserApp.ScanPanel.step rfl declined holds run
  rename_i event
  cases event with
  | response verification reply now => exact product_rejected faithful
  | _ => trivial

/-- What a dashboard has signed stays signed. -/
theorem Signed.step {text : JsString} (signed : Signed world text) (run : step deployment world event = some after) :
    Signed after text := by
  obtain ⟨office, ticket, product, issued, drawing, same⟩ := signed
  refine ⟨office, ticket, product, issued, ?_, same⟩
  rcases step_page office run with ⟨own, _, taken⟩ | ⟨_, unchanged⟩
  · obtain ⟨observations, listing⟩ := Dashboard.step_listing taken
    rw [listing.trace]
    exact List.mem_append_left _ drawing
  · rw [unchanged]
    exact drawing

/-- Only a scan is observed as one. -/
theorem scanned_origin {environment : UserApp.Environment} {app after : UserApp.App} {event : UserApp.Event}
    (run : UserApp.step environment app event = some after) {decodedText : JsString} {now : TimeValue}
    (scanned : .scanned decodedText now ∈ after.trace) :
    .scanned decodedText now ∈ app.trace ∨ event = .scan decodedText now := by
  obtain ⟨observations, trace, progress⟩ := UserApp.step_progress run
  rw [trace] at scanned
  refine (List.mem_append.mp scanned).imp_right fun new => ?_
  generalize after.verifications = verifications at progress
  generalize after.tickets = tickets at progress
  generalize UserApp.writeOf environment app event = write at progress
  cases progress <;> simp at new <;> rw [new.1, new.2]

theorem ScansSigned.step (signed : ScansSigned deployment world) (faithful : Faithful deployment world event)
    (run : step deployment world event = some after) : ScansSigned deployment after := by
  intro user decodedText now properties scanned parsed valid
  refine Signed.step ?_ run
  rcases step_app user run with ⟨own, rfl, taken⟩ | ⟨_, unchanged⟩
  · rcases scanned_origin taken scanned with old | rfl
    · exact signed user decodedText now properties old parsed valid
    · exact faithful properties parsed valid
  · rw [unchanged] at scanned
    exact signed user decodedText now properties scanned parsed valid

theorem reach_scansSigned (reach : Reach (step deployment) (Faithful deployment) .initial events world) :
    ScansSigned deployment world :=
  reach.invariant (fun _ _ _ _ scanned => absurd scanned List.not_mem_nil) fun signed faithful run =>
    signed.step faithful run

end Runs

theorem initialProducts_named : ∀ product ∈ initialProducts, ∃ id, product.id = .string id := by
  intro product member
  rcases List.mem_cons.mp member with rfl | member
  · exact ⟨_, rfl⟩
  · rw [List.mem_singleton.mp member]
    exact ⟨_, rfl⟩

/-- A code that was accepted is genuine and fresh: a dashboard drew it for an initial product, at most a day before,
and all that it has next to its signature is the data of that drawing. -/
structure Genuine (world : World) (now : TimeValue) (properties : Properties) (product : Qr.Product) : Prop where
  initial : product ∈ initialProducts
  drawn : ∃ office ticket issued, .drawing ticket product issued ∈ (world.pages office).trace ∧
    issued.milliseconds ≤ now.milliseconds ∧ now.milliseconds ≤ issued.milliseconds + 86400000 ∧
    properties.without (js "signature") = (productData product issued).defined

section Genuine

variable {world : World} {decodedText : JsString} {now : TimeValue} {properties : Properties} {product : Qr.Product}

/-- The fields that the result panel of a scan shows. -/
theorem Genuine.shown (genuine : Genuine world now properties product) :
    properties.get (js "id") = product.id ∧ properties.get (js "name") = .string product.name ∧
      properties.get (js "manufacturer") = .string product.manufacturer := by
  obtain ⟨_, _, _, _, _, _, data⟩ := genuine.drawn
  exact ⟨get_of_without data (by simp [productData]), get_of_without data (by simp [productData]),
    get_of_without data (by simp [productData])⟩

theorem accepted_genuine (deployment : Deployment)
    (unregistered : ∀ office, Dashboard.Unregistered (world.pages office))
    (signed : Signed world (objectText (properties.without (js "signature"))))
    (parsed : Json.parse decodedText = some (.object properties))
    (valid : (verifyQRCode deployment.engine deployment.signer now (.object properties)).isValid = true) :
    ∃ product, Genuine world now properties product := by
  obtain ⟨office, ticket, product, issued, drawing, text⟩ := signed
  obtain ⟨initial, positive⟩ := (unregistered office).drawn ticket product issued drawing
  obtain ⟨id, named⟩ := initialProducts_named product initial
  have wellFormed : Json.WellFormed product.id := by
    rw [named]
    trivial
  obtain ⟨written, _, exact, data⟩ := eq_productData_of_objectText parsed wellFormed positive text
  have sameId : written = product.id := exact (named ▸ carried_string id) (named ▸ Json.rigid_string id)
  rw [sameId] at data
  obtain ⟨others, timestamp, same, _, number, young, past, _⟩ := verifyQRCode_valid.mp valid
  obtain rfl := JsValue.object.inj same
  have time : properties.get (js "timestamp") = .number issued.number := get_of_without data (by simp [productData])
  rw [time, JsValue.toNumber, Option.some.injEq] at number
  rw [← number] at young past
  obtain ⟨later, fresh⟩ := (age_checks now positive).mp ⟨young, past⟩
  exact ⟨product, initial, office, ticket, issued, drawing, later, fresh, data⟩

end Genuine

/-- Everything is mounted, and can be rendered again. -/
def Alive (deployment : Deployment) (world : World) : Prop :=
  (∀ office, Dashboard.Renders deployment.dashboard (world.pages office)) ∧
    ∀ user, UserApp.Renders deployment.userApp (world.apps user)

section Alive

variable {deployment : Deployment} {events : List Event} {world : World}

theorem alive_initial (deployment : Deployment) : Alive deployment .initial :=
  ⟨fun _ => Dashboard.renders_iff.mpr (Component.safe_mount _),
    fun _ => UserApp.renders_iff.mpr (Component.safe_mount _)⟩

/-- What the node and the dashboards give to a user can be shown. -/
theorem faithful_showable (unregistered : ∀ office, Dashboard.Unregistered (world.pages office)) {user : Nat}
    {event : UserApp.Event} (faithful : Faithful deployment world (.app user event)) :
    UserApp.Showable deployment.userApp (world.apps user) event := by
  cases event with
  | scan decodedText now =>
    intro closure properties _ parsed valid
    obtain ⟨others, _, same, _, _, _, _, signed⟩ := verifyQRCode_valid.mp valid
    obtain rfl := JsValue.object.inj same
    obtain ⟨product, genuine⟩ := accepted_genuine deployment unregistered
      (faithful properties parsed signed) parsed valid
    obtain ⟨id, named⟩ := initialProducts_named product genuine.initial
    obtain ⟨sameId, name, manufacturer⟩ := genuine.shown
    rw [sameId, name, manufacturer, named]
    exact ⟨⟨id, rfl⟩, fun _ => ⟨rfl, rfl⟩⟩
  | response verification reply now =>
    obtain ⟨message, rfl⟩ := product_rejected faithful
    exact nofun
  | _ => trivial

theorem reach_alive (reach : Reach (step deployment) (Faithful deployment) .initial events world) :
    Alive deployment world := by
  induction reach with
  | start => exact alive_initial deployment
  | @next events before event after previous faithful run ih =>
    obtain ⟨pages, apps⟩ := ih
    refine ⟨fun office => ?_, fun user => ?_⟩
    · rcases step_page office run with ⟨own, rfl, taken⟩ | ⟨_, same⟩
      · refine Dashboard.renders_iff.mpr ((Dashboard.safe_step (Dashboard.renders_iff.mp (pages office)) taken).mpr ?_)
        cases own with
        | counted ticket reply now issued =>
          obtain ⟨message, rfl⟩ := count_rejected faithful.1
          trivial
        | _ => trivial
      · rw [same]
        exact pages office
    · rcases step_app user run with ⟨own, rfl, taken⟩ | ⟨_, same⟩
      · exact UserApp.renders_iff.mpr ((UserApp.safe_step (UserApp.renders_iff.mp (apps user)) taken).mpr
          (faithful_showable (reach_unregistered previous) faithful))
      · rw [same]
        exact apps user

end Alive

end TrueMark.System
