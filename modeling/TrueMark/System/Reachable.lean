import TrueMark.Dashboard.Displayed
import TrueMark.System.Invariants
import TrueMark.UserApp.Scanning

namespace TrueMark.System
open Ecma Aptos Qr React Runs Contract

section Lift

variable {deployment : Deployment} {world : World} {office user : Nat}

/-- What one office can do alone, it can do in the middle of everything else. -/
theorem lift_page {events : List Dashboard.Event} {page : Dashboard.Page}
    (reach : Reach (Dashboard.step deployment.dashboard) anything (world.pages office) events page)
    (free : ∀ event ∈ events, ∀ pages, Faithful deployment { world with pages } (.page office event)) :
    ∃ pages, Reach (step deployment) (Faithful deployment) world (events.map (Event.page office))
      { world with pages } ∧ pages office = page := by
  induction reach with
  | start => exact ⟨world.pages, .start, rfl⟩
  | @next events before event after _ _ run ih =>
    obtain ⟨pages, reach, here⟩ := ih fun other member => free other (List.mem_append_left _ member)
    refine ⟨Function.update pages office after, ?_, Function.update_self ..⟩
    rw [List.map_append]
    refine reach.next (free event (List.mem_append_right _ List.mem_cons_self) pages) ?_
    simp only [step, here, run, Option.map_some]

/-- And so can one user. -/
theorem lift_app {events : List UserApp.Event} {app : UserApp.App}
    (reach : Reach (UserApp.step deployment.userApp) anything (world.apps user) events app)
    (free : ∀ event ∈ events, ∀ apps, Faithful deployment { world with apps } (.app user event)) :
    ∃ apps, Reach (step deployment) (Faithful deployment) world (events.map (Event.app user)) { world with apps } ∧
      apps user = app := by
  induction reach with
  | start => exact ⟨world.apps, .start, rfl⟩
  | @next events before event after _ _ run ih =>
    obtain ⟨apps, reach, here⟩ := ih fun other member => free other (List.mem_append_left _ member)
    refine ⟨Function.update apps user after, ?_, Function.update_self ..⟩
    rw [List.map_append]
    refine reach.next (free event (List.mem_append_right _ List.mem_cons_self) apps) ?_
    simp only [step, here, run, Option.map_some]

/-- The code of a drawing is no forgery. -/
theorem unforged_drawn {ticket : Nat} {product : Qr.Product} {issued : TimeValue}
    (drawing : .drawing ticket product issued ∈ (world.pages office).trace) (carried : Carried product.id)
    (nonzero : issued.milliseconds ≠ 0) :
    Unforged deployment world (qrData deployment.signer product issued) := by
  intro properties parsed _
  rw [parse_qrData deployment.signer carried nonzero] at parsed
  cases parsed
  refine ⟨office, ticket, product, issued, drawing, ?_⟩
  rw [signedData_without, objectText_defined carried nonzero]

theorem reopen_free {screen : UserApp.Closure} :
    ∀ event ∈ UserApp.reopen screen, ∀ world, Faithful deployment world (.app user event) := by
  intro event member world
  have known : event = .clickCancel ∨ event = .edit [] ∨ event = .clickScan := by
    unfold UserApp.reopen at member
    split at member <;> simp at member <;> tauto
  rcases known with rfl | rfl | rfl <;> trivial

/-- Every row of a mounted page can be drawn. -/
theorem draw_run (deployment : Deployment) {product : Qr.Product} {issued : TimeValue}
    (unregistered : Dashboard.Unregistered (world.pages office)) (alive : (world.pages office).component.Safe)
    (initial : product ∈ initialProducts) (positive : 0 < issued.milliseconds) :
    ∃ events pages ticket, Reach (step deployment) (Faithful deployment) world events { world with pages } ∧
      .drawing ticket product issued ∈ (pages office).trace := by
  obtain ⟨⟨screen, shown⟩, _⟩ := alive
  obtain ⟨row, listed⟩ := List.mem_iff_getElem?.mp initial
  rw [← unregistered.products.2 screen shown] at listed
  have run : Dashboard.step deployment.dashboard (world.pages office) (.clickGenerate row issued) = some
      (Dashboard.generateQRCode deployment.dashboard .discrete none product issued (world.pages office)) := by
    simp only [Dashboard.step, shown, listed, Option.map_some]
  obtain ⟨pages, reach, here⟩ := @lift_page deployment world office _ _ (.prepend trivial run .start)
    fun event member _ => by
      rw [List.mem_singleton.mp member]
      exact positive
  refine ⟨_, pages, (world.pages office).tickets, reach, ?_⟩
  rw [here]
  exact List.mem_append_right _ List.mem_cons_self

/-- A render shows what was set before it, and is not observed. -/
theorem render_shows {environment : UserApp.Environment} {app : UserApp.App}
    (renders : UserApp.Renders environment app) :
    ∃ rendered screen, UserApp.step environment app .render = some rendered ∧
      rendered.component.screen = some screen ∧ screen.state = app.component.queued ∧ rendered.trace = app.trace := by
  obtain ⟨rendered, screen, run, shown⟩ := renders
  refine ⟨rendered, screen, run, shown, ?_⟩
  cases UserApp.step_turn run with
  | render =>
    rw [UserApp.App.commit_component] at shown
    exact ⟨Component.paint_screen shown, UserApp.App.commit_trace _ _⟩

end Lift

/-- A dashboard draws the code of a listed product, and within a day a user scans it over an empty field. -/
theorem scan_reaches {deployment : Deployment}
    (nonempty : ∀ message, deployment.signer.hmacSHA256 message deployment.signer.signingSecret ≠ [])
    {events : List Event} {world : World} (reach : Reach (step deployment) (Faithful deployment) .initial events world)
    (office user : Nat) {product : Qr.Product} (initial : product ∈ initialProducts) {issued now : TimeValue}
    (positive : 0 < issued.milliseconds) (later : issued.milliseconds ≤ now.milliseconds)
    (fresh : now.milliseconds ≤ issued.milliseconds + 86400000) :
    ∃ more world' screen ticket, Reach (step deployment) (Faithful deployment) world more world' ∧
      .drawing ticket product issued ∈ (world'.pages office).trace ∧
      .scanned (qrData deployment.signer product issued) now ∈ (world'.apps user).trace ∧
      (world'.apps user).component.screen = some screen ∧
      screen.state.result =
        some (UserApp.offlineResult deployment.userApp (signedData deployment.signer product issued).defined) := by
  obtain ⟨pages, apps⟩ := reach_alive reach
  obtain ⟨id, named⟩ := initialProducts_named product initial
  have carried : Carried product.id := named ▸ carried_string id
  have issuable := Dashboard.initialProducts_issuable product initial
  have accepted := (verifyQRCode_issued deployment.engine now carried positive.ne' nonempty).mpr
    ⟨⟨issuable.identified, issuable.named, issuable.made⟩, age_within later fresh⟩
  -- a dashboard draws the code
  obtain ⟨draw, drawnPages, ticket, drawRun, drawing⟩ := draw_run deployment
    (reach_unregistered reach office) (Dashboard.renders_iff.mp (pages office)) initial positive
  -- the user opens the scanner over an empty field, and scans
  obtain ⟨⟨before, shown⟩, _⟩ := UserApp.renders_iff.mp (apps user)
  obtain ⟨opened, closure, reopened, openShown, scanner, empty⟩ := UserApp.reopen_run deployment.userApp shown
  obtain ⟨after, scanRun, observed, result⟩ := UserApp.scan_empty_shows deployment.userApp scanner empty openShown
    (parse_qrData deployment.signer carried positive.ne') accepted
  obtain ⟨scannedApps, scanned, here⟩ := @lift_app deployment { world with pages := drawnPages } user _ _
    (reopened.next trivial scanRun) fun event member apps => by
      rcases List.mem_append.mp member with opening | scan
      · exact reopen_free event opening _
      · rw [List.mem_singleton.mp scan]
        exact unforged_drawn drawing carried positive.ne'
  -- and the result comes on display with the next render
  have renders : UserApp.Renders deployment.userApp (scannedApps user) :=
    (reach_alive ((reach.append drawRun).append scanned)).2 user
  obtain ⟨rendered, screen, renderRun, renderShown, panel, sameTrace⟩ := render_shows renders
  obtain ⟨finalApps, last, there⟩ := @lift_app deployment ⟨world.history, drawnPages, scannedApps⟩ user _ _
    (.prepend trivial renderRun .start) fun event member _ => by
      rw [List.mem_singleton.mp member]
      trivial
  have observedThere : .scanned (qrData deployment.signer product issued) now ∈ (finalApps user).trace := by
    rw [there, sameTrace, here]
    exact observed
  have shownThere : (finalApps user).component.screen = some screen := by
    rw [there, renderShown]
  exact ⟨_, _, screen, ticket, (drawRun.append scanned).append last, drawing, observedThere, shownThere,
    by rw [panel, here, result]⟩

end TrueMark.System
