import TrueMark.Dashboard.Progress

namespace TrueMark.Dashboard
open Ecma Aptos Qr React Runs

/-- React can render the page as it is now, and the page survives it. -/
def Renders (environment : Environment) (page : Page) : Prop :=
  Component.Renders Page.component (fun page => step environment page .render) page

/-- The answer to a count becomes the id of a row, so it has to be something that a cell can show. -/
def Showable (_ : Page) : Event → Prop
  | .counted _ (.resolved answer) _ _ => renderable answer = true
  | _ => True

section Step

variable {environment : Environment} {page after : Page} {event : Event}

theorem renders_iff : Renders environment page ↔ page.component.Safe := by
  refine Component.renders_iff_safe (fun unmounted => ?_) fun screen shown => ?_
  · simp only [step, unmounted]
  · exact ⟨_, by simp only [step, shown]; rfl, rfl⟩

theorem safe_kept {lane : Lane} {update : Cells → Cells} (safe : page.component.Safe)
    (kept : ∀ cells, (update cells).products = cells.products) : (page.component.setState lane update).Safe := by
  refine safe.setState fun cells accepted => ?_
  rw [paintable, kept]
  exact accepted

theorem safe_step (safe : page.component.Safe) (run : step environment page event = some after) :
    after.component.Safe ↔ Showable page event := by
  cases step_turn run with
  | dialog dialog update =>
    have showable : Showable page event :=
      Event.dialog_cases (P := Showable page) dialog trivial trivial (fun _ _ => trivial) trivial fun _ => trivial
    exact iff_of_true (safe_kept safe update.products) showable
  | render => exact iff_of_true safe.render trivial
  | refused => exact iff_of_true (safe_kept safe fun _ => rfl) trivial
  | asked => exact iff_of_true (safe_kept safe fun _ => rfl) trivial
  | generate => exact iff_of_true (safe_kept safe fun _ => rfl) trivial
  | failed => exact iff_of_true (safe_kept safe fun _ => rfl) trivial
  | @listed add ticket answer now issued product member same counting equal =>
    dsimp only
    rw [safe.setState_deferred, equal]
    have others : page.component.queued.products.all (fun product => renderable product.id) = true := safe.2
    simp [paintable, handleClose, others, Showable, addedProduct]
  | @drawn generation ticket url =>
    exact iff_of_true (safe_kept safe fun cells => by cases url <;> rfl) trivial
  | finished => exact iff_of_true (safe_kept safe fun _ => rfl) trivial

end Step

/-- The page can be rendered throughout a run exactly if the answer of every successful count can be
shown in a cell. Nothing else in the run, and no failure, ever takes it down. -/
theorem page_renders_iff {environment : Environment} {events : List Event} {page : Page}
    (reach : Reach (step environment) anything .initial events page) :
    Throughout (step environment) .initial events (Renders environment) ↔
      Reach (step environment) Showable .initial events page := by
  refine throughout_iff (renders_iff.mpr (Component.safe_mount _)) (fun renders run => ?_) reach
  rw [renders_iff, safe_step (renders_iff.mp renders) run]

/-- The count of an add is answered with an array that a cell can show, and its QR code fails. -/
theorem page_renders_counted :
    Throughout (step sampleEnvironment) .initial
      (fillForm ++ [.clickAdd] ++ [.counted 0 (.resolved (.array [.string (js "3")])) sampleTime sampleTime,
        .drawn 1 (.error (js "Error")), .finished 0, .render])
      (Renders sampleEnvironment) := by
  have shown : ∀ event ∈ fillForm ++ [.clickAdd], ∀ page, Showable page event := by
    simp [fillForm, Showable]
  have counted : Reach (step sampleEnvironment) Showable .initial _ adding := reach_adding.guarded shown
  exact (page_renders_iff (reach_adding.append (reach_iff_follow.mpr rfl))).mpr
    (counted.append (.prepend rfl rfl (.prepend trivial rfl (.prepend trivial rfl (.prepend trivial rfl .start)))))

end TrueMark.Dashboard
