import TrueMark.Dashboard.Ids
import TrueMark.UserApp.ScannedId

namespace TrueMark.UserApp
open Ecma Aptos Qr React Runs

/-- The app is on the screen, and what it is about to show can be rendered next to a text in the field. -/
def Receptive (app : App) : Prop :=
  (∃ screen, app.component.screen = some screen) ∧ paintable (app.component.queued.setProductId (.string [])) = true

/-- Once the field is set to this id, as a scan sets it, and rendered, a click on Verify passes the checks. The
verification that it starts makes a view call if the node is reachable, for the number that the id denotes. -/
def LooksUp (environment : Environment) (id : JsValue) : Prop :=
  ∀ events app, Reach (step environment) anything .initial events app → Receptive app →
    ∃ rendered clicked text, step environment (app.setState .deferred (·.setProductId id)) .render = some rendered ∧
      step environment rendered .clickVerify = some clicked ∧ id.toNumber = some (parseInt text) ∧
      VerifiesId environment clicked app.tickets text ∧ ReachesCall environment clicked app.tickets text

section LooksUp

variable {environment : Environment} {app : App}

theorem CallsStarted.setState (calls : CallsStarted environment app) (lane : Lane) (update : Cells → Cells) :
    CallsStarted environment (app.setState lane update) :=
  calls.unstarted (app.setState_trace lane update ▸ (List.append_nil _).symm) (fun _ _ => List.not_mem_nil)
    (app.setState_tickets lane update)
    (fun verification member => ⟨verification, app.setState_verifications lane update ▸ member, rfl, rfl⟩)
    fun _ _ called => absurd called List.not_mem_nil

/-- An id in the field is rendered as it is, whatever was there before. -/
theorem setProductId_rendered (receptive : Receptive app) (text : JsString) :
    ∃ rendered screen,
      step environment (app.setState .deferred (·.setProductId (.string text))) .render = some rendered ∧
      rendered.component.screen = some screen ∧ productIdOf screen = text ∧ rendered.tickets = app.tickets := by
  obtain ⟨⟨screen, shown⟩, accepted⟩ := receptive
  have typed : (app.setState .deferred (·.setProductId (.string text))).component =
      app.component.setState .deferred (·.setProductId (.string text)) := app.setState_component _ _
  have painted : paintable (app.component.queued.setProductId (.string text)) = true := by
    have edited := paintable_edit text accepted
    exact edited
  have stillShown : (app.setState .deferred (·.setProductId (.string text))).component.screen = some screen := by
    rw [typed]
    exact shown
  refine ⟨_, ⟨_, painted⟩, by simp only [step, stillShown]; rfl, ?_, rfl, ?_⟩
  · rw [App.commit_component, typed]
    exact Component.render_screen painted
  · rw [App.commit_tickets, App.setState_tickets]

theorem looksUp_digits (production : environment.dev = false) {text : JsString} (nonempty : text ≠ [])
    (digits : ∀ c ∈ text, isDigit c = true) : LooksUp environment (.string text) := by
  intro events app reach receptive
  obtain ⟨passed, clean⟩ := clean_digits nonempty digits
  obtain ⟨rendered, screen, render, shown, typed, sameTickets⟩ := setProductId_rendered receptive text
  have enabled : trim (productIdOf screen) ≠ [] := by
    rw [typed]
    intro empty
    rw [cleanProductId, empty] at clean
    exact nonempty clean.symm
  have click : step environment rendered .clickVerify = some (handleVerify .discrete screen rendered) := by
    simp only [step, shown, if_neg enabled]
  have calls := (((reach_callsStarted reach).setState .deferred _).step render).step click
  obtain ⟨⟨next, stillShown⟩, member⟩ := @handleVerify_starts .discrete screen screen rendered
    (by rw [typed]; exact passed) shown
  rw [typed, clean, sameTickets] at member
  have number : (JsValue.string text).toNumber = some (parseInt text) := by
    rw [JsValue.toNumber, stringToNumber_digits nonempty digits]
  refine ⟨rendered, _, text, render, click, number, ?_, connecting_calls production stillShown member rfl⟩
  exact (started_verifies calls stillShown member rfl text).mpr fun _ => rfl

/-- Development builds never ask the node, so they look nothing up. -/
theorem LooksUp.production {id : JsValue} (looksUp : LooksUp environment id) : environment.dev = false := by
  obtain ⟨rendered, clicked, text, render, click, _, _, events, later, reach, called⟩ :=
    looksUp [] .initial .start ⟨⟨_, rfl⟩, rfl⟩
  have calls := (((reach_callsStarted .start).setState .deferred _).step render).step click
  have laterCalls : CallsStarted environment later := reach.invariant calls fun holds _ run => holds.step run
  exact (laterCalls.called _ _ called).1

/-- The first render with an array in the field throws. -/
theorem array_unmounts (items : List JsValue) :
    ∃ rendered, step environment (App.initial.setState .deferred (·.setProductId (.array items))) .render =
      some rendered ∧ rendered.component.screen = none :=
  ⟨_, rfl, rfl⟩

/-- Then there is nothing left to click on. -/
theorem not_looksUp_array (items : List JsValue) : ¬LooksUp environment (.array items) := by
  intro looksUp
  obtain ⟨rendered, clicked, _, render, click, _⟩ := looksUp [] .initial .start ⟨⟨_, rfl⟩, rfl⟩
  obtain ⟨unmounted, sameRender, gone⟩ := @array_unmounts environment items
  obtain rfl : rendered = unmounted := Option.some.inj (render.symm.trans sameRender)
  simp only [step, gone] at click
  cases click

end LooksUp

end TrueMark.UserApp

namespace TrueMark.Dashboard
open Ecma Aptos Qr React Runs

/-- An added product has the answer of its own view call for an id. -/
theorem listed_origin {environment : Environment} {events : List Event} {page : Page}
    (reach : Reach (step environment) anything .initial events page) {product : Product}
    (member : product ∈ page.component.queued.products) :
    product ∈ initialProducts ∨ ∃ success ∈ successes events, product.id = success.answer := by
  obtain ⟨entries, products, entriesOf⟩ := (reach_tracked reach).listed
  rw [products] at member
  rcases List.mem_append.mp member with initial | added
  · exact Or.inl initial
  · have answers : product.id ∈ (successes events).map Success.answer := by
      rw [← entries_ids entriesOf]
      exact List.mem_map_of_mem added
    obtain ⟨success, inside, same⟩ := List.mem_map.mp answers
    exact Or.inr ⟨success, inside, same.symm⟩

theorem initial_id {product : Product} (member : product ∈ initialProducts) :
    ∃ text, product.id = .string text ∧ text ≠ [] ∧ ∀ c ∈ text, isDigit c = true := by
  rcases List.mem_cons.mp member with rfl | member
  · exact ⟨js "1", rfl, List.cons_ne_nil _ _, List.all_eq_true.mp rfl⟩
  · rw [List.mem_singleton.mp member]
    exact ⟨js "2", rfl, List.cons_ne_nil _ _, List.all_eq_true.mp rfl⟩

/-- In production, the user app looks up the products that the page was opened with. The id
of an added one is the whole array of return values, which no render of the user app survives. -/
theorem listed_looksUp_iff {environment : Environment} (app : UserApp.Environment) {events : List Event} {page : Page}
    (reach : Reach (step environment) anything .initial events page)
    (counts : ∀ success ∈ successes events, ∃ count < 2 ^ 64, success.answer = countAnswer count) :
    ∀ product ∈ page.component.queued.products,
      (UserApp.LooksUp app product.id ↔ app.dev = false ∧ product ∈ initialProducts) := by
  intro product member
  constructor
  · intro looksUp
    refine ⟨looksUp.production, (listed_origin reach member).resolve_right ?_⟩
    rintro ⟨success, inside, id⟩
    obtain ⟨count, _, answer⟩ := counts success inside
    rw [id, answer] at looksUp
    exact UserApp.not_looksUp_array _ looksUp
  · rintro ⟨production, initial⟩
    obtain ⟨text, id, nonempty, digits⟩ := initial_id initial
    rw [id]
    exact UserApp.looksUp_digits production nonempty digits

theorem oneAdd_counts :
    (∃ page, Reach (step sampleEnvironment) anything .initial (oneAdd 2) page) ∧
      ∀ success ∈ successes (oneAdd 2), ∃ count < 2 ^ 64, success.answer = countAnswer count := by
  refine ⟨⟨_, reach_adding.append (reach_iff_follow.mpr rfl)⟩, fun success member => ⟨2, by decide, ?_⟩⟩
  rw [List.mem_singleton.mp member]

theorem listed_looksUp_premiumHeadphones :
    ∃ page, Reach (step sampleEnvironment) anything .initial (oneAdd 2) page ∧
      premiumHeadphones ∈ page.component.queued.products ∧
      UserApp.LooksUp UserApp.sampleEnvironment premiumHeadphones.id := by
  obtain ⟨⟨page, reach⟩, counts⟩ := oneAdd_counts
  obtain ⟨entries, products, _⟩ := (reach_tracked reach).listed
  have member : premiumHeadphones ∈ page.component.queued.products := by
    rw [products]
    exact List.mem_append_left _ List.mem_cons_self
  exact ⟨page, reach, member,
    (listed_looksUp_iff UserApp.sampleEnvironment reach counts _ member).mpr ⟨rfl, List.mem_cons_self⟩⟩

/-- The product added at a count of two has the array of that count for an id, and it unmounts the user app. -/
theorem listed_array :
    ∃ page, Reach (step sampleEnvironment) anything .initial (oneAdd 2) page ∧
      (∀ success ∈ successes (oneAdd 2), ∃ count < 2 ^ 64, success.answer = countAnswer count) ∧
      ∃ product ∈ page.component.queued.products, product.id = .array [.string (js "2")] ∧
        (∃ rendered, UserApp.step UserApp.sampleEnvironment
            (UserApp.App.initial.setState .deferred (·.setProductId product.id)) .render = some rendered ∧
          rendered.component.screen = none) ∧
        ¬UserApp.LooksUp UserApp.sampleEnvironment product.id := by
  obtain ⟨⟨page, reach⟩, counts⟩ := oneAdd_counts
  have listed : JsValue.array [.string (js "2")] ∈ page.component.queued.products.map Product.id := by
    rw [ids_eq reach]
    exact List.mem_append_right _ List.mem_cons_self
  obtain ⟨product, member, id⟩ := List.mem_map.mp listed
  refine ⟨page, reach, counts, product, member, id, ?_⟩
  rw [id]
  exact ⟨UserApp.array_unmounts _, UserApp.not_looksUp_array _⟩

end TrueMark.Dashboard
