import TrueMark.Dashboard.Progress

namespace TrueMark.Dashboard
open Ecma Aptos Qr React Runs

/-- The form that a product would come from. -/
def formOf (product : Product) : NewProduct where
  name := product.name
  manufacturer := product.manufacturer
  category := product.category
  description := product.description
  price := product.price
  batchNumber := product.batchNumber.getD []
  expiryDate := product.expiryDate.getD []

/-- All that the button, the category list and `validateProduct` ask of a form together. -/
structure Complete (form : NewProduct) : Prop where
  accepted : validateProduct form = none
  category : productCategories.contains form.category = true
  described : form.description ≠ []

/-- The category is not chosen yet, or one of the list. -/
def CategoryPicked (cells : Cells) : Prop :=
  cells.newProduct.category = [] ∨ productCategories.contains cells.newProduct.category = true

/-- The products in the list and next to the QR code. -/
def Presented (cells : Cells) (product : Product) : Prop :=
  product ∈ cells.products ∨ cells.selectedProduct = some product

/-- Only complete products are on the page or on their way to it. -/
structure AllComplete (page : Page) : Prop where
  form : page.component.Holds CategoryPicked
  adds : ∀ add ∈ page.adds, Complete add.form
  presented : page.component.Holds fun cells => ∀ product, Presented cells product → Complete (formOf product)
  generations : ∀ generation ∈ page.generations, Complete (formOf generation.product)

section Step

variable {environment : Environment} {page after : Page} {event : Event}

theorem addEnabled_complete {cells : Cells} (enabled : addEnabled cells = true) (picked : CategoryPicked cells)
    (accepted : validateProduct cells.newProduct = none) : Complete cells.newProduct := by
  simp only [addEnabled, Bool.not_eq_true', Bool.or_eq_false_iff, List.isEmpty_eq_false_iff] at enabled
  obtain ⟨⟨⟨⟨_, chosen⟩, described⟩, _⟩, _⟩ := enabled
  exact ⟨accepted, picked.resolve_left chosen, described⟩

theorem set_category {form : NewProduct} {field : Field} {value : JsString} (accepted : field.accepts value = true)
    (picked : form.category = [] ∨ productCategories.contains form.category = true) :
    (form.set value field).category = [] ∨ productCategories.contains (form.set value field).category = true := by
  cases field with
  | category => exact Or.inr accepted
  | _ => exact picked

/-- The dialogs cannot put anything else into the form. -/
theorem dialog_picked (picked : page.component.Holds CategoryPicked) (dialog : event.dialog = true)
    (run : step environment page event = some after) : after.component.Holds CategoryPicked := by
  unfold step at run
  split at run
  · cases run
  · rename_i screen shown
    cases event with
    | clickOpen =>
      cases run
      exact picked.setState fun _ holds => holds
    | clickClose =>
      cases run
      exact picked.setState fun _ _ => Or.inl rfl
    | edit field value =>
      dsimp only at run
      split at run
      · rename_i accepted
        cases run
        exact picked.setState fun _ _ => set_category accepted (picked.2 screen shown)
      · cases run
    | closeQr =>
      cases run
      exact picked.setState fun _ holds => holds
    | dismissError lane =>
      cases run
      exact picked.setState fun _ holds => holds
    | _ => cases dialog

theorem AllComplete.presented_setState (complete : AllComplete page) {lane : Lane} {update : Cells → Cells}
    (kept : ∀ cells product, Presented (update cells) product → Presented cells product) :
    (page.component.setState lane update).Holds
      fun cells => ∀ product, Presented cells product → Complete (formOf product) :=
  complete.presented.setState fun cells holds product shown => holds product (kept cells product shown)

theorem AllComplete.step (complete : AllComplete page) (run : step environment page event = some after) :
    AllComplete after := by
  cases step_turn run with
  | dialog dialog update =>
    refine ⟨dialog_picked complete.form dialog run, complete.adds, ?_, complete.generations⟩
    refine complete.presented_setState fun cells product shown => ?_
    rcases shown with listed | selected
    · exact Or.inl (update.products cells ▸ listed)
    · rcases update.selectedProduct cells with kept | closed
      · exact Or.inr (kept ▸ selected)
      · rw [closed] at selected
        cases selected
  | render =>
    exact ⟨complete.form.render, complete.adds, complete.presented.render, complete.generations⟩
  | refused =>
    exact ⟨complete.form.setState fun _ holds => holds, complete.adds,
      complete.presented_setState fun _ _ shown => shown, complete.generations⟩
  | @asked screen shown enabled valid =>
    refine ⟨complete.form.setState fun _ holds => holds, fun add member => ?_,
      complete.presented_setState fun _ _ shown => shown, complete.generations⟩
    rcases List.mem_append.mp member with old | new
    · exact complete.adds add old
    · rw [List.mem_singleton.mp new]
      exact addEnabled_complete enabled (complete.form.2 screen shown) valid
  | @generate screen row product issued shown listed =>
    refine ⟨complete.form.setState fun _ holds => holds, complete.adds,
      complete.presented_setState fun _ _ shown => shown, fun generation member => ?_⟩
    rcases List.mem_append.mp member with old | new
    · exact complete.generations generation old
    · rw [List.mem_singleton.mp new]
      exact complete.presented.2 screen shown product (Or.inl (List.mem_of_getElem? listed))
  | failed =>
    exact ⟨complete.form.setState fun _ holds => holds,
      fun add member => complete.adds add (List.mem_of_mem_eraseP member),
      complete.presented_setState fun _ _ shown => shown, complete.generations⟩
  | @listed add ticket answer now issued product member same counting equal =>
    have added : Complete (formOf product) := by
      rw [equal]
      exact complete.adds add member
    refine ⟨complete.form.setState fun _ _ => Or.inl rfl, fun other inside => ?_, ?_, fun generation inside => ?_⟩
    · obtain ⟨old, before, _, sameForm, _⟩ := mem_advance inside
      rw [sameForm]
      exact complete.adds old before
    · refine complete.presented.setState fun cells holds other shown => ?_
      rcases shown with inList | selected
      · rcases List.mem_append.mp inList with old | new
        · exact holds other (Or.inl old)
        · rw [List.mem_singleton.mp new]
          exact added
      · exact holds other (Or.inr selected)
    · rcases List.mem_append.mp inside with old | new
      · exact complete.generations generation old
      · rw [List.mem_singleton.mp new]
        exact added
  | @drawn generation ticket url member same =>
    refine ⟨complete.form.setState fun cells holds => by cases url <;> exact holds, fun add inside => ?_, ?_,
      fun other inside => complete.generations other (List.mem_of_mem_eraseP inside)⟩
    · obtain ⟨old, before, _, sameForm, _⟩ := mem_drawn inside
      rw [sameForm]
      exact complete.adds old before
    · refine complete.presented.setState fun cells holds product shown => ?_
      cases url with
      | ok picture =>
        rcases shown with listed | selected
        · exact holds product (Or.inl listed)
        · cases selected
          exact complete.generations generation member
      | error message => exact holds product shown
  | finished =>
    exact ⟨complete.form.setState fun _ holds => holds,
      fun add member => complete.adds add (List.mem_of_mem_eraseP member),
      complete.presented_setState fun _ _ shown => shown, complete.generations⟩

end Step

/-- A form whose other fields are filled in is accepted with any decimal as its price. -/
theorem validateProduct_priced {form : NewProduct} (name : trim form.name ≠ [])
    (manufacturer : trim form.manufacturer ≠ []) (category : form.category ≠ []) (price : trim form.price ≠ [])
    (number : isNaN (stringToNumber form.price) = false) (batchNumber : trim form.batchNumber ≠ [])
    (expiryDate : form.expiryDate ≠ []) : validateProduct form = none := by
  have valid : ¬(trim form.price = [] ∨ isNaN (stringToNumber form.price) = true) := by simp [price, number]
  simp only [validateProduct, if_neg name, if_neg manufacturer, if_neg category, if_neg valid, if_neg batchNumber,
    if_neg expiryDate]

/-- The rows that the page starts with meet its own demands. -/
theorem initialProducts_complete : ∀ product ∈ initialProducts, Complete (formOf product) := by
  intro product member
  rcases List.mem_cons.mp member with rfl | member
  · refine ⟨validateProduct_priced (by decide) (by decide) (by decide) (by decide) ?_ (by decide) (by decide),
      by decide, js_ne_nil (by decide)⟩
    exact isNaN_value ⟨false, js "299", js "99", none⟩
  · rw [List.mem_singleton.mp member]
    refine ⟨validateProduct_priced (by decide) (by decide) (by decide) (by decide) ?_ (by decide) (by decide),
      by decide, js_ne_nil (by decide)⟩
    exact isNaN_value ⟨false, js "19", js "99", none⟩

theorem allComplete_initial : AllComplete .initial := by
  have picked : CategoryPicked .initial := Or.inl rfl
  refine ⟨Component.holds_mount picked rfl, nofun, Component.holds_mount (fun product shown => ?_) rfl, nofun⟩
  rcases shown with listed | selected
  · exact initialProducts_complete product listed
  · cases selected

/-- Nothing incomplete gets onto the page. Whatever is typed, and in whatever order the calls come back, each
product in the list, next to the QR code or about to be drawn has a name, a manufacturer, a category of
the list, a description, a price that is a number, a batch number and an expiry date. -/
theorem presented_complete {environment : Environment} {events : List Event} {page : Page}
    (reach : Reach (step environment) anything .initial events page) :
    (∀ screen, page.component.screen = some screen → ∀ product, Presented screen.state product →
      Complete (formOf product)) ∧
    ∀ generation ∈ page.generations, Complete (formOf generation.product) := by
  have complete : AllComplete page := reach.invariant allComplete_initial fun holds _ run => holds.step run
  exact ⟨complete.presented.2, complete.generations⟩

/-- The product of the sample form, in the list. -/
theorem presented_complete_sampleForm :
    ∃ page screen product, Reach (step sampleEnvironment) anything .initial
        (fillForm ++ [.clickAdd] ++ [.counted 0 (.resolved (.string (js "3"))) sampleTime sampleTime] ++
          [.render]) page ∧
      page.component.screen = some screen ∧ product ∈ screen.state.products ∧ product.id = .string (js "3") ∧
      Complete (formOf product) := by
  obtain ⟨page, screen, product, reach, shown, listed, id⟩ : ∃ page screen product,
      Reach (step sampleEnvironment) anything .initial
        (fillForm ++ [.clickAdd] ++ [.counted 0 (.resolved (.string (js "3"))) sampleTime sampleTime] ++
          [.render]) page ∧
      page.component.screen = some screen ∧ product ∈ screen.state.products ∧ product.id = .string (js "3") :=
    ⟨_, _, addedProduct sampleForm (.string (js "3")) sampleTime,
      .next (.next reach_adding trivial rfl) trivial rfl, rfl, List.mem_append_right _ List.mem_cons_self, rfl⟩
  exact ⟨page, screen, product, reach, shown, listed, id,
    (presented_complete reach).1 screen shown product (Or.inl listed)⟩

end TrueMark.Dashboard
