import TrueMark.Dashboard.Progress
import TrueMark.Qr.Issued

namespace TrueMark.Dashboard
open Ecma Aptos Qr React Runs

/-- What is assumed of the world around the page. `toDataURL` gives an image
of its text if it succeeds, the count is answered with a truthy JSON value, and
no code is issued in the very millisecond of the epoch. -/
def Sane (image : JsString → JsString → Prop) (page : Page) : Event → Prop
  | .clickGenerate _ issued => issued.milliseconds ≠ 0
  | .counted _ reply _ issued =>
    issued.milliseconds ≠ 0 ∧ ∀ answer, reply = .resolved answer → Json.IsData answer ∧ answer.truthy = true
  | .drawn ticket url => ∀ generation ∈ page.generations, generation.ticket = ticket →
    ∀ picture, url = .ok picture → image generation.qrData picture
  | _ => True

/-- This text was drawn for this product, at that time. -/
structure DrawnFor (environment : Environment) (trace : List Observation) (product : Product) (issued : TimeValue)
    (text : JsString) : Prop where
  drawing : ∃ ticket, .drawing ticket product issued ∈ trace
  data : text = qrData environment.signer product issued
  issuable : Issuable product
  nonzero : issued.milliseconds ≠ 0

/-- An image on display is that of a text drawn for the selected product. -/
def Paired (environment : Environment) (image : JsString → JsString → Prop) (trace : List Observation)
    (cells : Cells) : Prop :=
  ∀ product, cells.selectedProduct = some product →
    ∃ issued text, DrawnFor environment trace product issued text ∧ image text cells.qrCodeUrl

/-- Everything that can still become a code on display will be a good one. -/
structure Healthy (environment : Environment) (image : JsString → JsString → Prop) (page : Page) : Prop where
  products : page.component.Holds fun cells => ∀ product ∈ cells.products, Issuable product
  adds : ∀ add ∈ page.adds, validateProduct add.form = none
  generations : ∀ generation ∈ page.generations,
    ∃ issued, DrawnFor environment page.trace generation.product issued generation.qrData
  paired : page.component.Holds (Paired environment image page.trace)

theorem validateProduct_none {form : NewProduct} (valid : validateProduct form = none) :
    form.name ≠ [] ∧ form.manufacturer ≠ [] := by
  unfold validateProduct at valid
  split at valid
  · cases valid
  · rename_i name
    split at valid
    · cases valid
    · rename_i manufacturer
      exact ⟨fun empty => name (by rw [empty]; rfl), fun empty => manufacturer (by rw [empty]; rfl)⟩

section Step

variable {environment : Environment} {image : JsString → JsString → Prop} {page after : Page} {event : Event}
  {trace : List Observation}

theorem DrawnFor.extend {product : Product} {issued : TimeValue} {text : JsString}
    (drawn : DrawnFor environment trace product issued text) (more : List Observation) :
    DrawnFor environment (trace ++ more) product issued text := by
  obtain ⟨⟨ticket, drawing⟩, data, issuable, nonzero⟩ := drawn
  exact ⟨⟨ticket, List.mem_append_left _ drawing⟩, data, issuable, nonzero⟩

theorem Paired.extend {cells : Cells} (paired : Paired environment image trace cells) (more : List Observation) :
    Paired environment image (trace ++ more) cells := by
  intro product selected
  obtain ⟨issued, text, drawn, shown⟩ := paired product selected
  exact ⟨issued, text, drawn.extend more, shown⟩

theorem Paired.same {cells other : Cells} (paired : Paired environment image trace cells)
    (selected : other.selectedProduct = cells.selectedProduct) (url : other.qrCodeUrl = cells.qrCodeUrl) :
    Paired environment image trace other := by
  intro product shown
  rw [selected] at shown
  rw [url]
  exact paired product shown

theorem Healthy.generations_extend (healthy : Healthy environment image page) {list : List Generation}
    {more : List Observation}
    (origin : ∀ generation ∈ list, generation ∈ page.generations ∨
      ∃ issued, DrawnFor environment (page.trace ++ more) generation.product issued generation.qrData) :
    ∀ generation ∈ list,
      ∃ issued, DrawnFor environment (page.trace ++ more) generation.product issued generation.qrData := by
  intro generation member
  rcases origin generation member with old | new
  · obtain ⟨issued, drawn⟩ := healthy.generations generation old
    exact ⟨issued, drawn.extend more⟩
  · exact new

theorem Healthy.paired_setState (healthy : Healthy environment image page) (more : List Observation) {lane : Lane}
    {update : Cells → Cells} (selected : ∀ cells, (update cells).selectedProduct = cells.selectedProduct)
    (url : ∀ cells, (update cells).qrCodeUrl = cells.qrCodeUrl) :
    (page.component.setState lane update).Holds (Paired environment image (page.trace ++ more)) := by
  have extended := healthy.paired.mono fun cells paired => paired.extend more
  exact extended.setState fun cells paired => paired.same (selected cells) (url cells)

theorem Healthy.products_setState (healthy : Healthy environment image page) {lane : Lane} {update : Cells → Cells}
    (kept : ∀ cells, (update cells).products = cells.products) :
    (page.component.setState lane update).Holds fun cells => ∀ product ∈ cells.products, Issuable product := by
  refine healthy.products.setState fun cells holds => ?_
  rw [kept]
  exact holds

theorem addedProduct_issuable {add : Add} {answer : JsValue} (valid : validateProduct add.form = none)
    (data : Json.IsData answer) (truthy : answer.truthy = true) (now : TimeValue) :
    Issuable (addedProduct add.form answer now) :=
  ⟨data, truthy, (validateProduct_none valid).1, (validateProduct_none valid).2⟩

theorem Healthy.step (healthy : Healthy environment image page) (sane : Sane image page event)
    (run : step environment page event = some after) : Healthy environment image after := by
  cases step_turn run with
  | dialog _ update =>
    refine ⟨healthy.products_setState update.products, healthy.adds, healthy.generations, ?_⟩
    refine healthy.paired.setState fun cells paired => ?_
    rcases update.selectedProduct cells with kept | closed
    · exact paired.same kept (update.qrCodeUrl cells)
    · intro product shown
      rw [closed] at shown
      cases shown
  | render => exact ⟨healthy.products.render, healthy.adds, healthy.generations, healthy.paired.render⟩
  | refused =>
    exact ⟨healthy.products_setState fun _ => rfl, healthy.adds, healthy.generations_extend fun _ => Or.inl,
      healthy.paired_setState _ (fun _ => rfl) fun _ => rfl⟩
  | asked _ _ valid =>
    refine ⟨healthy.products_setState fun _ => rfl, fun add member => ?_, healthy.generations_extend fun _ => Or.inl,
      healthy.paired_setState _ (fun _ => rfl) fun _ => rfl⟩
    rcases List.mem_append.mp member with old | new
    · exact healthy.adds add old
    · rw [List.mem_singleton.mp new]
      exact valid
  | @generate screen row product issued shown listed =>
    refine ⟨healthy.products_setState fun _ => rfl, healthy.adds,
      healthy.generations_extend fun generation member => ?_, healthy.paired_setState _ (fun _ => rfl) fun _ => rfl⟩
    rcases List.mem_append.mp member with old | new
    · exact Or.inl old
    · rw [List.mem_singleton.mp new]
      have issuable := healthy.products.2 screen shown product (List.mem_of_getElem? listed)
      exact Or.inr ⟨issued, ⟨page.tickets, List.mem_append_right _ List.mem_cons_self⟩, rfl, issuable, sane⟩
  | failed =>
    exact ⟨healthy.products_setState fun _ => rfl, fun add member => healthy.adds add (List.mem_of_mem_eraseP member),
      healthy.generations_extend fun _ => Or.inl, healthy.paired_setState _ (fun _ => rfl) fun _ => rfl⟩
  | @listed add ticket answer now issued product member same counting equal =>
    obtain ⟨nonzero, answered⟩ := sane
    obtain ⟨data, truthy⟩ := answered answer rfl
    have issuable : Issuable product := by
      rw [equal]
      exact addedProduct_issuable (healthy.adds add member) data truthy now
    refine ⟨?_, fun other inside => ?_, healthy.generations_extend fun generation inside => ?_,
      healthy.paired_setState _ (fun _ => rfl) fun _ => rfl⟩
    · rw [Component.holds_setState_deferred]
      refine ⟨fun other inside => ?_, healthy.products.2⟩
      rcases List.mem_append.mp inside with old | new
      · exact healthy.products.1 other old
      · rw [List.mem_singleton.mp new]
        exact issuable
    · obtain ⟨old, before, _, sameForm, _⟩ := mem_advance inside
      rw [sameForm]
      exact healthy.adds old before
    · rcases List.mem_append.mp inside with old | new
      · exact Or.inl old
      · rw [List.mem_singleton.mp new]
        exact Or.inr ⟨issued, ⟨page.tickets, by simp⟩, rfl, issuable, nonzero⟩
  | @drawn generation ticket url member same =>
    refine ⟨healthy.products_setState fun cells => by cases url <;> rfl, fun add inside => ?_,
      fun other inside => healthy.generations other (List.mem_of_mem_eraseP inside), ?_⟩
    · obtain ⟨old, before, _, sameForm, _⟩ := mem_drawn inside
      rw [sameForm]
      exact healthy.adds old before
    · refine healthy.paired.setState fun cells paired => ?_
      cases url with
      | ok picture =>
        intro product selected
        cases selected
        obtain ⟨issued, drawn⟩ := healthy.generations generation member
        exact ⟨issued, generation.qrData, drawn, sane generation member same picture rfl⟩
      | error message => exact paired.same rfl rfl
  | finished =>
    exact ⟨healthy.products_setState fun _ => rfl, fun add member => healthy.adds add (List.mem_of_mem_eraseP member),
      healthy.generations, healthy.paired.setState fun cells paired => paired.same rfl rfl⟩

end Step

theorem initialProducts_issuable : ∀ product ∈ initialProducts, Issuable product := by
  intro product member
  rcases List.mem_cons.mp member with rfl | member
  · exact ⟨trivial, rfl, js_ne_nil (by decide), js_ne_nil (by decide)⟩
  · rw [List.mem_singleton.mp member]
    exact ⟨trivial, rfl, js_ne_nil (by decide), js_ne_nil (by decide)⟩

theorem healthy_initial (environment : Environment) (image : JsString → JsString → Prop) :
    Healthy environment image .initial :=
  ⟨Component.holds_mount initialProducts_issuable rfl, nofun, nofun, Component.holds_mount nofun rfl⟩

/-- Every code on display belongs to the product that it is shown for, and is
good: it was generated for that product, and its text is accepted for a day
and carries the product's id, up to the signs of zeros, name and manufacturer. -/
theorem displayed_good {environment : Environment} {image : JsString → JsString → Prop} (engine : Engine)
    (nonempty : ∀ message, environment.signer.hmacSHA256 message environment.signer.signingSecret ≠ [])
    {events : List Event} {page : Page} (reach : Reach (step environment) (Sane image) .initial events page)
    {screen : Closure} (shown : page.component.screen = some screen) {product : Product}
    (selected : screen.state.selectedProduct = some product) :
    ∃ ticket issued, .drawing ticket product issued ∈ page.trace ∧
      image (qrData environment.signer product issued) screen.state.qrCodeUrl ∧
      ∃ scanned : Properties, Json.parse (qrData environment.signer product issued) = some (.object scanned) ∧
        (∀ now : TimeValue, issued.milliseconds ≤ now.milliseconds →
          now.milliseconds ≤ issued.milliseconds + 86400000 →
          (verifyQRCode engine environment.signer now (.object scanned)).isValid = true) ∧
        scanned.get (js "id") = Json.unsigned product.id ∧ scanned.get (js "name") = .string product.name ∧
        scanned.get (js "manufacturer") = .string product.manufacturer := by
  have healthy : Healthy environment image page :=
    reach.invariant (healthy_initial environment image) fun holds sane run => holds.step sane run
  obtain ⟨issued, text, ⟨⟨ticket, drawing⟩, rfl, issuable, nonzero⟩, picture⟩ :=
    healthy.paired.2 screen shown product selected
  exact ⟨ticket, issued, drawing, picture, qrData_accepted engine issuable nonzero nonempty⟩

/-- The code of the first row, generated and put on display. -/
theorem row_displayed {image : JsString → JsString → Prop} {picture : JsString}
    (drawn : image (qrData sampleSigner premiumHeadphones sampleTime) picture) :
    ∃ page screen, Reach (step sampleEnvironment) (Sane image) .initial
        [.clickGenerate 0 sampleTime, .drawn 0 (.ok picture), .render] page ∧
      page.component.screen = some screen ∧ screen.state.selectedProduct = some premiumHeadphones := by
  refine ⟨_, _, .prepend ?_ rfl (.prepend ?_ rfl (.prepend trivial rfl .start)), rfl, rfl⟩
  · exact (by decide : (1737676800000 : Int) ≠ 0)
  · intro generation member _ url same
    rw [List.mem_singleton.mp member, ← Except.ok.inj same]
    exact drawn

/-- The picture of the one text that is drawn here. -/
def sampleImage (text picture : JsString) : Prop :=
  text = qrData sampleSigner premiumHeadphones sampleTime ∧ picture = sampleUrl

theorem displayed_good_premiumHeadphones :
    ∃ page screen, Reach (step sampleEnvironment) (Sane sampleImage) .initial
        [.clickGenerate 0 sampleTime, .drawn 0 (.ok sampleUrl), .render] page ∧
      page.component.screen = some screen ∧ screen.state.selectedProduct = some premiumHeadphones ∧
      screen.state.qrCodeUrl = sampleUrl ∧
      ∃ ticket issued, .drawing ticket premiumHeadphones issued ∈ page.trace ∧
        qrData sampleSigner premiumHeadphones issued = qrData sampleSigner premiumHeadphones sampleTime := by
  obtain ⟨page, screen, reach, shown, selected⟩ := @row_displayed sampleImage sampleUrl ⟨rfl, rfl⟩
  obtain ⟨ticket, issued, drawing, ⟨text, picture⟩, _⟩ :=
    displayed_good sampleEngine sampleSigner_nonempty reach shown selected
  exact ⟨page, screen, reach, shown, selected, picture, ticket, issued, drawing, text⟩

end TrueMark.Dashboard
