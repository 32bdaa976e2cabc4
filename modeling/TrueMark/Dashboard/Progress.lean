import TrueMark.Dashboard.Step

namespace TrueMark.Dashboard
open Ecma Aptos Qr React

/-- The user's dealings with the dialogs and the error bar. -/
def Event.dialog : Event → Bool
  | .clickOpen | .clickClose | .edit _ _ | .closeQr | .dismissError _ => true
  | _ => false

theorem Event.dialog_cases {P : Event → Prop} {event : Event} (dialog : event.dialog = true) (clickOpen : P .clickOpen)
    (clickClose : P .clickClose) (edit : ∀ field value, P (.edit field value)) (closeQr : P .closeQr)
    (dismissError : ∀ lane, P (.dismissError lane)) : P event := by
  cases event with
  | clickOpen => exact clickOpen
  | clickClose => exact clickClose
  | edit field value => exact edit field value
  | closeQr => exact closeQr
  | dismissError lane => exact dismissError lane
  | _ => cases dialog

/-- An update of the dialogs only. The list, the flag and the image stay, and
a selected product stays selected or is put away. -/
structure DialogUpdate (update : Cells → Cells) : Prop where
  products : ∀ cells, (update cells).products = cells.products
  loading : ∀ cells, (update cells).loading = cells.loading
  qrCodeUrl : ∀ cells, (update cells).qrCodeUrl = cells.qrCodeUrl
  selectedProduct : ∀ cells,
    (update cells).selectedProduct = cells.selectedProduct ∨ (update cells).selectedProduct = none

/-- All that an event can do to the page. -/
inductive Turn (environment : Environment) (page : Page) : Event → Page → Prop
  | dialog {event lane update} : event.dialog = true → DialogUpdate update →
      Turn environment page event (page.setState lane update)
  | render : Turn environment page .render { page with component := page.component.render }
  | refused {screen error} : page.component.screen = some screen → addEnabled screen.state = true →
      validateProduct screen.state.newProduct = some error →
      Turn environment page .clickAdd
        { page with
          component := page.component.setState .discrete fun cells => (cells.setError (some error)).setLoading false
          tickets := page.tickets + 1
          trace := page.trace ++ [.refused page.tickets error] }
  | asked {screen} : page.component.screen = some screen → addEnabled screen.state = true →
      validateProduct screen.state.newProduct = none →
      Turn environment page .clickAdd
        { page with
          component := page.component.setState .discrete fun cells => (cells.setLoading true).setError none
          adds := page.adds ++ [⟨page.tickets, screen.state.newProduct, .counting⟩]
          tickets := page.tickets + 1
          trace := page.trace ++ [.called page.tickets (countPayload environment)] }
  | generate {screen row product issued} : page.component.screen = some screen →
      screen.state.products[row]? = some product →
      Turn environment page (.clickGenerate row issued)
        { page with
          component := page.component.setState .discrete fun cells => (cells.setLoading true).setError none
          generations := page.generations ++
            [⟨page.tickets, product, qrData environment.signer product issued, none⟩]
          tickets := page.tickets + 1
          trace := page.trace ++ [.drawing page.tickets product issued] }
  | failed {add ticket message now issued} : add ∈ page.adds → add.ticket = ticket → add.phase = .counting →
      Turn environment page (.counted ticket (.rejected message) now issued)
        { page with
          component := page.component.setState .deferred fun cells =>
            (cells.setError (some (js "Failed to get product count: " ++ message))).setLoading false
          adds := page.adds.eraseP fun other => other.ticket = ticket
          trace := page.trace ++ [.failed ticket (js "Failed to get product count: " ++ message)] }
  | listed {add ticket answer now issued product} : add ∈ page.adds → add.ticket = ticket → add.phase = .counting →
      product = addedProduct add.form answer now →
      Turn environment page (.counted ticket (.resolved answer) now issued)
        { page with
          component := page.component.setState .deferred fun cells =>
            ((handleClose (cells.setProducts (· ++ [product]))).setLoading true).setError none
          adds := (page.advance ticket .generating).adds
          generations := page.generations ++
            [⟨page.tickets, product, qrData environment.signer product issued, some ticket⟩]
          tickets := page.tickets + 1
          trace := page.trace ++ [.appended ticket product, .drawing page.tickets product issued] }
  | drawn {generation ticket url} : generation ∈ page.generations → generation.ticket = ticket →
      Turn environment page (.drawn ticket url)
        { page with
          component := page.component.setState .deferred (drawnUpdate generation.product url)
          adds := generation.owner.elim page.adds fun owner => (page.advance owner .generated).adds
          generations := page.generations.eraseP fun other => other.ticket = ticket }
  | finished {add ticket} : add ∈ page.adds → add.ticket = ticket → add.phase = .generated →
      Turn environment page (.finished ticket)
        { page with
          component := page.component.setState .deferred (·.setLoading false)
          adds := page.adds.eraseP fun other => other.ticket = ticket }

theorem findAdd_some {page : Page} {ticket : Nat} {phase : AddPhase} {add : Add}
    (found : findAdd page ticket phase = some add) : add ∈ page.adds ∧ add.ticket = ticket ∧ add.phase = phase :=
  ⟨List.mem_of_find?_eq_some found, by simpa using List.find?_some found⟩

/-- Only the phase of an add ever changes. -/
theorem mem_advance {page : Page} {ticket : Nat} {phase : AddPhase} {add : Add}
    (member : add ∈ (page.advance ticket phase).adds) :
    ∃ old ∈ page.adds, add.ticket = old.ticket ∧ add.form = old.form ∧
      (add.ticket = ticket ∧ add.phase = phase ∨ add.ticket ≠ ticket ∧ add.phase = old.phase) := by
  obtain ⟨old, before, rfl⟩ := List.mem_map.mp member
  refine ⟨old, before, ?_⟩
  split
  · rename_i own
    exact ⟨rfl, rfl, Or.inl ⟨own, rfl⟩⟩
  · rename_i different
    exact ⟨rfl, rfl, Or.inr ⟨different, rfl⟩⟩

theorem mem_drawn {page : Page} {owner : Option Nat} {add : Add}
    (member : add ∈ owner.elim page.adds fun owner => (page.advance owner .generated).adds) :
    ∃ old ∈ page.adds, add.ticket = old.ticket ∧ add.form = old.form ∧
      (add.phase = .generated ∨ add.phase = old.phase) := by
  cases owner with
  | none => exact ⟨add, member, rfl, rfl, Or.inr rfl⟩
  | some owner =>
    obtain ⟨old, before, sameTicket, sameForm, ⟨_, moved⟩ | ⟨_, kept⟩⟩ := mem_advance member
    · exact ⟨old, before, sameTicket, sameForm, Or.inl moved⟩
    · exact ⟨old, before, sameTicket, sameForm, Or.inr kept⟩

section Step

variable {environment : Environment} {page after : Page} {event : Event}

theorem handleAddProduct_turn {screen : Closure} (shown : page.component.screen = some screen)
    (enabled : addEnabled screen.state = true) :
    Turn environment page .clickAdd (handleAddProduct environment screen page) := by
  cases validated : validateProduct screen.state.newProduct with
  | some error =>
    simp only [handleAddProduct, validated]
    exact .refused shown enabled validated
  | none =>
    simp only [handleAddProduct, validated]
    exact .asked shown enabled validated

theorem addCounted_turn {add : Add} (answer : JsValue) (now issued : TimeValue) (member : add ∈ page.adds)
    (counting : add.phase = .counting) :
    Turn environment page (.counted add.ticket (.resolved answer) now issued)
      (addCounted environment add (.resolved answer) now issued page) := by
  simp only [addCounted, generateQRCode, Page.advance, Page.observe, Page.setState, List.append_assoc,
    List.singleton_append]
  exact .listed member rfl counting rfl

theorem qrDrawn_turn {generation : Generation} (url : Except JsString JsString)
    (member : generation ∈ page.generations) :
    Turn environment page (.drawn generation.ticket url) (qrDrawn generation url page) := by
  have turn := @Turn.drawn environment page generation generation.ticket url member rfl
  cases owner : generation.owner with
  | none =>
    simp only [owner, Option.elim_none] at turn
    simp only [qrDrawn, owner]
    exact turn
  | some ticket =>
    simp only [owner, Option.elim_some] at turn
    simp only [qrDrawn, owner]
    exact turn

theorem step_turn (run : step environment page event = some after) : Turn environment page event after := by
  unfold step at run
  split at run
  · cases run
  · rename_i screen shown
    cases event with
    | clickOpen =>
      cases run
      exact .dialog rfl ⟨fun _ => rfl, fun _ => rfl, fun _ => rfl, fun _ => Or.inl rfl⟩
    | clickClose =>
      cases run
      exact .dialog rfl ⟨fun _ => rfl, fun _ => rfl, fun _ => rfl, fun _ => Or.inl rfl⟩
    | edit field value =>
      dsimp only at run
      split at run
      · cases run
        exact .dialog rfl ⟨fun _ => rfl, fun _ => rfl, fun _ => rfl, fun _ => Or.inl rfl⟩
      · cases run
    | clickAdd =>
      dsimp only at run
      split at run
      · rename_i enabled
        cases run
        exact handleAddProduct_turn shown enabled
      · cases run
    | clickGenerate row issued =>
      obtain ⟨product, listed, rfl⟩ := Option.map_eq_some_iff.mp run
      exact .generate shown listed
    | closeQr =>
      cases run
      exact .dialog rfl ⟨fun _ => rfl, fun _ => rfl, fun _ => rfl, fun _ => Or.inr rfl⟩
    | dismissError lane =>
      cases run
      exact .dialog rfl ⟨fun _ => rfl, fun _ => rfl, fun _ => rfl, fun _ => Or.inl rfl⟩
    | render =>
      cases run
      exact .render
    | counted ticket reply now issued =>
      obtain ⟨add, found, rfl⟩ := Option.map_eq_some_iff.mp run
      obtain ⟨member, rfl, counting⟩ := findAdd_some found
      cases reply with
      | rejected message => exact .failed member rfl counting
      | resolved answer => exact addCounted_turn answer now issued member counting
    | drawn ticket url =>
      obtain ⟨generation, found, rfl⟩ := Option.map_eq_some_iff.mp run
      obtain rfl : generation.ticket = ticket := by simpa using List.find?_some found
      exact qrDrawn_turn url (List.mem_of_find?_eq_some found)
    | finished ticket =>
      obtain ⟨add, found, rfl⟩ := Option.map_eq_some_iff.mp run
      obtain ⟨member, rfl, generated⟩ := findAdd_some found
      exact .finished member rfl generated

end Step

end TrueMark.Dashboard
