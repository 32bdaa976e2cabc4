import TrueMark.Dashboard.Handlers
import TrueMark.Qr.RoundTrip
import TrueMark.Runs.Reach

namespace TrueMark.Dashboard
open Ecma Aptos Qr React Runs

/-- Everything that can happen to the page, one event loop turn at a time.
The fields and buttons of a dialog can be used as long as it fades out, so
these events do not ask whether it is open. -/
inductive Event
  | clickOpen
  | clickClose
  | edit (field : Field) (value : JsString)
  | clickAdd
  | clickGenerate (row : Nat) (issued : TimeValue)
  | closeQr
  | dismissError (lane : Lane)
  | render
  | counted (ticket : Nat) (reply : Reply) (now issued : TimeValue)
  | drawn (ticket : Nat) (url : Except JsString JsString)
  | finished (ticket : Nat)

def findAdd (page : Page) (ticket : Nat) (phase : AddPhase) : Option Add :=
  page.adds.find? fun add => add.ticket = ticket ∧ add.phase = phase

/-- One event, where it is possible. Nothing is left to happen once the page is unmounted. -/
def step (environment : Environment) (page : Page) (event : Event) : Option Page :=
  match page.component.screen with
  | none => none
  | some screen =>
    match event with
    | .clickOpen => some (page.setState .discrete handleOpen)
    | .clickClose => some (page.setState .discrete handleClose)
    | .edit field value =>
      if field.accepts value then
        some (page.setState .discrete (·.setNewProduct (screen.state.newProduct.set value field)))
      else none
    | .clickAdd => if addEnabled screen.state then some (handleAddProduct environment screen page) else none
    | .clickGenerate row issued =>
      screen.state.products[row]?.map fun product => generateQRCode environment .discrete none product issued page
    | .closeQr => some (page.setState .discrete (·.setSelectedProduct none))
    | .dismissError lane => some (page.setState lane (·.setError none))
    | .render => some { page with component := page.component.render }
    | .counted ticket reply now issued =>
      (findAdd page ticket .counting).map fun add => addCounted environment add reply now issued page
    | .drawn ticket url =>
      (page.generations.find? fun generation => generation.ticket = ticket).map fun generation =>
        qrDrawn generation url page
    | .finished ticket => (findAdd page ticket .generated).map fun add => addFinished add page

/-- A click on a valid form starts an add that waits for the count. -/
theorem clickAdd_valid {environment : Environment} {page : Page} {screen : Closure}
    (shown : page.component.screen = some screen) (enabled : addEnabled screen.state = true)
    (valid : validateProduct screen.state.newProduct = none) :
    step environment page .clickAdd = some
      { component := page.component.setState .discrete fun cells => (cells.setLoading true).setError none
        adds := page.adds ++ [⟨page.tickets, screen.state.newProduct, .counting⟩]
        generations := page.generations
        tickets := page.tickets + 1
        trace := page.trace ++ [.called page.tickets (countPayload environment)] } := by
  simp only [step, shown, enabled, if_true, handleAddProduct, valid]
  rfl

def sampleEnvironment : Environment where
  contractAddress := sampleAddress
  signer := sampleSigner

def sampleForm : NewProduct where
  name := js "Luxury Watch"
  manufacturer := js "Fine Watches"
  category := js "Others"
  description := js "Automatic movement"
  price := js "999.99"
  batchNumber := js "BATCH003"
  expiryDate := js "2030-01-24"

def sampleUrl : JsString := js "data:image/png;base64,AAAA"

theorem validateProduct_sampleForm : validateProduct sampleForm = none := by
  have price : isNaN (stringToNumber sampleForm.price) = false := isNaN_value ⟨false, js "999", js "99", none⟩
  have valid : ¬(trim sampleForm.price = [] ∨ isNaN (stringToNumber sampleForm.price) = true) := by
    rw [price]
    decide
  exact (if_neg (by decide)).trans <| (if_neg (by decide)).trans <| (if_neg (by decide)).trans <|
    (if_neg valid).trans <| (if_neg (by decide)).trans <| if_neg (by decide)

/-- The form is opened and filled in, field by field. -/
def fillForm : List Event :=
  [.clickOpen, .edit .name sampleForm.name, .edit .manufacturer sampleForm.manufacturer,
    .edit .category sampleForm.category, .edit .description sampleForm.description, .edit .price sampleForm.price,
    .edit .batchNumber sampleForm.batchNumber, .edit .expiryDate sampleForm.expiryDate]

def filledCells : Cells := (Cells.initial.setOpen true).setNewProduct sampleForm

/-- The page after `fillForm`. -/
def filled : Page := ⟨⟨filledCells, some ⟨filledCells, rfl⟩⟩, [], [], 0, []⟩

/-- The page after a click on the button. -/
def adding : Page where
  component := ⟨filledCells.setLoading true, some ⟨filledCells.setLoading true, rfl⟩⟩
  adds := [⟨0, sampleForm, .counting⟩]
  generations := []
  tickets := 1
  trace := [.called 0 (countPayload sampleEnvironment)]

theorem reach_adding : Reach (step sampleEnvironment) anything .initial (fillForm ++ [.clickAdd]) adding := by
  have typed : follow (step sampleEnvironment) .initial fillForm = some filled := rfl
  have shown : filled.component.screen = some ⟨filledCells, rfl⟩ := rfl
  have clicked : step sampleEnvironment filled .clickAdd = some adding :=
    clickAdd_valid shown rfl validateProduct_sampleForm
  exact .next (reach_iff_follow.mpr typed) trivial clicked

end TrueMark.Dashboard
