import TrueMark.Aptos.Client
import TrueMark.Ecma.Date
import TrueMark.Qr.Payload
import TrueMark.React.Children
import TrueMark.React.Component
import Mathlib.Tactic.Simps.Basic

namespace TrueMark.Dashboard
open Ecma Aptos Qr React

/-- What the build and the browser fix for one deployment of the dashboard.
The page takes its configuration and its client from names that it does not import. -/
structure Environment where
  contractAddress : ContractAddress
  signer : Signer

/-- The contents of the form. -/
structure NewProduct where
  name : JsString
  manufacturer : JsString
  category : JsString
  description : JsString
  price : JsString
  batchNumber : JsString
  expiryDate : JsString

def NewProduct.empty : NewProduct := ⟨[], [], [], [], [], [], []⟩

inductive Field
  | name
  | manufacturer
  | category
  | description
  | price
  | batchNumber
  | expiryDate

def NewProduct.set (newProduct : NewProduct) (value : JsString) : Field → NewProduct
  | .name => { newProduct with name := value }
  | .manufacturer => { newProduct with manufacturer := value }
  | .category => { newProduct with category := value }
  | .description => { newProduct with description := value }
  | .price => { newProduct with price := value }
  | .batchNumber => { newProduct with batchNumber := value }
  | .expiryDate => { newProduct with expiryDate := value }

def productCategories : List JsString :=
  ["Electronics", "Clothing", "Food & Beverages", "Cosmetics", "Pharmaceuticals", "Automotive", "Others"].map js

/-- The category is picked from a list, everything else is typed. -/
def Field.accepts (value : JsString) : Field → Bool
  | .category => productCategories.contains value
  | _ => true

structure Cells where
  products : List Product
  isOpen : Bool
  loading : Bool
  error : Option JsString
  newProduct : NewProduct
  selectedProduct : Option Product
  qrCodeUrl : JsString

namespace Cells

def initial : Cells := ⟨initialProducts, false, false, none, .empty, none, []⟩

@[simps] def setProducts (update : List Product → List Product) (cells : Cells) : Cells :=
  { cells with products := update cells.products }

@[simps] def setOpen (isOpen : Bool) (cells : Cells) : Cells := { cells with isOpen }

@[simps] def setLoading (loading : Bool) (cells : Cells) : Cells := { cells with loading }

@[simps] def setError (error : Option JsString) (cells : Cells) : Cells := { cells with error }

@[simps] def setNewProduct (newProduct : NewProduct) (cells : Cells) : Cells := { cells with newProduct }

@[simps] def setSelectedProduct (selectedProduct : Option Product) (cells : Cells) : Cells :=
  { cells with selectedProduct }

@[simps] def setQrCodeUrl (qrCodeUrl : JsString) (cells : Cells) : Cells := { cells with qrCodeUrl }

end Cells

/-- The table shows the id of every product as a child. -/
def paintable (cells : Cells) : Bool := cells.products.all fun product => renderable product.id

abbrev Closure := Screen paintable

inductive AddPhase
  | counting
  | generating
  | generated
deriving DecidableEq

/-- One started `handleAddProduct`, with the form of the render it was clicked in. -/
structure Add where
  ticket : Nat
  form : NewProduct
  phase : AddPhase

/-- One started `generateQRCode`, at its `await`. The row buttons start it
without an owner, and an add waits for its own. -/
structure Generation where
  ticket : Nat
  product : Product
  qrData : JsString
  owner : Option Nat

/-- What an observer of the page sees happen, next to the screen. `submitted`
is a transaction handed to the client for submission. -/
inductive Observation
  | refused (ticket : Nat) (error : JsString)
  | called (ticket : Nat) (payload : ViewPayload)
  | submitted (ticket : Nat) (payload : EntryFunctionPayload)
  | failed (ticket : Nat) (message : JsString)
  | appended (ticket : Nat) (product : Product)
  | drawing (ticket : Nat) (product : Product) (issued : TimeValue)

structure Page where
  component : Component paintable
  adds : List Add
  generations : List Generation
  tickets : Nat
  trace : List Observation

namespace Page

def initial : Page := ⟨⟨.initial, some ⟨.initial, rfl⟩⟩, [], [], 0, []⟩

@[simps] def setState (lane : Lane) (update : Cells → Cells) (page : Page) : Page :=
  { page with component := page.component.setState lane update }

@[simps] def observe (observation : Observation) (page : Page) : Page :=
  { page with trace := page.trace ++ [observation] }

/-- One add moves on, at its place in the order of their starts. -/
@[simps] def advance (ticket : Nat) (phase : AddPhase) (page : Page) : Page :=
  { page with adds := page.adds.map fun add => if add.ticket = ticket then { add with phase } else add }

@[simps] def endAdd (ticket : Nat) (page : Page) : Page :=
  { page with adds := page.adds.eraseP fun add => add.ticket = ticket }

end Page

def handleOpen (cells : Cells) : Cells := (cells.setOpen true).setError none

def handleClose (cells : Cells) : Cells := ((cells.setOpen false).setError none).setNewProduct .empty

def validateProduct (product : NewProduct) : Option JsString :=
  if trim product.name = [] then some (js "Product name is required")
  else if trim product.manufacturer = [] then some (js "Manufacturer is required")
  else if product.category = [] then some (js "Category is required")
  else if trim product.price = [] ∨ isNaN (stringToNumber product.price) then some (js "Valid price is required")
  else if trim product.batchNumber = [] then some (js "Batch number is required")
  else if product.expiryDate = [] then some (js "Expiry date is required")
  else none

/-- The button is enabled only on a form without these gaps, while nothing is loading. -/
def addEnabled (cells : Cells) : Bool :=
  !(cells.newProduct.name.isEmpty || cells.newProduct.manufacturer.isEmpty || cells.newProduct.category.isEmpty ||
    cells.newProduct.description.isEmpty || cells.newProduct.price.isEmpty || cells.loading)

/-- The transaction that `handleAddProduct` builds. -/
def registration (environment : Environment) (name manufacturer : JsString) : EntryFunctionPayload where
  function := environment.contractAddress.text ++ js "::product::register_product"
  arguments := [.string name, .string manufacturer]

def countPayload (environment : Environment) : ViewPayload where
  function := environment.contractAddress.text ++ js "::product::get_product_count"
  arguments := [.string environment.contractAddress.text]

/-- `handleAddProduct` of one render, up to its first `await`. The transaction
is built and then dropped. -/
def handleAddProduct (environment : Environment) (closure : Closure) (page : Page) : Page :=
  let newProduct := closure.state.newProduct
  let started := { page with tickets := page.tickets + 1 }
  match validateProduct newProduct with
  | some validationError =>
    (started.setState .discrete fun cells =>
      (((cells.setLoading true).setError none).setError (some validationError)).setLoading false).observe
        (.refused page.tickets validationError)
  | none =>
    let _transaction := registration environment newProduct.name newProduct.manufacturer
    let counting := (started.setState .discrete fun cells => (cells.setLoading true).setError none).observe
      (.called page.tickets (countPayload environment))
    { counting with adds := counting.adds ++ [⟨page.tickets, newProduct, .counting⟩] }

/-- `generateQRCode`, up to its `await`. -/
def generateQRCode (environment : Environment) (lane : Lane) (owner : Option Nat) (product : Product)
    (issued : TimeValue) (page : Page) : Page :=
  let drawing := (page.setState lane fun cells => (cells.setLoading true).setError none).observe
    (.drawing page.tickets product issued)
  { drawing with
    generations := drawing.generations ++ [⟨page.tickets, product, qrData environment.signer product issued, owner⟩]
    tickets := page.tickets + 1 }

/-- The product of an add whose view call was answered with `countResponse`. -/
def addedProduct (form : NewProduct) (countResponse : JsValue) (now : TimeValue) : Product where
  id := countResponse
  name := form.name
  manufacturer := form.manufacturer
  category := form.category
  description := form.description
  price := form.price
  dateRegistered := now.isoDate
  status := .active
  batchNumber := some form.batchNumber
  expiryDate := some form.expiryDate

/-- `handleAddProduct` after its view call has settled, up to the `await` of the QR code. -/
def addCounted (environment : Environment) (add : Add) (reply : Reply) (now issued : TimeValue) (page : Page) : Page :=
  match reply with
  | .rejected message =>
    let error := js "Failed to get product count: " ++ message
    ((page.setState .deferred fun cells => (cells.setError (some error)).setLoading false).observe
      (.failed add.ticket error)).endAdd add.ticket
  | .resolved countResponse =>
    let product := addedProduct add.form countResponse now
    let listed := (page.setState .deferred fun cells =>
      handleClose (cells.setProducts fun prevProducts => prevProducts ++ [product])).observe
        (.appended add.ticket product)
    (generateQRCode environment .deferred (some add.ticket) product issued listed).advance add.ticket .generating

/-- What `generateQRCode` sets behind its `await`. -/
def drawnUpdate (product : Product) (url : Except JsString JsString) (cells : Cells) : Cells :=
  match url with
  | .ok url => ((cells.setQrCodeUrl url).setSelectedProduct (some product)).setLoading false
  | .error message => (cells.setError (some message)).setLoading false

/-- The end of `generateQRCode`. A failure is not passed on to an add that waits for it. -/
def qrDrawn (generation : Generation) (url : Except JsString JsString) (page : Page) : Page :=
  let drawn := page.setState .deferred (drawnUpdate generation.product url)
  let ended := { drawn with generations := drawn.generations.eraseP fun other => other.ticket = generation.ticket }
  match generation.owner with
  | some ticket => ended.advance ticket .generated
  | none => ended

/-- The end of `handleAddProduct`, behind the QR code. -/
def addFinished (add : Add) (page : Page) : Page :=
  (page.setState .deferred (·.setLoading false)).endAdd add.ticket

end TrueMark.Dashboard
