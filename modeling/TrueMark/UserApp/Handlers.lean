import TrueMark.Aptos.Client
import TrueMark.Qr.Verify
import TrueMark.React.Children
import TrueMark.React.Component
import Mathlib.Tactic.Simps.Basic

namespace TrueMark.UserApp
open Ecma Aptos Qr React

/-- What the build and the browser fix for one deployment of the app. -/
structure Environment where
  dev : Bool
  contractAddress : ContractAddress
  signer : Signer
  engine : Engine
  localeString : JsValue → JsString

/-- The fields hold what a payload or an answer held, behind unchecked casts. -/
structure ProductResult where
  isAuthentic : JsValue
  manufacturer : JsValue
  creationTime : JsString
  productName : JsValue
  serialNumber : JsValue

@[ext] structure Cells where
  productId : JsValue
  result : Option ProductResult
  error : JsString
  showScanner : Bool
  retryCount : Nat

namespace Cells

def initial : Cells := ⟨.string [], none, [], false, 0⟩

@[simps] def setProductId (productId : JsValue) (cells : Cells) : Cells := { cells with productId }

@[simps] def setResult (result : Option ProductResult) (cells : Cells) : Cells := { cells with result }

@[simps] def setError (error : JsString) (cells : Cells) : Cells := { cells with error }

@[simps] def setShowScanner (showScanner : Bool) (cells : Cells) : Cells := { cells with showScanner }

@[simps] def setRetryCount (update : Nat → Nat) (cells : Cells) : Cells :=
  { cells with retryCount := update cells.retryCount }

end Cells

/-- The render calls `productId.trim` and shows three fields of the result as children. -/
def paintable (cells : Cells) : Bool :=
  match cells.productId with
  | .string _ => cells.result.all fun result =>
      renderable result.productName && renderable result.serialNumber && renderable result.manufacturer
  | _ => false

abbrev Closure := Screen paintable

/-- The text in the field. Only strings get past `paintable`. -/
def productIdOf (closure : Closure) : JsString :=
  match closure.state.productId with
  | .string text => text
  | _ => []

def maxRetries : Nat := 3

/-- One started `handleVerify`, at one of its two `await`s. -/
inductive Phase
  | connecting (retryCount : Nat)
  | connected (isConnected : Bool)
  | querying
deriving DecidableEq

structure Verification where
  ticket : Nat
  cleanProductId : JsString
  phase : Phase
deriving DecidableEq

/-- What an observer of the app sees happen, next to the screen. -/
inductive Observation
  | scanned (text : JsString) (now : TimeValue)
  | refused (error : JsString)
  | started (ticket : Nat) (cleanProductId : JsString)
  | called (ticket : Nat) (payload : ViewPayload)
  | answered (ticket : Nat) (reply : Reply)
  | finished (ticket : Nat) (outcome : Except JsString ProductResult)

/-- The running app. The scanner callback keeps the render that opened the
scanner, and a connection check keeps the retry count of its own render. -/
structure App where
  component : Component paintable
  scanner : Option Closure
  checks : List Nat
  timers : List Nat
  verifications : List Verification
  tickets : Nat
  trace : List Observation

namespace App

/-- The first render, with the connection check that its effect starts. -/
def initial : App where
  component := ⟨.initial, some ⟨.initial, rfl⟩⟩
  scanner := none
  checks := [0]
  timers := []
  verifications := []
  tickets := 0
  trace := []

/-- The effects of a commit. A changed retry count makes a new callback, which
is called at once; the scanner follows `showScanner`. -/
def commit (app : App) (next : Component paintable) : App :=
  match app.component.screen, next.screen with
  | some before, some after =>
    { app with
      component := next
      checks := if after.state.retryCount = before.state.retryCount then app.checks
        else app.checks ++ [after.state.retryCount]
      scanner := if after.state.showScanner = before.state.showScanner then app.scanner
        else if after.state.showScanner then some after else none }
  | _, _ => { app with component := next, scanner := none }

def setState (lane : Lane) (update : Cells → Cells) (app : App) : App :=
  app.commit (app.component.setState lane update)

/-- One verification moves on, at its place in the order of their starts. -/
def advance (verification : Verification) (phase : Phase) (app : App) : App :=
  { app with verifications := app.verifications.map fun other =>
      if other = verification then { verification with phase } else other }

def observe (observation : Observation) (app : App) : App := { app with trace := app.trace ++ [observation] }

end App

/-- The input cleaning of `handleVerify`. -/
def cleanProductId (productId : JsString) : JsString :=
  (trim productId).filter fun c => c ≠ Json.openBrace ∧ c ≠ Json.closeBrace ∧ c ≠ Json.quoteMark

/-- The two early returns of `handleVerify`. -/
def idError (clean : JsString) : Option JsString :=
  if clean = [] then some (js "Please enter a product ID")
  else if clean.all isDigit then none
  else some (js "Product ID must be a valid number")

/-- `handleVerify` of one render, up to its first `await`. -/
def handleVerify (lane : Lane) (closure : Closure) (app : App) : App :=
  let clean := cleanProductId (productIdOf closure)
  match idError clean with
  | some error => (app.setState lane (·.setError error)).observe (.refused error)
  | none =>
    let app := (app.setState lane fun cells => (cells.setError []).setResult none).observe (.started app.tickets clean)
    { app with
      verifications := app.verifications ++ [⟨app.tickets, clean, .connecting closure.state.retryCount⟩]
      tickets := app.tickets + 1 }

/-- `checkBlockchainConnection` of one render, after `getLedgerInfo` has settled. -/
def checkBlockchainConnection (retryCount : Nat) (reply : Reply) (app : App) : Bool × App :=
  match reply with
  | .resolved ledgerInfo =>
    if ledgerInfo.truthy then (true, app.setState .deferred (·.setRetryCount fun _ => 0)) else (false, app)
  | .rejected _ =>
    if retryCount < maxRetries then
      let app := app.setState .deferred (·.setRetryCount (· + 1))
      (false, { app with timers := app.timers ++ [retryCount] })
    else (false, app)

/-- The end of `handleVerify`: the success path, or the handler of everything thrown before. -/
def finish (verification : Verification) (outcome : Except JsString ProductResult) (app : App) : App :=
  let update (cells : Cells) : Cells :=
    match outcome with
    | .ok result => cells.setResult (some result)
    | .error message => (cells.setError message).setResult none
  let app := (app.setState .deferred update).observe (.finished verification.ticket outcome)
  { app with verifications := app.verifications.erase verification }

def viewPayload (environment : Environment) (clean : JsString) : ViewPayload where
  function := environment.contractAddress.text ++ js "::product::get_product"
  arguments := [.string environment.contractAddress.text, .number (parseInt clean)]

def mockResult (environment : Environment) (clean : JsString) (now : TimeValue) : ProductResult where
  isAuthentic := .boolean true
  manufacturer := .string (js "Authentic Manufacturer")
  creationTime := environment.localeString (.number now.number)
  productName := .string (js "Sample Product")
  serialNumber := .string clean

/-- `handleVerify` between its two `await`s. -/
def resume (environment : Environment) (verification : Verification) (isConnected : Bool) (now : TimeValue)
    (app : App) : App :=
  if isConnected = false then
    finish verification (.error (js "Blockchain network is not available. Please try again later.")) app
  else if environment.dev then
    finish verification (.ok (mockResult environment verification.cleanProductId now)) app
  else
    (app.observe (.called verification.ticket (viewPayload environment verification.cleanProductId))).advance
      verification .querying

/-- What `handleVerify` makes of the settled view call. -/
def readResponse (environment : Environment) (clean : JsString) (reply : Reply) (now : TimeValue) :
    Except JsString ProductResult :=
  match reply with
  | .rejected message => .error (js "Blockchain query failed: " ++ message)
  | .resolved (.array [name, manufacturer, isAuthentic]) =>
    if name.truthy && manufacturer.truthy then
      .ok {
        isAuthentic
        manufacturer
        creationTime := environment.localeString (.number now.number)
        productName := name
        serialNumber := .string clean }
    else .error (js "Product not found on the blockchain")
  | .resolved _ => .error (js "Invalid response format from blockchain")

/-- The result that an accepted scan shows at once. -/
def offlineResult (environment : Environment) (qrData : Properties) : ProductResult where
  isAuthentic := .boolean true
  manufacturer := qrData.get (js "manufacturer")
  creationTime := environment.localeString (qrData.get (js "timestamp"))
  productName := qrData.get (js "name")
  serialNumber := qrData.get (js "id")

/-- What the scan callback throws: the parser's error, or that of the rejected code. -/
def scanError (result : VerificationResult) : JsString :=
  match result.error with
  | some error => if error = [] then js "Invalid QR code" else error
  | none => js "Invalid QR code"

def rejectScan (message : JsString) (app : App) : App :=
  app.setState .deferred fun cells => (cells.setError message).setShowScanner false

/-- The callback of the scanner that `closure` opened. -/
def onScan (environment : Environment) (closure : Closure) (decodedText : JsString) (now : TimeValue) (app : App) :
    App :=
  let app := app.observe (.scanned decodedText now)
  match Json.parse decodedText with
  | none => rejectScan (environment.engine.syntaxMessage decodedText) app
  | some qrData =>
    let verificationResult := verifyQRCode environment.engine environment.signer now qrData
    if verificationResult.isValid then
      let properties := ownProperties qrData
      let app := app.setState .deferred fun cells =>
        ((cells.setProductId (properties.get (js "id"))).setShowScanner false).setResult
          (some (offlineResult environment properties))
      handleVerify .deferred closure app
    else rejectScan (scanError verificationResult) app

end TrueMark.UserApp
