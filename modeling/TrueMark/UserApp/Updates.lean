import TrueMark.UserApp.Step

namespace TrueMark.UserApp
open Ecma Aptos Qr React

def Event.lane : Event → Lane
  | .edit _ | .clickVerify | .clickScan | .clickCancel => .discrete
  | _ => .deferred

/-- The connection check that an event settles, with the retry count of the render that made it. -/
def Event.check : Event → Option (Nat × Reply)
  | .checked retryCount reply | .connection _ retryCount reply => some (retryCount, reply)
  | _ => none

/-- The node did not answer the check, or answered nothing. -/
def checkFails : Reply → Bool
  | .resolved ledgerInfo => !ledgerInfo.truthy
  | .rejected _ => true

/-- How a verification ends without a view call, if it does. -/
def earlyOutcome (environment : Environment) (verification : Verification) (isConnected : Bool) (now : TimeValue) :
    Option (Except JsString ProductResult) :=
  if isConnected = false then
    some (.error (js "Blockchain network is not available. Please try again later."))
  else if environment.dev then some (.ok (mockResult environment verification.cleanProductId now))
  else none

/-- `handleVerify` either ends before its view call or makes it. -/
theorem resume_eq (environment : Environment) (verification : Verification) (isConnected : Bool) (now : TimeValue)
    (app : App) :
    resume environment verification isConnected now app =
      match earlyOutcome environment verification isConnected now with
      | some outcome => finish verification outcome app
      | none =>
        (app.observe (.called verification.ticket (viewPayload environment verification.cleanProductId))).advance
          verification .querying := by
  unfold resume earlyOutcome
  split
  · rfl
  · split <;> rfl

theorem earlyOutcome_some {environment : Environment} {verification : Verification} {isConnected : Bool}
    {now : TimeValue} {outcome : Except JsString ProductResult}
    (ends : earlyOutcome environment verification isConnected now = some outcome) :
    isConnected = false ∧ outcome = .error (js "Blockchain network is not available. Please try again later.") ∨
      isConnected = true ∧ environment.dev = true ∧
        outcome = .ok (mockResult environment verification.cleanProductId now) := by
  unfold earlyOutcome at ends
  split at ends
  · rename_i offline
    cases ends
    exact Or.inl ⟨offline, rfl⟩
  · rename_i connected
    split at ends
    · rename_i development
      cases ends
      exact Or.inr ⟨by simpa using connected, development, rfl⟩
    · cases ends

theorem earlyOutcome_none {environment : Environment} {verification : Verification} {isConnected : Bool}
    {now : TimeValue} (continues : earlyOutcome environment verification isConnected now = none) :
    isConnected = true ∧ environment.dev = false := by
  unfold earlyOutcome at continues
  split at continues
  · cases continues
  · rename_i connected
    split at continues
    · cases continues
    · rename_i production
      exact ⟨by simpa using connected, by simpa using production⟩

/-- What a call of `handleVerify` sets before its first `await`. -/
def verifyUpdate (closure : Closure) : Cells → Cells :=
  match idError (cleanProductId (productIdOf closure)) with
  | some error => (·.setError error)
  | none => fun cells => (cells.setError []).setResult none

def checkUpdate (retryCount : Nat) : Reply → Cells → Cells
  | .resolved ledgerInfo => if ledgerInfo.truthy then (·.setRetryCount fun _ => 0) else id
  | .rejected _ => if retryCount < maxRetries then (·.setRetryCount (· + 1)) else id

/-- The timers that a settled check leaves behind. -/
def retryTimers (retryCount : Nat) : Reply → List Nat
  | .resolved _ => []
  | .rejected _ => if retryCount < maxRetries then [retryCount] else []

def finishUpdate : Except JsString ProductResult → Cells → Cells
  | .ok result => (·.setResult (some result))
  | .error message => fun cells => (cells.setError message).setResult none

def rejectUpdate (message : JsString) (cells : Cells) : Cells := (cells.setError message).setShowScanner false

/-- What an accepted code sets before the verification that it leads to. -/
def acceptUpdate (environment : Environment) (properties : Properties) (cells : Cells) : Cells :=
  ((cells.setProductId (properties.get (js "id"))).setShowScanner false).setResult
    (some (offlineResult environment properties))

def scanUpdate (environment : Environment) (closure : Closure) (decodedText : JsString) (now : TimeValue) :
    Cells → Cells :=
  match Json.parse decodedText with
  | none => rejectUpdate (environment.engine.syntaxMessage decodedText)
  | some qrData =>
    let verificationResult := verifyQRCode environment.engine environment.signer now qrData
    if verificationResult.isValid then verifyUpdate closure ∘ acceptUpdate environment (ownProperties qrData)
    else rejectUpdate (scanError verificationResult)

section Frame

variable (cells : Cells)

/-- A call of `handleVerify` writes to the display and to nothing else. -/
theorem verifyUpdate_frame (closure : Closure) :
    (verifyUpdate closure cells).productId = cells.productId ∧
      (verifyUpdate closure cells).showScanner = cells.showScanner ∧
      (verifyUpdate closure cells).retryCount = cells.retryCount := by
  unfold verifyUpdate
  cases idError (cleanProductId (productIdOf closure)) with
  | some error => exact ⟨rfl, rfl, rfl⟩
  | none => exact ⟨rfl, rfl, rfl⟩

theorem finishUpdate_frame (outcome : Except JsString ProductResult) :
    (finishUpdate outcome cells).productId = cells.productId ∧
      (finishUpdate outcome cells).showScanner = cells.showScanner ∧
      (finishUpdate outcome cells).retryCount = cells.retryCount := by
  cases outcome with
  | ok result => exact ⟨rfl, rfl, rfl⟩
  | error message => exact ⟨rfl, rfl, rfl⟩

/-- A check writes to the counter and to nothing else. -/
theorem checkUpdate_frame (retryCount : Nat) (reply : Reply) :
    checkUpdate retryCount reply cells =
      { cells with retryCount := (checkUpdate retryCount reply cells).retryCount } := by
  cases reply with
  | resolved ledgerInfo =>
    rw [checkUpdate]
    split <;> rfl
  | rejected message =>
    rw [checkUpdate]
    split <;> rfl

theorem scanUpdate_frame (environment : Environment) (closure : Closure) (decodedText : JsString) (now : TimeValue) :
    (scanUpdate environment closure decodedText now cells).showScanner = false ∧
      (scanUpdate environment closure decodedText now cells).retryCount = cells.retryCount := by
  unfold scanUpdate
  cases Json.parse decodedText with
  | none => exact ⟨rfl, rfl⟩
  | some qrData =>
    dsimp only
    split
    · exact (verifyUpdate_frame (acceptUpdate environment (ownProperties qrData) cells) closure).2
    · exact ⟨rfl, rfl⟩

end Frame

/-- The one update that an event makes. -/
def updateOf (environment : Environment) (app : App) : Event → Cells → Cells
  | .edit text => (·.setProductId (.string text))
  | .clickVerify => (app.component.screen.map verifyUpdate).getD id
  | .clickScan => (·.setShowScanner true)
  | .clickCancel => (·.setShowScanner false)
  | .scan decodedText now =>
    (app.scanner.map fun closure => scanUpdate environment closure decodedText now).getD id
  | .checked retryCount reply | .connection _ retryCount reply => checkUpdate retryCount reply
  | .resumed verification isConnected now =>
    ((earlyOutcome environment verification isConnected now).map finishUpdate).getD id
  | .response verification reply now =>
    finishUpdate (readResponse environment verification.cleanProductId reply now)
  | _ => id

/-- The checks and timers that an event takes up or starts, apart from the checks of its own render. -/
def App.tick (app : App) : Event → App
  | .interval => { app with checks := app.checks ++ (app.component.screen.map (·.state.retryCount)).toList }
  | .timer retryCount =>
    { app with timers := app.timers.erase retryCount, checks := app.checks ++ [retryCount] }
  | .checked retryCount reply =>
    { app with checks := app.checks.erase retryCount, timers := app.timers ++ retryTimers retryCount reply }
  | .connection _ retryCount reply => { app with timers := app.timers ++ retryTimers retryCount reply }
  | _ => app

/-- An update of the app, whatever becomes of its verifications. -/
structure Updates (app : App) (lane : Lane) (update : Cells → Cells) (after : App) : Prop where
  component : after.component = app.component.setState lane update
  scanner : after.scanner = (app.setState lane update).scanner
  checks : after.checks = (app.setState lane update).checks
  timers : after.timers = app.timers

section Handlers

variable {environment : Environment} {app after : App} {event : Event} {screen : Closure}

@[simp] theorem App.commit_timers (app : App) (next : Component paintable) : (app.commit next).timers = app.timers := by
  unfold App.commit
  split <;> rfl

@[simp] theorem App.setState_timers (app : App) (lane : Lane) (update : Cells → Cells) :
    (app.setState lane update).timers = app.timers := app.commit_timers _

@[simp] theorem App.tick_component (app : App) (event : Event) : (app.tick event).component = app.component := by
  cases event <;> rfl

@[simp] theorem App.tick_scanner (app : App) (event : Event) : (app.tick event).scanner = app.scanner := by
  cases event <;> rfl

/-- A deferred update of a mounted app has no effects before it is rendered. -/
theorem App.setState_deferred (shown : app.component.screen = some screen) (update : Cells → Cells) :
    app.setState .deferred update = { app with component := app.component.setState .deferred update } := by
  have same : (app.component.setState .deferred update).screen = some screen := shown
  simp only [App.setState, App.commit, shown, same, if_true]

theorem updates_setState (app : App) (lane : Lane) (update : Cells → Cells) :
    Updates app lane update (app.setState lane update) :=
  ⟨app.setState_component lane update, rfl, rfl, app.setState_timers lane update⟩

theorem updates_deferred {update : Cells → Cells} (shown : app.component.screen = some screen)
    (component : after.component = app.component.setState .deferred update) (scanner : after.scanner = app.scanner)
    (checks : after.checks = app.checks) (timers : after.timers = app.timers) :
    Updates app .deferred update after := by
  refine ⟨component, ?_, ?_, timers⟩
  · rw [App.setState_deferred shown]
    exact scanner
  · rw [App.setState_deferred shown]
    exact checks

theorem Updates.deferred {update : Cells → Cells} (shown : app.component.screen = some screen)
    (updates : Updates app .deferred update after) :
    after.component.screen = some screen ∧ after.scanner = app.scanner ∧ after.checks = app.checks := by
  obtain ⟨component, scanner, checks, _⟩ := updates
  rw [App.setState_deferred shown] at scanner checks
  refine ⟨?_, scanner, checks⟩
  rw [component]
  exact shown

/-- Two deferred updates, one after the other, are one. -/
theorem Updates.comp {middle : App} {first second : Cells → Cells} (shown : app.component.screen = some screen)
    (before : Updates app .deferred first middle) (next : Updates middle .deferred second after) :
    Updates app .deferred (second ∘ first) after := by
  obtain ⟨stillShown, scannerBefore, checksBefore⟩ := before.deferred shown
  obtain ⟨_, scanner, checks⟩ := next.deferred stillShown
  refine updates_deferred shown ?_ (scanner.trans scannerBefore) (checks.trans checksBefore)
    (next.timers.trans before.timers)
  rw [next.component, before.component]
  rfl

theorem handleVerify_updates (lane : Lane) (closure : Closure) (app : App) :
    Updates app lane (verifyUpdate closure) (handleVerify lane closure app) := by
  cases checked : idError (cleanProductId (productIdOf closure)) with
  | some error =>
    simp only [handleVerify, verifyUpdate, checked]
    exact ⟨app.setState_component lane _, rfl, rfl, app.setState_timers lane _⟩
  | none =>
    simp only [handleVerify, verifyUpdate, checked]
    exact ⟨app.setState_component lane _, rfl, rfl, app.setState_timers lane _⟩

theorem finish_updates (verification : Verification) (outcome : Except JsString ProductResult) (app : App) :
    Updates app .deferred (finishUpdate outcome) (finish verification outcome app) := by
  cases outcome with
  | ok result => exact ⟨app.setState_component .deferred _, rfl, rfl, app.setState_timers .deferred _⟩
  | error message => exact ⟨app.setState_component .deferred _, rfl, rfl, app.setState_timers .deferred _⟩

theorem resume_updates (environment : Environment) (shown : app.component.screen = some screen)
    (verification : Verification) (isConnected : Bool) (now : TimeValue) :
    Updates app .deferred (((earlyOutcome environment verification isConnected now).map finishUpdate).getD id)
      (resume environment verification isConnected now app) := by
  rw [resume_eq]
  cases earlyOutcome environment verification isConnected now with
  | some outcome => exact finish_updates verification outcome app
  | none => exact updates_deferred shown rfl rfl rfl rfl

theorem checkBlockchainConnection_updates (shown : app.component.screen = some screen) (retryCount : Nat)
    (reply : Reply) :
    Updates { app with timers := app.timers ++ retryTimers retryCount reply } .deferred
      (checkUpdate retryCount reply) (checkBlockchainConnection retryCount reply app).2 := by
  cases reply with
  | resolved ledgerInfo =>
    unfold checkBlockchainConnection checkUpdate retryTimers
    rw [List.append_nil]
    dsimp only
    split
    · exact updates_setState app .deferred _
    · exact updates_deferred shown rfl rfl rfl rfl
  | rejected message =>
    unfold checkBlockchainConnection checkUpdate retryTimers
    dsimp only
    split
    · rw [App.setState_deferred shown]
      exact updates_deferred shown rfl rfl rfl rfl
    · rw [List.append_nil]
      exact updates_deferred shown rfl rfl rfl rfl

theorem checkBlockchainConnection_result (retryCount : Nat) (reply : Reply) (app : App) :
    (checkBlockchainConnection retryCount reply app).1 = !checkFails reply := by
  cases reply with
  | resolved ledgerInfo => cases answered : ledgerInfo.truthy <;> simp [checkBlockchainConnection, checkFails, answered]
  | rejected message =>
    unfold checkBlockchainConnection
    dsimp only
    split <;> rfl

theorem onScan_updates (environment : Environment) (shown : app.component.screen = some screen) (closure : Closure)
    (decodedText : JsString) (now : TimeValue) :
    Updates app .deferred (scanUpdate environment closure decodedText now)
      (onScan environment closure decodedText now app) := by
  have observed {update : Cells → Cells} : Updates app .deferred update
      ((app.observe (.scanned decodedText now)).setState .deferred update) := by
    have stillShown : (app.observe (.scanned decodedText now)).component.screen = some screen := shown
    rw [App.setState_deferred stillShown]
    exact updates_deferred shown rfl rfl rfl rfl
  cases parsed : Json.parse decodedText with
  | none =>
    simp only [onScan, scanUpdate, parsed]
    exact observed
  | some qrData =>
    simp only [onScan, scanUpdate, parsed]
    split
    · exact .comp shown observed (handleVerify_updates .deferred closure _)
    · exact observed

/-- A step is only possible while the app is mounted. -/
theorem step_mounted (run : step environment app event = some after) :
    ∃ screen, app.component.screen = some screen := by
  cases shown : app.component.screen with
  | none =>
    simp only [step, shown] at run
    cases run
  | some screen => exact ⟨screen, rfl⟩

/-- What an event does apart from its verifications: a render, or its one update in its lane. -/
theorem step_updates (run : step environment app event = some after) :
    event = .render ∧ after = app.commit app.component.render ∨
      Updates (app.tick event) event.lane (updateOf environment app event) after := by
  obtain ⟨screen, shown⟩ := step_mounted run
  cases step_turn run with
  | edit => exact Or.inr (updates_setState app .discrete _)
  | @verify closure here =>
    rw [updateOf, here]
    exact Or.inr (handleVerify_updates .discrete closure app)
  | openScanner => exact Or.inr (updates_setState app .discrete _)
  | closeScanner => exact Or.inr (updates_setState app .discrete _)
  | @scan closure decodedText now opened =>
    rw [updateOf, opened]
    exact Or.inr (onScan_updates environment shown closure decodedText now)
  | render => exact Or.inl ⟨rfl, rfl⟩
  | @interval before here =>
    refine Or.inr (updates_deferred shown rfl rfl ?_ rfl)
    rw [App.tick, here]
    rfl
  | timer => exact Or.inr (updates_deferred shown rfl rfl rfl rfl)
  | @checked retryCount reply =>
    have taken : { app with checks := app.checks.erase retryCount }.component.screen = some screen := shown
    exact Or.inr (checkBlockchainConnection_updates taken retryCount reply)
  | @connection verification retryCount reply =>
    obtain ⟨component, scanner, checks, timers⟩ := checkBlockchainConnection_updates shown retryCount reply
    exact Or.inr ⟨component, scanner, checks, timers⟩
  | @resumed verification isConnected now =>
    exact Or.inr (resume_updates environment shown verification isConnected now)
  | @response verification reply now =>
    have observed : (app.observe (.answered verification.ticket reply)).component.screen = some screen := shown
    have finished := finish_updates verification (readResponse environment verification.cleanProductId reply now)
      (app.observe (.answered verification.ticket reply))
    obtain ⟨_, scanner, checks⟩ := finished.deferred observed
    exact Or.inr (updates_deferred shown finished.component scanner checks finished.timers)

/-- What happens behind an `await` or in the background waits for a later render. -/
theorem step_screen (shown : app.component.screen = some screen) (run : step environment app event = some after)
    (deferred : event.lane = .deferred) (other : event ≠ .render) : after.component.screen = some screen := by
  rcases step_updates run with ⟨same, _⟩ | updates
  · exact absurd same other
  · rw [updates.component, App.tick_component, deferred]
    exact shown

end Handlers

end TrueMark.UserApp
