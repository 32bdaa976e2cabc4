import TrueMark.UserApp.Display

namespace TrueMark.UserApp
open Ecma Aptos Qr React

/-- All that an event can do to the started verifications and to the trace,
together with what it writes to the display. -/
inductive Progress (environment : Environment) (app : App) :
    Event → Write → List Verification → Nat → List Observation → Prop
  | quiet {event} : Progress environment app event .keep app.verifications app.tickets []
  | refused {error} : Progress environment app .clickVerify (.warn error) app.verifications app.tickets [.refused error]
  | started {clean retryCount} : idError clean = none →
      Progress environment app .clickVerify .reset
        (app.verifications ++ [⟨app.tickets, clean, .connecting retryCount⟩]) (app.tickets + 1)
        [.started app.tickets clean]
  | scanRejected {decodedText now error} :
      Progress environment app (.scan decodedText now) (.warn error) app.verifications app.tickets
        [.scanned decodedText now]
  | scanRefused {decodedText now properties error} : Json.parse decodedText = some (.object properties) →
      (verifyQRCode environment.engine environment.signer now (.object properties)).isValid = true →
      Progress environment app (.scan decodedText now) (.offline (offlineResult environment properties) error)
        app.verifications app.tickets [.scanned decodedText now, .refused error]
  | scanStarted {decodedText now clean retryCount} : idError clean = none →
      Progress environment app (.scan decodedText now) .reset
        (app.verifications ++ [⟨app.tickets, clean, .connecting retryCount⟩]) (app.tickets + 1)
        [.scanned decodedText now, .started app.tickets clean]
  | connected {verification retryCount reply} : verification ∈ app.verifications →
      verification.phase = .connecting retryCount →
      Progress environment app (.connection verification retryCount reply) .keep
        (app.advance verification (.connected !checkFails reply)).verifications app.tickets []
  | called {verification now} : verification ∈ app.verifications → verification.phase = .connected true →
      environment.dev = false →
      Progress environment app (.resumed verification true now) .keep
        (app.advance verification .querying).verifications app.tickets
        [.called verification.ticket (viewPayload environment verification.cleanProductId)]
  | ended {verification isConnected now outcome} : verification ∈ app.verifications →
      verification.phase = .connected isConnected →
      earlyOutcome environment verification isConnected now = some outcome →
      Progress environment app (.resumed verification isConnected now) (outcomeWrite outcome)
        (app.verifications.erase verification) app.tickets [.finished verification.ticket outcome]
  | answered {verification reply now} : verification ∈ app.verifications → verification.phase = .querying →
      Progress environment app (.response verification reply now)
        (outcomeWrite (readResponse environment verification.cleanProductId reply now))
        (app.verifications.erase verification) app.tickets
        [.answered verification.ticket reply,
          .finished verification.ticket (readResponse environment verification.cleanProductId reply now)]

theorem checkBlockchainConnection_frame (retryCount : Nat) (reply : Reply) (app : App) :
    (checkBlockchainConnection retryCount reply app).2.verifications = app.verifications ∧
      (checkBlockchainConnection retryCount reply app).2.tickets = app.tickets ∧
      (checkBlockchainConnection retryCount reply app).2.trace = app.trace := by
  unfold checkBlockchainConnection
  split <;> split <;> simp

theorem finish_frame (verification : Verification) (outcome : Except JsString ProductResult) (app : App) :
    (finish verification outcome app).verifications = app.verifications.erase verification ∧
      (finish verification outcome app).tickets = app.tickets ∧
      (finish verification outcome app).trace = app.trace ++ [.finished verification.ticket outcome] := by
  simp [finish, App.observe]

/-- A call of `handleVerify` is refused on the spot, or it starts a verification under the next ticket. -/
theorem handleVerify_frame (lane : Lane) (closure : Closure) (app : App) :
    (∃ error, idError (cleanProductId (productIdOf closure)) = some error ∧
        (handleVerify lane closure app).verifications = app.verifications ∧
        (handleVerify lane closure app).tickets = app.tickets ∧
        (handleVerify lane closure app).trace = app.trace ++ [.refused error]) ∨
      idError (cleanProductId (productIdOf closure)) = none ∧
        (handleVerify lane closure app).verifications =
          app.verifications ++
            [⟨app.tickets, cleanProductId (productIdOf closure), .connecting closure.state.retryCount⟩] ∧
        (handleVerify lane closure app).tickets = app.tickets + 1 ∧
        (handleVerify lane closure app).trace =
          app.trace ++ [.started app.tickets (cleanProductId (productIdOf closure))] := by
  cases checked : idError (cleanProductId (productIdOf closure)) with
  | some error =>
    refine Or.inl ⟨error, rfl, ?_⟩
    simp [handleVerify, checked, App.observe]
  | none =>
    refine Or.inr ⟨rfl, ?_⟩
    simp [handleVerify, checked, App.observe]

theorem handleVerify_starts {lane : Lane} {closure screen : Closure} {app : App}
    (passed : idError (cleanProductId (productIdOf closure)) = none) (shown : app.component.screen = some screen) :
    (∃ next, (handleVerify lane closure app).component.screen = some next) ∧
      ⟨app.tickets, cleanProductId (productIdOf closure), .connecting closure.state.retryCount⟩ ∈
        (handleVerify lane closure app).verifications := by
  have component := (handleVerify_updates lane closure app).component
  rcases handleVerify_frame lane closure app with ⟨error, refused, _⟩ | ⟨_, verifications, _⟩
  · rw [passed] at refused
    cases refused
  · rw [component, verifications]
    exact ⟨Component.setState_mounted shown (verifyUpdate_paintable closure),
      List.mem_append_right _ List.mem_cons_self⟩

theorem clickVerify_progress (environment : Environment) (closure : Closure) (app : App) :
    ∃ observations, (handleVerify .discrete closure app).trace = app.trace ++ observations ∧
      Progress environment app .clickVerify (verifyWrite closure) (handleVerify .discrete closure app).verifications
        (handleVerify .discrete closure app).tickets observations := by
  rcases handleVerify_frame .discrete closure app with
    ⟨error, checked, verifications, tickets, trace⟩ | ⟨passed, verifications, tickets, trace⟩
  · refine ⟨_, trace, ?_⟩
    simp only [verifyWrite, checked, verifications, tickets]
    exact .refused
  · refine ⟨_, trace, ?_⟩
    simp only [verifyWrite, passed, verifications, tickets]
    exact .started passed

/-- An accepted scan goes on to the `handleVerify` of the render that opened the scanner. -/
theorem onScan_accepted {environment : Environment} {decodedText : JsString} {now : TimeValue} {qrData : JsValue}
    (closure : Closure) (app : App) (parsed : Json.parse decodedText = some qrData)
    (valid : (verifyQRCode environment.engine environment.signer now qrData).isValid = true) :
    ∃ scanned, onScan environment closure decodedText now app = handleVerify .deferred closure scanned ∧
      scanned.component.screen = app.component.screen ∧ scanned.verifications = app.verifications ∧
      scanned.tickets = app.tickets ∧ scanned.trace = app.trace ++ [.scanned decodedText now] := by
  refine ⟨_, by simp only [onScan, parsed, valid, if_true]; rfl, ?_⟩
  simp [App.observe, Component.setState]

theorem scan_progress (environment : Environment) (closure : Closure) (decodedText : JsString) (now : TimeValue)
    (app : App) :
    ∃ observations, (onScan environment closure decodedText now app).trace = app.trace ++ observations ∧
      Progress environment app (.scan decodedText now) (scanWrite environment closure decodedText now)
        (onScan environment closure decodedText now app).verifications
        (onScan environment closure decodedText now app).tickets observations := by
  cases parsed : Json.parse decodedText with
  | none =>
    simp only [onScan, scanWrite, parsed, rejectScan, App.setState_trace, App.setState_verifications,
      App.setState_tickets]
    exact ⟨_, rfl, .scanRejected⟩
  | some qrData =>
    by_cases valid : (verifyQRCode environment.engine environment.signer now qrData).isValid = true
    · obtain ⟨scanned, continues, _, sameVerifications, sameTickets, sameTrace⟩ :=
        onScan_accepted closure app parsed valid
      obtain ⟨properties, _, rfl, _⟩ := verifyQRCode_valid.mp valid
      rw [continues]
      simp only [scanWrite, parsed, valid, if_true, ownProperties]
      rcases handleVerify_frame .deferred closure scanned with
        ⟨error, checked, verifications, tickets, trace⟩ | ⟨passed, verifications, tickets, trace⟩
      · refine ⟨_, by rw [trace, sameTrace, List.append_assoc], ?_⟩
        simp only [checked, verifications, tickets, sameVerifications, sameTickets]
        exact .scanRefused parsed valid
      · refine ⟨_, by rw [trace, sameTrace, List.append_assoc], ?_⟩
        simp only [passed, verifications, tickets, sameVerifications, sameTickets]
        exact .scanStarted passed
    · simp only [onScan, scanWrite, parsed, valid, rejectScan, App.setState_trace, App.setState_verifications,
        App.setState_tickets, Bool.false_eq_true, if_false]
      exact ⟨_, rfl, .scanRejected⟩

theorem resumed_progress {environment : Environment} {verification : Verification} {isConnected : Bool} {app : App}
    (now : TimeValue) (member : verification ∈ app.verifications)
    (waiting : verification.phase = .connected isConnected) :
    ∃ observations, (resume environment verification isConnected now app).trace = app.trace ++ observations ∧
      Progress environment app (.resumed verification isConnected now)
        (writeOf environment app (.resumed verification isConnected now))
        (resume environment verification isConnected now app).verifications
        (resume environment verification isConnected now app).tickets observations := by
  rw [resume_eq, writeOf]
  cases early : earlyOutcome environment verification isConnected now with
  | some outcome =>
    obtain ⟨verifications, tickets, trace⟩ := finish_frame verification outcome app
    refine ⟨_, trace, ?_⟩
    simp only [verifications, tickets]
    exact .ended member waiting early
  | none =>
    obtain ⟨rfl, production⟩ := earlyOutcome_none early
    exact ⟨_, rfl, .called member waiting production⟩

theorem step_progress {environment : Environment} {app after : App} {event : Event}
    (run : step environment app event = some after) :
    ∃ observations, after.trace = app.trace ++ observations ∧
      Progress environment app event (writeOf environment app event) after.verifications after.tickets
        observations := by
  cases step_turn run with
  | edit => exact ⟨[], by simp, by simpa using .quiet⟩
  | @verify screen shown =>
    simp only [writeOf, shown, Option.map_some, Option.getD_some]
    exact clickVerify_progress environment screen app
  | openScanner => exact ⟨[], by simp, by simpa using .quiet⟩
  | closeScanner => exact ⟨[], by simp, by simpa using .quiet⟩
  | @scan closure decodedText now opened =>
    simp only [writeOf, opened, Option.map_some, Option.getD_some]
    exact scan_progress environment closure decodedText now app
  | render => exact ⟨[], by simp, by simpa using .quiet⟩
  | interval => exact ⟨[], by simp, .quiet⟩
  | timer => exact ⟨[], by simp, .quiet⟩
  | @checked retryCount reply =>
    obtain ⟨verifications, tickets, trace⟩ := checkBlockchainConnection_frame retryCount reply
      { app with checks := app.checks.erase retryCount }
    refine ⟨[], by rw [trace, List.append_nil], ?_⟩
    rw [verifications, tickets]
    exact .quiet
  | @connection verification retryCount reply member waiting =>
    obtain ⟨verifications, tickets, trace⟩ := checkBlockchainConnection_frame retryCount reply app
    refine ⟨[], by rw [App.advance, trace, List.append_nil], ?_⟩
    simp only [App.advance, verifications, tickets, checkBlockchainConnection_result]
    exact .connected member waiting
  | resumed member waiting => exact resumed_progress _ member waiting
  | @response verification reply now member waiting =>
    obtain ⟨verifications, tickets, trace⟩ := finish_frame verification
      (readResponse environment verification.cleanProductId reply now)
      (app.observe (.answered verification.ticket reply))
    refine ⟨_, by rw [trace, App.observe, List.append_assoc], ?_⟩
    rw [verifications, tickets]
    exact .answered member waiting

end TrueMark.UserApp
