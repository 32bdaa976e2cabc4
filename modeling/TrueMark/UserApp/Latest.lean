import TrueMark.UserApp.Tickets

namespace TrueMark.UserApp
open Ecma Aptos Qr React Runs

/-- How far the most recent verification has come. A click that fails the id
checks is a verification that has ended on the spot. -/
inductive Latest
  | never
  | pending (ticket : Nat)
  | ended (outcome : Except JsString ProductResult)

def Latest.observe : Latest → Observation → Latest
  | _, .refused error => .ended (.error error)
  | _, .started ticket _ => .pending ticket
  | .pending ticket, .finished other outcome => if other = ticket then .ended outcome else .pending ticket
  | latest, _ => latest

def latestOf (trace : List Observation) : Latest := trace.foldl Latest.observe .never

/-- What should be on display once the most recent verification has ended. -/
def Latest.display : Latest → Option Display
  | .never => some ⟨[], none⟩
  | .pending _ => none
  | .ended (.ok result) => some ⟨[], some result⟩
  | .ended (.error message) => some ⟨message, none⟩

def resubmit : Option JsString → Observation → Option JsString
  | _, .started _ clean => some clean
  | last, _ => last

/-- The id of the last click that passed the id checks. -/
def lastSubmitted (trace : List Observation) : Option JsString := trace.foldl resubmit none

theorem latestOf_append (trace more : List Observation) :
    latestOf (trace ++ more) = more.foldl Latest.observe (latestOf trace) := List.foldl_append

theorem lastSubmitted_append (trace more : List Observation) :
    lastSubmitted (trace ++ more) = more.foldl resubmit (lastSubmitted trace) := List.foldl_append

/-- No verification is in flight, and the screen shows what was last written to the display. -/
def Landed (app : App) (screen : Closure) : Prop :=
  app.verifications = [] ∧ app.component.screen = some screen ∧
    screen.state.display = app.component.queued.display

def LatestWins (app : App) : Prop :=
  ∀ screen, Landed app screen → (latestOf app.trace).display = some screen.state.display ∧
    ∀ result, screen.state.result = some result →
      ∃ clean, lastSubmitted app.trace = some clean ∧ result.serialNumber = .string clean

/-- The most recently started verification ends after all others and, if it succeeds, finds no error. -/
def EndsLast (app : App) (verification : Verification) (succeeds : Prop) : Prop :=
  verification.ticket + 1 = app.tickets →
    app.verifications = [verification] ∧ (succeeds → app.component.queued.error = [])

/-- The steps of the runs in which the latest verification wins. Besides the
order of the ends, a click that fails the id checks finds nothing in flight
and no result. There are no scans. -/
def InOrder (environment : Environment) (app : App) : Event → Prop
  | .clickVerify => ∀ screen, app.component.screen = some screen →
      idError (cleanProductId (productIdOf screen)) ≠ none →
      app.verifications = [] ∧ app.component.queued.result = none
  | .scan _ _ => False
  | .resumed verification isConnected _ => isConnected = false ∨ environment.dev = true →
      EndsLast app verification (isConnected = true)
  | .response verification reply _ => EndsLast app verification (namesProduct reply = true)
  | _ => True

/-- As long as something is in flight, the most recently started verification
is. Once nothing is, the display is its outcome, under its own id. -/
structure LatestShown (app : App) : Prop where
  flying : app.verifications ≠ [] → ∃ newest ∈ app.verifications, newest.ticket + 1 = app.tickets ∧
    latestOf app.trace = .pending newest.ticket ∧ lastSubmitted app.trace = some newest.cleanProductId
  landed : app.verifications = [] → (latestOf app.trace).display = some app.component.queued.display ∧
    ∀ result, app.component.queued.result = some result →
      ∃ clean, lastSubmitted app.trace = some clean ∧ result.serialNumber = .string clean

theorem LatestShown.latestWins {app : App} (shown : LatestShown app) : LatestWins app := by
  rintro screen ⟨idle, _, same⟩
  have result : screen.state.result = app.component.queued.result := congrArg Display.result same
  rw [same, result]
  exact shown.landed idle

section Step

variable {app after : App}

/-- A step that touches neither the display nor the order of the verifications. -/
theorem LatestShown.quiet (shown : LatestShown app) (latest : latestOf after.trace = latestOf app.trace)
    (submitted : lastSubmitted after.trace = lastSubmitted app.trace)
    (display : after.component.queued.display = app.component.queued.display) (tickets : after.tickets = app.tickets)
    (empty : after.verifications = [] ↔ app.verifications = [])
    (kept : ∀ verification ∈ app.verifications, ∃ moved ∈ after.verifications,
      moved.ticket = verification.ticket ∧ moved.cleanProductId = verification.cleanProductId) : LatestShown after := by
  refine ⟨fun flying => ?_, fun idle => ?_⟩
  · obtain ⟨newest, member, last, pending, clean⟩ := shown.flying fun idle => flying (empty.mpr idle)
    obtain ⟨moved, inside, sameTicket, sameClean⟩ := kept newest member
    refine ⟨moved, inside, ?_, ?_, ?_⟩
    · rw [sameTicket, tickets]
      exact last
    · rw [latest, sameTicket]
      exact pending
    · rw [submitted, sameClean]
      exact clean
  · have result : after.component.queued.result = app.component.queued.result := congrArg Display.result display
    rw [latest, submitted, display, result]
    exact shown.landed (empty.mp idle)

/-- A verification moves on to its next phase. -/
theorem LatestShown.advance (shown : LatestShown app) {verification : Verification} {phase : Phase}
    (latest : latestOf after.trace = latestOf app.trace)
    (submitted : lastSubmitted after.trace = lastSubmitted app.trace)
    (display : after.component.queued.display = app.component.queued.display) (tickets : after.tickets = app.tickets)
    (verifications : after.verifications = (app.advance verification phase).verifications) : LatestShown after := by
  refine shown.quiet latest submitted display tickets (by rw [verifications]; simp [App.advance]) ?_
  intro other member
  rw [verifications]
  refine ⟨_, List.mem_map_of_mem member, ?_⟩
  split
  · rename_i same
    rw [same]
    exact ⟨rfl, rfl⟩
  · exact ⟨rfl, rfl⟩

theorem LatestShown.refuse {error : JsString} (trace : after.trace = app.trace ++ [.refused error])
    (idle : after.verifications = []) (display : after.component.queued.display = ⟨error, none⟩) :
    LatestShown after := by
  refine ⟨fun flying => absurd idle flying, fun _ => ⟨?_, fun result panel => ?_⟩⟩
  · rw [trace, latestOf_append, display]
    rfl
  · have none : after.component.queued.result = none := congrArg Display.result display
    rw [none] at panel
    cases panel

theorem LatestShown.start {clean : JsString} {retryCount : Nat}
    (trace : after.trace = app.trace ++ [.started app.tickets clean]) (tickets : after.tickets = app.tickets + 1)
    (verifications : after.verifications = app.verifications ++ [⟨app.tickets, clean, .connecting retryCount⟩]) :
    LatestShown after := by
  have member : ⟨app.tickets, clean, .connecting retryCount⟩ ∈ after.verifications := by
    rw [verifications]
    exact List.mem_append_right _ List.mem_cons_self
  refine ⟨fun _ => ⟨_, member, tickets.symm, ?_, ?_⟩, fun idle => ?_⟩
  · rw [trace, latestOf_append]
    rfl
  · rw [trace, lastSubmitted_append]
    rfl
  · rw [idle] at member
    cases member

/-- A verification ends: the newest alone, or another one before it. -/
theorem LatestShown.finish (shown : LatestShown app) (distinct : TicketsDistinct app) {verification : Verification}
    {outcome : Except JsString ProductResult} (member : verification ∈ app.verifications)
    (serial : ∀ result, outcome = .ok result → result.serialNumber = .string verification.cleanProductId)
    (order : EndsLast app verification (∃ result, outcome = .ok result))
    (verifications : after.verifications = app.verifications.erase verification)
    (tickets : after.tickets = app.tickets)
    (latest : latestOf after.trace = (latestOf app.trace).observe (.finished verification.ticket outcome))
    (submitted : lastSubmitted after.trace = lastSubmitted app.trace)
    (display : after.component.queued.display = (outcomeWrite outcome).apply app.component.queued.display) :
    LatestShown after := by
  have occupied : app.verifications ≠ [] := List.ne_nil_of_mem member
  obtain ⟨newest, inside, last, pending, clean⟩ := shown.flying occupied
  by_cases same : verification.ticket = newest.ticket
  · obtain rfl := distinct.numbered.eq_of_ticket member inside same
    obtain ⟨alone, clear⟩ := order last
    have idle : after.verifications = [] := by rw [verifications, alone, List.erase_cons_head]
    have ended : latestOf after.trace = .ended outcome := by rw [latest, pending, Latest.observe, if_pos rfl]
    refine ⟨fun flying => absurd idle flying, fun _ => ?_⟩
    have result : after.component.queued.result = ((outcomeWrite outcome).apply app.component.queued.display).result :=
      congrArg Display.result display
    rw [ended, display, result, submitted]
    cases outcome with
    | error message => exact ⟨rfl, nofun⟩
    | ok value =>
      have noError := clear ⟨value, rfl⟩
      refine ⟨?_, fun panel equal => ⟨_, clean, ?_⟩⟩
      · change some (Display.mk [] (some value)) = some (Display.mk app.component.queued.error (some value))
        rw [noError]
      · cases equal
        exact serial value rfl
  · have stays : newest ∈ after.verifications := by
      rw [verifications]
      exact (List.mem_erase_of_ne fun equal => same (by rw [equal])).mpr inside
    refine ⟨fun _ => ⟨newest, stays, by rw [tickets]; exact last, ?_, by rw [submitted]; exact clean⟩, fun idle => ?_⟩
    · rw [latest, pending, Latest.observe, if_neg same]
    · rw [idle] at stays
      cases stays

theorem verifyWrite_warn {closure : Closure} {error : JsString} (warns : verifyWrite closure = .warn error) :
    idError (cleanProductId (productIdOf closure)) ≠ none := by
  intro passed
  rw [verifyWrite, passed] at warns
  cases warns

theorem LatestShown.step {environment : Environment} {event : Event} (shown : LatestShown app)
    (distinct : TicketsDistinct app) (inOrder : InOrder environment app event)
    (run : step environment app event = some after) : LatestShown after := by
  obtain ⟨observations, trace, progress⟩ := step_progress run
  have display := step_queued run
  generalize verifications : after.verifications = list at progress
  generalize tickets : after.tickets = number at progress
  generalize written : writeOf environment app event = write at progress display
  have latest := latestOf_append app.trace observations
  have submitted := lastSubmitted_append app.trace observations
  rw [← trace] at latest submitted
  cases progress with
  | quiet =>
    refine shown.quiet latest submitted display tickets (by rw [verifications]) fun verification member => ?_
    exact ⟨verification, by rw [verifications]; exact member, rfl, rfl⟩
  | @refused error =>
    obtain ⟨screen, present, warns⟩ : ∃ screen, app.component.screen = some screen ∧
        verifyWrite screen = .warn error := by
      cases present : app.component.screen with
      | none =>
        simp only [writeOf, present, Option.map_none, Option.getD_none] at written
        cases written
      | some screen =>
        simp only [writeOf, present, Option.map_some, Option.getD_some] at written
        exact ⟨screen, rfl, written⟩
    obtain ⟨idle, empty⟩ := inOrder screen present (verifyWrite_warn warns)
    refine .refuse trace (by rw [verifications, idle]) ?_
    rw [display, Write.apply]
    exact congrArg (Display.mk error) empty
  | started => exact .start trace tickets verifications
  | scanRejected => exact inOrder.elim
  | scanRefused => exact inOrder.elim
  | scanStarted => exact inOrder.elim
  | connected member => exact shown.advance latest submitted display tickets verifications
  | called member => exact shown.advance latest submitted display tickets verifications
  | @ended verification isConnected now outcome member waiting early =>
    refine shown.finish distinct member ?_ ?_ verifications tickets latest submitted display
    · rintro result rfl
      rcases earlyOutcome_some early with ⟨_, failed⟩ | ⟨_, _, mocked⟩
      · cases failed
      · cases mocked
        rfl
    · intro last
      rcases earlyOutcome_some early with ⟨offline, rfl⟩ | ⟨connected, development, mocked⟩
      · refine ⟨(inOrder (Or.inl offline) last).1, ?_⟩
        rintro ⟨result, succeeded⟩
        cases succeeded
      · obtain ⟨alone, clear⟩ := inOrder (Or.inr development) last
        exact ⟨alone, fun _ => clear connected⟩
  | @answered verification reply now member waiting =>
    refine shown.finish distinct member ?_ ?_ verifications tickets latest submitted display
    · intro result succeeded
      obtain ⟨_, _, _, _, _, _, serial, _⟩ := readResponse_ok succeeded
      exact serial
    · intro last
      obtain ⟨alone, clear⟩ := inOrder last
      refine ⟨alone, ?_⟩
      rintro ⟨result, succeeded⟩
      obtain ⟨name, manufacturer, flag, rfl, nameTruthy, manufacturerTruthy, _⟩ := readResponse_ok succeeded
      exact clear (by rw [namesProduct, nameTruthy, manufacturerTruthy]; rfl)

end Step

theorem latestShown_initial : LatestShown .initial := ⟨fun flying => absurd rfl flying, fun _ => ⟨rfl, nofun⟩⟩

/-- In every run in which the verifications end in order, once none is in flight
the display is the outcome of the most recently started one. -/
theorem latest_wins {environment : Environment} {events : List Event} {app : App}
    (reach : Reach (step environment) (InOrder environment) .initial events app) : LatestWins app := by
  have shown : TicketsDistinct app ∧ LatestShown app := by
    refine Reach.invariant (P := fun app => TicketsDistinct app ∧ LatestShown app)
      ⟨ticketsDistinct_initial, latestShown_initial⟩ ?_ reach
    intro before event after holds inOrder run
    exact ⟨holds.1.step run, holds.2.step holds.1 inOrder run⟩
  exact shown.2.latestWins

/-- Two verifications that overlap, up to their view calls. -/
def twoInFlight : List Event :=
  [.edit (js "1"), .clickVerify, .edit (js "2"), .clickVerify,
    .connection ⟨0, js "1", .connecting 0⟩ 0 ledgerInfo, .connection ⟨1, js "2", .connecting 0⟩ 0 ledgerInfo,
    .resumed ⟨0, js "1", .connected true⟩ true sampleTime, .resumed ⟨1, js "2", .connected true⟩ true sampleTime]

theorem latest_wins_twoInFlight :
    ∃ app screen result, Reach (step sampleEnvironment) anything .initial (twoInFlight ++
        [.response ⟨0, js "1", .querying⟩ productFound sampleTime,
          .response ⟨1, js "2", .querying⟩ productFound sampleTime, .render]) app ∧
      LatestWins app ∧ Settled app screen ∧ screen.state.result = some result ∧
      result.serialNumber = .string (js "2") := by
  have passes {environment : Environment} {app : App} {screen : Closure} (shown : app.component.screen = some screen)
      (passed : idError (cleanProductId (productIdOf screen)) = none) : InOrder environment app .clickVerify := by
    intro other present refused
    cases shown.symm.trans present
    exact absurd passed refused
  have guarded : ∃ app, Reach (step sampleEnvironment) (InOrder sampleEnvironment) .initial (twoInFlight ++
        [.response ⟨0, js "1", .querying⟩ productFound sampleTime,
          .response ⟨1, js "2", .querying⟩ productFound sampleTime, .render]) app ∧
      ∃ screen result, Settled app screen ∧ screen.state.result = some result ∧
        result.serialNumber = .string (js "2") := by
    refine ⟨_, .prepend trivial rfl (.prepend (passes rfl rfl) rfl (.prepend trivial rfl (.prepend (passes rfl rfl) rfl
      (.prepend trivial rfl (.prepend trivial rfl (.prepend ?_ rfl (.prepend ?_ rfl (.prepend ?_ rfl (.prepend ?_ rfl
      (.prepend trivial rfl .start)))))))))), _, _, ⟨rfl, rfl, rfl⟩, rfl, rfl⟩
    · rintro (offline | development)
      · cases offline
      · cases development
    · rintro (offline | development)
      · cases offline
      · cases development
    · intro last
      cases last
    · exact fun _ => ⟨rfl, fun _ => rfl⟩
  obtain ⟨app, reach, screen, result, settled, panel, serial⟩ := guarded
  exact ⟨app, screen, result, reach.unguarded, latest_wins reach, settled, panel, serial⟩

/-- The node answers a view call with a product that is not authentic. -/
def productForged : Reply :=
  .resolved (.array [.string (js "Luxury Watch"), .string (js "AudioTech Inc."), .boolean false])

/-- The answer to the first of two verifications comes last. -/
def lateAnswer : List Event :=
  twoInFlight ++ [.response ⟨1, js "2", .querying⟩ productForged sampleTime,
    .response ⟨0, js "1", .querying⟩ productFound sampleTime, .render]

/-- The screen says authentic, for the first id, although the node answered
last time that the second one is forged. -/
theorem latest_overtaken :
    ∃ app screen result, Reach (step sampleEnvironment) anything .initial lateAnswer app ∧ Settled app screen ∧
      screen.state.result = some result ∧ result.isAuthentic.truthy = true ∧
      lastSubmitted app.trace = some (js "2") ∧ result.serialNumber = .string (js "1") ∧ ¬ LatestWins app := by
  refine ⟨_, _, _, reach_iff_follow.mpr rfl, ⟨rfl, rfl, rfl⟩, rfl, rfl, rfl, rfl, fun wins => ?_⟩
  obtain ⟨clean, submitted, serial⟩ := (wins _ ⟨rfl, rfl, rfl⟩).2 _ rfl
  cases submitted
  cases serial

end TrueMark.UserApp
