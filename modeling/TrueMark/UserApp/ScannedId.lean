import TrueMark.UserApp.Cleaning
import TrueMark.UserApp.Tickets

namespace TrueMark.UserApp
open Ecma Aptos Qr React Runs

/-- Every ticket stands for one cleaned id, and a view call asks for the id of its own ticket. -/
structure CallsStarted (environment : Environment) (app : App) : Prop where
  issued : ∀ ticket clean, .started ticket clean ∈ app.trace → ticket < app.tickets
  once : ∀ ticket clean other, .started ticket clean ∈ app.trace → .started ticket other ∈ app.trace → clean = other
  flying : ∀ verification ∈ app.verifications, .started verification.ticket verification.cleanProductId ∈ app.trace
  called : ∀ ticket payload, .called ticket payload ∈ app.trace →
    environment.dev = false ∧ ∃ clean, .started ticket clean ∈ app.trace ∧ payload = viewPayload environment clean

section CallsStarted

variable {environment : Environment} {app after : App} {event : Event} {observations : List Observation}

/-- Steps that start nothing only have to account for their verifications and their calls. -/
theorem CallsStarted.unstarted (calls : CallsStarted environment app) (trace : after.trace = app.trace ++ observations)
    (silent : ∀ ticket clean, .started ticket clean ∉ observations) (same : after.tickets = app.tickets)
    (flying : ∀ verification ∈ after.verifications, ∃ old ∈ app.verifications,
      verification.ticket = old.ticket ∧ verification.cleanProductId = old.cleanProductId)
    (called : ∀ ticket payload, .called ticket payload ∈ observations →
      environment.dev = false ∧ ∃ verification ∈ app.verifications,
        ticket = verification.ticket ∧ payload = viewPayload environment verification.cleanProductId) :
    CallsStarted environment after := by
  have old {ticket : Nat} {clean : JsString} (started : .started ticket clean ∈ after.trace) :
      .started ticket clean ∈ app.trace := by
    rw [trace] at started
    exact (List.mem_append.mp started).resolve_right (silent ticket clean)
  refine ⟨fun ticket clean started => ?_, fun ticket clean other left right => ?_, fun verification member => ?_,
    fun ticket payload call => ?_⟩
  · rw [same]
    exact calls.issued ticket clean (old started)
  · exact calls.once ticket clean other (old left) (old right)
  · obtain ⟨before, inside, sameTicket, sameClean⟩ := flying verification member
    rw [trace, sameTicket, sameClean]
    exact List.mem_append_left _ (calls.flying before inside)
  · rw [trace] at call ⊢
    rcases List.mem_append.mp call with earlier | new
    · obtain ⟨production, clean, started, asked⟩ := calls.called ticket payload earlier
      exact ⟨production, clean, List.mem_append_left _ started, asked⟩
    · obtain ⟨production, verification, member, rfl, asked⟩ := called ticket payload new
      exact ⟨production, _, List.mem_append_left _ (calls.flying verification member), asked⟩

/-- One more verification, under the next ticket. -/
theorem CallsStarted.start (calls : CallsStarted environment app) {clean : JsString} {retryCount : Nat}
    (trace : after.trace = app.trace ++ observations)
    (only : ∀ ticket other, .started ticket other ∈ observations ↔ ticket = app.tickets ∧ other = clean)
    (silent : ∀ ticket payload, .called ticket payload ∉ observations)
    (verifications : after.verifications = app.verifications ++ [⟨app.tickets, clean, .connecting retryCount⟩])
    (next : after.tickets = app.tickets + 1) : CallsStarted environment after := by
  have either {ticket : Nat} {other : JsString} (started : .started ticket other ∈ after.trace) :
      .started ticket other ∈ app.trace ∧ ticket < app.tickets ∨ ticket = app.tickets ∧ other = clean := by
    rw [trace] at started
    rcases List.mem_append.mp started with old | new
    · exact Or.inl ⟨old, calls.issued ticket other old⟩
    · exact Or.inr ((only ticket other).mp new)
  refine ⟨fun ticket other started => ?_, fun ticket left right first second => ?_, fun verification member => ?_,
    fun ticket payload call => ?_⟩
  · rcases either started with ⟨_, below⟩ | ⟨equal, _⟩ <;> omega
  · rcases either first with ⟨old, below⟩ | ⟨equal, rfl⟩
    · rcases either second with ⟨older, _⟩ | ⟨_, _⟩
      · exact calls.once ticket left right old older
      · omega
    · rcases either second with ⟨_, _⟩ | ⟨_, rfl⟩
      · omega
      · rfl
  · rw [verifications] at member
    rw [trace]
    rcases List.mem_append.mp member with old | new
    · exact List.mem_append_left _ (calls.flying verification old)
    · rw [List.mem_singleton.mp new]
      exact List.mem_append_right _ ((only _ _).mpr ⟨rfl, rfl⟩)
  · rw [trace] at call ⊢
    have earlier := (List.mem_append.mp call).resolve_right (silent ticket payload)
    obtain ⟨production, other, started, asked⟩ := calls.called ticket payload earlier
    exact ⟨production, other, List.mem_append_left _ started, asked⟩

theorem CallsStarted.step (calls : CallsStarted environment app) (run : step environment app event = some after) :
    CallsStarted environment after := by
  obtain ⟨observations, trace, progress⟩ := step_progress run
  generalize verifications : after.verifications = list at progress
  generalize count : after.tickets = number at progress
  generalize writeOf environment app event = write at progress
  have kept (sub : ∀ verification ∈ list, verification ∈ app.verifications) :
      ∀ verification ∈ after.verifications, ∃ old ∈ app.verifications,
        verification.ticket = old.ticket ∧ verification.cleanProductId = old.cleanProductId :=
    fun verification member => ⟨verification, sub verification (verifications ▸ member), rfl, rfl⟩
  have moved {verification : Verification} {phase : Phase} (member : verification ∈ app.verifications)
      (advanced : list = (app.advance verification phase).verifications) :
      ∀ other ∈ after.verifications, ∃ old ∈ app.verifications,
        other.ticket = old.ticket ∧ other.cleanProductId = old.cleanProductId := by
    intro other inside
    rw [verifications, advanced] at inside
    rcases mem_advance inside with rfl | ⟨old, _⟩
    · exact ⟨verification, member, rfl, rfl⟩
    · exact ⟨other, old, rfl, rfl⟩
  cases progress with
  | quiet => exact calls.unstarted trace (by simp) count (kept fun _ member => member) (by simp)
  | refused => exact calls.unstarted trace (by simp) count (kept fun _ member => member) (by simp)
  | scanRejected => exact calls.unstarted trace (by simp) count (kept fun _ member => member) (by simp)
  | scanRefused => exact calls.unstarted trace (by simp) count (kept fun _ member => member) (by simp)
  | started => exact calls.start trace (by simp) (by simp) verifications count
  | scanStarted => exact calls.start trace (by simp) (by simp) verifications count
  | connected member => exact calls.unstarted trace (by simp) count (moved member rfl) (by simp)
  | @called verification now member _ production =>
    refine calls.unstarted trace (by simp) count (moved member rfl) fun ticket payload call => ?_
    exact ⟨production, verification, member, by simpa using call⟩
  | ended => exact calls.unstarted trace (by simp) count (kept fun _ => List.mem_of_mem_erase) (by simp)
  | answered => exact calls.unstarted trace (by simp) count (kept fun _ => List.mem_of_mem_erase) (by simp)

theorem reach_callsStarted {events : List Event} (reach : Reach (step environment) anything .initial events app) :
    CallsStarted environment app := by
  refine reach.invariant ?_ fun calls _ run => calls.step run
  exact ⟨nofun, nofun, nofun, nofun⟩

/-- What was observed stays in the trace. -/
theorem observed_stays {start : App} {events : List Event} {observation : Observation}
    (reach : Reach (step environment) anything start events app) (observed : observation ∈ start.trace) :
    observation ∈ app.trace := by
  refine reach.invariant (P := fun app => observation ∈ app.trace) observed fun present _ run => ?_
  obtain ⟨observations, trace, _⟩ := step_progress run
  rw [trace]
  exact List.mem_append_left _ present

/-- Whatever a started verification calls from now on, it asks for the id that it was started with. -/
theorem started_asks (calls : CallsStarted environment app) {ticket : Nat} {clean : JsString}
    (started : .started ticket clean ∈ app.trace) {events : List Event} {later : App}
    (reach : Reach (step environment) anything app events later) {payload : ViewPayload}
    (called : .called ticket payload ∈ later.trace) :
    environment.dev = false ∧ payload = viewPayload environment clean := by
  have laterCalls : CallsStarted environment later := reach.invariant calls fun holds _ run => holds.step run
  obtain ⟨production, other, startedLater, asked⟩ := laterCalls.called ticket payload called
  refine ⟨production, ?_⟩
  rw [asked, laterCalls.once ticket other clean startedLater (observed_stays reach started)]

/-- The node is reachable: every connection check that settles succeeds. -/
def Online (_ : App) (event : Event) : Prop :=
  ∀ retryCount reply, event.check = some (retryCount, reply) → checkFails reply = false

/-- As long as the node is reachable, the verification under this ticket can come to its view call for this id. -/
def ReachesCall (environment : Environment) (app : App) (ticket : Nat) (id : JsString) : Prop :=
  ∃ events later, Reach (step environment) Online app events later ∧
    .called ticket (viewPayload environment id) ∈ later.trace

/-- In production, a verification whose connection check succeeds makes its view call. -/
theorem connecting_calls (production : environment.dev = false) {screen : Closure}
    (shown : app.component.screen = some screen) {verification : Verification} {retryCount : Nat}
    (member : verification ∈ app.verifications) (waiting : verification.phase = .connecting retryCount) :
    ReachesCall environment app verification.ticket verification.cleanProductId := by
  obtain ⟨middle, connected, component, advanced⟩ := connection_step environment shown member waiting
  have stillShown : middle.component.screen = some screen := by
    rw [component]
    exact shown
  have inside : { verification with phase := .connected true } ∈ middle.verifications := by
    rw [advanced]
    exact advance_mem member _
  obtain ⟨later, resumed, _, _, trace⟩ := resumed_step environment production stillShown inside rfl sampleTime
  have online : Online app (.connection verification retryCount ledgerInfo) := by
    intro _ _ settles
    cases settles
    rfl
  refine ⟨_, later, .prepend online connected (.prepend (fun _ _ settles => by cases settles) resumed .start), ?_⟩
  rw [trace]
  exact List.mem_append_right _ List.mem_cons_self

end CallsStarted

/-- The verification under this ticket has passed the id checks. In production
it comes to a view call if the node is reachable, and all that it ever asks for is this id. -/
def VerifiesId (environment : Environment) (app : App) (ticket : Nat) (id : JsString) : Prop :=
  (∃ clean, .started ticket clean ∈ app.trace) ∧
    (environment.dev = false → ReachesCall environment app ticket id) ∧
    ∀ events later payload, Reach (step environment) anything app events later →
      .called ticket payload ∈ later.trace → payload = viewPayload environment id

theorem viewPayload_inj {environment : Environment} {clean id : JsString} :
    viewPayload environment clean = viewPayload environment id ↔ parseInt clean = parseInt id := by
  simp [viewPayload]

/-- A started verification is for an id exactly if it was started with that id, up to the notation. -/
theorem started_verifies {environment : Environment} {app : App} (calls : CallsStarted environment app)
    {screen : Closure} (shown : app.component.screen = some screen) {verification : Verification} {retryCount : Nat}
    (member : verification ∈ app.verifications) (waiting : verification.phase = .connecting retryCount)
    (id : JsString) :
    VerifiesId environment app verification.ticket id ↔
      (environment.dev = false → parseInt verification.cleanProductId = parseInt id) := by
  have started := calls.flying verification member
  constructor
  · rintro ⟨_, reaches, _⟩ production
    obtain ⟨events, later, reach, called⟩ := reaches production
    exact viewPayload_inj.mp (started_asks calls started reach.unguarded called).2.symm
  · intro same
    refine ⟨⟨_, started⟩, fun production => ?_, fun events later payload reach called => ?_⟩
    · obtain ⟨events, later, reach, called⟩ := connecting_calls production shown member waiting
      rw [viewPayload_inj.mpr (same production)] at called
      exact ⟨events, later, reach, called⟩
    · obtain ⟨production, asked⟩ := started_asks calls started reach called
      rw [asked, viewPayload_inj.mpr (same production)]

section Scan

variable {environment : Environment} {app after : App} {closure : Closure} {decodedText : JsString} {now : TimeValue}
  {qrData : JsValue}

/-- A step of an open scanner, on an accepted code, is a call of the `handleVerify` that opened it. -/
theorem scan_continues (opened : app.scanner = some closure) (parsed : Json.parse decodedText = some qrData)
    (accepted : (verifyQRCode environment.engine environment.signer now qrData).isValid = true)
    (run : step environment app (.scan decodedText now) = some after) :
    ∃ screen scanned, after = handleVerify .deferred closure scanned ∧ scanned.component.screen = some screen ∧
      scanned.verifications = app.verifications ∧ scanned.tickets = app.tickets ∧
      scanned.trace = app.trace ++ [.scanned decodedText now] := by
  obtain ⟨scanned, continues, sameScreen, frame⟩ := onScan_accepted closure app parsed accepted
  cases shown : app.component.screen with
  | none =>
    simp only [step, shown] at run
    cases run
  | some screen =>
    simp only [step, shown, opened, Option.map_some, Option.some.injEq] at run
    exact ⟨screen, scanned, run.symm.trans continues, sameScreen.trans shown, frame⟩

/-- An accepted scan starts a verification of what was in the field when the scanner was opened. -/
theorem scan_starts (opened : app.scanner = some closure) (parsed : Json.parse decodedText = some qrData)
    (accepted : (verifyQRCode environment.engine environment.signer now qrData).isValid = true)
    (run : step environment app (.scan decodedText now) = some after)
    (passed : idError (cleanProductId (productIdOf closure)) = none) :
    (∃ screen, after.component.screen = some screen) ∧
      ⟨app.tickets, cleanProductId (productIdOf closure), .connecting closure.state.retryCount⟩ ∈
        after.verifications := by
  obtain ⟨screen, scanned, rfl, shown, _, sameTickets, _⟩ := scan_continues opened parsed accepted run
  rw [← sameTickets]
  exact handleVerify_starts passed shown

/-- If that does not pass the checks, nothing is started. -/
theorem scan_refuses (calls : CallsStarted environment app) (opened : app.scanner = some closure)
    (parsed : Json.parse decodedText = some qrData)
    (accepted : (verifyQRCode environment.engine environment.signer now qrData).isValid = true)
    (run : step environment app (.scan decodedText now) = some after)
    (refused : idError (cleanProductId (productIdOf closure)) ≠ none) (clean : JsString) :
    .started app.tickets clean ∉ after.trace := by
  obtain ⟨_, scanned, rfl, _, _, _, sameTrace⟩ := scan_continues opened parsed accepted run
  rcases handleVerify_frame .deferred closure scanned with ⟨error, checked, _, _, trace⟩ | ⟨passed, _⟩
  · intro started
    rw [trace, sameTrace] at started
    have old : .started app.tickets clean ∈ app.trace := by simpa using started
    have below := calls.issued app.tickets clean old
    omega
  · exact absurd passed refused

end Scan

/-- The scan callback verifies what was in the field when the scanner was
opened, so it verifies the scanned id exactly if that id was there already. -/
theorem scan_verifies_iff {environment : Environment} {events : List Event} {app after : App}
    (reach : Reach (step environment) anything .initial events app) {closure : Closure}
    (opened : app.scanner = some closure) {decodedText : JsString} {now : TimeValue} {qrData : JsValue}
    (parsed : Json.parse decodedText = some qrData)
    (accepted : (verifyQRCode environment.engine environment.signer now qrData).isValid = true)
    (run : step environment app (.scan decodedText now) = some after) :
    ∀ id, (ownProperties qrData).get (js "id") = .string id → (∀ c ∈ id, isDigit c = true) →
      (VerifiesId environment after app.tickets id ↔
        idError (cleanProductId (productIdOf closure)) = none ∧
          (environment.dev = false → parseInt (cleanProductId (productIdOf closure)) = parseInt id)) := by
  intro id _ _
  have calls := reach_callsStarted reach
  by_cases passed : idError (cleanProductId (productIdOf closure)) = none
  · obtain ⟨⟨screen, shown⟩, member⟩ := scan_starts opened parsed accepted run passed
    rw [started_verifies (calls.step run) shown member rfl id]
    exact (and_iff_right passed).symm
  · refine iff_of_false (fun verifies => ?_) fun holds => passed holds.1
    obtain ⟨⟨clean, started⟩, _⟩ := verifies
    exact scan_refuses calls opened parsed accepted run passed clean started

/-- The scanner opened over an id that was typed into the field. -/
def opensScanner (text : JsString) : List Event := [.edit text, .clickScan]

theorem opensScanner_scan (text decodedText : JsString) :
    ∃ app closure after, Reach (step sampleEnvironment) anything .initial (opensScanner text) app ∧
      app.scanner = some closure ∧ productIdOf closure = text ∧
      step sampleEnvironment app (.scan decodedText sampleTime) = some after :=
  ⟨_, _, _, reach_iff_follow.mpr rfl, rfl, rfl, rfl⟩

/-- The code of the first initial product is accepted, and its id is `1`. -/
theorem premiumHeadphones_scanned :
    ∃ scanned : Properties, Json.parse (qrData sampleSigner premiumHeadphones sampleTime) = some (.object scanned) ∧
      (verifyQRCode sampleEngine sampleSigner sampleTime (.object scanned)).isValid = true ∧
      scanned.get (js "id") = .string (js "1") := by
  obtain ⟨scanned, parsed, valid, id, _⟩ := @verifyQRCode_qrData premiumHeadphones (js "1") sampleTime sampleEngine
    sampleSigner sampleTime rfl (by decide) sampleSigner_nonempty
  exact ⟨scanned, parsed, valid.mpr (by decide), id⟩

theorem scan_verifies_retyped :
    ∃ app after, Reach (step sampleEnvironment) anything .initial (opensScanner (js "01")) app ∧
      step sampleEnvironment app (.scan (qrData sampleSigner premiumHeadphones sampleTime) sampleTime) = some after ∧
      VerifiesId sampleEnvironment after app.tickets (js "1") := by
  obtain ⟨scanned, parsed, valid, id⟩ := premiumHeadphones_scanned
  obtain ⟨app, closure, after, reach, opened, typed, run⟩ := opensScanner_scan (js "01")
    (qrData sampleSigner premiumHeadphones sampleTime)
  have same : parseInt (cleanProductId (productIdOf closure)) = parseInt (js "1") := by
    rw [typed, show cleanProductId (js "01") = js "01" from rfl, parseInt_digits (by decide) (List.all_eq_true.mp rfl),
      parseInt_digits (by decide) (List.all_eq_true.mp rfl)]
    rfl
  refine ⟨app, after, reach, run, ?_⟩
  exact (scan_verifies_iff reach opened parsed valid run (js "1") id (List.all_eq_true.mp rfl)).mpr
    ⟨by rw [typed]; rfl, fun _ => same⟩

/-- With another id in the field, the accepted code of product `1` starts a verification of product `2`. -/
theorem scan_typedEarlier :
    ∃ (scanned : Properties) (app after : App),
      Json.parse (qrData sampleSigner premiumHeadphones sampleTime) = some (.object scanned) ∧
      (verifyQRCode sampleEngine sampleSigner sampleTime (.object scanned)).isValid = true ∧
      scanned.get (js "id") = .string (js "1") ∧
      Reach (step sampleEnvironment) anything .initial (opensScanner (js "2")) app ∧
      step sampleEnvironment app (.scan (qrData sampleSigner premiumHeadphones sampleTime) sampleTime) = some after ∧
      VerifiesId sampleEnvironment after app.tickets (js "2") ∧
      ¬VerifiesId sampleEnvironment after app.tickets (js "1") := by
  obtain ⟨scanned, parsed, valid, id⟩ := premiumHeadphones_scanned
  obtain ⟨app, closure, after, reach, opened, typed, run⟩ := opensScanner_scan (js "2")
    (qrData sampleSigner premiumHeadphones sampleTime)
  have calls := reach_callsStarted reach
  have clean : cleanProductId (productIdOf closure) = js "2" := by
    rw [typed]
    rfl
  obtain ⟨⟨screen, shown⟩, member⟩ := scan_starts opened parsed valid run (by rw [clean]; rfl)
  have verifies := started_verifies (calls.step run) shown member rfl
  rw [clean] at verifies
  have different : parseInt (js "2") ≠ parseInt (js "1") := by
    intro same
    have naturals := congrArg Floating.natural same
    rw [parseInt_natural (by decide) (List.all_eq_true.mp rfl) (TimeValue.bound_precision (by decide)),
      parseInt_natural (by decide) (List.all_eq_true.mp rfl) (TimeValue.bound_precision (by decide))] at naturals
    cases naturals
  refine ⟨scanned, app, after, parsed, valid, id, reach, run, (verifies _).mpr fun _ => rfl, fun wrong => ?_⟩
  exact different ((verifies _).mp wrong rfl)

end TrueMark.UserApp
