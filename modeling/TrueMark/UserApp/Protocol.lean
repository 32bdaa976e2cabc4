import TrueMark.Runs.Simulation
import TrueMark.UserApp.Cleaning
import TrueMark.UserApp.Tickets

namespace TrueMark.UserApp
open Ecma Aptos Qr React Runs

/-- The life of one `handleVerify` call, seen from outside. -/
inductive Session
  | unstarted
  | waiting (cleanProductId : JsString)
  | asking (cleanProductId : JsString)
  | replied (cleanProductId : JsString) (reply : Reply)
  | done

/-- What is observed of one call. -/
inductive Act
  | start (cleanProductId : JsString)
  | call (payload : ViewPayload)
  | answer (reply : Reply)
  | finish (outcome : Except JsString ProductResult)

/-- What one call is for: an id that passes the checks; then a failed connection, the mock result of a
development build, or one view call for this very id and what is made of its answer. -/
inductive Session.Move (environment : Environment) : Session → Act → Session → Prop
  | start {clean} : idError clean = none → Move environment .unstarted (.start clean) (.waiting clean)
  | unavailable {clean} : Move environment (.waiting clean)
      (.finish (.error (js "Blockchain network is not available. Please try again later."))) .done
  | mock {clean now} : environment.dev = true →
      Move environment (.waiting clean) (.finish (.ok (mockResult environment clean now))) .done
  | call {clean} : environment.dev = false →
      Move environment (.waiting clean) (.call (viewPayload environment clean)) (.asking clean)
  | answer {clean reply} : Move environment (.asking clean) (.answer reply) (.replied clean reply)
  | finish {clean reply now} : Move environment (.replied clean reply)
      (.finish (readResponse environment clean reply now)) .done

def Observation.act (ticket : Nat) : Observation → Option Act
  | .started other clean => if other = ticket then some (.start clean) else none
  | .called other payload => if other = ticket then some (.call payload) else none
  | .answered other reply => if other = ticket then some (.answer reply) else none
  | .finished other outcome => if other = ticket then some (.finish outcome) else none
  | _ => none

/-- All that a trace says about the call under one ticket. -/
def acts (ticket : Nat) (trace : List Observation) : List Act := trace.filterMap (Observation.act ticket)

/-- Where the call under a ticket stands. Between two turns no answer is left unread. -/
def At (app : App) (ticket : Nat) : Session → Prop
  | .unstarted => app.tickets ≤ ticket
  | .waiting clean => ∃ verification ∈ app.verifications,
      verification.ticket = ticket ∧ verification.cleanProductId = clean ∧ verification.phase ≠ .querying
  | .asking clean => ∃ verification ∈ app.verifications,
      verification.ticket = ticket ∧ verification.cleanProductId = clean ∧ verification.phase = .querying
  | .replied _ _ => False
  | .done => ticket < app.tickets ∧ ∀ verification ∈ app.verifications, verification.ticket ≠ ticket

theorem acts_append (ticket : Nat) (trace more : List Observation) :
    acts ticket (trace ++ more) = acts ticket trace ++ acts ticket more :=
  List.filterMap_append

section Step

variable {environment : Environment} {app after : App} {event : Event} {ticket : Nat} {session : Session}

/-- A call stands where it stood, whatever happens to the others. -/
theorem At.frame (stands : At app ticket session) (issued : ticket < after.tickets ↔ ticket < app.tickets)
    (same : ∀ verification : Verification, verification.ticket = ticket →
      (verification ∈ after.verifications ↔ verification ∈ app.verifications)) : At after ticket session := by
  cases session with
  | unstarted =>
    simp only [At] at stands ⊢
    omega
  | waiting clean =>
    obtain ⟨verification, member, own, rest⟩ := stands
    exact ⟨verification, (same verification own).mpr member, own, rest⟩
  | asking clean =>
    obtain ⟨verification, member, own, rest⟩ := stands
    exact ⟨verification, (same verification own).mpr member, own, rest⟩
  | replied clean reply => exact stands
  | done =>
    refine ⟨issued.mpr stands.1, fun verification member own => ?_⟩
    exact stands.2 verification ((same verification own).mp member) own

/-- A verification in flight determines where its call stands. -/
theorem At.own (tickets : TicketsDistinct app) {verification : Verification} (member : verification ∈ app.verifications)
    (stands : At app verification.ticket session) :
    verification.phase ≠ .querying ∧ session = .waiting verification.cleanProductId ∨
      verification.phase = .querying ∧ session = .asking verification.cleanProductId := by
  have only {other : Verification} (inside : other ∈ app.verifications) (same : other.ticket = verification.ticket) :
      other = verification := tickets.numbered.eq_of_ticket inside member same
  cases session with
  | unstarted =>
    have below := tickets.numbered.issued verification member
    simp only [At] at stands
    omega
  | waiting clean =>
    obtain ⟨other, inside, same, rfl, waits⟩ := stands
    obtain rfl := only inside same
    exact Or.inl ⟨waits, rfl⟩
  | asking clean =>
    obtain ⟨other, inside, same, rfl, asks⟩ := stands
    obtain rfl := only inside same
    exact Or.inr ⟨asks, rfl⟩
  | replied clean reply => exact stands.elim
  | done => exact absurd rfl (stands.2 verification member)

/-- Only a call that was not started yet stands at the next ticket. -/
theorem At.next (tickets : TicketsDistinct app) (stands : At app app.tickets session) : session = .unstarted := by
  cases session with
  | unstarted => rfl
  | waiting clean | asking clean =>
    obtain ⟨verification, member, same, _⟩ := stands
    have below := tickets.numbered.issued verification member
    omega
  | replied clean reply => exact stands.elim
  | done => exact absurd stands.1 (Nat.lt_irrefl _)

theorem at_erase (tickets : TicketsDistinct app) {verification : Verification}
    (member : verification ∈ app.verifications) (same : after.tickets = app.tickets)
    (verifications : after.verifications = app.verifications.erase verification) :
    At after verification.ticket .done := by
  refine ⟨by rw [same]; exact tickets.numbered.issued verification member, fun other inside equal => ?_⟩
  have nodup : app.verifications.Nodup := List.Nodup.of_map _ tickets.numbered.distinct
  rw [verifications, nodup.mem_erase_iff] at inside
  exact inside.1 (tickets.numbered.eq_of_ticket inside.2 member equal)

theorem mem_erase_other {verification other : Verification} (different : other.ticket ≠ verification.ticket) :
    other ∈ app.verifications.erase verification ↔ other ∈ app.verifications :=
  List.mem_erase_of_ne fun same => different (congrArg Verification.ticket same)

theorem mem_advance_other {verification other : Verification} {phase : Phase}
    (different : other.ticket ≠ verification.ticket) :
    other ∈ (app.advance verification phase).verifications ↔ other ∈ app.verifications := by
  constructor
  · intro member
    rcases mem_advance member with rfl | ⟨old, _⟩
    · exact absurd rfl different
    · exact old
  · intro member
    exact List.mem_map.mpr ⟨other, member, if_neg fun same => different (congrArg Verification.ticket same)⟩

theorem early_move {verification : Verification} {isConnected : Bool} {now : TimeValue}
    {outcome : Except JsString ProductResult}
    (early : earlyOutcome environment verification isConnected now = some outcome) :
    Session.Move environment (.waiting verification.cleanProductId) (.finish outcome) .done := by
  unfold earlyOutcome at early
  split at early
  · cases early
    exact .unavailable
  · split at early
    · rename_i development
      cases early
      exact .mock development
    · cases early

/-- From where the call stood, the protocol spells this word to where it stands now. -/
def Spells (environment : Environment) (session : Session) (word : List Act) (after : App) (ticket : Nat) : Prop :=
  ∃ next, Path (Session.Move environment) session word next ∧ At after ticket next

theorem spells_start {observations : List Observation} {clean : JsString} {retryCount : Nat}
    (tickets : TicketsDistinct app) (stands : At app ticket session) (passed : idError clean = none)
    (said : acts ticket observations = acts ticket [.started app.tickets clean])
    (verifications : after.verifications = app.verifications ++ [⟨app.tickets, clean, .connecting retryCount⟩])
    (count : after.tickets = app.tickets + 1) :
    Spells environment session (acts ticket observations) after ticket := by
  rw [said]
  by_cases here : app.tickets = ticket
  · subst here
    obtain rfl := stands.next tickets
    have said : acts app.tickets [.started app.tickets clean] = [.start clean] := by simp [acts, Observation.act]
    refine ⟨.waiting clean, said ▸ .single (.start passed), ⟨app.tickets, clean, .connecting retryCount⟩, ?_, rfl, rfl,
      by simp⟩
    rw [verifications]
    exact List.mem_append_right _ List.mem_cons_self
  · have silent : acts ticket [.started app.tickets clean] = [] := by simp [acts, Observation.act, here]
    refine ⟨session, silent ▸ .start, stands.frame (by omega) fun other own => ?_⟩
    rw [verifications, List.mem_append, List.mem_singleton, or_iff_left]
    rintro rfl
    exact here own

/-- A step that concerns one verification in flight is silent about all other calls. -/
theorem spells_concerning (verification : Verification) {observations : List Observation}
    (stands : At app ticket session)
    (silent : verification.ticket ≠ ticket → acts ticket observations = [])
    (others : ∀ other : Verification, other.ticket ≠ verification.ticket →
      (other ∈ after.verifications ↔ other ∈ app.verifications))
    (count : after.tickets = app.tickets)
    (own : At app verification.ticket session →
      Spells environment session (acts verification.ticket observations) after verification.ticket) :
    Spells environment session (acts ticket observations) after ticket := by
  by_cases here : verification.ticket = ticket
  · subst here
    exact own stands
  · refine ⟨session, silent here ▸ .start, stands.frame (by rw [count]) fun other same => ?_⟩
    exact others other fun equal => here (equal.symm.trans same)

/-- One event of the app is a word of the protocol, for every ticket. -/
theorem at_step (tickets : TicketsDistinct app) (stands : At app ticket session)
    (run : step environment app event = some after) :
    ∃ observations, after.trace = app.trace ++ observations ∧
      Spells environment session (acts ticket observations) after ticket := by
  obtain ⟨observations, trace, progress⟩ := step_progress run
  refine ⟨observations, trace, ?_⟩
  generalize verifications : after.verifications = list at progress
  generalize count : after.tickets = number at progress
  generalize writeOf environment app event = write at progress
  have idle (silent : acts ticket observations = []) (same : list = app.verifications)
      (unchanged : number = app.tickets) : Spells environment session (acts ticket observations) after ticket := by
    refine ⟨session, silent ▸ .start, stands.frame (by rw [count, unchanged]) fun other _ => ?_⟩
    rw [verifications, same]
  cases progress with
  | quiet => exact idle rfl rfl rfl
  | refused => exact idle rfl rfl rfl
  | scanRejected => exact idle rfl rfl rfl
  | scanRefused => exact idle rfl rfl rfl
  | started passed => exact spells_start tickets stands passed rfl verifications count
  | scanStarted passed => exact spells_start tickets stands passed rfl verifications count
  | @connected verification retryCount reply member waiting =>
    refine spells_concerning verification stands (fun _ => rfl) (fun other different => ?_) count fun stands => ?_
    · rw [verifications]
      exact mem_advance_other different
    · rcases stands.own tickets member with ⟨_, rfl⟩ | ⟨asks, _⟩
      · refine ⟨_, .start, { verification with phase := .connected !checkFails reply }, ?_, rfl, rfl, by simp⟩
        rw [verifications]
        exact advance_mem member _
      · rw [waiting] at asks
        cases asks
  | @called verification now member waiting production =>
    refine spells_concerning verification stands (fun foreign => by simp [acts, Observation.act, foreign])
      (fun other different => ?_) count fun stands => ?_
    · rw [verifications]
      exact mem_advance_other different
    · rcases stands.own tickets member with ⟨_, rfl⟩ | ⟨asks, _⟩
      · have said : acts verification.ticket [.called verification.ticket (viewPayload environment
            verification.cleanProductId)] = [.call (viewPayload environment verification.cleanProductId)] := by
          simp [acts, Observation.act]
        refine ⟨.asking verification.cleanProductId, said ▸ .single (.call production),
          { verification with phase := .querying }, ?_, rfl, rfl, rfl⟩
        rw [verifications]
        exact advance_mem member _
      · rw [waiting] at asks
        cases asks
  | @ended verification isConnected now outcome member waiting early =>
    refine spells_concerning verification stands (fun foreign => by simp [acts, Observation.act, foreign])
      (fun other different => ?_) count fun stands => ?_
    · rw [verifications]
      exact mem_erase_other different
    · rcases stands.own tickets member with ⟨_, rfl⟩ | ⟨asks, _⟩
      · have said : acts verification.ticket [.finished verification.ticket outcome] = [.finish outcome] := by
          simp [acts, Observation.act]
        exact ⟨.done, said ▸ .single (early_move early), at_erase tickets member count verifications⟩
      · rw [waiting] at asks
        cases asks
  | @answered verification reply now member waiting =>
    refine spells_concerning verification stands (fun foreign => by simp [acts, Observation.act, foreign])
      (fun other different => ?_) count fun stands => ?_
    · rw [verifications]
      exact mem_erase_other different
    · rcases stands.own tickets member with ⟨waits, _⟩ | ⟨_, rfl⟩
      · exact absurd waiting waits
      · have said : acts verification.ticket [.answered verification.ticket reply,
            .finished verification.ticket (readResponse environment verification.cleanProductId reply now)] =
            [.answer reply] ++ [.finish (readResponse environment verification.cleanProductId reply now)] := by
          simp [acts, Observation.act]
        exact ⟨.done, said ▸ .append (.single .answer) (.single .finish),
          at_erase tickets member count verifications⟩

/-- In every run, every call follows the protocol, and stands where the protocol says. -/
theorem reach_session (ticket : Nat) {events : List Event}
    (reach : Reach (step environment) anything .initial events app) :
    ∃ session, Path (Session.Move environment) .unstarted (acts ticket app.trace) session ∧ At app ticket session := by
  have simulated : ∃ session, Path (Session.Move environment) .unstarted (acts ticket app.trace) session ∧
      TicketsDistinct app ∧ At app ticket session := by
    refine reach.simulate (fun app session => TicketsDistinct app ∧ At app ticket session)
      (fun app => acts ticket app.trace) ⟨ticketsDistinct_initial, Nat.zero_le _⟩ rfl fun holds _ run => ?_
    obtain ⟨observations, trace, next, path, stands⟩ := at_step holds.1 holds.2 run
    exact ⟨_, next, by rw [trace, acts_append], path, holds.1.step run, stands⟩
  obtain ⟨session, path, _, stands⟩ := simulated
  exact ⟨session, path, stands⟩

end Step

/-- An answer that the protocol has taken in and the app has not read yet. -/
def Session.unread : Session → List Act
  | .replied _ reply => [.answer reply]
  | _ => []

/-- A state in which the call under a ticket can make all moves of its session. -/
def Ready (app : App) (ticket : Nat) : Session → Prop
  | .unstarted => app.tickets ≤ ticket
  | .waiting clean => ∃ retryCount, ⟨ticket, clean, .connecting retryCount⟩ ∈ app.verifications
  | .asking clean | .replied clean _ => ⟨ticket, clean, .querying⟩ ∈ app.verifications
  | .done => True

/-- Some run of the app spells this word for the ticket. -/
def Realizable (environment : Environment) (ticket : Nat) (word : List Act) (session : Session) : Prop :=
  ∃ events app screen, Reach (step environment) anything .initial events app ∧ app.component.screen = some screen ∧
    Ready app ticket session ∧ acts ticket app.trace ++ session.unread = word

section Realize

variable {environment : Environment} {app : App} {screen : Closure} {verification : Verification} {ticket : Nat}

theorem cleanProductId_passed {clean : JsString} (passed : idError clean = none) :
    cleanProductId clean = clean ∧ trim clean ≠ [] := by
  obtain ⟨nonempty, digits⟩ := idError_eq_none.mp passed
  obtain ⟨_, same⟩ := clean_digits nonempty digits
  refine ⟨same, fun empty => nonempty ?_⟩
  rw [← same, cleanProductId_eq, empty, List.filter_nil]

/-- Typing an id that passes the checks and pressing Verify. -/
theorem submit_run (environment : Environment) (shown : app.component.screen = some screen) {clean : JsString}
    (passed : idError clean = none) :
    ∃ after next retryCount, Reach (step environment) anything app [.edit clean, .clickVerify] after ∧
      after.component.screen = some next ∧ after.tickets = app.tickets + 1 ∧
      after.trace = app.trace ++ [.started app.tickets clean] ∧
      ⟨app.tickets, clean, .connecting retryCount⟩ ∈ after.verifications := by
  let typed := app.setState .discrete (·.setProductId (.string clean))
  let field : Closure := ⟨screen.state.setProductId (.string clean), paintable_edit clean screen.painted⟩
  have edited : step environment app (.edit clean) = some typed := by simp only [step, shown]; rfl
  have filled : typed.component.screen = some field := by
    rw [App.setState_component]
    exact Component.setState_discrete shown _
  obtain ⟨cleaned, enabled⟩ := cleanProductId_passed passed
  have typedId : productIdOf field = clean := rfl
  have clicked : step environment typed .clickVerify = some (handleVerify .discrete field typed) := by
    simp only [step, filled, typedId, if_neg enabled]
  have checked : idError (cleanProductId (productIdOf field)) = none := by rw [typedId, cleaned, passed]
  obtain ⟨⟨next, mounted⟩, member⟩ := @handleVerify_starts .discrete _ _ _ checked filled
  have sameTickets : typed.tickets = app.tickets := App.setState_tickets ..
  have sameTrace : typed.trace = app.trace := App.setState_trace ..
  rcases handleVerify_frame .discrete field typed with ⟨error, refused, _⟩ | ⟨_, _, tickets, trace⟩
  · rw [checked] at refused
    cases refused
  · rw [typedId, cleaned, sameTickets] at member
    rw [typedId, cleaned, sameTickets, sameTrace] at trace
    exact ⟨_, next, _, .prepend trivial edited (.prepend trivial clicked .start), mounted, by rw [tickets, sameTickets],
      trace, member⟩

theorem connection_run (environment : Environment) (shown : app.component.screen = some screen)
    (member : verification ∈ app.verifications) {retryCount : Nat}
    (waiting : verification.phase = .connecting retryCount) (reply : Reply) :
    ∃ after, step environment app (.connection verification retryCount reply) = some after ∧
      after.component.screen = some screen ∧ after.trace = app.trace ∧
      { verification with phase := .connected (checkBlockchainConnection retryCount reply app).1 } ∈
        after.verifications := by
  obtain ⟨verifications, _, trace⟩ := checkBlockchainConnection_frame retryCount reply app
  have run : step environment app (.connection verification retryCount reply) =
      some ((checkBlockchainConnection retryCount reply app).2.advance verification
        (.connected (checkBlockchainConnection retryCount reply app).1)) := by
    simp only [step, shown, if_pos (And.intro member waiting)]
  exact ⟨_, run, step_screen shown run rfl Event.noConfusion, trace, advance_mem (by rw [verifications]; exact member) _⟩

theorem ended_run (shown : app.component.screen = some screen) (member : verification ∈ app.verifications)
    {isConnected : Bool} (waiting : verification.phase = .connected isConnected) {now : TimeValue}
    {outcome : Except JsString ProductResult}
    (early : earlyOutcome environment verification isConnected now = some outcome) :
    ∃ after, step environment app (.resumed verification isConnected now) = some after ∧
      after.component.screen = some screen ∧ after.trace = app.trace ++ [.finished verification.ticket outcome] := by
  have run : step environment app (.resumed verification isConnected now) =
      some (finish verification outcome app) := by
    simp only [step, shown, if_pos (And.intro member waiting), resume_eq, early]
  exact ⟨_, run, step_screen shown run rfl Event.noConfusion, (finish_frame ..).2.2⟩

theorem response_run (environment : Environment) (shown : app.component.screen = some screen)
    (member : verification ∈ app.verifications) (waiting : verification.phase = .querying) (reply : Reply)
    (now : TimeValue) :
    ∃ after, step environment app (.response verification reply now) = some after ∧
      after.component.screen = some screen ∧
      after.trace = app.trace ++ [.answered verification.ticket reply,
        .finished verification.ticket (readResponse environment verification.cleanProductId reply now)] := by
  have run : step environment app (.response verification reply now) = some (finish verification
      (readResponse environment verification.cleanProductId reply now)
      (app.observe (.answered verification.ticket reply))) := by
    simp only [step, shown, if_pos (And.intro member waiting)]
  refine ⟨_, run, step_screen shown run rfl Event.noConfusion, ?_⟩
  rw [(finish_frame ..).2.2, App.observe, List.append_assoc]
  rfl

/-- Other calls can be started until it is the turn of a given ticket. -/
theorem reach_ticket (environment : Environment) (shown : app.component.screen = some screen)
    (later : app.tickets ≤ ticket) :
    ∃ events after next, Reach (step environment) anything app events after ∧ after.component.screen = some next ∧
      after.tickets = ticket ∧ acts ticket after.trace = acts ticket app.trace := by
  obtain ⟨missing, rfl⟩ := Nat.exists_eq_add_of_le later
  clear later
  induction missing generalizing app screen with
  | zero => exact ⟨[], app, screen, .start, shown, rfl, rfl⟩
  | succ missing ih =>
    obtain ⟨middle, field, _, submitted, mounted, tickets, trace, _⟩ := submit_run environment shown
      (show idError (js "1") = none from rfl)
    obtain ⟨events, after, next, reach, stillMounted, count, said⟩ := ih mounted
    have same : middle.tickets + missing = app.tickets + (missing + 1) := by omega
    rw [same] at count said
    refine ⟨_, after, next, submitted.append reach, stillMounted, count, said.trans ?_⟩
    rw [trace, acts_append]
    simp [acts, Observation.act]

theorem acts_own (trace : List Observation) {observation : Observation} {act : Act}
    (own : observation.act ticket = some act) : acts ticket (trace ++ [observation]) = acts ticket trace ++ [act] := by
  rw [acts_append, acts, acts, List.filterMap_cons_some own, List.filterMap_nil]

/-- The app can make every move of the protocol. -/
theorem Realizable.next {word : List Act} {session next : Session} {act : Act}
    (realizable : Realizable environment ticket word session) (moved : session.Move environment act next) :
    Realizable environment ticket (word ++ [act]) next := by
  obtain ⟨events, app, screen, reach, shown, ready, rfl⟩ := realizable
  cases moved with
  | @start clean passed =>
    obtain ⟨_, before, field, more, mounted, turn, said⟩ := reach_ticket environment shown ready
    obtain ⟨after, next, retryCount, submitted, stillMounted, _, trace, member⟩ :=
      submit_run environment mounted passed
    rw [turn] at member trace
    refine ⟨_, after, next, (reach.append more).append submitted, stillMounted, ⟨retryCount, member⟩, ?_⟩
    have own : (Observation.started ticket clean).act ticket = some (.start clean) := if_pos rfl
    simp only [Session.unread, List.append_nil, trace, acts_own _ own, said]
  | @unavailable clean =>
    obtain ⟨retryCount, member⟩ := ready
    obtain ⟨middle, connected, mounted, sameTrace, waiting⟩ :=
      connection_run environment shown member rfl (.rejected [])
    have offline : (checkBlockchainConnection retryCount (.rejected []) app).1 = false := by
      simp only [checkBlockchainConnection]
      split <;> rfl
    rw [offline] at waiting
    obtain ⟨after, ended, stillMounted, trace⟩ := @ended_run environment _ _ _ mounted waiting _ rfl sampleTime _ rfl
    refine ⟨_, after, screen, .next (.next reach trivial connected) trivial ended, stillMounted, trivial, ?_⟩
    simp only [Session.unread, List.append_nil, trace, sameTrace]
    exact acts_own _ (if_pos rfl)
  | @mock clean now development =>
    obtain ⟨retryCount, member⟩ := ready
    obtain ⟨middle, connected, mounted, sameTrace, waiting⟩ := connection_run environment shown member rfl ledgerInfo
    have early : earlyOutcome environment ⟨ticket, clean, .connected true⟩ true now =
        some (.ok (mockResult environment clean now)) := by simp [earlyOutcome, development]
    obtain ⟨after, ended, stillMounted, trace⟩ := ended_run mounted waiting rfl early
    refine ⟨_, after, screen, .next (.next reach trivial connected) trivial ended, stillMounted, trivial, ?_⟩
    simp only [Session.unread, List.append_nil, trace, sameTrace]
    exact acts_own _ (if_pos rfl)
  | @call clean production =>
    obtain ⟨retryCount, member⟩ := ready
    obtain ⟨middle, connected, mounted, sameTrace, waiting⟩ := connection_run environment shown member rfl ledgerInfo
    obtain ⟨after, called, component, verifications, trace⟩ :=
      resumed_step environment production mounted waiting rfl sampleTime
    refine ⟨_, after, screen, .next (.next reach trivial connected) trivial called, by rw [component, mounted], ?_, ?_⟩
    · rw [Ready, verifications]
      exact advance_mem waiting .querying
    · simp only [Session.unread, List.append_nil, trace, sameTrace]
      exact acts_own _ (if_pos rfl)
  | answer => exact ⟨events, app, screen, reach, shown, ready, by simp [Session.unread]⟩
  | @finish clean reply now =>
    obtain ⟨after, answered, mounted, trace⟩ := response_run environment shown ready rfl reply now
    refine ⟨_, after, screen, .next reach trivial answered, mounted, trivial, ?_⟩
    rw [trace, acts_append]
    simp [Session.unread, acts, Observation.act]

theorem realizable_of_path (ticket : Nat) {word : List Act} {session : Session}
    (path : Path (Session.Move environment) .unstarted word session) : Realizable environment ticket word session := by
  induction path with
  | start => exact ⟨[], .initial, _, .start, rfl, Nat.zero_le _, rfl⟩
  | next _ moved ih => exact ih.next moved

end Realize

/-- Seen from outside, the calls of `handleVerify` are exactly the protocol: under whatever interleaving, what is
observed of a call is a word of the protocol that leaves no answer unread, and every such word is some run's. -/
theorem calls_exact (environment : Environment) (ticket : Nat) (word : List Act) :
    (∃ events app, Reach (step environment) anything .initial events app ∧ acts ticket app.trace = word) ↔
      ∃ session, Path (Session.Move environment) .unstarted word session ∧ session.unread = [] := by
  constructor
  · rintro ⟨events, app, reach, rfl⟩
    obtain ⟨session, path, stands⟩ := reach_session ticket reach
    refine ⟨session, path, ?_⟩
    cases session with
    | replied => exact stands.elim
    | _ => rfl
  · rintro ⟨session, path, read⟩
    obtain ⟨events, app, _, reach, _, _, said⟩ := realizable_of_path ticket path
    rw [read, List.append_nil] at said
    exact ⟨events, app, reach, said⟩

end TrueMark.UserApp
