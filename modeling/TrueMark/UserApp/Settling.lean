import TrueMark.Runs.Settle
import TrueMark.UserApp.Tickets

namespace TrueMark.UserApp
open Ecma Aptos Qr React Runs

/-- The turns that a verification in this phase still needs at most. -/
def Phase.stages : Phase → Nat
  | .connecting _ => 3
  | .connected _ => 2
  | .querying => 1

/-- All turns that are left to the verifications in flight. -/
def stagesLeft (app : App) : Nat := (app.verifications.map fun verification => verification.phase.stages).sum

/-- The events in which a verification moves on. -/
def Event.settles : Event → Bool
  | .connection _ _ _ | .resumed _ _ _ | .response _ _ _ => true
  | _ => false

/-- The next turn of a verification, with what the node replies if it is asked. -/
def settlement (verification : Verification) (reply : Reply) (now : TimeValue) : Event :=
  match verification.phase with
  | .connecting retryCount => .connection verification retryCount reply
  | .connected isConnected => .resumed verification isConnected now
  | .querying => .response verification reply now

section Step

variable {environment : Environment} {app after : App} {event : Event}

theorem stagesLeft_advance (tickets : TicketsDistinct app) {verification : Verification}
    (member : verification ∈ app.verifications) (phase : Phase) :
    stagesLeft (app.advance verification phase) + verification.phase.stages = stagesLeft app + phase.stages :=
  weight_change (fun verification => verification.phase.stages) (fun _ => { verification with phase })
    (List.Nodup.of_map _ tickets.numbered.distinct) (fun _ _ => Iff.rfl) member

theorem stagesLeft_erase {verification : Verification} (member : verification ∈ app.verifications)
    (verifications : after.verifications = app.verifications.erase verification) :
    stagesLeft after + verification.phase.stages = stagesLeft app := by
  rw [stagesLeft, verifications, List.erase_eq_eraseP]
  refine weight_eraseP (fun verification => verification.phase.stages) (fun other _ => ?_) member
  rw [beq_iff_eq, eq_comm]

/-- A verification that moves on has less to go. -/
theorem settles_lowers (tickets : TicketsDistinct app) (settles : event.settles = true)
    (run : step environment app event = some after) :
    stagesLeft after < stagesLeft app ∧ after.tickets = app.tickets := by
  cases step_turn run with
  | @connection verification retryCount reply member waiting =>
    obtain ⟨verifications, count, _⟩ := checkBlockchainConnection_frame retryCount reply app
    have moved := stagesLeft_advance tickets member
      (.connected (checkBlockchainConnection retryCount reply app).1)
    rw [waiting] at moved
    have same : stagesLeft ((checkBlockchainConnection retryCount reply app).2.advance verification
        (.connected (checkBlockchainConnection retryCount reply app).1)) =
        stagesLeft (app.advance verification (.connected (checkBlockchainConnection retryCount reply app).1)) := by
      simp only [stagesLeft, App.advance, verifications]
    refine ⟨?_, count⟩
    simp only [Phase.stages] at moved
    omega
  | @resumed verification isConnected now member waiting =>
    rw [resume_eq]
    split
    · obtain ⟨verifications, count, _⟩ := finish_frame verification (by assumption) app
      have gone := stagesLeft_erase member verifications
      rw [waiting, Phase.stages] at gone
      exact ⟨by omega, count⟩
    · have moved := stagesLeft_advance tickets member .querying
      rw [waiting] at moved
      simp only [Phase.stages] at moved
      refine ⟨?_, rfl⟩
      change stagesLeft (app.advance verification .querying) < stagesLeft app
      omega
  | @response verification reply now member waiting =>
    obtain ⟨verifications, count, _⟩ := finish_frame verification
      (readResponse environment verification.cleanProductId reply now)
      (app.observe (.answered verification.ticket reply))
    have gone := stagesLeft_erase member verifications
    rw [waiting, Phase.stages] at gone
    exact ⟨by omega, count⟩
  | _ => cases settles

/-- Everything else leaves the verifications alone, or starts one more. -/
theorem other_pays (other : event.settles = false) (run : step environment app event = some after) :
    stagesLeft after + 3 * app.tickets ≤ stagesLeft app + 3 * after.tickets := by
  obtain ⟨observations, _, progress⟩ := step_progress run
  have started {clean : JsString} {retryCount : Nat}
      (verifications : after.verifications = app.verifications ++ [⟨app.tickets, clean, .connecting retryCount⟩])
      (next : after.tickets = app.tickets + 1) :
      stagesLeft after + 3 * app.tickets ≤ stagesLeft app + 3 * after.tickets := by
    have grown : stagesLeft after = stagesLeft app + 3 := by
      simp [stagesLeft, verifications, Phase.stages]
    omega
  have idle (verifications : after.verifications = app.verifications) (same : after.tickets = app.tickets) :
      stagesLeft after + 3 * app.tickets ≤ stagesLeft app + 3 * after.tickets := by
    rw [stagesLeft, verifications, same, stagesLeft]
  generalize verifications : after.verifications = list at progress
  generalize count : after.tickets = number at progress
  generalize writeOf environment app event = write at progress
  cases progress with
  | quiet => exact count ▸ idle verifications count
  | refused => exact count ▸ idle verifications count
  | scanRejected => exact count ▸ idle verifications count
  | scanRefused => exact count ▸ idle verifications count
  | started => exact count ▸ started verifications count
  | scanStarted => exact count ▸ started verifications count
  | _ => cases other

theorem settling (environment : Environment) :
    Settling (step environment) TicketsDistinct stagesLeft (fun app => 3 * app.tickets) Event.settles where
  kept tickets run := tickets.step run
  lowers tickets settles run := by
    obtain ⟨lower, same⟩ := settles_lowers tickets settles run
    rw [same]
    exact ⟨lower, le_rfl⟩
  pays other run := other_pays other run

theorem settles_deferred (settles : event.settles = true) : event.lane = .deferred ∧ event ≠ .render := by
  cases event with
  | connection => exact ⟨rfl, nofun⟩
  | resumed => exact ⟨rfl, nofun⟩
  | response => exact ⟨rfl, nofun⟩
  | _ => cases settles

theorem settlement_settles (verification : Verification) (reply : Reply) (now : TimeValue) :
    (settlement verification reply now).settles = true := by
  unfold settlement
  split <;> rfl

theorem settlement_enabled (environment : Environment) {screen : Closure} (shown : app.component.screen = some screen)
    {verification : Verification} (member : verification ∈ app.verifications) (reply : Reply) (now : TimeValue) :
    ∃ after, step environment app (settlement verification reply now) = some after := by
  unfold settlement
  split <;> rename_i waiting <;> exact ⟨_, by simp only [step, shown, if_pos (And.intro member waiting)]; rfl⟩

end Step

/-- Every started verification comes to an end. Over a whole run there are at most three turns for each,
each of them can always take its next turn, whatever the node replies, and from every state of a
mounted app these turns alone lead to one with no verification in flight. -/
theorem verifications_settle {environment : Environment} {events : List Event} {app : App}
    (reach : Reach (step environment) anything .initial events app) :
    events.countP Event.settles + stagesLeft app ≤ 3 * app.tickets ∧
      ∀ screen, app.component.screen = some screen →
        (∀ verification ∈ app.verifications, ∀ reply now,
          ∃ after, step environment app (settlement verification reply now) = some after) ∧
        ∃ more later, Reach (step environment) (fun _ event => event.settles = true) app more later ∧
          later.verifications = [] ∧ later.component.screen = some screen := by
  obtain ⟨tickets, bounded⟩ := (settling environment).bounded ticketsDistinct_initial (Nat.zero_le _) reach
  refine ⟨bounded, fun screen shown => ⟨fun verification member reply now => ?_, ?_⟩⟩
  · exact settlement_enabled environment shown member reply now
  · have drained : ∃ more later, Reach (step environment) (fun _ event => event.settles = true) app more later ∧
        TicketsDistinct later ∧ later.component.screen = some screen ∧ ¬later.verifications ≠ [] := by
      refine (settling environment).drained tickets shown (fun mounted settles run => ?_) fun _ mounted busy => ?_
      · exact step_screen mounted run (settles_deferred settles).1 (settles_deferred settles).2
      · obtain ⟨verification, member⟩ := List.exists_mem_of_ne_nil _ busy
        obtain ⟨after, run⟩ := settlement_enabled environment mounted member (.rejected []) sampleTime
        exact ⟨_, after, settlement_settles verification _ _, run⟩
    obtain ⟨more, later, further, _, mounted, idle⟩ := drained
    exact ⟨more, later, further, not_not.mp idle, mounted⟩

/-- Two verifications of the same id come to their ends. -/
theorem verifications_settle_twice :
    ∃ app more later,
      Reach (step sampleEnvironment) anything .initial [.edit (js "1"), .clickVerify, .clickVerify] app ∧
      Reach (step sampleEnvironment) (fun _ event => event.settles = true) app more later ∧
      later.verifications = [] := by
  have reach := reach_iff_follow.mpr
    (rfl : follow (step sampleEnvironment) .initial [.edit (js "1"), .clickVerify, .clickVerify] = some _)
  obtain ⟨_, more, later, further, idle, _⟩ := (verifications_settle reach).2 _ rfl
  exact ⟨_, more, later, reach, further, idle⟩

end TrueMark.UserApp
