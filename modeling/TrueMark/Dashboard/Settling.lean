import TrueMark.Dashboard.Loading
import TrueMark.Runs.Settle
import Mathlib.Algebra.Order.BigOperators.Group.List
import Mathlib.Algebra.Order.Ring.Nat

namespace TrueMark.Dashboard
open Ecma Aptos Qr React Runs

/-- The turns that an add in this phase still needs at most, next to the drawing that it waits for. -/
def AddPhase.stages : AddPhase → Nat
  | .counting => 3
  | .generating | .generated => 1

/-- All turns that are left to the calls in flight. -/
def turnsLeft (page : Page) : Nat := (page.adds.map fun add => add.phase.stages).sum + page.generations.length

/-- The events in which a call moves on. -/
def Event.settles : Event → Bool
  | .counted _ _ _ _ | .drawn _ _ | .finished _ => true
  | _ => false

/-- Some call has not ended yet. -/
def Busy (page : Page) : Prop := page.adds ≠ [] ∨ page.generations ≠ []

/-- An add that waits for its QR code has it under way. -/
def Owned (page : Page) : Prop :=
  ∀ add ∈ page.adds, add.phase = .generating → ∃ generation ∈ page.generations, generation.owner = some add.ticket

section Step

variable {environment : Environment} {page after : Page} {event : Event}

theorem settles_of_dialog (dialog : event.dialog = true) : event.settles = false :=
  Event.dialog_cases (P := fun event => event.settles = false) dialog rfl rfl (fun _ _ => rfl) rfl fun _ => rfl

theorem stages_pos (phase : AddPhase) : 0 < phase.stages := by
  cases phase <;> decide

theorem TicketsDistinct.add_iff (tickets : TicketsDistinct page) {add : Add} (member : add ∈ page.adds) :
    ∀ other ∈ page.adds, other.ticket = add.ticket ↔ other = add :=
  fun _ inside => ⟨tickets.adds.eq_of_ticket inside member, fun same => by rw [same]⟩

theorem adds_erase (tickets : TicketsDistinct page) {add : Add} (member : add ∈ page.adds) :
    ((page.adds.eraseP fun other => other.ticket = add.ticket).map fun add => add.phase.stages).sum +
      add.phase.stages = (page.adds.map fun add => add.phase.stages).sum := by
  refine weight_eraseP (fun add => add.phase.stages) (fun other inside => ?_) member
  rw [decide_eq_true_iff]
  exact tickets.add_iff member other inside

theorem adds_advance (tickets : TicketsDistinct page) {add : Add} (member : add ∈ page.adds) (phase : AddPhase) :
    ((page.advance add.ticket phase).adds.map fun add => add.phase.stages).sum + add.phase.stages =
      (page.adds.map fun add => add.phase.stages).sum + phase.stages :=
  weight_change (fun add => add.phase.stages) (fun add => { add with phase })
    (List.Nodup.of_map _ tickets.adds.distinct) (tickets.add_iff member) member

/-- A drawing gives no more work to the add that waits for it. -/
theorem adds_drawn (page : Page) (owner : Option Nat) :
    ((owner.elim page.adds fun owner => (page.advance owner .generated).adds).map fun add => add.phase.stages).sum ≤
      (page.adds.map fun add => add.phase.stages).sum := by
  cases owner with
  | none => exact le_rfl
  | some owner =>
    rw [Option.elim_some, Page.advance_adds, List.map_map]
    refine List.sum_le_sum fun add _ => ?_
    rw [Function.comp_apply]
    split
    · exact stages_pos add.phase
    · exact le_rfl

/-- A call that moves on has less to go. -/
theorem settles_lowers (tickets : TicketsDistinct page) (settles : event.settles = true)
    (run : step environment page event = some after) :
    turnsLeft after < turnsLeft page ∧ page.tickets ≤ after.tickets := by
  cases step_turn run with
  | dialog dialog =>
    rw [settles_of_dialog dialog] at settles
    cases settles
  | @failed add ticket message now issued member same counting =>
    subst same
    have gone := adds_erase tickets member
    have positive := stages_pos add.phase
    refine ⟨?_, le_rfl⟩
    simp only [turnsLeft]
    omega
  | @listed add ticket answer now issued product member same counting =>
    subst same
    have moved := adds_advance tickets member .generating
    rw [counting, show AddPhase.stages .counting = 3 from rfl, show AddPhase.stages .generating = 1 from rfl] at moved
    refine ⟨?_, Nat.le_succ _⟩
    simp only [turnsLeft, List.length_append, List.length_singleton]
    omega
  | @drawn generation ticket url member same =>
    have adds := adds_drawn page generation.owner
    have gone := List.length_eraseP_of_mem (p := fun other => other.ticket = ticket) member (by simpa using same)
    have present := List.length_pos_of_mem member
    refine ⟨?_, le_rfl⟩
    simp only [turnsLeft]
    omega
  | @finished add ticket member same =>
    subst same
    have gone := adds_erase tickets member
    have positive := stages_pos add.phase
    refine ⟨?_, le_rfl⟩
    simp only [turnsLeft]
    omega
  | _ => cases settles

/-- Everything else leaves the calls alone, or starts one more under a ticket of its own. -/
theorem other_pays (other : event.settles = false) (run : step environment page event = some after) :
    turnsLeft after + 3 * page.tickets ≤ turnsLeft page + 3 * after.tickets := by
  cases step_turn run with
  | dialog => exact le_rfl
  | render => exact le_rfl
  | refused =>
    simp only [turnsLeft]
    omega
  | asked =>
    simp only [turnsLeft, List.map_append, List.sum_append, List.map_cons, List.map_nil, List.sum_cons, List.sum_nil,
      AddPhase.stages]
    omega
  | generate =>
    simp only [turnsLeft, List.length_append, List.length_singleton]
    omega
  | failed => cases other
  | listed => cases other
  | drawn => cases other
  | finished => cases other

theorem Owned.step (owned : Owned page) (tickets : TicketsDistinct page)
    (run : step environment page event = some after) : Owned after := by
  cases step_turn run with
  | dialog => exact owned
  | render => exact owned
  | refused => exact owned
  | asked =>
    intro add member generating
    rcases List.mem_append.mp member with old | new
    · exact owned add old generating
    · rw [List.mem_singleton.mp new] at generating
      cases generating
  | generate =>
    intro add member generating
    obtain ⟨generation, inside, own⟩ := owned add member generating
    exact ⟨generation, List.mem_append_left _ inside, own⟩
  | failed => exact fun add member => owned add (List.mem_of_mem_eraseP member)
  | @listed _ ticket =>
    intro add member generating
    obtain ⟨old, before, sameTicket, _, ⟨own, _⟩ | ⟨_, kept⟩⟩ := mem_advance member
    · exact ⟨_, List.mem_append_right _ List.mem_cons_self, by rw [own]⟩
    · obtain ⟨generation, inside, owner⟩ := owned old before (kept ▸ generating)
      exact ⟨generation, List.mem_append_left _ inside, by rw [owner, sameTicket]⟩
  | @drawn generation ticket url member same =>
    intro add inside generating
    obtain ⟨before, waits, foreign⟩ := mem_drawn_waiting.mp ⟨inside, by rw [generating]; nofun⟩
    obtain ⟨other, listed, owner⟩ := owned add before generating
    refine ⟨other, tickets.generations.mem_eraseP.mpr ⟨listed, fun equal => foreign ?_⟩, owner⟩
    rw [← tickets.generations.eq_of_ticket listed member (equal.trans same.symm), owner]
  | finished => exact fun add member => owned add (List.mem_of_mem_eraseP member)

/-- The flag is only up while some call is in flight. -/
theorem loading_step (justified : page.component.queued.loading = true → Busy page)
    (run : step environment page event = some after) : after.component.queued.loading = true → Busy after := by
  cases step_turn run with
  | dialog _ update =>
    intro loading
    rw [Page.setState_component, Component.setState_queued, update.loading] at loading
    exact justified loading
  | render =>
    intro loading
    rw [Component.render_queued] at loading
    exact justified loading
  | asked => exact fun _ => Or.inl (List.concat_ne_nil _ _)
  | generate => exact fun _ => Or.inr (List.concat_ne_nil _ _)
  | listed => exact fun _ => Or.inr (List.concat_ne_nil _ _)
  | @drawn generation ticket url =>
    intro loading
    rw [Component.setState_queued] at loading
    cases url <;> cases loading
  | _ =>
    intro loading
    rw [Component.setState_queued] at loading
    cases loading

end Step

section Enabled

variable (environment : Environment) {page : Page} {screen : Closure}

theorem drawn_enabled (shown : page.component.screen = some screen) {generation : Generation}
    (member : generation ∈ page.generations) (url : Except JsString JsString) :
    ∃ after, step environment page (.drawn generation.ticket url) = some after := by
  have found : (page.generations.find? fun other => other.ticket = generation.ticket).isSome = true :=
    List.find?_isSome.mpr ⟨generation, member, by simp⟩
  obtain ⟨other, found⟩ := Option.isSome_iff_exists.mp found
  exact ⟨_, by simp only [step, shown, found, Option.map_some]; rfl⟩

theorem findAdd_member {add : Add} (member : add ∈ page.adds) :
    ∃ found, findAdd page add.ticket add.phase = some found :=
  Option.isSome_iff_exists.mp (List.find?_isSome.mpr ⟨add, member, by simp⟩)

theorem counted_enabled (shown : page.component.screen = some screen) {add : Add} (member : add ∈ page.adds)
    (counting : add.phase = .counting) (reply : Reply) (now issued : TimeValue) :
    ∃ after, step environment page (.counted add.ticket reply now issued) = some after := by
  obtain ⟨found, same⟩ := findAdd_member member
  rw [counting] at same
  exact ⟨_, by simp only [step, shown, same, Option.map_some]; rfl⟩

theorem finished_enabled (shown : page.component.screen = some screen) {add : Add} (member : add ∈ page.adds)
    (generated : add.phase = .generated) : ∃ after, step environment page (.finished add.ticket) = some after := by
  obtain ⟨found, same⟩ := findAdd_member member
  rw [generated] at same
  exact ⟨_, by simp only [step, shown, same, Option.map_some]; rfl⟩

/-- A busy page always has a call that can move on. -/
theorem busy_enabled (shown : page.component.screen = some screen) (owned : Owned page) (busy : Busy page) :
    ∃ event after, event.settles = true ∧ step environment page event = some after := by
  by_cases drawing : page.generations = []
  · obtain ⟨add, member⟩ := List.exists_mem_of_ne_nil _ (busy.resolve_right (not_not.mpr drawing))
    cases phase : add.phase with
    | counting =>
      obtain ⟨after, run⟩ := counted_enabled environment shown member phase (.rejected []) sampleTime sampleTime
      exact ⟨_, after, rfl, run⟩
    | generating =>
      obtain ⟨generation, inside, _⟩ := owned add member phase
      rw [drawing] at inside
      cases inside
    | generated =>
      obtain ⟨after, run⟩ := finished_enabled environment shown member phase
      exact ⟨_, after, rfl, run⟩
  · obtain ⟨generation, member⟩ := List.exists_mem_of_ne_nil _ drawing
    obtain ⟨after, run⟩ := drawn_enabled environment shown member (.error [])
    exact ⟨_, after, rfl, run⟩

/-- What moves on behind an `await` waits for a later render. -/
theorem settles_screen {after : Page} {event : Event} (settles : event.settles = true)
    (run : step environment page event = some after) : after.component.screen = page.component.screen := by
  cases step_turn run with
  | dialog dialog =>
    rw [settles_of_dialog dialog] at settles
    cases settles
  | failed => rfl
  | listed => rfl
  | drawn => rfl
  | finished => rfl
  | _ => cases settles

end Enabled

theorem owned_initial : Owned .initial := nofun

/-- What the calls in flight account for. -/
structure Accounted (page : Page) : Prop where
  tickets : TicketsDistinct page
  owned : Owned page
  loading : page.component.queued.loading = true → Busy page

theorem settling (environment : Environment) :
    Settling (step environment) Accounted turnsLeft (fun page => 3 * page.tickets) Event.settles where
  kept accounted run :=
    ⟨accounted.tickets.step run, accounted.owned.step accounted.tickets run, loading_step accounted.loading run⟩
  lowers accounted settles run := by
    obtain ⟨lower, more⟩ := settles_lowers accounted.tickets settles run
    exact ⟨lower, Nat.mul_le_mul_left 3 more⟩
  pays other run := other_pays other run

/-- Every call of the page comes to an end, and the flag with it. Over a whole run there are at most three
turns for each ticket, `loading` is up only while a call is in flight, a busy page can always move on,
and from every state of a mounted page these turns alone lead to one that is idle and not loading. -/
theorem page_settles {environment : Environment} {events : List Event} {page : Page}
    (reach : Reach (step environment) anything .initial events page) :
    events.countP Event.settles + turnsLeft page ≤ 3 * page.tickets ∧
      (page.component.queued.loading = true → Busy page) ∧
      ∀ screen, page.component.screen = some screen →
        (Busy page → ∃ event after, event.settles = true ∧ step environment page event = some after) ∧
        ∃ more later, Reach (step environment) (fun _ event => event.settles = true) page more later ∧
          ¬Busy later ∧ later.component.queued.loading = false ∧ later.component.screen = some screen := by
  obtain ⟨⟨tickets, owned, loading⟩, bounded⟩ := (settling environment).bounded
    ⟨ticketsDistinct_initial, owned_initial, nofun⟩ (Nat.zero_le _) reach
  refine ⟨bounded, loading, fun screen shown => ⟨busy_enabled environment shown owned, ?_⟩⟩
  have drained : ∃ more later, Reach (step environment) (fun _ event => event.settles = true) page more later ∧
      Accounted later ∧ later.component.screen = some screen ∧ ¬Busy later := by
    refine (settling environment).drained ⟨tickets, owned, loading⟩ shown (fun mounted settles run => ?_)
      fun accounted mounted busy => busy_enabled environment mounted accounted.owned busy
    exact (settles_screen environment settles run).trans mounted
  obtain ⟨more, later, further, accounted, mounted, idle⟩ := drained
  exact ⟨more, later, further, idle, by simpa using mt accounted.loading idle, mounted⟩

/-- An add that waits for its count next to the drawing of a row. -/
theorem page_settles_adding :
    ∃ page more later, Reach (step sampleEnvironment) anything .initial
        (fillForm ++ [.clickAdd] ++ [.clickGenerate 0 sampleTime]) page ∧
      Reach (step sampleEnvironment) (fun _ event => event.settles = true) page more later ∧ ¬Busy later := by
  obtain ⟨page, screen, reach, shown⟩ : ∃ page screen, Reach (step sampleEnvironment) anything .initial
      (fillForm ++ [.clickAdd] ++ [.clickGenerate 0 sampleTime]) page ∧ page.component.screen = some screen :=
    ⟨_, _, .next reach_adding trivial rfl, rfl⟩
  obtain ⟨_, more, later, further, idle, _⟩ := (page_settles reach).2.2 screen shown
  exact ⟨page, more, later, reach, further, idle⟩

end TrueMark.Dashboard
