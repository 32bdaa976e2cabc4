import TrueMark.Dashboard.Progress
import TrueMark.Runs.Tickets

namespace TrueMark.Dashboard
open Ecma Aptos Qr React Runs

/-- Some call has not come back from its `await` yet. An add whose QR code is
drawn has nothing left to wait for, and ends in the same turn. -/
def Waiting (page : Page) : Prop := page.generations ≠ [] ∨ ∃ add ∈ page.adds, add.phase ≠ .generated

/-- The flag is up as long as a call waits, and only one of them is an add. -/
structure LoadingGuards (page : Page) : Prop where
  loading : Waiting page → page.component.Holds fun cells => cells.loading = true
  single : ∀ first ∈ page.adds, ∀ second ∈ page.adds, first.phase ≠ .generated → second.phase ≠ .generated →
    first.ticket = second.ticket

/-- The event ends a call, or the part of an add before its QR code fails, while another call still waits. -/
def EndsEarly (page : Page) : Event → Prop
  | .counted ticket (.rejected _) _ _ =>
    page.generations ≠ [] ∨ ∃ add ∈ page.adds, add.phase ≠ .generated ∧ add.ticket ≠ ticket
  | .drawn ticket _ =>
    (∃ generation ∈ page.generations, generation.ticket ≠ ticket) ∨
      ∃ generation ∈ page.generations, generation.ticket = ticket ∧
        ∃ add ∈ page.adds, add.phase ≠ .generated ∧ generation.owner ≠ some add.ticket
  | .finished _ => Waiting page
  | _ => False

/-- Tickets tell the calls apart. -/
structure TicketsDistinct (page : Page) : Prop where
  adds : Numbered Add.ticket page.adds page.tickets
  generations : Numbered Generation.ticket page.generations page.tickets

section Step

variable {environment : Environment} {page after : Page} {event : Event}

theorem TicketsDistinct.step (tickets : TicketsDistinct page) (run : step environment page event = some after) :
    TicketsDistinct after := by
  have advanced (ticket : Nat) (phase : AddPhase) :
      Numbered Add.ticket (page.advance ticket phase).adds page.tickets :=
    tickets.adds.change fun _ _ => rfl
  cases step_turn run with
  | dialog => exact ⟨tickets.adds, tickets.generations⟩
  | render => exact ⟨tickets.adds, tickets.generations⟩
  | refused => exact ⟨tickets.adds.later (Nat.le_succ _), tickets.generations.later (Nat.le_succ _)⟩
  | asked => exact ⟨tickets.adds.append rfl, tickets.generations.later (Nat.le_succ _)⟩
  | generate => exact ⟨tickets.adds.later (Nat.le_succ _), tickets.generations.append rfl⟩
  | failed => exact ⟨tickets.adds.sublist List.eraseP_sublist, tickets.generations⟩
  | @listed _ ticket =>
    exact ⟨(advanced ticket .generating).later (Nat.le_succ _), tickets.generations.append rfl⟩
  | @drawn generation =>
    refine ⟨?_, tickets.generations.sublist List.eraseP_sublist⟩
    cases generation.owner with
    | none => exact tickets.adds
    | some owner => exact advanced owner .generated
  | finished => exact ⟨tickets.adds.sublist List.eraseP_sublist, tickets.generations⟩

/-- The button is enabled only while nothing waits. -/
theorem LoadingGuards.idle (guards : LoadingGuards page) {screen : Closure}
    (shown : page.component.screen = some screen) (enabled : addEnabled screen.state = true) : ¬Waiting page := by
  intro waiting
  have loading := (guards.loading waiting).2 screen shown
  simp [addEnabled, loading] at enabled

/-- Whatever takes the flag down is in order exactly if nothing waits behind it. -/
theorem loadingGuards_cleared (cleared : after.component.queued.loading = false)
    (waits : Waiting after ↔ EndsEarly page event)
    (single : ∀ first ∈ after.adds, ∀ second ∈ after.adds, first.phase ≠ .generated → second.phase ≠ .generated →
      first.ticket = second.ticket) : LoadingGuards after ↔ ¬EndsEarly page event := by
  rw [← waits]
  constructor
  · intro guards waiting
    have loading : after.component.queued.loading = true := (guards.loading waiting).1
    rw [cleared] at loading
    cases loading
  · intro idle
    exact ⟨fun waiting => absurd waiting idle, single⟩

theorem started_loading (component : Component paintable) :
    (component.setState .discrete fun cells => (cells.setLoading true).setError none).Holds
      fun cells => cells.loading = true := by
  refine Component.holds_discrete fun cells => ?_
  rfl

/-- A drawing releases the add that owns it, and no other. -/
theorem mem_drawn_waiting {owner : Option Nat} {add : Add} :
    (add ∈ owner.elim page.adds fun owner => (page.advance owner .generated).adds) ∧ add.phase ≠ .generated ↔
      add ∈ page.adds ∧ add.phase ≠ .generated ∧ owner ≠ some add.ticket := by
  cases owner with
  | none => simp
  | some owner =>
    constructor
    · rintro ⟨member, waits⟩
      obtain ⟨old, before, rfl⟩ := List.mem_map.mp member
      split at waits
      · exact absurd rfl waits
      · rename_i different
        rw [if_neg different]
        exact ⟨before, waits, fun same => different (Option.some.inj same).symm⟩
    · rintro ⟨member, waits, different⟩
      refine ⟨List.mem_map.mpr ⟨add, member, if_neg fun same => different ?_⟩, waits⟩
      rw [same]

theorem loadingGuards_step (tickets : TicketsDistinct page) (guards : LoadingGuards page)
    (run : step environment page event = some after) : LoadingGuards after ↔ ¬EndsEarly page event := by
  cases step_turn run with
  | dialog dialog update =>
    have silent : ¬EndsEarly page event :=
      Event.dialog_cases (P := fun event => ¬EndsEarly page event) dialog id id (fun _ _ => id) id fun _ => id
    refine iff_of_true ⟨fun waiting => ?_, guards.single⟩ silent
    refine (guards.loading waiting).setState fun cells loading => ?_
    rw [update.loading]
    exact loading
  | render => exact iff_of_true ⟨fun waiting => (guards.loading waiting).render, guards.single⟩ id
  | refused shown enabled =>
    have idle := guards.idle shown enabled
    exact iff_of_true ⟨fun waiting => absurd waiting idle, guards.single⟩ id
  | @asked screen shown enabled =>
    have idle := guards.idle shown enabled
    refine iff_of_true ⟨fun _ => started_loading _, ?_⟩ id
    have new {add : Add} (member : add ∈ page.adds ++ [⟨page.tickets, screen.state.newProduct, .counting⟩])
        (waits : add.phase ≠ .generated) : add.ticket = page.tickets := by
      rcases List.mem_append.mp member with old | new
      · exact absurd (Or.inr ⟨add, old, waits⟩) idle
      · rw [List.mem_singleton.mp new]
    intro first firstMember second secondMember firstWaits secondWaits
    rw [new firstMember firstWaits, new secondMember secondWaits]
  | generate => exact iff_of_true ⟨fun _ => started_loading _, guards.single⟩ id
  | failed =>
    refine loadingGuards_cleared (by rw [Component.setState_queued]; rfl) ?_ ?_
    · refine or_congr Iff.rfl (exists_congr fun add => ?_)
      rw [tickets.adds.mem_eraseP, and_assoc, and_comm (a := add.ticket ≠ _)]
    · intro first firstMember second secondMember
      exact guards.single first (List.mem_of_mem_eraseP firstMember) second (List.mem_of_mem_eraseP secondMember)
  | @listed add ticket answer now issued product member same counting =>
    have waiting : Waiting page := Or.inr ⟨add, member, by rw [counting]; nofun⟩
    have before {other : Add} (inside : other ∈ (page.advance ticket .generating).adds)
        (waits : other.phase ≠ .generated) : ∃ old ∈ page.adds, old.ticket = other.ticket ∧ old.phase ≠ .generated := by
      obtain ⟨old, before, sameTicket, _, ⟨own, _⟩ | ⟨_, kept⟩⟩ := mem_advance inside
      · exact ⟨add, member, same.trans own.symm, by rw [counting]; nofun⟩
      · exact ⟨old, before, sameTicket.symm, kept ▸ waits⟩
    refine iff_of_true ⟨fun _ => ?_, ?_⟩ id
    · rw [Component.holds_setState_deferred]
      exact ⟨rfl, (guards.loading waiting).2⟩
    · intro first firstMember second secondMember firstWaits secondWaits
      obtain ⟨firstOld, firstBefore, firstSame, firstWaited⟩ := before firstMember firstWaits
      obtain ⟨secondOld, secondBefore, secondSame, secondWaited⟩ := before secondMember secondWaits
      rw [← firstSame, ← secondSame]
      exact guards.single firstOld firstBefore secondOld secondBefore firstWaited secondWaited
  | @drawn generation ticket url member same =>
    have only {other : Generation} (inside : other ∈ page.generations) (equal : other.ticket = ticket) :
        other = generation := tickets.generations.eq_of_ticket inside member (equal.trans same.symm)
    refine loadingGuards_cleared (by rw [Component.setState_queued]; cases url <;> rfl) (or_congr ?_ ?_) ?_
    · constructor
      · intro more
        obtain ⟨other, inside⟩ := List.exists_mem_of_ne_nil _ more
        obtain ⟨stays, different⟩ := tickets.generations.mem_eraseP.mp inside
        exact ⟨other, stays, different⟩
      · rintro ⟨other, inside, different⟩
        exact List.ne_nil_of_mem (tickets.generations.mem_eraseP.mpr ⟨inside, different⟩)
    · constructor
      · rintro ⟨add, inside, waits⟩
        obtain ⟨before, waited, different⟩ := mem_drawn_waiting.mp ⟨inside, waits⟩
        exact ⟨generation, member, same, add, before, waited, different⟩
      · rintro ⟨other, inside, equal, add, before, waited, different⟩
        rw [only inside equal] at different
        exact ⟨add, mem_drawn_waiting.mpr ⟨before, waited, different⟩⟩
    · intro first firstMember second secondMember firstWaits secondWaits
      obtain ⟨firstBefore, firstWaited, _⟩ := mem_drawn_waiting.mp ⟨firstMember, firstWaits⟩
      obtain ⟨secondBefore, secondWaited, _⟩ := mem_drawn_waiting.mp ⟨secondMember, secondWaits⟩
      exact guards.single first firstBefore second secondBefore firstWaited secondWaited
  | @finished add ticket member same generated =>
    refine loadingGuards_cleared (by rw [Component.setState_queued]; rfl) ?_ ?_
    · refine or_congr Iff.rfl (exists_congr fun other => ?_)
      rw [tickets.adds.mem_eraseP]
      refine ⟨fun ⟨⟨inside, _⟩, waits⟩ => ⟨inside, waits⟩, fun ⟨inside, waits⟩ => ⟨⟨inside, fun equal => ?_⟩, waits⟩⟩
      rw [tickets.adds.eq_of_ticket inside member (equal.trans same.symm)] at waits
      exact waits generated
    · intro first firstMember second secondMember
      exact guards.single first (List.mem_of_mem_eraseP firstMember) second (List.mem_of_mem_eraseP secondMember)

end Step

theorem ticketsDistinct_initial : TicketsDistinct .initial := ⟨.nil, .nil⟩

theorem loadingGuards_initial : LoadingGuards .initial := by
  refine ⟨fun waiting => ?_, nofun⟩
  rcases waiting with more | ⟨add, member, _⟩
  · exact absurd rfl more
  · cases member

/-- The flag guards the page exactly along the runs in which no call ends while another one waits. -/
theorem loading_guards_iff {environment : Environment} {events : List Event} {page : Page}
    (reach : Reach (step environment) anything .initial events page) :
    Throughout (step environment) .initial events LoadingGuards ↔
      Reach (step environment) (fun page event => ¬EndsEarly page event) .initial events page :=
  throughout_iff_of_invariant ticketsDistinct_initial (fun tickets run => tickets.step run) loadingGuards_initial
    (fun tickets guards run => loadingGuards_step tickets guards run) reach

theorem loading_guards_generateQr :
    Throughout (step sampleEnvironment) .initial [.clickGenerate 0 sampleTime, .drawn 0 (.ok sampleUrl)]
      LoadingGuards := by
  have reach : ∃ page, Reach (step sampleEnvironment) (fun page event => ¬EndsEarly page event) .initial
      [.clickGenerate 0 sampleTime, .drawn 0 (.ok sampleUrl)] page := by
    refine ⟨_, .prepend id rfl (.prepend ?_ rfl .start)⟩
    rintro (⟨generation, member, different⟩ | ⟨_, _, _, add, member, _⟩)
    · rw [List.mem_singleton.mp member] at different
      exact different rfl
    · cases member
  obtain ⟨page, guarded⟩ := reach
  exact (loading_guards_iff guarded.unguarded).mpr guarded

/-- While an add waits for its count, the dialog is closed and the QR code of a row is drawn. -/
def rowDrawn : List Event :=
  [.clickClose, .clickGenerate 0 sampleTime, .drawn 1 (.ok sampleUrl), .render]

/-- The drawing of a row takes the flag down although the add still waits, and a second add is started next to it. -/
theorem loading_taken_down :
    ∃ page screen after, Reach (step sampleEnvironment) anything .initial (fillForm ++ [.clickAdd] ++ rowDrawn) page ∧
      page.component.screen = some screen ∧ screen.state.loading = false ∧
      page.adds = [⟨0, sampleForm, .counting⟩] ∧ ¬LoadingGuards page ∧
      Reach (step sampleEnvironment) anything page ([.closeQr] ++ fillForm ++ [.clickAdd]) after ∧
      after.adds = [⟨0, sampleForm, .counting⟩, ⟨2, sampleForm, .counting⟩] := by
  have drawn : ∃ page screen, Reach (step sampleEnvironment) anything adding rowDrawn page ∧
      page.component.screen = some screen ∧ screen.state.loading = false ∧ page.component.queued.loading = false ∧
      page.adds = [⟨0, sampleForm, .counting⟩] ∧
      ∃ filled filledScreen, Reach (step sampleEnvironment) anything page ([.closeQr] ++ fillForm) filled ∧
        filled.component.screen = some filledScreen ∧ addEnabled filledScreen.state = true ∧
        filledScreen.state.newProduct = sampleForm ∧ filled.adds = [⟨0, sampleForm, .counting⟩] ∧ filled.tickets = 2 :=
    ⟨_, _, reach_iff_follow.mpr rfl, rfl, rfl, rfl, rfl, _, _, reach_iff_follow.mpr rfl, rfl, rfl, rfl, rfl, rfl⟩
  obtain ⟨page, screen, reach, shown, down, cleared, adds, filled, filledScreen, again, filledShown, enabled, form,
    filledAdds, tickets⟩ := drawn
  have clicked := @clickAdd_valid sampleEnvironment filled filledScreen filledShown enabled
    (by rw [form]; exact validateProduct_sampleForm)
  refine ⟨page, screen, _, reach_adding.append reach, shown, down, adds, fun guards => ?_,
    .next again trivial clicked, ?_⟩
  · have waiting : Waiting page := Or.inr ⟨⟨0, sampleForm, .counting⟩, by rw [adds]; exact List.mem_cons_self, nofun⟩
    have loading : page.component.queued.loading = true := (guards.loading waiting).1
    rw [cleared] at loading
    cases loading
  · rw [filledAdds, tickets, form]
    rfl

end TrueMark.Dashboard
