import TrueMark.Dashboard.Progress

namespace TrueMark.Dashboard
open Ecma Aptos Qr React Runs

/-- The node never answers a count, and the clock has left the epoch behind. -/
def Declined (_ : Page) : Event → Prop
  | .counted _ reply _ _ => ∃ message, reply = .rejected message
  | .clickGenerate _ issued => 0 < issued.milliseconds
  | _ => True

/-- Nothing but the initial products is in the table, in the QR dialog or in a code, and every add that was
started still waits for its count or has failed. -/
structure Unregistered (page : Page) : Prop where
  products : page.component.Holds fun cells => cells.products = initialProducts
  selected : page.component.Holds fun cells => ∀ product, cells.selectedProduct = some product →
    product ∈ initialProducts
  generations : ∀ generation ∈ page.generations, generation.product ∈ initialProducts ∧ generation.owner = none
  drawn : ∀ ticket product issued, .drawing ticket product issued ∈ page.trace →
    product ∈ initialProducts ∧ 0 < issued.milliseconds
  unlisted : ∀ ticket product, .appended ticket product ∉ page.trace
  waiting : ∀ add ∈ page.adds, add.phase = .counting
  ended : ∀ ticket payload, .called ticket payload ∈ page.trace → (∃ add ∈ page.adds, add.ticket = ticket) ∨
    ∃ message, .failed ticket (js "Failed to get product count: " ++ message) ∈ page.trace

section Step

variable {environment : Environment} {page after : Page} {event : Event} {component : Component paintable}

theorem holds_products {lane : Lane} {update : Cells → Cells}
    (products : component.Holds fun cells => cells.products = initialProducts)
    (kept : ∀ cells, (update cells).products = cells.products) :
    (component.setState lane update).Holds fun cells => cells.products = initialProducts :=
  products.setState fun cells same => (kept cells).trans same

theorem holds_selected {lane : Lane} {update : Cells → Cells}
    (selected : component.Holds fun cells => ∀ product, cells.selectedProduct = some product →
      product ∈ initialProducts)
    (kept : ∀ cells, (update cells).selectedProduct = cells.selectedProduct) :
    (component.setState lane update).Holds fun cells => ∀ product, cells.selectedProduct = some product →
      product ∈ initialProducts := by
  refine selected.setState fun cells holds product shown => ?_
  rw [kept] at shown
  exact holds product shown

/-- What a trace says about codes, additions and adds stays true if it grows by a harmless observation. -/
theorem Unregistered.observe (unregistered : Unregistered page) {observation : Observation} {adds : List Add}
    (drawn : ∀ ticket product issued, observation = .drawing ticket product issued →
      product ∈ initialProducts ∧ 0 < issued.milliseconds)
    (unlisted : ∀ ticket product, observation ≠ .appended ticket product)
    (kept : ∀ add ∈ page.adds, (∃ other ∈ adds, other.ticket = add.ticket) ∨
      ∃ message, observation = .failed add.ticket (js "Failed to get product count: " ++ message))
    (called : ∀ ticket payload, observation = .called ticket payload → ∃ add ∈ adds, add.ticket = ticket) :
    (∀ ticket product issued, .drawing ticket product issued ∈ page.trace ++ [observation] →
        product ∈ initialProducts ∧ 0 < issued.milliseconds) ∧
      (∀ ticket product, .appended ticket product ∉ page.trace ++ [observation]) ∧
      ∀ ticket payload, .called ticket payload ∈ page.trace ++ [observation] →
        (∃ add ∈ adds, add.ticket = ticket) ∨
          ∃ message, .failed ticket (js "Failed to get product count: " ++ message) ∈ page.trace ++ [observation] := by
  simp only [List.mem_append, List.mem_singleton]
  refine ⟨fun ticket product issued drawing => ?_, fun ticket product listed => ?_, fun ticket payload call => ?_⟩
  · rcases drawing with old | new
    · exact unregistered.drawn ticket product issued old
    · exact drawn ticket product issued new.symm
  · rcases listed with old | new
    · exact unregistered.unlisted ticket product old
    · exact unlisted ticket product new.symm
  · rcases call with old | new
    · rcases unregistered.ended ticket payload old with ⟨add, member, rfl⟩ | ⟨message, failed⟩
      · rcases kept add member with stays | ⟨message, same⟩
        · exact Or.inl stays
        · exact Or.inr ⟨message, Or.inr same.symm⟩
      · exact Or.inr ⟨message, Or.inl failed⟩
    · exact Or.inl (called ticket payload new.symm)

theorem Unregistered.step (unregistered : Unregistered page) (declined : Declined page event)
    (run : step environment page event = some after) : Unregistered after := by
  have stays {add : Add} (member : add ∈ page.adds) : ∃ other ∈ page.adds, other.ticket = add.ticket :=
    ⟨add, member, rfl⟩
  obtain ⟨products, selected, generations, drawn, unlisted, waiting, ended⟩ := unregistered
  have trace := @Unregistered.observe page ⟨products, selected, generations, drawn, unlisted, waiting, ended⟩
  cases step_turn run with
  | dialog _ update =>
    refine ⟨holds_products products update.products, ?_, generations, drawn, unlisted, waiting, ended⟩
    refine selected.setState fun cells holds product shown => ?_
    rcases update.selectedProduct cells with kept | closed
    · rw [kept] at shown
      exact holds product shown
    · rw [closed] at shown
      cases shown
  | render => exact ⟨products.render, selected.render, generations, drawn, unlisted, waiting, ended⟩
  | @refused screen error =>
    obtain ⟨drawn, unlisted, ended⟩ := @trace (.refused page.tickets error) page.adds nofun nofun
      (fun add member => Or.inl (stays member)) nofun
    exact ⟨holds_products products fun _ => rfl, holds_selected selected fun _ => rfl, generations, drawn, unlisted,
      waiting, ended⟩
  | @asked screen =>
    obtain ⟨drawn, unlisted, ended⟩ := @trace (.called page.tickets (countPayload environment))
      (page.adds ++ [⟨page.tickets, screen.state.newProduct, .counting⟩]) nofun nofun
      (fun add member => Or.inl ⟨add, List.mem_append_left _ member, rfl⟩)
      (fun ticket payload same => ⟨_, List.mem_append_right _ List.mem_cons_self, by cases same; rfl⟩)
    refine ⟨holds_products products fun _ => rfl, holds_selected selected fun _ => rfl, generations, drawn, unlisted,
      fun add member => ?_, ended⟩
    rcases List.mem_append.mp member with old | new
    · exact waiting add old
    · rw [List.mem_singleton.mp new]
  | @generate screen row product issued shown listed =>
    have initial : product ∈ initialProducts := by
      rw [← products.2 screen shown]
      exact List.mem_of_getElem? listed
    obtain ⟨drawn, unlisted, ended⟩ := @trace (.drawing page.tickets product issued) page.adds
      (fun ticket other time same => by cases same; exact ⟨initial, declined⟩) nofun
      (fun add member => Or.inl (stays member)) nofun
    refine ⟨holds_products products fun _ => rfl, holds_selected selected fun _ => rfl, fun generation member => ?_,
      drawn, unlisted, waiting, ended⟩
    rcases List.mem_append.mp member with old | new
    · exact generations generation old
    · rw [List.mem_singleton.mp new]
      exact ⟨initial, rfl⟩
  | @failed add ticket message now issued member same =>
    obtain ⟨drawn, unlisted, ended⟩ := @trace (.failed ticket (js "Failed to get product count: " ++ message))
      (page.adds.eraseP fun other => other.ticket = ticket) nofun nofun
      (fun other inside => by
        by_cases own : other.ticket = ticket
        · exact Or.inr ⟨message, by rw [own]⟩
        · exact Or.inl ⟨other, (List.mem_eraseP_of_neg (by simpa using own)).mpr inside, rfl⟩) nofun
    exact ⟨holds_products products fun _ => rfl, holds_selected selected fun _ => rfl, generations, drawn, unlisted,
      fun other inside => waiting other (List.mem_of_mem_eraseP inside), ended⟩
  | listed =>
    obtain ⟨message, rejected⟩ := declined
    cases rejected
  | @drawn generation ticket url member =>
    obtain ⟨initial, unowned⟩ := generations generation member
    simp only [unowned, Option.elim_none]
    refine ⟨holds_products products fun cells => by cases url <;> rfl, ?_,
      fun other inside => generations other (List.mem_of_mem_eraseP inside), drawn, unlisted, waiting, ended⟩
    refine selected.setState fun cells holds product shown => ?_
    cases url with
    | ok url =>
      cases shown
      exact initial
    | error message => exact holds product shown
  | finished member _ generated =>
    rw [waiting _ member] at generated
    cases generated

end Step

theorem unregistered_initial : Unregistered .initial :=
  ⟨Component.holds_mount (P := fun cells : Cells => cells.products = initialProducts) rfl rfl,
    Component.holds_mount nofun rfl, nofun, nofun, nofun, nofun, nofun⟩

end TrueMark.Dashboard
