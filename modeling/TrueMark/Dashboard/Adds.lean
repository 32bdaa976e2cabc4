import TrueMark.Dashboard.Progress

namespace TrueMark.Dashboard
open Ecma Aptos Qr React Runs

/-- A successful view call of an add, and when its answer was read. -/
structure Success where
  ticket : Nat
  answer : JsValue
  now : TimeValue

def Event.success : Event → Option Success
  | .counted ticket (.resolved answer) now _ => some ⟨ticket, answer, now⟩
  | _ => none

/-- The view calls of adds that have succeeded, in the order of their completion. -/
def successes (events : List Event) : List Success := events.filterMap Event.success

theorem successes_append (events more : List Event) : successes (events ++ more) = successes events ++ successes more :=
  List.filterMap_append

/-- The add with this ticket was clicked while the form looked like this. -/
def ClickedOn (environment : Environment) (events : List Event) (ticket : Nat) (form : NewProduct) : Prop :=
  ∃ earlier later before screen, events = earlier ++ .clickAdd :: later ∧
    Reach (step environment) anything .initial earlier before ∧ before.tickets = ticket ∧
    before.component.screen = some screen ∧ screen.state.newProduct = form

/-- The entry that a successful add makes: its own answer with the form of its own click. -/
def EntryOf (environment : Environment) (events : List Event) (success : Success) (product : Product) : Prop :=
  ∃ form, ClickedOn environment events success.ticket form ∧
    product = addedProduct form success.answer success.now

/-- All cells but `error` and `loading`. -/
def Cells.rest (cells : Cells) : List Product × Bool × NewProduct × Option Product × JsString :=
  (cells.products, cells.isOpen, cells.newProduct, cells.selectedProduct, cells.qrCodeUrl)

/-- What is on the screen is a state of the list, maybe an earlier one. -/
def ShowsEarlier (component : Component paintable) : Prop :=
  ∀ screen, component.screen = some screen → screen.state.products <+: component.queued.products

/-- Every add in flight still has the form of its click, and waits for its
count as long as that has not succeeded. -/
structure AddsTracked (environment : Environment) (events : List Event) (page : Page) : Prop where
  clicked : ∀ add ∈ page.adds, ClickedOn environment events add.ticket add.form
  issued : ∀ add ∈ page.adds, add.ticket < page.tickets
  waiting : ∀ add ∈ page.adds, add.phase = .counting → add.ticket ∉ (successes events).map Success.ticket
  below : ∀ success ∈ successes events, success.ticket < page.tickets
  once : ((successes events).map Success.ticket).Nodup
  listed : ∃ entries, page.component.queued.products = initialProducts ++ entries ∧
    List.Forall₂ (EntryOf environment events) (successes events) entries

section Tracked

variable {environment : Environment} {events : List Event} {page after : Page} {event : Event}

theorem ClickedOn.extend {ticket : Nat} {form : NewProduct} (clicked : ClickedOn environment events ticket form)
    (more : List Event) : ClickedOn environment (events ++ more) ticket form := by
  obtain ⟨earlier, later, before, screen, rfl, rest⟩ := clicked
  exact ⟨earlier, later ++ more, before, screen, by rw [List.append_assoc, List.cons_append], rest⟩

theorem entries_extend {entries : List Product} {list : List Success}
    (entriesOf : List.Forall₂ (EntryOf environment events) list entries) (more : List Event) :
    List.Forall₂ (EntryOf environment (events ++ more)) list entries :=
  entriesOf.imp fun _ _ ⟨form, clicked, same⟩ => ⟨form, clicked.extend more, same⟩

/-- Steps without a success only have to account for their adds. -/
theorem AddsTracked.unlisted (tracked : AddsTracked environment events page) (other : event.success = none)
    (products : after.component.queued.products = page.component.queued.products) (more : page.tickets ≤ after.tickets)
    (adds : ∀ add ∈ after.adds, (∃ old ∈ page.adds, add.ticket = old.ticket ∧ add.form = old.form ∧
        (add.phase = .counting → old.phase = .counting)) ∨
      add.ticket = page.tickets ∧ page.tickets < after.tickets ∧
        ClickedOn environment (events ++ [event]) add.ticket add.form) :
    AddsTracked environment (events ++ [event]) after := by
  have same : successes (events ++ [event]) = successes events := by
    rw [successes_append, successes, successes, List.filterMap_cons_none other, List.filterMap_nil, List.append_nil]
  refine ⟨fun add member => ?_, fun add member => ?_, fun add member counting => ?_, fun success member => ?_, ?_, ?_⟩
  · rcases adds add member with ⟨old, inside, sameTicket, sameForm, _⟩ | ⟨_, _, clicked⟩
    · rw [sameTicket, sameForm]
      exact (tracked.clicked old inside).extend _
    · exact clicked
  · rcases adds add member with ⟨old, inside, sameTicket, _⟩ | ⟨next, below, _⟩
    · have issued := tracked.issued old inside
      omega
    · omega
  · rw [same]
    rcases adds add member with ⟨old, inside, sameTicket, _, stays⟩ | ⟨next, _, _⟩
    · rw [sameTicket]
      exact tracked.waiting old inside (stays counting)
    · intro succeeded
      obtain ⟨success, earlier, sameTicket⟩ := List.mem_map.mp succeeded
      have below := tracked.below success earlier
      omega
  · rw [same] at member
    have below := tracked.below success member
    omega
  · rw [same]
    exact tracked.once
  · rw [same, products]
    obtain ⟨entries, list, entriesOf⟩ := tracked.listed
    exact ⟨entries, list, entries_extend entriesOf _⟩

/-- A success makes the entry of its own add. -/
theorem AddsTracked.list (tracked : AddsTracked environment events page) {add : Add} {answer : JsValue}
    {now issued : TimeValue} (member : add ∈ page.adds) (counting : add.phase = .counting)
    (products : after.component.queued.products =
      page.component.queued.products ++ [addedProduct add.form answer now])
    (adds : after.adds = (page.advance add.ticket .generating).adds) (next : after.tickets = page.tickets + 1) :
    AddsTracked environment (events ++ [.counted add.ticket (.resolved answer) now issued]) after := by
  have grown : successes (events ++ [.counted add.ticket (.resolved answer) now issued]) =
      successes events ++ [⟨add.ticket, answer, now⟩] := successes_append _ _
  have issuedAdd := tracked.issued add member
  have moved {other : Add} (inside : other ∈ after.adds) : ∃ old ∈ page.adds, other.ticket = old.ticket ∧
      other.form = old.form ∧ (other.phase = .counting → old.phase = .counting ∧ other.ticket ≠ add.ticket) := by
    rw [adds] at inside
    obtain ⟨old, before, sameTicket, sameForm, ⟨_, moved⟩ | ⟨different, kept⟩⟩ := mem_advance inside
    · refine ⟨old, before, sameTicket, sameForm, fun waits => ?_⟩
      rw [moved] at waits
      cases waits
    · exact ⟨old, before, sameTicket, sameForm, fun waits => ⟨kept ▸ waits, different⟩⟩
  refine ⟨fun other inside => ?_, fun other inside => ?_, fun other inside waits => ?_, fun success done => ?_, ?_, ?_⟩
  · obtain ⟨old, before, sameTicket, sameForm, _⟩ := moved inside
    rw [sameTicket, sameForm]
    exact (tracked.clicked old before).extend _
  · obtain ⟨old, before, sameTicket, _⟩ := moved inside
    have below := tracked.issued old before
    omega
  · obtain ⟨old, before, sameTicket, _, stays⟩ := moved inside
    obtain ⟨stillWaits, different⟩ := stays waits
    rw [grown, List.map_append, List.mem_append, not_or]
    refine ⟨?_, by simpa using different⟩
    rw [sameTicket]
    exact tracked.waiting old before stillWaits
  · rw [grown] at done
    rcases List.mem_append.mp done with old | new
    · have below := tracked.below success old
      omega
    · rw [List.mem_singleton.mp new]
      exact Nat.lt_of_lt_of_le issuedAdd (by omega)
  · rw [grown, List.map_append, List.nodup_append]
    refine ⟨tracked.once, List.nodup_singleton _, fun earlier inside last new same => ?_⟩
    obtain rfl : last = add.ticket := by simpa using new
    rw [same] at inside
    exact tracked.waiting add member counting inside
  · obtain ⟨entries, list, entriesOf⟩ := tracked.listed
    refine ⟨entries ++ [addedProduct add.form answer now], by rw [products, list, List.append_assoc], ?_⟩
    rw [grown]
    exact List.rel_append (entries_extend entriesOf _)
      (.cons ⟨add.form, (tracked.clicked add member).extend _, rfl⟩ .nil)

theorem setState_products {component : Component paintable} {lane : Lane} {update : Cells → Cells}
    (kept : ∀ cells, (update cells).products = cells.products) :
    (component.setState lane update).queued.products = component.queued.products := by
  rw [Component.setState_queued, kept]

theorem AddsTracked.step (tracked : AddsTracked environment events page)
    (reach : Reach (step environment) anything .initial events page) (run : step environment page event = some after) :
    AddsTracked environment (events ++ [event]) after := by
  have stay {add : Add} (member : add ∈ page.adds) : ∃ old ∈ page.adds, add.ticket = old.ticket ∧
      add.form = old.form ∧ (add.phase = .counting → old.phase = .counting) := ⟨add, member, rfl, rfl, id⟩
  cases step_turn run with
  | dialog dialog update =>
    have unanswered : event.success = none :=
      Event.dialog_cases (P := fun event => event.success = none) dialog rfl rfl (fun _ _ => rfl) rfl fun _ => rfl
    exact tracked.unlisted unanswered (setState_products update.products) le_rfl fun add member => Or.inl (stay member)
  | render =>
    refine tracked.unlisted rfl ?_ le_rfl fun add member => Or.inl (stay member)
    rw [Component.render_queued]
  | refused =>
    exact tracked.unlisted rfl (setState_products fun _ => rfl) (Nat.le_succ _) fun add member => Or.inl (stay member)
  | @asked screen shown =>
    refine tracked.unlisted rfl (setState_products fun _ => rfl) (Nat.le_succ _) fun add member => ?_
    rcases List.mem_append.mp member with old | new
    · exact Or.inl (stay old)
    · rw [List.mem_singleton.mp new]
      exact Or.inr ⟨rfl, Nat.lt_succ_self _, events, [], page, screen, rfl, reach, rfl, shown, rfl⟩
  | generate =>
    exact tracked.unlisted rfl (setState_products fun _ => rfl) (Nat.le_succ _) fun add member => Or.inl (stay member)
  | failed =>
    exact tracked.unlisted rfl (setState_products fun _ => rfl) le_rfl
      fun add member => Or.inl (stay (List.mem_of_mem_eraseP member))
  | listed member sameTicket counting sameProduct =>
    subst sameTicket sameProduct
    refine tracked.list member counting ?_ rfl rfl
    rw [Component.setState_queued]
    rfl
  | @drawn generation ticket url =>
    refine tracked.unlisted rfl (setState_products fun cells => by cases url <;> rfl) le_rfl fun add member => ?_
    obtain ⟨old, before, sameTicket, sameForm, generated | kept⟩ := mem_drawn member
    · refine Or.inl ⟨old, before, sameTicket, sameForm, fun waits => ?_⟩
      rw [generated] at waits
      cases waits
    · exact Or.inl ⟨old, before, sameTicket, sameForm, fun waits => kept ▸ waits⟩
  | finished =>
    exact tracked.unlisted rfl (setState_products fun _ => rfl) le_rfl
      fun add member => Or.inl (stay (List.mem_of_mem_eraseP member))

theorem reach_tracked (reach : Reach (Dashboard.step environment) anything .initial events page) :
    AddsTracked environment events page := by
  induction reach with
  | start => exact ⟨nofun, nofun, nofun, nofun, List.nodup_nil, [], rfl, .nil⟩
  | next previous _ run ih => exact ih.step previous run

end Tracked

section Shown

variable {environment : Environment} {page after : Page} {event : Event} {component : Component paintable}

theorem ShowsEarlier.setState {lane : Lane} {update : Cells → Cells} (earlier : ShowsEarlier component)
    (kept : ∀ cells, (update cells).products = cells.products) : ShowsEarlier (component.setState lane update) := by
  intro screen shown
  rw [setState_products kept]
  obtain ⟨before, present, ⟨_, rfl⟩ | ⟨_, same⟩⟩ := Component.setState_screen shown
  · exact earlier _ present
  · rw [same, kept]
    exact earlier before present

end Shown

end TrueMark.Dashboard
