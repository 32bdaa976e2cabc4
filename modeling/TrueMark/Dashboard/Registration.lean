import TrueMark.Dashboard.Progress

namespace TrueMark.Dashboard
open Ecma Aptos Qr React Runs

def Observation.listing : Observation → Option (Nat × Product)
  | .appended ticket product => some (ticket, product)
  | _ => none

/-- The products that joined the list, each with the add that appended it. -/
def listed (trace : List Observation) : List (Nat × Product) := trace.filterMap Observation.listing

theorem listed_append (trace more : List Observation) : listed (trace ++ more) = listed trace ++ listed more :=
  List.filterMap_append

/-- The view call of an add succeeds. -/
def Event.lists : Event → Bool
  | .counted _ (.resolved _) _ _ => true
  | _ => false

/-- Every product behind the initial ones was appended by an add of its own,
and that add submitted a registration with the product's name and
manufacturer. An add that ended in an error submitted nothing. -/
structure Backed (page : Page) : Prop where
  registered : ∃ adds : List (Nat × Product),
    page.component.queued.products = initialProducts ++ adds.map Prod.snd ∧ (adds.map Prod.fst).Nodup ∧
      ∀ ticket product, (ticket, product) ∈ adds → .appended ticket product ∈ page.trace ∧
        ∃ payload, .submitted ticket payload ∈ page.trace ∧
          payload.arguments = [.string product.name, .string product.manufacturer]
  failed : ∀ ticket error payload, .refused ticket error ∈ page.trace ∨ .failed ticket error ∈ page.trace →
    .submitted ticket payload ∉ page.trace

/-- What a step adds to the list and to the trace. -/
structure Listing (page after : Page) (event : Event) (observations : List Observation) : Prop where
  trace : after.trace = page.trace ++ observations
  products : after.component.queued.products = page.component.queued.products ++ (listed observations).map Prod.snd
  lists : listed observations = [] ↔ event.lists = false
  unsubmitted : ∀ ticket payload, .submitted ticket payload ∉ observations

section Step

variable {environment : Environment} {page after : Page} {event : Event}

theorem step_listing (run : step environment page event = some after) :
    ∃ observations, Listing page after event observations := by
  cases step_turn run with
  | dialog dialog update =>
    have silent : event.lists = false :=
      Event.dialog_cases (P := fun event => event.lists = false) dialog rfl rfl (fun _ _ => rfl) rfl fun _ => rfl
    refine ⟨[], by simp, ?_, iff_of_true rfl silent, by simp⟩
    simp [update.products, listed]
  | render => exact ⟨[], by simp, by simp [listed], iff_of_true rfl rfl, by simp⟩
  | refused => exact ⟨_, rfl, by simp [listed, Observation.listing], iff_of_true rfl rfl, by simp⟩
  | asked => exact ⟨_, rfl, by simp [listed, Observation.listing], iff_of_true rfl rfl, by simp⟩
  | generate => exact ⟨_, rfl, by simp [listed, Observation.listing], iff_of_true rfl rfl, by simp⟩
  | failed => exact ⟨_, rfl, by simp [listed, Observation.listing], iff_of_true rfl rfl, by simp⟩
  | listed => exact ⟨_, rfl, by simp [listed, Observation.listing, handleClose], iff_of_false nofun nofun, by simp⟩
  | @drawn generation ticket url =>
    refine ⟨[], by simp, ?_, iff_of_true rfl rfl, by simp⟩
    cases url <;> simp [drawnUpdate, listed]
  | finished => exact ⟨[], by simp, by simp [listed], iff_of_true rfl rfl, by simp⟩

end Step

/-- Over a whole run, the list grows by the products that joined it, and nothing is ever submitted. -/
theorem reach_listing {environment : Environment} {events : List Event} {page : Page}
    (reach : Reach (step environment) anything .initial events page) :
    page.component.queued.products = initialProducts ++ (listed page.trace).map Prod.snd ∧
      (listed page.trace = [] ↔ ∀ event ∈ events, event.lists = false) ∧
      ∀ ticket payload, .submitted ticket payload ∉ page.trace := by
  induction reach with
  | start => exact ⟨rfl, iff_of_true rfl nofun, nofun⟩
  | next _ _ run ih =>
    obtain ⟨products, lists, unsubmitted⟩ := ih
    obtain ⟨observations, listing⟩ := step_listing run
    refine ⟨?_, ?_, fun ticket payload submitted => ?_⟩
    · rw [listing.products, products, listing.trace, listed_append, List.map_append, List.append_assoc]
    · rw [listing.trace, listed_append, List.append_eq_nil_iff, List.forall_mem_append, List.forall_mem_singleton]
      exact and_congr lists listing.lists
    · rw [listing.trace] at submitted
      rcases List.mem_append.mp submitted with old | new
      · exact unsubmitted ticket payload old
      · exact listing.unsubmitted ticket payload new

/-- Without submissions only the initial list is backed. -/
theorem Backed.products_initial {page : Page} (backed : Backed page)
    (unsubmitted : ∀ ticket payload, .submitted ticket payload ∉ page.trace) :
    page.component.queued.products = initialProducts := by
  obtain ⟨adds, same, _, registered⟩ := backed.registered
  cases adds with
  | nil => exact same.trans (List.append_nil _)
  | cons first rest =>
    obtain ⟨_, payload, submitted, _⟩ := registered first.1 first.2 List.mem_cons_self
    exact absurd submitted (unsubmitted first.1 payload)

/-- The list is backed by the chain exactly as long as no add succeeds. -/
theorem backed_iff {environment : Environment} {events : List Event} {page : Page}
    (reach : Reach (step environment) anything .initial events page) :
    Backed page ↔ ∀ event ∈ events, event.lists = false := by
  obtain ⟨products, lists, unsubmitted⟩ := reach_listing reach
  rw [← lists]
  constructor
  · intro backed
    have same := backed.products_initial unsubmitted
    rw [products, List.append_right_eq_self] at same
    exact List.map_eq_nil_iff.mp same
  · intro empty
    refine ⟨⟨[], ?_, List.nodup_nil, nofun⟩, fun ticket error payload _ => unsubmitted ticket payload⟩
    rw [products, empty]

/-- The node does not answer the count, and nothing joins the list. -/
theorem backed_countFailed :
    ∃ page, Reach (step sampleEnvironment) anything .initial
        (fillForm ++ [.clickAdd] ++ [.counted 0 (.rejected (js "Function not found")) sampleTime sampleTime]) page ∧
      Backed page := by
  obtain ⟨page, reach⟩ : ∃ page, Reach (step sampleEnvironment) anything .initial
      (fillForm ++ [.clickAdd] ++ [.counted 0 (.rejected (js "Function not found")) sampleTime sampleTime]) page :=
    ⟨_, .next reach_adding trivial rfl⟩
  exact ⟨page, reach, (backed_iff reach).mpr (by decide)⟩

/-- One add with a node that answers the count, to the end. -/
def unregisteredAdd : List Event :=
  fillForm ++ [.clickAdd] ++ [.counted 0 (.resolved (.array [.string (js "2")])) sampleTime sampleTime] ++
    [.drawn 1 (.ok (js "data:image/png;base64,AAAA"))] ++ [.finished 0] ++ [.render]

/-- The new product is in the table and its QR code is on display, without any registration. -/
theorem backed_violated :
    ∃ page screen product, Reach (step sampleEnvironment) anything .initial unregisteredAdd page ∧
      page.component.screen = some screen ∧ screen.state.products = initialProducts ++ [product] ∧
      screen.state.selectedProduct = some product ∧ screen.state.error = none ∧ page.adds = [] ∧
      (∀ ticket payload, .submitted ticket payload ∉ page.trace) ∧ ¬Backed page := by
  obtain ⟨page, reach, screen, product, shown, products, selected, silent, done, queued⟩ :
      ∃ page, Reach (step sampleEnvironment) anything .initial unregisteredAdd page ∧
        ∃ screen product, page.component.screen = some screen ∧
          screen.state.products = initialProducts ++ [product] ∧ screen.state.selectedProduct = some product ∧
          screen.state.error = none ∧ page.adds = [] ∧
          page.component.queued.products = initialProducts ++ [product] :=
    ⟨_, .next (.next (.next (.next reach_adding trivial rfl) trivial rfl) trivial rfl) trivial rfl,
      _, _, rfl, rfl, rfl, rfl, rfl, rfl⟩
  obtain ⟨_, _, unsubmitted⟩ := reach_listing reach
  refine ⟨page, screen, product, reach, shown, products, selected, silent, done, unsubmitted, fun backed => ?_⟩
  have same := backed.products_initial unsubmitted
  rw [queued, List.append_right_eq_self] at same
  cases same

end TrueMark.Dashboard
