import TrueMark.Dashboard.Adds
import TrueMark.Dashboard.Registration

namespace TrueMark.Dashboard
open Ecma Aptos Qr React Runs

def Observation.isSubmission : Observation → Bool
  | .submitted _ _ => true
  | _ => false

/-- The node counts the products that were registered before the page was
opened, and no others than those that the page itself has submitted since. -/
def CountsRegistered (render : Nat → JsValue) (base : Nat) (page : Page) : Event → Prop
  | .counted _ (.resolved answer) _ _ =>
    ∃ registered ≤ page.trace.countP Observation.isSubmission, answer = render (base + registered)
  | _ => True

/-- The ids as React makes keys and the cells make text of them, with no text for one that cannot be converted. -/
def idTexts (products : List Product) : List (Option JsString) := products.map fun product => product.id.toText

section Counts

variable {environment : Environment} {render : Nat → JsValue} {base : Nat} {events : List Event} {page : Page}

theorem entries_ids {list : List Success} {entries : List Product}
    (entriesOf : List.Forall₂ (EntryOf environment events) list entries) :
    entries.map Product.id = list.map Success.answer := by
  induction entriesOf with
  | nil => rfl
  | cons entry _ ih =>
    obtain ⟨form, _, rfl⟩ := entry
    rw [List.map_cons, List.map_cons, ih]
    rfl

/-- The ids are the initial ones and the answers of the successful view calls. -/
theorem ids_eq (reach : Reach (step environment) anything .initial events page) :
    page.component.queued.products.map Product.id =
      initialProducts.map Product.id ++ (successes events).map Success.answer := by
  obtain ⟨entries, products, entriesOf⟩ := (reach_tracked reach).listed
  rw [products, List.map_append, entries_ids entriesOf]

/-- The page submits nothing, so the count stays what it was. -/
theorem answers_eq (reach : Reach (step environment) (CountsRegistered render base) .initial events page) :
    ∀ success ∈ successes events, success.answer = render base := by
  induction reach with
  | start => exact nofun
  | @next events before event after previous counts run ih =>
    intro success member
    rw [successes_append] at member
    rcases List.mem_append.mp member with old | new
    · exact ih success old
    · obtain ⟨other, inside, succeeded⟩ := List.mem_filterMap.mp new
      rw [List.mem_singleton.mp inside] at succeeded
      obtain ⟨_, _, unsubmitted⟩ := reach_listing previous.unguarded
      have none : before.trace.countP Observation.isSubmission = 0 := by
        rw [List.countP_eq_zero]
        intro observation seen submission
        cases observation with
        | submitted ticket payload => exact unsubmitted ticket payload seen
        | _ => cases submission
      cases event with
      | counted ticket reply now issued =>
        cases reply with
        | resolved answer =>
          obtain ⟨registered, bound, rfl⟩ := counts
          cases succeeded
          rw [none, Nat.le_zero] at bound
          rw [bound, Nat.add_zero]
        | rejected => cases succeeded
      | _ => cases succeeded

theorem nodup_append_replicate {Item : Type} {front : List Item} {item : Item} {count : Nat} :
    (front ++ List.replicate count item).Nodup ↔ front.Nodup ∧ count ≤ 1 ∧ (count ≠ 0 → item ∉ front) := by
  rw [List.nodup_append, List.nodup_replicate]
  refine and_congr_right fun _ => and_congr_right fun _ => ?_
  constructor
  · intro apart some member
    exact apart item member item (List.mem_replicate.mpr ⟨some, rfl⟩) rfl
  · intro absent other member copy repeated same
    obtain ⟨some, rfl⟩ := List.mem_replicate.mp repeated
    rw [same] at member
    exact absent some member

theorem idTexts_eq (reach : Reach (step environment) (CountsRegistered render base) .initial events page) :
    idTexts page.component.queued.products =
      idTexts initialProducts ++ List.replicate (successes events).length (render base).toText := by
  have answers : (successes events).map Success.answer = List.replicate (successes events).length (render base) :=
    List.eq_replicate_iff.mpr ⟨List.length_map _, fun answer member => by
      obtain ⟨success, inside, rfl⟩ := List.mem_map.mp member
      exact answers_eq reach success inside⟩
  have ids := congrArg (List.map JsValue.toText) (ids_eq reach.unguarded)
  rw [answers, List.map_append, List.map_replicate, List.map_map, List.map_map] at ids
  exact ids

theorem idTexts_initialProducts : idTexts initialProducts = [some (js "1"), some (js "2")] := rfl

end Counts

/-- The products are distinct by the text of their ids exactly until a second
add succeeds, provided that the count of the first is not written like the id of
an initial product. -/
theorem ids_distinct_iff {environment : Environment} {render : Nat → JsValue} {base : Nat} {events : List Event}
    {page : Page} (reach : Reach (step environment) (CountsRegistered render base) .initial events page) :
    (idTexts page.component.queued.products).Nodup ↔
      (successes events).length ≤ 1 ∧
        (successes events ≠ [] → (render base).toText ∉ [some (js "1"), some (js "2")]) := by
  have initial : ([some (js "1"), some (js "2")] : List (Option JsString)).Nodup := by decide
  rw [idTexts_eq reach, idTexts_initialProducts, nodup_append_replicate, and_iff_right initial, ne_eq, ne_eq,
    List.length_eq_zero_iff]

/-- The array of the return values of `get_product_count`, a `u64` written in decimal. -/
def countAnswer (count : Nat) : JsValue := .array [.string (decimalText count)]

/-- The add with this ticket from the answer to its count to its end, with the
ticket of its QR code behind its own. -/
def addToEnd (count ticket : Nat) : List Event :=
  [.counted ticket (.resolved (countAnswer count)) sampleTime sampleTime, .drawn (ticket + 1) (.ok sampleUrl),
    .finished ticket, .render]

def oneAdd (count : Nat) : List Event := fillForm ++ [.clickAdd] ++ addToEnd count 0

def twoAdds (count : Nat) : List Event :=
  oneAdd count ++ ([.closeQr] ++ fillForm) ++ [.clickAdd] ++ addToEnd count 2

theorem countsRegistered_base {render : Nat → JsValue} {base : Nat} {events : List Event}
    (same : ∀ success ∈ successes events, success.answer = render base) :
    ∀ event ∈ events, ∀ page, CountsRegistered render base page event := by
  intro event member page
  cases event with
  | counted ticket reply now issued =>
    cases reply with
    | resolved answer =>
      have succeeded : ⟨ticket, answer, now⟩ ∈ successes events := List.mem_filterMap.mpr ⟨_, member, rfl⟩
      exact ⟨0, Nat.zero_le _, same _ succeeded⟩
    | rejected => trivial
  | _ => trivial

theorem ids_distinct_oneAdd :
    ∃ page, Reach (step sampleEnvironment) (CountsRegistered countAnswer 3) .initial (oneAdd 3) page ∧
      (idTexts page.component.queued.products).Nodup := by
  obtain ⟨page, reach⟩ : ∃ page, Reach (step sampleEnvironment) anything .initial (oneAdd 3) page :=
    ⟨_, reach_adding.append (reach_iff_follow.mpr rfl)⟩
  have succeeded : successes (oneAdd 3) = [⟨0, countAnswer 3, sampleTime⟩] := rfl
  have answers : ∀ success ∈ successes (oneAdd 3), success.answer = countAnswer 3 := by simp [succeeded]
  have counted := reach.guarded (countsRegistered_base answers)
  have text : (countAnswer 3).toText = some (js "3") := by decide
  refine ⟨page, counted, (ids_distinct_iff counted).mpr ⟨by simp [succeeded], fun _ => ?_⟩⟩
  rw [text]
  decide

/-- Nothing is registered between two adds, so the second gets the id of the first. -/
theorem ids_repeated :
    ∃ page, Reach (step sampleEnvironment) (CountsRegistered countAnswer 3) .initial (twoAdds 3) page ∧
      idTexts page.component.queued.products = [some (js "1"), some (js "2"), some (js "3"), some (js "3")] ∧
      ¬(idTexts page.component.queued.products).Nodup ∧
      ¬(page.component.queued.products.map Product.id).Nodup := by
  obtain ⟨page, reach⟩ : ∃ page, Reach (step sampleEnvironment) anything .initial (twoAdds 3) page :=
    ⟨_, .append (.next (.append (.append reach_adding (reach_iff_follow.mpr rfl)) (reach_iff_follow.mpr rfl)) trivial
      (clickAdd_valid rfl rfl validateProduct_sampleForm)) (reach_iff_follow.mpr rfl)⟩
  have succeeded : successes (twoAdds 3) = [⟨0, countAnswer 3, sampleTime⟩, ⟨2, countAnswer 3, sampleTime⟩] := rfl
  have answers : ∀ success ∈ successes (twoAdds 3), success.answer = countAnswer 3 := by simp [succeeded]
  have counted := reach.guarded (countsRegistered_base answers)
  have texts : idTexts page.component.queued.products =
      [some (js "1"), some (js "2"), some (js "3"), some (js "3")] := by
    rw [idTexts_eq counted, succeeded]
    decide
  have ids := ids_eq reach
  rw [succeeded] at ids
  refine ⟨page, counted, texts, ?_, fun distinct => ?_⟩
  · rw [texts]
    decide
  · rw [ids] at distinct
    exact (List.nodup_cons.mp (List.nodup_cons.mp (List.nodup_cons.mp distinct).2).2).1 List.mem_cons_self

end TrueMark.Dashboard
