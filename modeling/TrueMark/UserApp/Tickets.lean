import TrueMark.Runs.Tickets
import TrueMark.UserApp.Progress

namespace TrueMark.UserApp
open Ecma Aptos Qr React Runs

theorem mem_advance {app : App} {verification other : Verification} {phase : Phase}
    (member : other ∈ (app.advance verification phase).verifications) :
    other = { verification with phase } ∨ other ∈ app.verifications ∧ other ≠ verification := by
  obtain ⟨old, inside, same⟩ := List.mem_map.mp member
  split at same
  · exact Or.inl same.symm
  · rename_i different
    exact Or.inr (same ▸ ⟨inside, different⟩)

/-- Tickets tell the verifications apart, and each is used for one call. -/
structure TicketsDistinct (app : App) : Prop where
  numbered : Numbered Verification.ticket app.verifications app.tickets
  called : ∀ ticket payload, .called ticket payload ∈ app.trace → ticket < app.tickets ∧
    ∀ verification ∈ app.verifications, verification.ticket = ticket → verification.phase = .querying
  once : ∀ ticket payload other, .called ticket payload ∈ app.trace → .called ticket other ∈ app.trace → payload = other

section Tickets

variable {environment : Environment} {app after : App} {event : Event}

theorem TicketsDistinct.advance (tickets : TicketsDistinct app) (verification : Verification) (phase : Phase) :
    Numbered Verification.ticket (app.advance verification phase).verifications app.tickets :=
  tickets.numbered.change fun _ same => by rw [same]

/-- A verification that is not at its view call has not called. -/
theorem TicketsDistinct.not_called (tickets : TicketsDistinct app) {verification : Verification}
    (member : verification ∈ app.verifications) (waiting : verification.phase ≠ .querying) (payload : ViewPayload) :
    .called verification.ticket payload ∉ app.trace :=
  fun called => waiting ((tickets.called _ _ called).2 verification member rfl)

/-- Steps that add no call keep the tickets apart, if they keep the verifications that have called. -/
theorem TicketsDistinct.uncalled (tickets : TicketsDistinct app)
    (calls : ∀ ticket payload, .called ticket payload ∈ after.trace → .called ticket payload ∈ app.trace)
    (numbered : Numbered Verification.ticket after.verifications after.tickets) (more : app.tickets ≤ after.tickets)
    (kept : ∀ verification ∈ after.verifications, verification ∈ app.verifications ∨ verification.ticket = app.tickets ∨
      ∀ payload, .called verification.ticket payload ∉ app.trace) : TicketsDistinct after := by
  refine ⟨numbered, fun ticket payload called => ?_, fun ticket payload other left right =>
    tickets.once ticket payload other (calls _ _ left) (calls _ _ right)⟩
  obtain ⟨below, querying⟩ := tickets.called _ _ (calls _ _ called)
  refine ⟨by omega, fun verification member same => ?_⟩
  rcases kept verification member with old | new | uncalled
  · exact querying verification old same
  · omega
  · exact absurd (calls _ _ called) (same ▸ uncalled payload)

/-- One more verification, under the next ticket. -/
theorem TicketsDistinct.start (tickets : TicketsDistinct app) {clean : JsString} {retryCount : Nat}
    (calls : ∀ ticket payload, .called ticket payload ∈ after.trace → .called ticket payload ∈ app.trace)
    (verifications : after.verifications = app.verifications ++ [⟨app.tickets, clean, .connecting retryCount⟩])
    (next : after.tickets = app.tickets + 1) : TicketsDistinct after := by
  refine tickets.uncalled calls ?_ (by omega) fun verification member => ?_
  · rw [verifications, next]
    exact tickets.numbered.append rfl
  · rw [verifications] at member
    rcases List.mem_append.mp member with old | new
    · exact Or.inl old
    · exact Or.inr (Or.inl (by rw [List.mem_singleton.mp new]))

/-- A verification leaves. -/
theorem TicketsDistinct.finish (tickets : TicketsDistinct app) {verification : Verification}
    (calls : ∀ ticket payload, .called ticket payload ∈ after.trace → .called ticket payload ∈ app.trace)
    (verifications : after.verifications = app.verifications.erase verification)
    (same : after.tickets = app.tickets) : TicketsDistinct after := by
  refine tickets.uncalled calls ?_ (by omega) fun other member => ?_
  · rw [verifications, same]
    exact tickets.numbered.sublist List.erase_sublist
  · rw [verifications] at member
    exact Or.inl (List.mem_of_mem_erase member)

theorem TicketsDistinct.step (tickets : TicketsDistinct app) (run : step environment app event = some after) :
    TicketsDistinct after := by
  obtain ⟨observations, trace, progress⟩ := step_progress run
  have quiet {ticket : Nat} {payload : ViewPayload} (silent : .called ticket payload ∉ observations)
      (called : .called ticket payload ∈ after.trace) : .called ticket payload ∈ app.trace := by
    rw [trace] at called
    exact (List.mem_append.mp called).resolve_right silent
  generalize verifications : after.verifications = list at progress
  generalize count : after.tickets = number at progress
  generalize writeOf environment app event = write at progress
  have idle (same : list = app.verifications) (number_eq : number = app.tickets)
      (calls : ∀ ticket payload, .called ticket payload ∈ after.trace → .called ticket payload ∈ app.trace) :
      TicketsDistinct after := by
    refine tickets.uncalled calls ?_ (by omega) fun verification member => ?_
    · rw [verifications, same, count, number_eq]
      exact tickets.numbered
    · rw [verifications, same] at member
      exact Or.inl member
  cases progress with
  | quiet => exact idle rfl rfl fun ticket payload => quiet (by simp)
  | refused => exact idle rfl rfl fun ticket payload => quiet (by simp)
  | scanRejected => exact idle rfl rfl fun ticket payload => quiet (by simp)
  | scanRefused => exact idle rfl rfl fun ticket payload => quiet (by simp)
  | started => exact tickets.start (fun ticket payload => quiet (by simp)) verifications count
  | scanStarted => exact tickets.start (fun ticket payload => quiet (by simp)) verifications count
  | ended => exact tickets.finish (fun ticket payload => quiet (by simp)) verifications count
  | answered => exact tickets.finish (fun ticket payload => quiet (by simp)) verifications count
  | @connected verification retryCount reply member waiting =>
    have uncalled := tickets.not_called member (by rw [waiting]; nofun)
    refine tickets.uncalled (fun ticket payload => quiet (by simp)) ?_ (by omega) fun other inside => ?_
    · rw [verifications, count]
      exact tickets.advance verification _
    · rw [verifications] at inside
      rcases mem_advance inside with rfl | ⟨old, _⟩
      · exact Or.inr (Or.inr uncalled)
      · exact Or.inl old
  | @called verification now member waiting =>
    have uncalled := tickets.not_called member (by rw [waiting]; nofun)
    have here {ticket : Nat} {payload : ViewPayload} (called : .called ticket payload ∈ after.trace) :
        .called ticket payload ∈ app.trace ∨ ticket = verification.ticket ∧
          payload = viewPayload environment verification.cleanProductId := by
      rw [trace] at called
      rcases List.mem_append.mp called with old | new
      · exact Or.inl old
      · exact Or.inr (by simpa using new)
    have numbered : Numbered Verification.ticket after.verifications after.tickets := by
      rw [verifications, count]
      exact tickets.advance verification _
    refine ⟨numbered, ?_, ?_⟩
    · intro ticket payload called
      rw [verifications, count]
      rcases here called with old | ⟨rfl, rfl⟩
      · refine ⟨(tickets.called _ _ old).1, fun other inside same => ?_⟩
        rcases mem_advance inside with rfl | ⟨older, _⟩
        · rfl
        · exact (tickets.called _ _ old).2 other older same
      · refine ⟨tickets.numbered.issued verification member, fun other inside same => ?_⟩
        rcases mem_advance inside with rfl | ⟨older, different⟩
        · rfl
        · exact absurd (tickets.numbered.eq_of_ticket older member same) different
    · intro ticket payload other left right
      rcases here left with old | ⟨rfl, rfl⟩
      · rcases here right with older | ⟨rfl, rfl⟩
        · exact tickets.once ticket payload other old older
        · exact absurd old (uncalled payload)
      · rcases here right with older | ⟨_, rfl⟩
        · exact absurd older (uncalled other)
        · rfl

end Tickets

theorem ticketsDistinct_initial : TicketsDistinct .initial :=
  ⟨.nil, nofun, nofun⟩

end TrueMark.UserApp
