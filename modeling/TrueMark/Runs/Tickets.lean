import Mathlib.Data.List.Nodup

namespace Runs

/-- Items that were numbered from a counter when they came, each with a number of its own. -/
structure Numbered {Item : Type} (ticket : Item → Nat) (items : List Item) (count : Nat) : Prop where
  distinct : (items.map ticket).Nodup
  issued : ∀ item ∈ items, ticket item < count

namespace Numbered

variable {Item : Type} {ticket : Item → Nat} {items others : List Item} {count number : Nat}

theorem nil : Numbered ticket [] count := ⟨List.nodup_nil, nofun⟩

theorem later (numbered : Numbered ticket items count) (more : count ≤ number) : Numbered ticket items number :=
  ⟨numbered.distinct, fun item member => Nat.lt_of_lt_of_le (numbered.issued item member) more⟩

theorem append (numbered : Numbered ticket items count) {item : Item} (next : ticket item = count) :
    Numbered ticket (items ++ [item]) (count + 1) := by
  constructor
  · rw [List.map_append, List.nodup_append]
    refine ⟨numbered.distinct, List.nodup_singleton _, fun earlier inside last new same => ?_⟩
    obtain ⟨other, member, rfl⟩ := List.mem_map.mp inside
    obtain rfl : last = ticket item := by simpa using new
    have below := numbered.issued other member
    omega
  · intro other member
    rcases List.mem_append.mp member with old | new
    · exact Nat.lt_succ_of_lt (numbered.issued other old)
    · rw [List.mem_singleton.mp new, next]
      exact Nat.lt_succ_self _

theorem sublist (numbered : Numbered ticket items count) (kept : others.Sublist items) :
    Numbered ticket others count :=
  ⟨numbered.distinct.sublist (kept.map ticket), fun item member => numbered.issued item (kept.mem member)⟩

/-- Whatever else changes about the items. -/
theorem congr (numbered : Numbered ticket items count) (same : others.map ticket = items.map ticket) :
    Numbered ticket others count := by
  refine ⟨same ▸ numbered.distinct, fun item member => ?_⟩
  have inside : ticket item ∈ items.map ticket := by
    rw [← same]
    exact List.mem_map_of_mem member
  obtain ⟨other, old, equal⟩ := List.mem_map.mp inside
  rw [← equal]
  exact numbered.issued other old

/-- The items that are hit change, all but their numbers. -/
theorem change {hit : Item → Prop} [DecidablePred hit] {change : Item → Item} (numbered : Numbered ticket items count)
    (kept : ∀ item, hit item → ticket (change item) = ticket item) :
    Numbered ticket (items.map fun item => if hit item then change item else item) count := by
  refine numbered.congr ?_
  rw [List.map_map]
  refine List.map_congr_left fun item _ => ?_
  rw [Function.comp_apply]
  split
  · rename_i struck
    exact kept item struck
  · rfl

theorem eq_of_ticket (numbered : Numbered ticket items count) {first second : Item} (left : first ∈ items)
    (right : second ∈ items) (same : ticket first = ticket second) : first = second :=
  List.inj_on_of_nodup_map numbered.distinct left right same

theorem mem_eraseP (numbered : Numbered ticket items count) {item : Item} :
    item ∈ items.eraseP (fun other => ticket other = number) ↔ item ∈ items ∧ ticket item ≠ number := by
  induction items with
  | nil => simp
  | cons head rest ih =>
    have numberedRest := numbered.sublist (List.sublist_cons_self head rest)
    by_cases here : ticket head = number
    · rw [List.eraseP_cons_of_pos (by simpa using here), List.mem_cons]
      constructor
      · intro member
        refine ⟨Or.inr member, fun same => (List.nodup_cons.mp numbered.distinct).1 ?_⟩
        rw [here, ← same]
        exact List.mem_map_of_mem member
      · rintro ⟨rfl | member, different⟩
        · exact absurd here different
        · exact member
    · rw [List.eraseP_cons_of_neg (by simpa using here), List.mem_cons, List.mem_cons, ih numberedRest]
      constructor
      · rintro (rfl | ⟨member, different⟩)
        · exact ⟨Or.inl rfl, here⟩
        · exact ⟨Or.inr member, different⟩
      · rintro ⟨rfl | member, different⟩
        · exact Or.inl rfl
        · exact Or.inr ⟨member, different⟩

end Numbered

end Runs
