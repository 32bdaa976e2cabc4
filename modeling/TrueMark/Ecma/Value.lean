import TrueMark.Ecma.NumberText

namespace Ecma

@[irreducible] def binary64 : Format := ⟨53, 1074, 1024, by decide, by decide⟩

abbrev Number := Floating binary64

/-- The language values that cross the programs' interfaces. Objects list
their own properties in the order in which the language enumerates them. -/
inductive JsValue
  | undefined
  | null
  | boolean (value : Bool)
  | number (value : Number)
  | string (value : JsString)
  | array (items : List JsValue)
  | object (properties : List (JsString × JsValue))

def JsValue.isUndefined : JsValue → Bool
  | .undefined => true
  | _ => false

theorem JsValue.isUndefined_iff {value : JsValue} : value.isUndefined = true ↔ value = .undefined := by
  cases value <;> simp [isUndefined]

abbrev Properties := List (JsString × JsValue)

/-- A key that names an array index, with the index. -/
def arrayIndex (key : JsString) : Option Nat :=
  if key = decimalText (digitsValue key) ∧ digitsValue key < 2 ^ 32 - 1 then some (digitsValue key) else none

theorem arrayIndex_injective {a b : JsString} {i : Nat} (left : arrayIndex a = some i)
    (right : arrayIndex b = some i) : a = b := by
  unfold arrayIndex at left right
  split at left
  · rename_i canonical
    split at right
    · rename_i canonical'
      rw [canonical.1, canonical'.1, Option.some.inj left, Option.some.inj right]
    · simp at right
  · simp at left

theorem arrayIndex_plain {key : JsString} {c : CodeUnit} (member : c ∈ key) (letter : isDigit c = false) :
    arrayIndex key = none := by
  refine if_neg fun canonical => ?_
  rw [canonical.1] at member
  rw [decimalText_isDigit _ c member] at letter
  cases letter

namespace Properties

/-- The own-key order: array indices first, ascending, then the other keys as they were created. -/
def Precedes (a b : JsString) : Prop :=
  a ≠ b ∧ ∀ j, arrayIndex b = some j → ∃ i, arrayIndex a = some i ∧ i < j

def Ordered (properties : Properties) : Prop := (properties.map Prod.fst).Pairwise Precedes

def get (properties : Properties) (key : JsString) : JsValue := (properties.lookup key).getD .undefined

def indexBelow (i : Nat) (property : JsString × JsValue) : Bool :=
  match arrayIndex property.1 with
  | some j => j < i
  | none => false

/-- Creating or overwriting one own property. An overwritten one keeps its place. -/
def set (properties : Properties) (key : JsString) (value : JsValue) : Properties :=
  if key ∈ properties.map Prod.fst then
    properties.map fun property => if property.1 = key then (key, value) else property
  else
    match arrayIndex key with
    | none => properties ++ [(key, value)]
    | some i => properties.takeWhile (indexBelow i) ++ (key, value) :: properties.dropWhile (indexBelow i)

/-- The own properties except one, as an object rest pattern collects them. -/
def without (properties : Properties) (key : JsString) : Properties :=
  properties.filter fun property => property.1 ≠ key

/-- The own properties that a text of the object shows. -/
def defined (properties : Properties) : Properties := properties.filter fun property => !property.2.isUndefined

/-- Successive creation, from the members of an object text or literal. -/
def ofMembers (members : List (JsString × JsValue)) : Properties :=
  members.foldl (fun properties member => set properties member.1 member.2) []

theorem Ordered.sublist {small large : Properties} (ordered : Ordered large) (sub : small.Sublist large) :
    Ordered small :=
  List.Pairwise.sublist (sub.map Prod.fst) ordered

/-- Distinct keys that are no array indices are enumerated as they were created. -/
theorem ordered_plain {properties : Properties} (distinct : (properties.map Prod.fst).Nodup)
    (plain : ∀ key ∈ properties.map Prod.fst, ∃ c ∈ key, isDigit c = false) : Ordered properties := by
  refine List.Pairwise.imp_of_mem ?_ distinct
  intro a b _ member different
  obtain ⟨c, inside, letter⟩ := plain b member
  exact ⟨different, fun j index => by rw [arrayIndex_plain inside letter] at index; cases index⟩

theorem get_of_mem {properties : Properties} (distinct : (properties.map Prod.fst).Nodup) {key : JsString}
    {value : JsValue} (member : (key, value) ∈ properties) : properties.get key = value := by
  induction properties with
  | nil => cases member
  | cons property rest ih =>
    obtain ⟨first, other⟩ := property
    rw [List.map_cons, List.nodup_cons] at distinct
    unfold get at ih ⊢
    rw [List.lookup_cons]
    rcases List.mem_cons.mp member with same | later
    · obtain ⟨rfl, rfl⟩ := Prod.mk.inj same
      simp
    · have different : (key == first) = false := by
        simpa using fun same : key = first => distinct.1 (same ▸ List.mem_map.mpr ⟨_, later, rfl⟩)
      rw [different]
      exact ih distinct.2 later

theorem get_without {properties : Properties} {dropped key : JsString} (other : key ≠ dropped) :
    (properties.without dropped).get key = properties.get key := by
  induction properties with
  | nil => rfl
  | cons property rest ih =>
    obtain ⟨first, value⟩ := property
    unfold without get at ih ⊢
    rw [List.filter_cons, List.lookup_cons]
    by_cases same : key = first
    · subst same
      simp [other]
    · have different : (key == first) = false := by simpa using same
      rw [different]
      by_cases kept : first = dropped
      · simpa [kept] using ih
      · simpa [kept, List.lookup_cons, different] using ih

/-- Leaving out undefined properties changes no property read, if no key occurs twice. -/
theorem get_defined {properties : Properties} (distinct : (properties.map Prod.fst).Nodup) (key : JsString) :
    properties.defined.get key = properties.get key := by
  induction properties with
  | nil => rfl
  | cons property rest ih =>
    obtain ⟨first, value⟩ := property
    rw [List.map_cons, List.nodup_cons] at distinct
    have more := ih distinct.2
    unfold defined get at more ⊢
    rw [List.filter_cons, List.lookup_cons]
    by_cases same : key = first
    · subst same
      by_cases shown : value.isUndefined = true
      · have absent : rest.lookup key = none := by
          rw [List.lookup_eq_none_iff]
          intro other member
          simpa using fun equal => distinct.1 (List.mem_map.mpr ⟨other, member, equal.symm⟩)
        rw [absent] at more
        rw [if_neg (by simp [shown]), more, JsValue.isUndefined_iff.mp shown]
        simp
      · simp [shown]
    · have other : (key == first) = false := by simpa using same
      by_cases shown : value.isUndefined = true
      · simpa [shown, other] using more
      · simpa [shown, List.lookup_cons, other] using more

/-- A key that may follow all others is created at the end. -/
theorem set_last {properties : Properties} {key : JsString} (value : JsValue)
    (last : ∀ property ∈ properties, Precedes property.1 key) :
    properties.set key value = properties ++ [(key, value)] := by
  have fresh : key ∉ properties.map Prod.fst := by
    intro member
    obtain ⟨property, old, rfl⟩ := List.mem_map.mp member
    exact (last property old).1 rfl
  rw [set, if_neg fresh]
  split
  · rfl
  · rename_i i index
    have below : ∀ property ∈ properties, indexBelow i property = true := by
      intro property member
      obtain ⟨j, indexed, less⟩ := (last property member).2 i index
      simpa only [indexBelow, indexed, decide_eq_true_eq] using less
    rw [List.takeWhile_eq_self_iff.mpr below, List.dropWhile_eq_nil_iff.mpr below]

theorem ofMembers_append {properties members : Properties} (ordered : Ordered (properties ++ members)) :
    members.foldl (fun properties member => set properties member.1 member.2) properties =
      properties ++ members := by
  induction members generalizing properties with
  | nil => simp
  | cons member rest ih =>
    have split := ordered
    rw [Ordered, List.map_append, List.pairwise_append] at split
    have last : ∀ property ∈ properties, Precedes property.1 member.1 := fun property old =>
      split.2.2 property.1 (List.mem_map_of_mem old) member.1 (by simp)
    rw [List.foldl_cons, set_last member.2 last]
    have regrouped : properties ++ [(member.1, member.2)] ++ rest = properties ++ member :: rest := by simp
    rw [ih (by rw [regrouped]; exact ordered), regrouped]

/-- Creating ordered members one after another keeps them as they are. -/
theorem ofMembers_ordered {members : Properties} (ordered : Ordered members) : ofMembers members = members :=
  @ofMembers_append [] members ordered

theorem map_fst_overwrite (properties : Properties) (key : JsString) (value : JsValue) :
    (properties.map fun property => if property.1 = key then (key, value) else property).map Prod.fst =
      properties.map Prod.fst := by
  rw [List.map_map]
  refine List.map_congr_left fun property _ => ?_
  simp only [Function.comp_apply]
  split
  · rename_i same
    exact same.symm
  · rfl

/-- Past the indices below `i`, a fresh index `i` precedes everything that is left. -/
theorem precedes_dropWhile {properties : Properties} {key : JsString} {i : Nat} (ordered : Ordered properties)
    (fresh : key ∉ properties.map Prod.fst) (index : arrayIndex key = some i) :
    ∀ property ∈ properties.dropWhile (indexBelow i), Precedes key property.1 := by
  induction properties with
  | nil => simp
  | cons head rest ih =>
    simp only [List.map_cons, List.mem_cons, not_or] at fresh
    have order := List.pairwise_cons.mp ordered
    rw [List.dropWhile_cons]
    split
    · exact ih order.2 fresh.2
    · rename_i stop
      have atHead : Precedes key head.1 := by
        refine ⟨fresh.1, fun j indexed => ⟨i, index, ?_⟩⟩
        simp only [indexBelow, indexed, decide_eq_true_eq, not_lt] at stop
        refine lt_of_le_of_ne stop ?_
        rintro rfl
        exact fresh.1 (arrayIndex_injective index indexed)
      intro property member
      rcases List.mem_cons.mp member with rfl | later
      · exact atHead
      · refine ⟨fun same => fresh.2 (same ▸ List.mem_map_of_mem later), fun j indexed => ⟨i, index, ?_⟩⟩
        obtain ⟨k, indexedHead, less⟩ := (order.1 property.1 (List.mem_map_of_mem later)).2 j indexed
        obtain ⟨i', sameIndex, below⟩ := atHead.2 k indexedHead
        rw [index] at sameIndex
        cases sameIndex
        exact below.trans less

theorem set_ordered {properties : Properties} (ordered : Ordered properties) (key : JsString) (value : JsValue) :
    Ordered (properties.set key value) := by
  unfold set
  split
  · rw [Ordered, map_fst_overwrite]
    exact ordered
  · rename_i fresh
    split
    · rename_i plain
      rw [Ordered, List.map_append, List.pairwise_append]
      refine ⟨ordered, by simp, ?_⟩
      intro a old b last
      simp only [List.map_cons, List.map_nil, List.mem_singleton] at last
      subst b
      exact ⟨fun same => fresh (same ▸ old), fun j index => by rw [plain] at index; cases index⟩
    · rename_i i index
      have after := precedes_dropWhile ordered fresh index
      have whole := ordered
      rw [← List.takeWhile_append_dropWhile (p := indexBelow i) (l := properties), Ordered, List.map_append,
        List.pairwise_append] at whole
      rw [Ordered, List.map_append, List.map_cons, List.pairwise_append]
      refine ⟨whole.1, List.pairwise_cons.mpr ⟨?_, whole.2.1⟩, ?_⟩
      · intro b member
        obtain ⟨property, old, rfl⟩ := List.mem_map.mp member
        exact after property old
      · intro a member b later
        rcases List.mem_cons.mp later with rfl | old
        · obtain ⟨property, early, rfl⟩ := List.mem_map.mp member
          have below := List.mem_takeWhile_imp early
          refine ⟨fun same => fresh (same ▸ List.mem_map_of_mem ((List.takeWhile_sublist _).mem early)), ?_⟩
          intro j indexed
          rw [index] at indexed
          cases indexed
          unfold indexBelow at below
          split at below
          · rename_i k indexedProperty
            exact ⟨k, indexedProperty, by simpa using below⟩
          · simp at below
        · exact whole.2.2 a member b old

theorem set_mem {properties : Properties} {key : JsString} {value : JsValue} {property : JsString × JsValue}
    (member : property ∈ properties.set key value) : property = (key, value) ∨ property ∈ properties := by
  unfold set at member
  split at member
  · obtain ⟨old, found, same⟩ := List.mem_map.mp member
    split at same
    · exact Or.inl same.symm
    · exact Or.inr (same ▸ found)
  split at member
  · rcases List.mem_append.mp member with old | new
    · exact Or.inr old
    · exact Or.inl (List.mem_singleton.mp new)
  · rcases List.mem_append.mp member with old | rest
    · exact Or.inr ((List.takeWhile_sublist _).mem old)
    · rcases List.mem_cons.mp rest with new | old
      · exact Or.inl new
      · exact Or.inr ((List.dropWhile_sublist _).mem old)

end Properties

end Ecma
