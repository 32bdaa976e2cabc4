import TrueMark.Ecma.Convert
import TrueMark.Ecma.JsonParse

namespace Ecma

namespace Json

mutual

/-- The values that JSON has texts for: all numbers are finite, and nothing is undefined. -/
def IsData : JsValue → Prop
  | .undefined => False
  | .number value => ∃ negative m, value = .finite negative m
  | .array items => AreData items
  | .object properties => Properties.Ordered properties ∧ MembersAreData properties
  | _ => True

def AreData : List JsValue → Prop
  | [] => True
  | item :: rest => IsData item ∧ AreData rest

def MembersAreData : List (JsString × JsValue) → Prop
  | [] => True
  | (_, value) :: rest => IsData value ∧ MembersAreData rest

end

mutual

/-- The value with a plus on every zero. Strict equality does not tell the zeros apart. -/
def unsigned : JsValue → JsValue
  | .number (.finite negative m) => .number (.finite (negative && m.units != 0) m)
  | .array items => .array (unsignedItems items)
  | .object properties => .object (unsignedMembers properties)
  | value => value

def unsignedItems : List JsValue → List JsValue
  | [] => []
  | item :: rest => unsigned item :: unsignedItems rest

def unsignedMembers : List (JsString × JsValue) → List (JsString × JsValue)
  | [] => []
  | (key, value) :: rest => (key, unsigned value) :: unsignedMembers rest

end

theorem IsData.defined {value : JsValue} (data : IsData value) : value ≠ .undefined := by
  rintro rfl
  exact data

mutual

/-- Of such a value, a text forgets no more than the signs of zeros. -/
theorem recovered_data : ∀ value, IsData value → recovered value = unsigned value
  | .undefined, data => data.elim
  | .null, _ => rfl
  | .boolean _, _ => rfl
  | .number value, data => by
    obtain ⟨negative, m, rfl⟩ := data
    rfl
  | .string _, _ => rfl
  | .array items, data => by rw [recovered, unsigned, recoveredItems_data items data]
  | .object properties, data => by rw [recovered, unsigned, recoveredMembers_data properties data.2]

theorem recoveredItems_data : ∀ items, AreData items → recoveredItems items = unsignedItems items
  | [], _ => rfl
  | item :: rest, data => by
    rw [recoveredItems, unsignedItems, recovered_data item data.1, recoveredItems_data rest data.2]

theorem recoveredMembers_data : ∀ members, MembersAreData members → recoveredMembers members = unsignedMembers members
  | [], _ => rfl
  | (key, value) :: rest, data => by
    rw [recoveredMembers_cons rest data.1.defined, unsignedMembers, recovered_data value data.1,
      recoveredMembers_data rest data.2]

end

mutual

theorem IsData.wellFormed : ∀ {value}, IsData value → WellFormed value
  | .undefined, _ => trivial
  | .null, _ => trivial
  | .boolean _, _ => trivial
  | .number _, _ => trivial
  | .string _, _ => trivial
  | .array _, data => AreData.wellFormed data
  | .object _, data => ⟨data.1, MembersAreData.wellFormed data.2⟩

theorem AreData.wellFormed : ∀ {items}, AreData items → WellFormedItems items
  | [], _ => trivial
  | _ :: _, data => ⟨data.1.wellFormed, AreData.wellFormed data.2⟩

theorem MembersAreData.wellFormed : ∀ {members}, MembersAreData members → WellFormedMembers members
  | [], _ => trivial
  | (_, _) :: _, data => ⟨data.1.wellFormed, MembersAreData.wellFormed data.2⟩

end

/-- What was recovered once is recovered again. -/
theorem recovered_recovered {value : JsValue} (wellFormed : WellFormed value) (defined : value ≠ .undefined) :
    WellFormed (recovered value) ∧ recovered (recovered value) = recovered value := by
  obtain ⟨text, written⟩ := stringify_defined defined
  have parsed := parse_stringify wellFormed written
  have recoveredWellFormed := parse_wellFormed parsed
  exact ⟨recoveredWellFormed, recovered_eq_of_stringify recoveredWellFormed wellFormed
    ((stringify_recovered value defined).trans written) written⟩

theorem truthy_unsigned (value : JsValue) : (unsigned value).truthy = value.truthy := by
  cases value with
  | number value =>
    cases value with
    | finite => rfl
    | _ => rfl
  | _ => rfl

end Json

end Ecma
