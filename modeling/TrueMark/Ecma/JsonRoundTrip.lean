import TrueMark.Ecma.JsonText

namespace Ecma

namespace Json

mutual

/-- Every object in the value lists its own properties in the language's order. -/
def WellFormed : JsValue → Prop
  | .array items => WellFormedItems items
  | .object properties => Properties.Ordered properties ∧ WellFormedMembers properties
  | _ => True

def WellFormedItems : List JsValue → Prop
  | [] => True
  | item :: rest => WellFormed item ∧ WellFormedItems rest

def WellFormedMembers : List (JsString × JsValue) → Prop
  | [] => True
  | (_, value) :: rest => WellFormed value ∧ WellFormedMembers rest

end

/-- Texts keep neither the sign of zero nor the values that are not finite. -/
def recoveredNumber : Number → JsValue
  | .finite negative m => .number (.finite (negative && m.units != 0) m)
  | _ => .null

mutual

/-- The value that `JSON.parse` recovers from the text of a value. -/
def recovered : JsValue → JsValue
  | .undefined => .null
  | .null => .null
  | .boolean value => .boolean value
  | .number value => recoveredNumber value
  | .string value => .string value
  | .array items => .array (recoveredItems items)
  | .object properties => .object (recoveredMembers properties)

def recoveredItems : List JsValue → List JsValue
  | [] => []
  | item :: rest => recovered item :: recoveredItems rest

def recoveredMembers : List (JsString × JsValue) → List (JsString × JsValue)
  | [] => []
  | (_, .undefined) :: rest => recoveredMembers rest
  | (key, value) :: rest => (key, recovered value) :: recoveredMembers rest

end

theorem recovered_finite (negative : Bool) {m : Magnitude binary64} (nonzero : m.units ≠ 0) :
    recovered (.number (.finite negative m)) = .number (.finite negative m) := by
  rw [recovered, recoveredNumber, bne_iff_ne.mpr nonzero, Bool.and_true]

theorem recoveredMembers_cons {key : JsString} {value : JsValue} (rest : List (JsString × JsValue))
    (defined : value ≠ .undefined) :
    recoveredMembers ((key, value) :: rest) = (key, recovered value) :: recoveredMembers rest := by
  cases value with
  | undefined => exact absurd rfl defined
  | _ => rfl

/-- Members that texts keep as they are come back as those that are defined. -/
theorem recoveredMembers_defined {members : Properties}
    (kept : ∀ member ∈ members, member.2.isUndefined = true ∨ recovered member.2 = member.2) :
    recoveredMembers members = members.defined := by
  induction members with
  | nil => rfl
  | cons member rest ih =>
    obtain ⟨key, value⟩ := member
    have more := ih fun other member => kept other (List.mem_cons_of_mem _ member)
    have here := kept (key, value) List.mem_cons_self
    by_cases absent : value = .undefined
    · subst absent
      exact more
    · have shown : value.isUndefined = false := by
        cases value with
        | undefined => exact absurd rfl absent
        | _ => rfl
      simp only [shown, Bool.false_eq_true, false_or] at here
      rw [recoveredMembers_cons rest absent, here, more, Properties.defined, Properties.defined, List.filter_cons,
        if_pos (by simp [shown])]

theorem stringify_defined {value : JsValue} (defined : value ≠ .undefined) : ∃ text, stringify value = some text := by
  cases value with
  | undefined => exact absurd rfl defined
  | _ => exact ⟨_, rfl⟩

theorem memberTexts_cons {key text : JsString} {value : JsValue} (rest : List (JsString × JsValue))
    (written : stringify value = some text) :
    memberTexts ((key, value) :: rest) = (quote key ++ colon :: text) :: memberTexts rest := by
  rw [memberTexts, written]

theorem recoveredMembers_keys (members : List (JsString × JsValue)) :
    ((recoveredMembers members).map Prod.fst).Sublist (members.map Prod.fst) := by
  induction members with
  | nil => exact .slnil
  | cons member rest ih =>
    obtain ⟨key, value⟩ := member
    by_cases absent : value = .undefined
    · subst absent
      exact .cons _ ih
    · rw [recoveredMembers_cons rest absent]
      exact .cons_cons _ ih

/-- Members without any text are all undefined, so none is recovered. -/
theorem recoveredMembers_of_memberTexts_nil {members : List (JsString × JsValue)} (none : memberTexts members = []) :
    recoveredMembers members = [] := by
  induction members with
  | nil => rfl
  | cons member rest ih =>
    obtain ⟨key, value⟩ := member
    by_cases absent : value = .undefined
    · subst absent
      exact ih none
    · obtain ⟨text, written⟩ := stringify_defined absent
      rw [memberTexts_cons rest written] at none
      cases none

/-- What follows a value inside a serialised text. -/
def Follows (rest : JsString) : Prop := ∀ c ∈ rest.head?, c = comma ∨ c = closeBracket ∨ c = closeBrace

theorem follows_nil : Follows [] := by simp [Follows]

theorem Follows.numberEnd {rest : JsString} (follows : Follows rest) : NumberEnd rest := by
  intro c member
  rcases follows c member with rfl | rfl | rfl <;> decide

theorem follows_cons {c : CodeUnit} (rest : JsString) (known : c = comma ∨ c = closeBracket ∨ c = closeBrace) :
    Follows (c :: rest) := by
  intro d member
  simp only [List.head?_cons, Option.mem_some_iff] at member
  exact member ▸ known

theorem expect_cons {c d : CodeUnit} (rest : JsString) (dark : white d = false) :
    expect c (d :: rest) = if d = c then some rest else none := by
  rw [expect, skipWhite, List.dropWhile_cons_of_neg (by simp [dark])]

theorem skipWhite_cons {c : CodeUnit} (rest : JsString) (dark : white c = false) :
    skipWhite (c :: rest) = c :: rest := by
  rw [skipWhite, List.dropWhile_cons_of_neg (by simp [dark])]

/-- The first character of a number text selects the number branch of the value parser. -/
theorem number_head {c : CodeUnit} (start : c = Literal.minus ∨ isDigit c = true) :
    white c = false ∧ c ≠ quoteMark ∧ c ≠ openBracket ∧ c ≠ openBrace ∧ c ≠ closeBracket ∧
      ∀ rest, parseWord (c :: rest) = none := by
  have range : c.toNat = 0x2D ∨ 48 ≤ c.toNat ∧ c.toNat ≤ 57 := by
    rcases start with rfl | digit
    · exact Or.inl (by decide)
    · exact Or.inr (by simpa [isDigit] using digit)
  have other (d : CodeUnit) (far : d.toNat ≠ 0x2D ∧ ¬(48 ≤ d.toNat ∧ d.toNat ≤ 57)) : c ≠ d := by
    rintro rfl
    omega
  refine ⟨?_, other _ (by decide), other _ (by decide), other _ (by decide), other _ (by decide), ?_⟩
  · simp only [white, Bool.or_eq_false_iff, beq_eq_false_iff_ne]
    omega
  · intro rest
    have n : (0x6E : CodeUnit) ≠ c := (other 0x6E (by decide)).symm
    have t : (0x74 : CodeUnit) ≠ c := (other 0x74 (by decide)).symm
    have f : (0x66 : CodeUnit) ≠ c := (other 0x66 (by decide)).symm
    simp [parseWord, js, utf16, List.isPrefixOf?, n, t, f]

theorem parseValue_number {fuel : Nat} {literal : Literal} (wellFormed : literal.WellFormed) {rest : JsString}
    (stop : NumberEnd rest) : parseValue (fuel + 1) (literal.text ++ rest) = some (.number literal.value, rest) := by
  have number := parseNumber_text wellFormed stop
  obtain ⟨c, tail, head, start⟩ := literal_head wellFormed
  obtain ⟨dark, mark, bracket, brace, _, word⟩ := number_head start
  rw [head, List.cons_append] at number ⊢
  rw [parseValue, skipWhite_cons _ dark]
  simp only [if_neg mark, if_neg bracket, if_neg brace, word, number, Option.map_some, Option.none_or]

def zeroLiteral : Literal := ⟨false, [digitUnit 0], [], none⟩

theorem zeroLiteral_wellFormed : zeroLiteral.WellFormed :=
  ⟨⟨List.cons_ne_nil _ _, List.forall_mem_singleton.mpr rfl, fun _ => rfl⟩, nofun, nofun⟩

theorem zeroLiteral_value : (zeroLiteral.value : Number) = .finite false .zero := by
  have exact := Floating.ofUnits_exact (f := binary64) false .zero Nat.one_pos
  simp only [Literal.value, zeroLiteral, Literal.exponentValue, Floating.ofDecimal]
  simpa [Magnitude.zero, digitsValue, digitValue_digitUnit] using exact

/-- A finite number is recovered from its text up to the sign of zero. -/
theorem numberText_literal (value : Number) :
    numberText value = js "null" ∧ recoveredNumber value = .null ∨
      ∃ literal : Literal, literal.WellFormed ∧ numberText value = literal.text ∧
        recoveredNumber value = .number literal.value := by
  cases value with
  | nan => exact Or.inl ⟨rfl, rfl⟩
  | infinity => exact Or.inl ⟨rfl, rfl⟩
  | finite negative m =>
    right
    by_cases zero : m.units = 0
    · refine ⟨zeroLiteral, zeroLiteral_wellFormed, ?_, ?_⟩
      · simp [numberText, Floating.toText, zero, zeroLiteral, Literal.text, Literal.fractionText, Literal.exponentText]
      · obtain ⟨units, representable⟩ := m
        change units = 0 at zero
        subst units
        rw [zeroLiteral_value]
        simp [recoveredNumber, Magnitude.zero]
    · obtain ⟨literal, wellFormed, text, value⟩ := Floating.toText_literal negative zero
      refine ⟨literal, wellFormed, text, ?_⟩
      rw [value]
      simp [recoveredNumber, zero]

theorem parseValue_null (fuel : Nat) (rest : JsString) :
    parseValue (fuel + 1) (js "null" ++ rest) = some (.null, rest) := by
  rfl

theorem parseValue_boolean (fuel : Nat) (value : Bool) (rest : JsString) :
    parseValue (fuel + 1) ((if value then js "true" else js "false") ++ rest) = some (.boolean value, rest) := by
  cases value <;> rfl

theorem parseValue_quote (fuel : Nat) (value rest : JsString) :
    parseValue (fuel + 1) (quote value ++ rest) = some (.string value, rest) := by
  rw [quote, List.cons_append, List.append_assoc, List.singleton_append, parseValue, skipWhite_cons _ (by decide)]
  simp only [if_true, parseChars_quoteUnits, Option.map_some]

/-- No serialised value starts with a closing bracket, so a nonempty array is never taken for an empty one. -/
theorem stringify_head {value : JsValue} {text : JsString} (written : stringify value = some text) :
    ∃ c tail, text = c :: tail ∧ white c = false ∧ c ≠ closeBracket := by
  cases value with
  | undefined => cases written
  | null =>
    cases written
    exact ⟨_, _, rfl, by decide, by decide⟩
  | boolean value =>
    cases written
    cases value <;> exact ⟨_, _, rfl, by decide, by decide⟩
  | number value =>
    cases written
    rcases numberText_literal value with ⟨text, _⟩ | ⟨literal, wellFormed, text, _⟩
    · rw [text]
      exact ⟨_, _, rfl, by decide, by decide⟩
    · obtain ⟨c, tail, head, start⟩ := literal_head wellFormed
      obtain ⟨dark, _, _, _, bracket, _⟩ := number_head start
      exact ⟨c, tail, text.trans head, dark, bracket⟩
  | string value =>
    cases written
    exact ⟨_, _, rfl, by decide, by decide⟩
  | array items =>
    cases written
    exact ⟨_, _, rfl, by decide, by decide⟩
  | object properties =>
    cases written
    exact ⟨_, _, rfl, by decide, by decide⟩

theorem joined_cons (text : JsString) {rest : List JsString} (more : rest ≠ []) :
    joined (text :: rest) = text ++ comma :: joined rest := by
  cases rest with
  | nil => exact absurd rfl more
  | cons => rfl

theorem joined_head {text tail : JsString} {c : CodeUnit} (rest : List JsString) (head : text = c :: tail) :
    ∃ more, joined (text :: rest) = c :: more := by
  subst text
  cases rest with
  | nil => exact ⟨_, rfl⟩
  | cons => exact ⟨_, rfl⟩

theorem element_head (item : JsValue) (rest : List JsValue) :
    ∃ c tail, joined (elementTexts (item :: rest)) = c :: tail ∧ white c = false ∧ c ≠ closeBracket := by
  obtain ⟨c, tail, head, dark, open'⟩ : ∃ c tail, (stringify item).getD (js "null") = c :: tail ∧
      white c = false ∧ c ≠ closeBracket := by
    cases written : stringify item with
    | none => exact ⟨_, _, rfl, by decide, by decide⟩
    | some text => exact stringify_head written
  obtain ⟨more, whole⟩ := joined_head (elementTexts rest) head
  exact ⟨c, more, whole, dark, open'⟩

theorem member_head {members : List (JsString × JsValue)} (some : memberTexts members ≠ []) :
    ∃ tail, joined (memberTexts members) = quoteMark :: tail := by
  induction members with
  | nil => exact absurd rfl some
  | cons member rest ih =>
    obtain ⟨key, value⟩ := member
    by_cases absent : value = .undefined
    · subst absent
      exact ih some
    · obtain ⟨text, written⟩ := stringify_defined absent
      rw [memberTexts_cons rest written]
      exact joined_head _ rfl

/-- The quoted key and the colon of a member are read before its value. -/
theorem parseMembers_key (fuel : Nat) (key text : JsString) :
    parseMembers (fuel + 1) (quote key ++ colon :: text) =
      (parseValue fuel text).bind fun (value, rest) =>
        match expect comma rest with
        | some rest => (parseMembers fuel rest).map fun (members, rest) => ((key, value) :: members, rest)
        | none => (expect closeBrace rest).map fun rest => ([(key, value)], rest) := by
  have afterKey : expect colon (colon :: text) = some text := by
    rw [expect_cons _ (by decide), if_pos rfl]
  rw [parseMembers, quote, List.cons_append, expect_cons _ (by decide), if_pos rfl, Option.bind_some,
    List.append_assoc, List.singleton_append, parseChars_quoteUnits, Option.bind_some]
  change (expect colon (colon :: text)).bind _ = _
  rw [afterKey]
  exact Option.bind_some ..

mutual

/-- `JSON.parse` undoes `JSON.stringify` on every ordered value, at any fuel that covers the text. -/
theorem parseValue_stringify : ∀ (value : JsValue) {text rest : JsString} {fuel : Nat}, WellFormed value →
    stringify value = some text → Follows rest → 2 * text.length + 1 ≤ fuel →
    parseValue fuel (text ++ rest) = some (recovered value, rest)
  | value, text, rest, 0, _, _, _, enough => by omega
  | .undefined, text, rest, fuel + 1, _, written, _, _ => by cases written
  | .null, text, rest, fuel + 1, _, written, _, _ => by
    cases written
    exact parseValue_null fuel rest
  | .boolean value, text, rest, fuel + 1, _, written, _, _ => by
    cases written
    exact parseValue_boolean fuel value rest
  | .string value, text, rest, fuel + 1, _, written, _, _ => by
    cases written
    exact parseValue_quote fuel value rest
  | .number value, text, rest, fuel + 1, _, written, follows, _ => by
    cases written
    rcases numberText_literal value with ⟨text, recover⟩ | ⟨literal, wellFormed, text, recover⟩
    · rw [text, recovered, recover]
      exact parseValue_null fuel rest
    · rw [text, recovered, recover]
      exact parseValue_number wellFormed follows.numberEnd
  | .array items, text, rest, fuel + 1, wellFormed, written, _, enough => by
    cases written
    simp only [List.length_cons, List.length_append, List.length_nil] at enough
    rw [List.cons_append, List.append_assoc, List.singleton_append, parseValue, skipWhite_cons _ (by decide)]
    simp only [if_neg (show openBracket ≠ quoteMark by decide), if_true]
    cases items with
    | nil =>
      rw [elementTexts, joined, List.nil_append, expect_cons _ (by decide), if_pos rfl]
      rfl
    | cons item more =>
      have nonempty : item :: more ≠ [] := by simp
      rw [parseElements_stringify (item :: more) nonempty wellFormed (by omega)]
      have closed : expect closeBracket (joined (elementTexts (item :: more)) ++ closeBracket :: rest) = none := by
        obtain ⟨c, tail, head, dark, different⟩ := element_head item more
        rw [head, List.cons_append, expect_cons _ dark, if_neg different]
      rw [closed]
      rfl
  | .object properties, text, rest, fuel + 1, wellFormed, written, _, enough => by
    cases written
    simp only [List.length_cons, List.length_append, List.length_nil] at enough
    rw [List.cons_append, List.append_assoc, List.singleton_append, parseValue, skipWhite_cons _ (by decide)]
    simp only [if_neg (show openBrace ≠ quoteMark by decide), if_neg (show openBrace ≠ openBracket by decide), if_true]
    by_cases none : memberTexts properties = []
    · rw [none, joined, List.nil_append, expect_cons _ (by decide), if_pos rfl, recovered,
        recoveredMembers_of_memberTexts_nil none]
    · have ordered : Properties.Ordered (recoveredMembers properties) :=
        List.Pairwise.sublist (recoveredMembers_keys properties) wellFormed.1
      rw [parseMembers_stringify properties none wellFormed.2 (by omega)]
      have closed : expect closeBrace (joined (memberTexts properties) ++ closeBrace :: rest) = .none := by
        obtain ⟨tail, head⟩ := member_head none
        rw [head, List.cons_append, expect_cons _ (by decide), if_neg (by decide)]
      rw [closed, recovered]
      simp only [Option.map_some, Properties.ofMembers_ordered ordered]

theorem parseElements_stringify : ∀ (items : List JsValue) {rest : JsString} {fuel : Nat}, items ≠ [] →
    WellFormedItems items → 2 * (joined (elementTexts items)).length + 2 ≤ fuel →
    parseElements fuel (joined (elementTexts items) ++ closeBracket :: rest) = some (recoveredItems items, rest)
  | [], rest, fuel, nonempty, _, _ => absurd rfl nonempty
  | item :: more, rest, 0, _, _, enough => by omega
  | item :: more, rest, fuel + 1, _, wellFormed, enough => by
    have value {tail : JsString} (follows : Follows tail)
        (covers : 2 * ((stringify item).getD (js "null")).length + 1 ≤ fuel) :
        parseValue fuel ((stringify item).getD (js "null") ++ tail) = some (recovered item, tail) := by
      cases written : stringify item with
      | some text =>
        rw [written] at covers
        exact parseValue_stringify item wellFormed.1 written follows covers
      | none =>
        have absent : item = .undefined := by
          by_contra defined
          obtain ⟨text, contrary⟩ := stringify_defined defined
          cases written.symm.trans contrary
        obtain ⟨fuel, rfl⟩ : ∃ n, fuel = n + 1 := ⟨fuel - 1, by omega⟩
        subst absent
        exact parseValue_null fuel tail
    rw [elementTexts] at enough ⊢
    rw [parseElements, recoveredItems]
    cases more with
    | nil =>
      rw [elementTexts, joined] at enough ⊢
      rw [value (follows_cons rest (by simp)) (by omega), Option.bind_some]
      simp only [expect_cons rest (show white closeBracket = false by decide),
        if_neg (show closeBracket ≠ comma by decide), if_true, Option.map_some]
      rfl
    | cons next later =>
      have nonempty : elementTexts (next :: later) ≠ [] := by simp [elementTexts]
      rw [joined_cons _ nonempty] at enough ⊢
      simp only [List.length_append, List.length_cons] at enough
      rw [List.append_assoc, List.cons_append, value (follows_cons _ (by simp)) (by omega), Option.bind_some]
      simp only [expect_cons _ (show white comma = false by decide), if_true,
        parseElements_stringify (next :: later) (by simp) wellFormed.2 (show _ ≤ fuel by omega), Option.map_some]

theorem parseMembers_stringify : ∀ (members : List (JsString × JsValue)) {rest : JsString} {fuel : Nat},
    memberTexts members ≠ [] → WellFormedMembers members →
    2 * (joined (memberTexts members)).length + 2 ≤ fuel →
    parseMembers fuel (joined (memberTexts members) ++ closeBrace :: rest) = some (recoveredMembers members, rest)
  | [], rest, fuel, nonempty, _, _ => absurd rfl nonempty
  | (key, value) :: more, rest, 0, _, _, enough => by omega
  | (key, value) :: more, rest, fuel + 1, nonempty, wellFormed, enough => by
    by_cases absent : value = .undefined
    · subst absent
      exact parseMembers_stringify more nonempty wellFormed.2 enough
    obtain ⟨text, written⟩ := stringify_defined absent
    rw [memberTexts_cons more written] at enough ⊢
    rw [recoveredMembers_cons more absent]
    by_cases last : memberTexts more = []
    · rw [last, joined] at enough ⊢
      simp only [List.length_append, List.length_cons] at enough
      rw [List.append_assoc, List.cons_append, parseMembers_key,
        parseValue_stringify value wellFormed.1 written (follows_cons rest (by simp)) (by omega), Option.bind_some]
      simp only [expect_cons rest (show white closeBrace = false by decide),
        if_neg (show closeBrace ≠ comma by decide), if_true, Option.map_some, recoveredMembers_of_memberTexts_nil last]
    · rw [joined_cons _ last] at enough ⊢
      simp only [List.length_append, List.length_cons] at enough
      rw [List.append_assoc, List.append_assoc, List.cons_append, List.cons_append, parseMembers_key,
        parseValue_stringify value wellFormed.1 written (follows_cons _ (by simp)) (by omega), Option.bind_some]
      simp only [expect_cons _ (show white comma = false by decide), if_true,
        parseMembers_stringify more last wellFormed.2 (show _ ≤ fuel by omega), Option.map_some]

end

/-- The round trip of the two library functions: what is lost is exactly what `recovered` forgets. -/
theorem parse_stringify {value : JsValue} {text : JsString} (wellFormed : WellFormed value)
    (written : stringify value = some text) : parse text = some (recovered value) := by
  have run := parseValue_stringify value wellFormed written follows_nil (le_refl (2 * text.length + 1))
  rw [List.append_nil] at run
  rw [parse, run]
  rfl

theorem stringify_recoveredNumber (value : Number) : stringify (recoveredNumber value) = some (numberText value) := by
  cases value with
  | nan => rfl
  | infinity => rfl
  | finite negative m =>
    by_cases zero : m.units = 0
    · simp [recoveredNumber, stringify, numberText, Floating.toText, zero]
    · have sign : (negative && m.units != 0) = negative := by simp [zero]
      rw [recoveredNumber, stringify, sign]

mutual

/-- Nothing that texts forget shows in them, so the recovered value has the same text again. -/
theorem stringify_recovered : ∀ value, value ≠ .undefined → stringify (recovered value) = stringify value
  | .undefined, defined => absurd rfl defined
  | .null, _ => rfl
  | .boolean _, _ => rfl
  | .number value, _ => stringify_recoveredNumber value
  | .string _, _ => rfl
  | .array items, _ => by rw [recovered, stringify, stringify, elementTexts_recovered items]
  | .object properties, _ => by rw [recovered, stringify, stringify, memberTexts_recovered properties]

theorem elementTexts_recovered : ∀ items, elementTexts (recoveredItems items) = elementTexts items
  | [] => rfl
  | item :: rest => by
    rw [recoveredItems, elementTexts, elementTexts, elementTexts_recovered rest]
    by_cases absent : item = .undefined
    · subst absent
      rfl
    · rw [stringify_recovered item absent]

theorem memberTexts_recovered : ∀ members, memberTexts (recoveredMembers members) = memberTexts members
  | [] => rfl
  | (key, value) :: rest => by
    have more := memberTexts_recovered rest
    by_cases absent : value = .undefined
    · subst absent
      exact more
    · obtain ⟨text, written⟩ := stringify_defined absent
      rw [recoveredMembers_cons rest absent, memberTexts_cons rest written, ← more]
      exact memberTexts_cons _ ((stringify_recovered value absent).trans written)

end

/-- A value that is recovered from nothing but itself. -/
def Rigid (value : JsValue) : Prop := ∀ other, recovered other = value → other = value

theorem rigid_string (text : JsString) : Rigid (.string text) := by
  intro other same
  cases other with
  | string => exact same
  | number value => cases value <;> cases same
  | _ => cases same

theorem eq_of_recoveredItems {items target : List JsValue} (rigid : ∀ item ∈ target, Rigid item)
    (same : recoveredItems items = target) : items = target := by
  induction items generalizing target with
  | nil => exact same
  | cons item rest ih =>
    subst same
    have first : item = recovered item := rigid _ List.mem_cons_self item rfl
    have others : rest = recoveredItems rest :=
      ih (fun other member => rigid other (List.mem_cons_of_mem _ member)) rfl
    exact congrArg₂ List.cons first others

theorem rigid_array {items : List JsValue} (rigid : ∀ item ∈ items, Rigid item) : Rigid (.array items) := by
  intro other same
  cases other with
  | array others => rw [eq_of_recoveredItems rigid (JsValue.array.inj same)]
  | number value => cases value <;> cases same
  | _ => cases same

/-- Only zero and the values that are not finite are confused with others. -/
theorem rigid_finite (negative : Bool) {m : Magnitude binary64} (nonzero : m.units ≠ 0) :
    Rigid (.number (.finite negative m)) := by
  intro other same
  cases other with
  | number value =>
    cases value with
    | finite sign magnitude =>
      obtain ⟨sign, rfl⟩ := Floating.finite.inj (JsValue.number.inj same)
      simp only [bne_iff_ne.mpr nonzero, Bool.and_true] at sign
      rw [sign]
    | _ => cases same
  | _ => cases same

/-- The first member of what is recovered comes from the first member, if none is undefined. -/
theorem recoveredMembers_eq_cons {members rest : Properties} {key : JsString} {value : JsValue}
    (defined : ∀ member ∈ members, member.2 ≠ .undefined) (same : recoveredMembers members = (key, value) :: rest) :
    ∃ first tail, members = (key, first) :: tail ∧ first ≠ .undefined ∧ recovered first = value ∧
      recoveredMembers tail = rest := by
  cases members with
  | nil => cases same
  | cons member tail =>
    obtain ⟨other, first⟩ := member
    have shown := defined (other, first) List.mem_cons_self
    rw [recoveredMembers_cons tail shown] at same
    cases same
    exact ⟨first, tail, rfl, shown, rfl, rfl⟩

/-- Members without undefined values are what their recovered members say, where those are rigid. -/
theorem eq_of_recoveredMembers {members target : Properties}
    (defined : ∀ member ∈ members, member.2 ≠ .undefined) (rigid : ∀ member ∈ target, Rigid member.2)
    (same : recoveredMembers members = target) : members = target := by
  induction target generalizing members with
  | nil =>
    cases members with
    | nil => rfl
    | cons member rest =>
      rw [recoveredMembers_cons rest (defined member List.mem_cons_self)] at same
      cases same
  | cons member rest ih =>
    obtain ⟨first, tail, rfl, _, here, more⟩ := recoveredMembers_eq_cons defined same
    rw [rigid member List.mem_cons_self first here, ih (fun other inside => defined other
      (List.mem_cons_of_mem _ inside)) (fun other inside => rigid other (List.mem_cons_of_mem _ inside)) more]

/-- Two ordered values with one text are the same up to what texts forget. -/
theorem recovered_eq_of_stringify {value other : JsValue} {text : JsString} (wellFormed : WellFormed value)
    (otherWellFormed : WellFormed other) (written : stringify value = some text)
    (otherWritten : stringify other = some text) : recovered value = recovered other :=
  Option.some.inj ((parse_stringify wellFormed written).symm.trans (parse_stringify otherWellFormed otherWritten))

end Json

end Ecma
