import TrueMark.Ecma.JsonRoundTrip

namespace Ecma

namespace Json

theorem skipWhite_length (text : JsString) : (skipWhite text).length ≤ text.length :=
  (List.dropWhile_sublist _).length_le

theorem expect_length {c : CodeUnit} {text rest : JsString} (run : expect c text = some rest) :
    rest.length < text.length := by
  have bound := skipWhite_length text
  unfold expect at run
  split at run
  · cases run
  · rename_i d more whole
    split at run
    · cases run
      rw [whole, List.length_cons] at bound
      omega
    · cases run

theorem parseChars_length {text s rest : JsString} (run : parseChars text = some (s, rest)) :
    rest.length < text.length := by
  fun_induction parseChars text generalizing s rest with
  | case1 => cases run
  | case2 tail =>
    cases run
    simp
  | case3 => cases run
  | case4 h₁ h₂ h₃ h₄ tail slash ih =>
    obtain ⟨unit, _, run⟩ := Option.bind_eq_some_iff.mp run
    obtain ⟨⟨more, after⟩, found, same⟩ := Option.map_eq_some_iff.mp run
    cases same
    have shorter := ih found
    simp only [List.length_cons]
    omega
  | case5 => cases run
  | case6 letter tail slash notUnicode ih =>
    obtain ⟨unit, _, run⟩ := Option.bind_eq_some_iff.mp run
    obtain ⟨⟨more, after⟩, found, same⟩ := Option.map_eq_some_iff.mp run
    cases same
    have shorter := ih found
    simp only [List.length_cons]
    omega
  | case7 => cases run
  | case8 c tail mark slash printable ih =>
    obtain ⟨⟨more, after⟩, found, same⟩ := Option.map_eq_some_iff.mp run
    cases same
    have shorter := ih found
    simp only [List.length_cons]
    omega

theorem parseSign_length (text : JsString) : (parseSign text).2.length ≤ text.length := by
  unfold parseSign
  split
  · simp
  · split <;> simp

theorem parseFraction_length {text fraction rest : JsString} (run : parseFraction text = some (fraction, rest)) :
    rest.length ≤ text.length := by
  unfold parseFraction at run
  split at run
  · cases run
    exact le_rfl
  · rename_i c tail
    have bound := (List.dropWhile_sublist (l := tail) isDigit).length_le
    split at run
    · split at run
      · cases run
      · cases run
        simp only [List.length_cons]
        omega
    · cases run
      exact le_rfl

theorem parseExponentSign_length (text : JsString) : (parseExponentSign text).2.length ≤ text.length := by
  unfold parseExponentSign
  split
  · simp
  · split
    · simp
    · split <;> simp

theorem parseExponent_length {text rest : JsString} {exponent : Option (Bool × JsString)}
    (run : parseExponent text = some (exponent, rest)) : rest.length ≤ text.length := by
  unfold parseExponent at run
  split at run
  · cases run
    exact le_rfl
  · rename_i c tail
    split at run
    · have bound := parseExponentSign_length tail
      have digits := (List.dropWhile_sublist (l := (parseExponentSign tail).2) isDigit).length_le
      dsimp only at run
      split at run
      · cases run
      · cases run
        simp only [List.length_cons]
        omega
    · cases run
      exact le_rfl

theorem parseNumber_length {text rest : JsString} {value : Number} (run : parseNumber text = some (value, rest)) :
    rest.length < text.length := by
  have signed := parseSign_length text
  unfold parseNumber at run
  dsimp only at run
  split at run
  · cases run
  · rename_i accepted
    obtain ⟨⟨fraction, afterFraction⟩, first, run⟩ := Option.bind_eq_some_iff.mp run
    obtain ⟨⟨exponent, afterExponent⟩, second, same⟩ := Option.map_eq_some_iff.mp run
    obtain rfl : afterExponent = rest := congrArg Prod.snd same
    have fractionBound := parseFraction_length first
    have exponentBound : afterExponent.length ≤ afterFraction.length := parseExponent_length second
    have nonempty : 0 < ((parseSign text).2.takeWhile isDigit).length :=
      List.length_pos_iff.mpr fun empty => accepted (Or.inl empty)
    have split := congrArg List.length (List.takeWhile_append_dropWhile (p := isDigit) (l := (parseSign text).2))
    rw [List.length_append] at split
    omega

theorem isPrefixOf?_length {word text rest : JsString} (run : word.isPrefixOf? text = some rest)
    (nonempty : word ≠ []) :
    rest.length < text.length := by
  rw [List.isPrefixOf?_eq_some_iff_append_eq] at run
  have whole := congrArg List.length run
  have positive := List.length_pos_iff.mpr nonempty
  rw [List.length_append] at whole
  omega

theorem parseWord_cases {text rest : JsString} {value : JsValue} (run : parseWord text = some (value, rest)) :
    rest.length < text.length ∧ (value = .null ∨ ∃ b, value = .boolean b) := by
  simp only [parseWord, Option.or_eq_some_iff, Option.map_eq_some_iff, Prod.mk.injEq] at run
  rcases run with ⟨after, found, rfl, rfl⟩ | ⟨_, ⟨after, found, rfl, rfl⟩ | ⟨_, after, found, rfl, rfl⟩⟩
  · exact ⟨isPrefixOf?_length found (by decide), Or.inl rfl⟩
  · exact ⟨isPrefixOf?_length found (by decide), Or.inr ⟨true, rfl⟩⟩
  · exact ⟨isPrefixOf?_length found (by decide), Or.inr ⟨false, rfl⟩⟩

/-- Everything a successful value parse can be, with what it consumed first. -/
inductive ValueRun (fuel : Nat) (text : JsString) : JsValue → JsString → Prop
  | string {c value tail rest} : skipWhite text = c :: tail → parseChars tail = some (value, rest) →
      ValueRun fuel text (.string value) rest
  | emptyArray {c tail rest} : skipWhite text = c :: tail → expect closeBracket tail = some rest →
      ValueRun fuel text (.array []) rest
  | array {c tail items rest} : skipWhite text = c :: tail → parseElements fuel tail = some (items, rest) →
      ValueRun fuel text (.array items) rest
  | emptyObject {c tail rest} : skipWhite text = c :: tail → expect closeBrace tail = some rest →
      ValueRun fuel text (.object []) rest
  | object {c tail members rest} : skipWhite text = c :: tail → parseMembers fuel tail = some (members, rest) →
      ValueRun fuel text (.object (Properties.ofMembers members)) rest
  | word {value rest} : parseWord (skipWhite text) = some (value, rest) → ValueRun fuel text value rest
  | number {value rest} : parseNumber (skipWhite text) = some (value, rest) → ValueRun fuel text (.number value) rest

theorem parseValue_run {fuel : Nat} {text rest : JsString} {value : JsValue}
    (run : parseValue (fuel + 1) text = some (value, rest)) : ValueRun fuel text value rest := by
  rw [parseValue] at run
  split at run
  · cases run
  rename_i c tail whole
  split at run
  · obtain ⟨⟨s, after⟩, found, same⟩ := Option.map_eq_some_iff.mp run
    cases same
    exact .string whole found
  split at run
  · split at run
    · rename_i after closed
      cases run
      exact .emptyArray whole closed
    · obtain ⟨⟨items, after⟩, found, same⟩ := Option.map_eq_some_iff.mp run
      cases same
      exact .array whole found
  split at run
  · split at run
    · rename_i after closed
      cases run
      exact .emptyObject whole closed
    · obtain ⟨⟨members, after⟩, found, same⟩ := Option.map_eq_some_iff.mp run
      cases same
      exact .object whole found
  rw [← whole] at run
  rcases Option.or_eq_some_iff.mp run with found | ⟨_, found⟩
  · exact .word found
  · obtain ⟨⟨number, after⟩, found, same⟩ := Option.map_eq_some_iff.mp found
    cases same
    exact .number found

/-- The value first, then either a comma and more of the same or the closing bracket. -/
theorem parseElements_run {fuel : Nat} {text rest : JsString} {items : List JsValue}
    (run : parseElements (fuel + 1) text = some (items, rest)) :
    ∃ item after, parseValue fuel text = some (item, after) ∧
      ((∃ next more, expect comma after = some next ∧ parseElements fuel next = some (more, rest) ∧
        items = item :: more) ∨ expect closeBracket after = some rest ∧ items = [item]) := by
  rw [parseElements] at run
  obtain ⟨⟨item, after⟩, found, run⟩ := Option.bind_eq_some_iff.mp run
  refine ⟨item, after, found, ?_⟩
  dsimp only at run
  split at run
  · rename_i next more
    obtain ⟨⟨later, final⟩, found, same⟩ := Option.map_eq_some_iff.mp run
    cases same
    exact Or.inl ⟨next, later, more, found, rfl⟩
  · obtain ⟨final, closed, same⟩ := Option.map_eq_some_iff.mp run
    cases same
    exact Or.inr ⟨closed, rfl⟩

theorem parseMembers_run {fuel : Nat} {text rest : JsString} {members : List (JsString × JsValue)}
    (run : parseMembers (fuel + 1) text = some (members, rest)) :
    ∃ opened key afterKey start value after, expect quoteMark text = some opened ∧
      parseChars opened = some (key, afterKey) ∧ expect colon afterKey = some start ∧
      parseValue fuel start = some (value, after) ∧
      ((∃ next more, expect comma after = some next ∧ parseMembers fuel next = some (more, rest) ∧
        members = (key, value) :: more) ∨ expect closeBrace after = some rest ∧ members = [(key, value)]) := by
  rw [parseMembers] at run
  obtain ⟨opened, mark, run⟩ := Option.bind_eq_some_iff.mp run
  obtain ⟨⟨key, afterKey⟩, chars, run⟩ := Option.bind_eq_some_iff.mp run
  obtain ⟨start, separator, run⟩ := Option.bind_eq_some_iff.mp run
  obtain ⟨⟨value, after⟩, found, run⟩ := Option.bind_eq_some_iff.mp run
  refine ⟨opened, key, afterKey, start, value, after, mark, chars, separator, found, ?_⟩
  dsimp only at run
  split at run
  · rename_i next more
    obtain ⟨⟨later, final⟩, found, same⟩ := Option.map_eq_some_iff.mp run
    cases same
    exact Or.inl ⟨next, later, more, found, rfl⟩
  · obtain ⟨final, closed, same⟩ := Option.map_eq_some_iff.mp run
    cases same
    exact Or.inr ⟨closed, rfl⟩

theorem ValueRun.length {fuel : Nat} {text rest : JsString} {value : JsValue} (run : ValueRun fuel text value rest)
    (elements : ∀ {text rest items}, parseElements fuel text = some (items, rest) → rest.length < text.length)
    (members : ∀ {text rest found}, parseMembers fuel text = some (found, rest) → rest.length < text.length) :
    rest.length < text.length := by
  have bound := skipWhite_length text
  have inside {c : CodeUnit} {tail : JsString} (whole : skipWhite text = c :: tail) : tail.length < text.length := by
    rw [whole, List.length_cons] at bound
    omega
  cases run with
  | string whole found => exact (parseChars_length found).trans (inside whole)
  | emptyArray whole closed => exact (expect_length closed).trans (inside whole)
  | array whole found => exact (elements found).trans (inside whole)
  | emptyObject whole closed => exact (expect_length closed).trans (inside whole)
  | object whole found => exact (members found).trans (inside whole)
  | word found => exact (parseWord_cases found).1.trans_le bound
  | number found => exact (parseNumber_length found).trans_le bound

/-- Every successful parse consumes at least one character. -/
theorem parse_length (fuel : Nat) :
    (∀ {text rest value}, parseValue fuel text = some (value, rest) → rest.length < text.length) ∧
      (∀ {text rest items}, parseElements fuel text = some (items, rest) → rest.length < text.length) ∧
      ∀ {text rest members}, parseMembers fuel text = some (members, rest) → rest.length < text.length := by
  induction fuel with
  | zero =>
    refine ⟨fun run => ?_, fun run => ?_, fun run => ?_⟩
    · cases run
    · cases run
    · cases run
  | succ fuel ih =>
    obtain ⟨values, elements, members⟩ := ih
    refine ⟨fun run => (parseValue_run run).length elements members, fun run => ?_, fun run => ?_⟩
    · obtain ⟨item, after, first, ⟨next, more, separator, later, _⟩ | ⟨closed, _⟩⟩ := parseElements_run run
      · exact (elements later).trans ((expect_length separator).trans (values first))
      · exact (expect_length closed).trans (values first)
    · obtain ⟨opened, key, afterKey, start, value, after, mark, chars, separator, first, tail⟩ := parseMembers_run run
      have consumed : after.length < _ :=
        (values first).trans ((expect_length separator).trans ((parseChars_length chars).trans (expect_length mark)))
      obtain ⟨next, more, another, later, _⟩ | ⟨closed, _⟩ := tail
      · exact (members later).trans ((expect_length another).trans consumed)
      · exact (expect_length closed).trans consumed

/-- The fuel never decides: from the bound that `parse` uses on, more of it changes nothing. -/
theorem parse_stable (fuel : Nat) :
    (∀ {other : Nat} {text : JsString}, 2 * text.length + 1 ≤ fuel → 2 * text.length + 1 ≤ other →
      parseValue fuel text = parseValue other text) ∧
    (∀ {other : Nat} {text : JsString}, 2 * text.length + 2 ≤ fuel → 2 * text.length + 2 ≤ other →
      parseElements fuel text = parseElements other text) ∧
    ∀ {other : Nat} {text : JsString}, 2 * text.length + 2 ≤ fuel → 2 * text.length + 2 ≤ other →
      parseMembers fuel text = parseMembers other text := by
  induction fuel with
  | zero => exact ⟨fun enough => by omega, fun enough => by omega, fun enough => by omega⟩
  | succ fuel ih =>
    obtain ⟨values, elements, members⟩ := ih
    refine ⟨?_, ?_, ?_⟩
    · rintro (_ | other) text enough enoughOther
      · omega
      rw [parseValue, parseValue]
      have bound := skipWhite_length text
      cases whole : skipWhite text with
      | nil => rfl
      | cons c tail =>
        rw [whole, List.length_cons] at bound
        have sameElements : parseElements fuel tail = parseElements other tail := elements (by omega) (by omega)
        have sameMembers : parseMembers fuel tail = parseMembers other tail := members (by omega) (by omega)
        simp only [sameElements, sameMembers]
    · rintro (_ | other) text enough enoughOther
      · omega
      have same : parseValue fuel text = parseValue other text := values (by omega) (by omega)
      rw [parseElements, parseElements, same]
      cases first : parseValue other text with
      | none => rfl
      | some found =>
        obtain ⟨item, after⟩ := found
        have consumed := (parse_length other).1 first
        simp only [Option.bind_some]
        cases separator : expect comma after with
        | none => rfl
        | some next =>
          have shorter := expect_length separator
          have later : parseElements fuel next = parseElements other next := elements (by omega) (by omega)
          simp only [later]
    · rintro (_ | other) text enough enoughOther
      · omega
      rw [parseMembers, parseMembers]
      cases mark : expect quoteMark text with
      | none => rfl
      | some opened =>
        have openedShorter := expect_length mark
        simp only [Option.bind_some]
        cases chars : parseChars opened with
        | none => rfl
        | some found =>
          obtain ⟨key, afterKey⟩ := found
          have keyShorter := parseChars_length chars
          simp only [Option.bind_some]
          cases separator : expect colon afterKey with
          | none => rfl
          | some start =>
            have startShorter := expect_length separator
            have same : parseValue fuel start = parseValue other start := values (by omega) (by omega)
            simp only [Option.bind_some, same]
            cases first : parseValue other start with
            | none => rfl
            | some found =>
              obtain ⟨value, after⟩ := found
              have consumed := (parse_length other).1 first
              simp only [Option.bind_some]
              cases another : expect comma after with
              | none => rfl
              | some next =>
                have shorter := expect_length another
                have later : parseMembers fuel next = parseMembers other next := members (by omega) (by omega)
                simp only [later]

theorem parseValue_stable {fuel : Nat} {text : JsString} (enough : 2 * text.length + 1 ≤ fuel) :
    parseValue fuel text = parseValue (2 * text.length + 1) text :=
  (parse_stable fuel).1 enough le_rfl

/-- Members with well-formed and defined values build a well-formed object of defined values. -/
theorem ofMembers_spec {members : List (JsString × JsValue)} {P : JsValue → Prop}
    (each : ∀ member ∈ members, P member.2) :
    Properties.Ordered (Properties.ofMembers members) ∧ ∀ property ∈ Properties.ofMembers members, P property.2 := by
  suffices general : ∀ start : Properties, Properties.Ordered start → (∀ property ∈ start, P property.2) →
      Properties.Ordered (members.foldl (fun properties member => properties.set member.1 member.2) start) ∧
        ∀ property ∈ members.foldl (fun properties member => properties.set member.1 member.2) start, P property.2 from
    general [] .nil (by simp)
  induction members with
  | nil => exact fun start ordered old => ⟨ordered, old⟩
  | cons member rest ih =>
    intro start ordered old
    refine ih (fun later found => each later (List.mem_cons_of_mem _ found)) _
      (Properties.set_ordered ordered member.1 member.2) ?_
    intro property found
    rcases Properties.set_mem found with rfl | earlier
    · exact each member (List.mem_cons_self ..)
    · exact old property earlier

theorem wellFormedItems_iff {items : List JsValue} : WellFormedItems items ↔ ∀ item ∈ items, WellFormed item := by
  induction items with
  | nil => simp [WellFormedItems]
  | cons item rest ih => simp [WellFormedItems, ih]

theorem wellFormedMembers_iff {members : List (JsString × JsValue)} :
    WellFormedMembers members ↔ ∀ member ∈ members, WellFormed member.2 := by
  induction members with
  | nil => simp [WellFormedMembers]
  | cons member rest ih => simp [WellFormedMembers, ih]

theorem parse_wellFormed_fuel (fuel : Nat) :
    (∀ {text rest value}, parseValue fuel text = some (value, rest) → WellFormed value ∧ value ≠ .undefined) ∧
      (∀ {text rest items}, parseElements fuel text = some (items, rest) → ∀ item ∈ items, WellFormed item) ∧
      ∀ {text rest members}, parseMembers fuel text = some (members, rest) →
        ∀ member ∈ members, WellFormed member.2 ∧ member.2 ≠ .undefined := by
  induction fuel with
  | zero =>
    refine ⟨fun run => ?_, fun run => ?_, fun run => ?_⟩
    · cases run
    · cases run
    · cases run
  | succ fuel ih =>
    obtain ⟨values, elements, members⟩ := ih
    refine ⟨fun run => ?_, fun run => ?_, fun run => ?_⟩
    · cases parseValue_run run with
      | string => exact ⟨trivial, nofun⟩
      | emptyArray => exact ⟨trivial, nofun⟩
      | array _ found => exact ⟨wellFormedItems_iff.mpr (elements found), nofun⟩
      | emptyObject => exact ⟨⟨.nil, trivial⟩, nofun⟩
      | object _ found =>
        obtain ⟨ordered, each⟩ :=
          ofMembers_spec (P := fun value => WellFormed value ∧ value ≠ .undefined) (members found)
        exact ⟨⟨ordered, wellFormedMembers_iff.mpr fun property member => (each property member).1⟩, nofun⟩
      | word found =>
        rcases (parseWord_cases found).2 with rfl | ⟨b, rfl⟩
        · exact ⟨trivial, nofun⟩
        · exact ⟨trivial, nofun⟩
      | number => exact ⟨trivial, nofun⟩
    · obtain ⟨item, after, first, ⟨next, more, _, later, rfl⟩ | ⟨_, rfl⟩⟩ := parseElements_run run
      · intro found member
        rcases List.mem_cons.mp member with rfl | old
        · exact (values first).1
        · exact elements later found old
      · intro found member
        rw [List.mem_singleton.mp member]
        exact (values first).1
    · obtain ⟨_, key, _, _, value, after, _, _, _, first, ⟨next, more, _, later, rfl⟩ | ⟨_, rfl⟩⟩ :=
        parseMembers_run run
      · intro found member
        rcases List.mem_cons.mp member with rfl | old
        · exact values first
        · exact members later found old
      · intro found member
        rw [List.mem_singleton.mp member]
        exact values first

/-- What `JSON.parse` accepts is well formed. -/
theorem parse_wellFormed {text : JsString} {value : JsValue} (run : parse text = some value) : WellFormed value := by
  obtain ⟨⟨found, rest⟩, first, run⟩ := Option.bind_eq_some_iff.mp run
  dsimp only at run
  split at run
  · cases run
    exact ((parse_wellFormed_fuel _).1 first).1
  · cases run

/-- No property of a parsed object is undefined. -/
theorem parse_object_defined {text : JsString} {properties : Properties}
    (run : parse text = some (.object properties)) :
    ∀ property ∈ properties, property.2 ≠ .undefined := by
  obtain ⟨⟨found, rest⟩, first, run⟩ := Option.bind_eq_some_iff.mp run
  dsimp only at run
  split at run
  · cases run
    cases parseValue_run first with
    | emptyObject => simp
    | object _ members =>
      exact (ofMembers_spec (P := (· ≠ .undefined)) fun member each =>
        ((parse_wellFormed_fuel _).2.2 members member each).2).2
    | word found => rcases (parseWord_cases found).2 with impossible | ⟨b, impossible⟩ <;> cases impossible
  · cases run

end Json

end Ecma
