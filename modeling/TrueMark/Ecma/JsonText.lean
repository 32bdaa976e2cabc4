import TrueMark.Ecma.Json

namespace Ecma

namespace Json

theorem unescape_of_lookup {c letter : CodeUnit} (found : escapes.lookup c = some letter) :
    letter ≠ lowerU ∧ unescape letter = some c := by
  have table : escapes.all (fun entry => entry.2 ≠ lowerU ∧ unescape entry.2 = some entry.1) = true := by decide
  obtain ⟨before, after, split, _⟩ := List.lookup_eq_some_iff.mp found
  exact of_decide_eq_true (List.all_eq_true.mp table (c, letter) (by rw [split]; simp))

theorem quoteUnit_plain {c : CodeUnit} (plain : escapes.lookup c = none) : c ≠ quoteMark ∧ c ≠ backslash := by
  constructor
  · rintro rfl
    revert plain
    decide
  · rintro rfl
    revert plain
    decide

theorem hexQuad_unicodeEscape (c : CodeUnit) :
    hexQuad (hexUnit (c.toNat / 4096)) (hexUnit (c.toNat / 256 % 16)) (hexUnit (c.toNat / 16 % 16))
      (hexUnit (c.toNat % 16)) = some c := by
  have bound := c.toNat_lt
  have whole : c.toNat / 4096 * 4096 + c.toNat / 256 % 16 * 256 + c.toNat / 16 % 16 * 16 + c.toNat % 16 = c.toNat := by
    omega
  simp only [hexQuad, hexValue_hexUnit _ (show c.toNat / 4096 < 16 by omega),
    hexValue_hexUnit _ (Nat.mod_lt (c.toNat / 256) (by decide : 0 < 16)),
    hexValue_hexUnit _ (Nat.mod_lt (c.toNat / 16) (by decide : 0 < 16)),
    hexValue_hexUnit _ (Nat.mod_lt c.toNat (by decide : 0 < 16)), Option.bind_eq_bind, Option.bind_some, whole,
    UInt16.ofNat_toNat]

theorem parseChars_close (rest : JsString) : parseChars (quoteMark :: rest) = some ([], rest) := by
  rw [parseChars.eq_def]
  exact if_pos rfl

theorem parseChars_plain {c : CodeUnit} (mark : c ≠ quoteMark) (slash : c ≠ backslash) (printable : 0x20 ≤ c.toNat)
    (text : JsString) : parseChars (c :: text) = (parseChars text).map fun (more, rest) => (c :: more, rest) := by
  rw [parseChars.eq_def]
  simp only [if_neg mark, if_neg slash, if_neg (Nat.not_lt.mpr printable)]

theorem parseChars_letter {c letter : CodeUnit} (notUnicode : letter ≠ lowerU) (named : unescape letter = some c)
    (text : JsString) :
    parseChars (backslash :: letter :: text) = (parseChars text).map fun (more, rest) => (c :: more, rest) := by
  rw [parseChars.eq_def]
  simp only [if_neg (show backslash ≠ quoteMark by decide), if_true, if_neg notUnicode, named, Option.bind_some]

theorem parseChars_unicode {c h₁ h₂ h₃ h₄ : CodeUnit} (quad : hexQuad h₁ h₂ h₃ h₄ = some c) (text : JsString) :
    parseChars (backslash :: lowerU :: h₁ :: h₂ :: h₃ :: h₄ :: text) =
      (parseChars text).map fun (more, rest) => (c :: more, rest) := by
  rw [parseChars.eq_def]
  simp only [if_neg (show backslash ≠ quoteMark by decide), if_true, quad, Option.bind_some]

/-- Reading one quoted code unit gives that code unit back, in front of what follows. -/
theorem parseChars_quoteUnit (c : CodeUnit) (text : JsString) :
    parseChars (quoteUnit c ++ text) = (parseChars text).map fun (more, rest) => (c :: more, rest) := by
  unfold quoteUnit
  split
  · rename_i letter found
    obtain ⟨notUnicode, named⟩ := unescape_of_lookup found
    exact parseChars_letter notUnicode named text
  · rename_i plain
    split
    · exact parseChars_unicode (hexQuad_unicodeEscape c) text
    · rename_i ordinary
      obtain ⟨mark, slash⟩ := quoteUnit_plain plain
      exact parseChars_plain mark slash (by omega) text

theorem surrogate_plain {c : CodeUnit} (high : 0xD800 ≤ c.toNat) :
    c ≠ quoteMark ∧ c ≠ backslash ∧ 0x20 ≤ c.toNat := by
  refine ⟨?_, ?_, by omega⟩
  · rintro rfl
    revert high
    decide
  · rintro rfl
    revert high
    decide

/-- Every string, lone surrogates and control characters included, survives quoting. -/
theorem parseChars_quoteUnits (s rest : JsString) :
    parseChars (quoteUnits s ++ quoteMark :: rest) = some (s, rest) := by
  induction s using quoteUnits.induct with
  | case1 => exact parseChars_close rest
  | case2 c =>
    rw [quoteUnits, parseChars_quoteUnit, parseChars_close]
    rfl
  | case3 c d tail pair ih =>
    have halves := pair
    simp only [Bool.and_eq_true, leadSurrogate, trailSurrogate, decide_eq_true_eq] at halves
    obtain ⟨cMark, cSlash, cPrintable⟩ := surrogate_plain halves.1.1
    obtain ⟨dMark, dSlash, dPrintable⟩ := surrogate_plain (show 0xD800 ≤ d.toNat by omega)
    rw [quoteUnits, if_pos pair, List.cons_append, List.cons_append, parseChars_plain cMark cSlash cPrintable,
      parseChars_plain dMark dSlash dPrintable, ih]
    rfl
  | case4 c d tail single ih =>
    rw [quoteUnits, if_neg single, List.append_assoc, parseChars_quoteUnit, ih]
    rfl

/-- What may follow a number without prolonging it. -/
def NumberEnd (rest : JsString) : Prop :=
  ∀ c ∈ rest.head?, isDigit c = false ∧ c ≠ Literal.point ∧ c ≠ Literal.lowerE ∧ c ≠ Literal.upperE

theorem takeWhile_digits {digits rest : JsString} (all : ∀ c ∈ digits, isDigit c = true)
    (stop : ∀ c ∈ rest.head?, isDigit c = false) :
    (digits ++ rest).takeWhile isDigit = digits ∧ (digits ++ rest).dropWhile isDigit = rest := by
  have none : rest.takeWhile isDigit = [] ∧ rest.dropWhile isDigit = rest := by
    cases rest with
    | nil => exact ⟨rfl, rfl⟩
    | cons c tail => simp [stop c (by simp)]
  rw [List.takeWhile_append_of_pos all, List.dropWhile_append_of_pos all, none.1, none.2]
  exact ⟨List.append_nil _, rfl⟩

theorem parseExponent_text {exponent : Option (Bool × JsString)} {rest : JsString}
    (wellFormed : ∀ negative digits, exponent = some (negative, digits) →
      digits ≠ [] ∧ ∀ c ∈ digits, isDigit c = true) (stop : NumberEnd rest) :
    parseExponent (Literal.exponentText exponent ++ rest) = some (exponent, rest) := by
  rcases exponent with _ | ⟨negative, digits⟩
  · rw [Literal.exponentText, List.nil_append]
    cases rest with
    | nil => rfl
    | cons c tail =>
      obtain ⟨_, _, lower, upper⟩ := stop c (by simp)
      rw [parseExponent, if_neg (by simp [lower, upper])]
  · obtain ⟨nonempty, all⟩ := wellFormed negative digits rfl
    obtain ⟨taken, dropped⟩ := takeWhile_digits all (fun c member => (stop c member).1)
    have sign : parseExponentSign ((if negative then Literal.minus else Literal.plus) :: (digits ++ rest)) =
        (negative, digits ++ rest) := by
      cases negative with
      | true => simp [parseExponentSign]
      | false => simp [parseExponentSign, show Literal.plus ≠ Literal.minus by decide]
    rw [Literal.exponentText, List.cons_append, List.cons_append, parseExponent, if_pos (Or.inl rfl), sign]
    simp only [taken, dropped, if_neg nonempty]

theorem exponentText_head {exponent : Option (Bool × JsString)} {rest : JsString} (stop : NumberEnd rest) :
    ∀ c ∈ (Literal.exponentText exponent ++ rest).head?, isDigit c = false ∧ c ≠ Literal.point := by
  rcases exponent with _ | ⟨negative, digits⟩
  · intro c member
    exact ⟨(stop c member).1, (stop c member).2.1⟩
  · intro c member
    simp only [Literal.exponentText, List.cons_append, List.head?_cons, Option.mem_some_iff] at member
    subst c
    decide

theorem parseFraction_text {fraction rest : JsString} (all : ∀ c ∈ fraction, isDigit c = true)
    (stop : ∀ c ∈ rest.head?, isDigit c = false ∧ c ≠ Literal.point) :
    parseFraction (Literal.fractionText fraction ++ rest) = some (fraction, rest) := by
  unfold Literal.fractionText
  split
  · rename_i empty
    subst fraction
    rw [List.nil_append]
    cases rest with
    | nil => rfl
    | cons c tail => rw [parseFraction, if_neg (stop c (by simp)).2]
  · rename_i nonempty
    obtain ⟨taken, dropped⟩ := takeWhile_digits all (fun c member => (stop c member).1)
    rw [List.cons_append, parseFraction, if_pos rfl, taken, dropped, if_neg nonempty]

theorem fractionText_head {fraction rest : JsString} (stop : ∀ c ∈ rest.head?, isDigit c = false) :
    ∀ c ∈ (Literal.fractionText fraction ++ rest).head?, isDigit c = false := by
  unfold Literal.fractionText
  split
  · exact stop
  · intro c member
    simp only [List.cons_append, List.head?_cons, Option.mem_some_iff] at member
    subst c
    decide

theorem parseSign_text (literal : Literal) (wellFormed : literal.WellFormed) (rest : JsString) :
    parseSign ((if literal.negative then [Literal.minus] else []) ++ (literal.integer ++ rest)) =
      (literal.negative, literal.integer ++ rest) := by
  cases literal.negative with
  | true => simp [parseSign]
  | false =>
    obtain ⟨nonempty, all, _⟩ := wellFormed.integer
    obtain ⟨c, tail, split⟩ := List.exists_cons_of_ne_nil nonempty
    have digit := all c (by simp [split])
    have different : c ≠ Literal.minus := by
      rintro rfl
      revert digit
      decide
    simp [split, parseSign, different]

/-- A well-formed literal is read to its end and with its own value. -/
theorem parseNumber_text {literal : Literal} (wellFormed : literal.WellFormed) {rest : JsString}
    (stop : NumberEnd rest) : parseNumber (literal.text ++ rest) = some (literal.value, rest) := by
  obtain ⟨nonempty, all, leading⟩ := wellFormed.integer
  have exponentHead := @exponentText_head literal.exponent rest stop
  have fractionHead := @fractionText_head literal.fraction _ (fun c member => (exponentHead c member).1)
  obtain ⟨taken, dropped⟩ := takeWhile_digits all fractionHead
  have accepted : ¬(literal.integer = [] ∨
      literal.integer.head? = some (digitUnit 0) ∧ literal.integer.length ≠ 1) := by
    rintro (empty | ⟨zero, long⟩)
    · exact nonempty empty
    · exact long (leading zero)
  unfold parseNumber
  rw [Literal.text, List.append_assoc, List.append_assoc, List.append_assoc, parseSign_text literal wellFormed]
  simp only [taken, dropped, if_neg accepted]
  rw [parseFraction_text wellFormed.fraction exponentHead, Option.bind_some]
  simp only [parseExponent_text wellFormed.exponent stop, Option.map_some]

/-- The first character of a literal is a minus sign or a digit. -/
theorem literal_head {literal : Literal} (wellFormed : literal.WellFormed) :
    ∃ c tail, literal.text = c :: tail ∧ (c = Literal.minus ∨ isDigit c = true) := by
  obtain ⟨nonempty, all, _⟩ := wellFormed.integer
  obtain ⟨c, tail, split⟩ := List.exists_cons_of_ne_nil nonempty
  have digit := all c (by simp [split])
  rw [Literal.text, split]
  cases literal.negative with
  | true => exact ⟨Literal.minus, _, rfl, Or.inl rfl⟩
  | false => exact ⟨c, _, rfl, Or.inr digit⟩

end Json

end Ecma
