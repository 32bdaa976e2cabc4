import TrueMark.UserApp.Handlers

namespace TrueMark.UserApp
open Ecma

/-- The characters that the pattern of the replacement names. -/
def isPunctuation (c : CodeUnit) : Bool := c = Json.openBrace || c = Json.closeBrace || c = Json.quoteMark

/-- The characters that the input cleaning is about: white space, braces and double quotes. -/
def wraps (c : CodeUnit) : Bool := whiteSpace c || isPunctuation c

/-- White space stands only in front, before all braces and quotes. -/
def WhiteFirst (wrapping : JsString) : Prop := ∀ c ∈ wrapping.dropWhile whiteSpace, whiteSpace c = false

/-- The cleaning finds the digits in their wrapping, and they pass both checks. -/
def Unwraps (front digits back : JsString) : Prop :=
  idError (cleanProductId (front ++ digits ++ back)) = none ∧ cleanProductId (front ++ digits ++ back) = digits

theorem cleanProductId_eq (text : JsString) : cleanProductId text = (trim text).filter fun c => !isPunctuation c := by
  refine List.filter_congr fun c _ => ?_
  simp only [isPunctuation, Bool.not_or, ne_eq, Bool.decide_and, decide_not, Bool.and_assoc]

theorem punctuation_dark {c : CodeUnit} (mark : isPunctuation c = true) :
    whiteSpace c = false ∧ isDigit c = false := by
  simp only [isPunctuation, Bool.or_eq_true, decide_eq_true_eq] at mark
  rcases mark with (rfl | rfl) | rfl <;> exact ⟨rfl, rfl⟩

theorem digit_kept {c : CodeUnit} (digit : isDigit c = true) : isPunctuation c = false := by
  rw [← Bool.not_eq_true]
  intro mark
  rw [(punctuation_dark mark).2] at digit
  cases digit

theorem idError_eq_none {clean : JsString} : idError clean = none ↔ clean ≠ [] ∧ ∀ c ∈ clean, isDigit c = true := by
  unfold idError
  split
  · rename_i empty
    simp [empty]
  · rename_i nonempty
    split
    · rename_i digits
      exact iff_of_true rfl ⟨nonempty, List.all_eq_true.mp digits⟩
    · rename_i other
      exact iff_of_false nofun fun passed => other (List.all_eq_true.mpr passed.2)

/-- Of a trimmed piece of wrapping, the replacement leaves exactly the white space. -/
theorem filter_wrapping {wrapping : JsString} (wrapped : ∀ c ∈ wrapping, wraps c = true) :
    ((wrapping.dropWhile whiteSpace).filter fun c => !isPunctuation c) = [] ↔ WhiteFirst wrapping := by
  rw [List.filter_eq_nil_iff, WhiteFirst]
  refine forall_congr' fun c => forall_congr' fun member => ?_
  have either := wrapped c ((List.dropWhile_sublist whiteSpace).mem member)
  rw [wraps, Bool.or_eq_true] at either
  cases mark : isPunctuation c with
  | true => exact iff_of_true (by simp) (punctuation_dark mark).1
  | false =>
    have white : whiteSpace c = true := either.resolve_right (by simp [mark])
    simp [white]

theorem filter_digits {digits : JsString} (all : ∀ c ∈ digits, isDigit c = true) :
    (digits.filter fun c => !isPunctuation c) = digits :=
  List.filter_eq_self.mpr fun c member => by rw [digit_kept (all c member), Bool.not_false]

/-- The cleaning trims before it deletes, so it unwraps exactly the wrappings
whose white space is all on the outside. -/
theorem unwraps_iff {front digits back : JsString} (nonempty : digits ≠ []) (all : ∀ c ∈ digits, isDigit c = true)
    (wrapsFront : ∀ c ∈ front, wraps c = true) (wrapsBack : ∀ c ∈ back, wraps c = true) :
    Unwraps front digits back ↔ WhiteFirst front ∧ WhiteFirst back.reverse := by
  have trimmed := trim_append nonempty (fun c member => digit_not_white (all c member)) front back
  have cleaned : cleanProductId (front ++ digits ++ back) =
      (front.dropWhile whiteSpace).filter (fun c => !isPunctuation c) ++ digits ++
        ((back.reverse.dropWhile whiteSpace).filter fun c => !isPunctuation c).reverse := by
    rw [cleanProductId_eq, trimmed, List.filter_append, List.filter_append, filter_digits all, List.filter_reverse]
  rw [← filter_wrapping wrapsFront, ← filter_wrapping fun c member => wrapsBack c (List.mem_reverse.mp member)]
  constructor
  · rintro ⟨_, same⟩
    have length := congrArg List.length (cleaned.symm.trans same)
    simp only [List.length_append, List.length_reverse] at length
    exact ⟨List.length_eq_zero_iff.mp (by omega), List.length_eq_zero_iff.mp (by omega)⟩
  · rintro ⟨emptyFront, emptyBack⟩
    rw [emptyFront, emptyBack, List.nil_append, List.reverse_nil, List.append_nil] at cleaned
    rw [Unwraps, cleaned]
    exact ⟨idError_eq_none.mpr ⟨nonempty, all⟩, rfl⟩

theorem clean_digits {text : JsString} (nonempty : text ≠ []) (digits : ∀ c ∈ text, isDigit c = true) :
    idError (cleanProductId text) = none ∧ cleanProductId text = text := by
  have bare : ∀ c ∈ ([] : JsString), wraps c = true := List.forall_mem_nil _
  have first : WhiteFirst [] := (filter_wrapping bare).mp rfl
  have unwraps : Unwraps [] text [] := (unwraps_iff nonempty digits bare bare).mpr ⟨first, first⟩
  rwa [Unwraps, List.nil_append, List.append_nil] at unwraps

/-- Whatever passes the checks is the input without white space, braces and quotes. -/
theorem clean_of_passed {text : JsString} (passed : idError (cleanProductId text) = none) :
    (text.filter fun c => !wraps c) = cleanProductId text := by
  obtain ⟨front, back, split, whiteFront, whiteBack⟩ := trim_split text
  have gone {side : JsString} (white : ∀ c ∈ side, whiteSpace c = true) : (side.filter fun c => !wraps c) = [] :=
    List.filter_eq_nil_iff.mpr fun c member => by simp [wraps, white c member]
  have both : (fun c => !wraps c) = fun c => !whiteSpace c && !isPunctuation c := by
    funext c
    rw [wraps, Bool.not_or]
  have kept : (cleanProductId text).filter (fun c => !whiteSpace c) = cleanProductId text :=
    List.filter_eq_self.mpr fun c member => by
      rw [digit_not_white ((idError_eq_none.mp passed).2 c member), Bool.not_false]
  have inner : ((trim text).filter fun c => !wraps c) = cleanProductId text := by
    rw [both, ← List.filter_filter, ← cleanProductId_eq, kept]
  conv_lhs => rw [split, List.filter_append, List.filter_append, gone whiteFront, gone whiteBack, inner]
  rw [List.nil_append, List.append_nil]

/-- The input cleaning, both ways. -/
theorem cleaning_iff {front digits back : JsString} (nonempty : digits ≠ []) (all : ∀ c ∈ digits, isDigit c = true)
    (wrapsFront : ∀ c ∈ front, wraps c = true) (wrapsBack : ∀ c ∈ back, wraps c = true) (text : JsString) :
    (Unwraps front digits back ↔ WhiteFirst front ∧ WhiteFirst back.reverse) ∧
      (idError (cleanProductId text) = none → (text.filter fun c => !wraps c) = cleanProductId text) := by
  constructor
  · exact unwraps_iff nonempty all wrapsFront wrapsBack
  · intro passed
    exact clean_of_passed passed

theorem cleaning_quoted : Unwraps (js " \x7b\"") (js "123") (js "\"\x7d ") := by
  have front : WhiteFirst (js " \x7b\"") := (filter_wrapping (List.all_eq_true.mp rfl)).mp rfl
  have back : WhiteFirst (js "\"\x7d ").reverse := (filter_wrapping (List.all_eq_true.mp rfl)).mp rfl
  exact (cleaning_iff (List.cons_ne_nil _ _) (List.all_eq_true.mp rfl) (List.all_eq_true.mp rfl)
    (List.all_eq_true.mp rfl) []).1.mpr ⟨front, back⟩

/-- White space inside of the braces survives the cleaning, and the digits are refused. -/
theorem cleaning_spaced :
    idError (cleanProductId (js "\x7b " ++ js "123" ++ js " \x7d")) = some (js "Product ID must be a valid number") ∧
      ¬Unwraps (js "\x7b ") (js "123") (js " \x7d") := by
  have refused : idError (cleanProductId (js "\x7b " ++ js "123" ++ js " \x7d")) =
      some (js "Product ID must be a valid number") := by decide
  refine ⟨refused, fun unwraps => ?_⟩
  rw [Unwraps, refused] at unwraps
  cases unwraps.1

end TrueMark.UserApp
