import TrueMark.UserApp.Cleaning
import TrueMark.UserApp.Display

namespace TrueMark.UserApp
open Ecma Aptos Qr

/-- Every panel that an input leads to shows the decimal notation of the
integer that its view call asks for. -/
def ShowsQueried (environment : Environment) (text : JsString) : Prop :=
  ∀ reply now result, readResponse environment (cleanProductId text) reply now = .ok result →
    ∃ queried n, (viewPayload environment (cleanProductId text)).arguments[1]? = some (.number queried) ∧
      queried.natural = some n ∧ result.serialNumber = .string (decimalText n)

/-- An id without leading zeros whose integer is a number of the language. -/
def ExactId (clean : JsString) : Prop :=
  (clean.head? = some (digitUnit 0) → clean.length = 1) ∧
    binary64.Representable (digitsValue clean * binary64.one)

theorem decimalText_canonical (n : Nat) :
    (decimalText n).head? = some (digitUnit 0) → (decimalText n).length = 1 := by
  intro leading
  rcases Nat.eq_zero_or_pos n with rfl | positive
  · rfl
  · obtain ⟨d, rest, text, above, below⟩ := decimalText_head positive
    rw [text, List.head?_cons] at leading
    have same := congrArg digitValue (Option.some.inj leading)
    rw [digitValue_digitUnit below, digitValue_digitUnit (by decide)] at same
    omega

theorem natural_parseInt {clean : JsString} (passed : idError clean = none) :
    (∃ n, (parseInt clean).natural = some n ∧ decimalText n = clean) ↔ ExactId clean := by
  obtain ⟨nonempty, all⟩ := idError_eq_none.mp passed
  rw [parseInt_digits nonempty all]
  constructor
  · rintro ⟨n, kept, rfl⟩
    rw [digitsValue_decimalText, Floating.natural_ofUnits] at kept
    exact ⟨decimalText_canonical n, by rw [digitsValue_decimalText]; exact kept⟩
  · rintro ⟨canonical, representable⟩
    exact ⟨digitsValue clean, Floating.natural_ofUnits.mpr representable,
      decimalText_digitsValue nonempty all canonical⟩

theorem showsQueried_eq {environment : Environment} {text : JsString} :
    ShowsQueried environment text ↔
      ∃ n, (parseInt (cleanProductId text)).natural = some n ∧ decimalText n = cleanProductId text := by
  constructor
  · intro shows
    obtain ⟨queried, n, asked, whole, serial⟩ := shows productFound sampleTime _ rfl
    obtain rfl : parseInt (cleanProductId text) = queried := by
      simp only [viewPayload, List.getElem?_cons_succ, List.getElem?_cons_zero] at asked
      exact JsValue.number.inj (Option.some.inj asked)
    exact ⟨n, whole, (JsValue.string.inj serial).symm⟩
  · rintro ⟨n, whole, written⟩ reply now result answered
    obtain ⟨_, _, _, _, _, _, serial, _⟩ := readResponse_ok answered
    exact ⟨_, n, rfl, whole, by rw [serial, written]⟩

/-- The panel shows the queried id exactly for the exact ids, and these do not
collide with each other. -/
theorem showsQueried_iff {environment : Environment} {text : JsString}
    (passed : idError (cleanProductId text) = none) :
    (ShowsQueried environment text ↔ ExactId (cleanProductId text)) ∧
      ∀ other, idError (cleanProductId other) = none → ExactId (cleanProductId text) → ExactId (cleanProductId other) →
        cleanProductId text ≠ cleanProductId other →
        (viewPayload environment (cleanProductId text)).arguments ≠
          (viewPayload environment (cleanProductId other)).arguments := by
  refine ⟨showsQueried_eq.trans (natural_parseInt passed), fun other otherPassed exact otherExact different same => ?_⟩
  obtain ⟨n, whole, written⟩ := (natural_parseInt passed).mpr exact
  obtain ⟨m, otherWhole, otherWritten⟩ := (natural_parseInt otherPassed).mpr otherExact
  simp only [viewPayload, List.cons.injEq, JsValue.number.injEq, and_true, true_and] at same
  rw [same, otherWhole] at whole
  rw [← written, ← otherWritten, Option.some.inj whole] at different
  exact different rfl

theorem showsQueried_fortyTwo : ShowsQueried sampleEnvironment (js " 42 ") := by
  have passed : idError (cleanProductId (js " 42 ")) = none := rfl
  have small : digitsValue (cleanProductId (js " 42 ")) ≤ 2 ^ binary64.precision :=
    TimeValue.bound_precision (by decide)
  exact (showsQueried_iff passed).1.mpr ⟨by decide, Format.representable_integer small⟩

/-- Two accepted ids ask for the same product, and each panel shows its own. -/
theorem showsQueried_leadingZero :
    idError (cleanProductId (js "01")) = none ∧
      (∃ result, readResponse sampleEnvironment (cleanProductId (js "01")) productFound sampleTime = .ok result ∧
        result.serialNumber = .string (js "01")) ∧
      viewPayload sampleEnvironment (cleanProductId (js "01")) =
        viewPayload sampleEnvironment (cleanProductId (js "1")) ∧
      ¬ShowsQueried sampleEnvironment (js "01") := by
  have same : parseInt (js "01") = parseInt (js "1") := by
    rw [parseInt_digits (by decide) (List.all_eq_true.mp rfl), parseInt_digits (by decide) (List.all_eq_true.mp rfl)]
    rfl
  refine ⟨rfl, ⟨_, rfl, rfl⟩, congrArg (fun queried => ViewPayload.mk _ [_, .number queried]) same, fun shows => ?_⟩
  obtain ⟨n, _, written⟩ := showsQueried_eq.mp shows
  have canonical := decimalText_canonical n
  rw [written] at canonical
  exact absurd (canonical rfl) (by decide)

end TrueMark.UserApp
