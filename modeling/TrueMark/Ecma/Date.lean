import TrueMark.Ecma.Convert

namespace Ecma

/-- The number of the first day of a year, with the first of January 1970 as day 0. -/
def dayFromYear (year : Int) : Int :=
  365 * (year - 1970) + (year - 1969) / 4 - (year - 1901) / 100 + (year - 1601) / 400

/-- The year of a day. The mean length of a year gives it up to one. -/
def yearFromDay (day : Int) : { year : Int // dayFromYear year ≤ day ∧ day < dayFromYear (year + 1) } :=
  let guess := 1970 + 400 * day / 146097
  if early : day < dayFromYear guess then
    ⟨guess - 1, by unfold dayFromYear; omega, by rwa [Int.sub_add_cancel]⟩
  else if late : dayFromYear (guess + 1) ≤ day then ⟨guess + 1, late, by unfold dayFromYear; omega⟩
  else ⟨guess, Int.not_lt.mp early, Int.not_le.mp late⟩

/-- The lengths of the months before December. -/
def monthLengths (year : Int) : List Nat :=
  let leap := year % 4 = 0 ∧ (year % 100 ≠ 0 ∨ year % 400 = 0)
  [31, if leap then 29 else 28, 31, 30, 31, 30, 31, 31, 30, 31, 30]

/-- The month and the day of the month, both from 1, after a number of days. -/
def monthAndDate : List Nat → Nat → Nat × Nat
  | [], days => (1, days + 1)
  | length :: rest, days =>
    if days < length then (1, days + 1)
    else
      let (month, date) := monthAndDate rest (days - length)
      (month + 1, date)

/-- Decimal notation with leading zeros up to a width. -/
def paddedText (width n : Nat) : JsString :=
  List.replicate (width - (decimalText n).length) (digitUnit 0) ++ decimalText n

/-- Years with more than four digits, and those before year 0, have a sign and six digits. -/
def yearText (year : Int) : JsString :=
  if 0 ≤ year ∧ year ≤ 9999 then paddedText 4 year.toNat
  else (if year < 0 then js "-" else js "+") ++ paddedText 6 year.natAbs

/-- The part of `toISOString` before its `T`. -/
def TimeValue.isoDate (time : TimeValue) : JsString :=
  let day := time.milliseconds / 86400000
  let year := (yearFromDay day).val
  let (month, date) := monthAndDate (monthLengths year) (day - dayFromYear year).toNat
  yearText year ++ js "-" ++ paddedText 2 month ++ js "-" ++ paddedText 2 date

example : TimeValue.isoDate ⟨951868799999, by decide⟩ = js "2000-02-29" := by decide

example : TimeValue.isoDate ⟨-8640000000000000, by decide⟩ = js "-271821-04-20" := by decide

end Ecma
