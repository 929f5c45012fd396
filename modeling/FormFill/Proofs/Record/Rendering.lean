import FormFill.Record.Rendering

namespace FormFill

theorem intText_ne_nil (n : Int) : intText n ≠ [] := by
  unfold intText
  split
  · exact List.cons_ne_nil _ _
  · exact Nat.toDigits_ne_nil

namespace Text

theorem joinWith_eq_nil_iff {separator : List Char} (apart : separator ≠ []) (pieces : List (List Char)) :
    joinWith separator pieces = [] ↔ pieces = [] ∨ pieces = [[]] := by
  cases pieces with
  | nil => simp [joinWith]
  | cons piece pieces =>
    cases pieces with
    | nil => simp [joinWith]
    | cons next pieces => simp [joinWith, apart]

end Text

namespace Double

theorem Decimal.text_ne_nil (d : Decimal) : d.text ≠ [] := by
  have digits : Nat.toDigits 10 d.digits ≠ [] := Nat.toDigits_ne_nil
  unfold Decimal.text
  dsimp only
  split
  · split
    · contradiction
    · exact List.cons_ne_nil _ _
    · exact List.cons_ne_nil _ _
  · split
    · simp
    · split <;> simp

theorem text_ne_nil (value : Double) : value.text plainSpelling ≠ [] := by
  cases value with
  | finite negative mantissa exponent =>
    have size : (if mantissa = 0 then ['0', '.', '0'] else (shortest mantissa exponent).text) ≠ [] := by
      split
      · exact List.cons_ne_nil _ _
      · exact Decimal.text_ne_nil _
    cases negative with
    | true => exact List.cons_ne_nil _ _
    | false => exact size
  | infinite negative => cases negative <;> decide
  | nan => decide

end Double

namespace Json

theorem shown_ne_nil (value : Json) : value.shown ≠ [] := by
  cases value with
  | null => simp [shown]
  | bool value => cases value <;> simp [shown]
  | int n => simpa [shown] using intText_ne_nil n
  | float value => simpa [shown] using Double.text_ne_nil value
  | str text => simp [shown, Text.quoted]
  | arr items => simp [shown]
  | obj members => simp [shown]

end Json

namespace Record

theorem scalarText_eq_nil_iff (value : Json) : scalarText value = [] ↔ value = .null ∨ value = .str "" := by
  cases value with
  | null => simp [scalarText]
  | bool value => cases value <;> simp [scalarText, Json.wordText]
  | int n => simpa [scalarText, Json.plain] using Json.shown_ne_nil (.int n)
  | float value =>
    simp only [scalarText, reduceCtorEq, or_self, iff_false]
    split
    · exact intText_ne_nil _
    · exact Double.text_ne_nil value
  | str text => simp [scalarText, Json.plain]
  | arr items => simpa [scalarText, Json.plain] using Json.shown_ne_nil (.arr items)
  | obj members => simpa [scalarText, Json.plain] using Json.shown_ne_nil (.obj members)

/-- What is shown as nothing: null, the empty text, and lists of at most one item if that is shown as
    nothing too. -/
theorem textOf_eq_nil_iff (value : Json) :
    textOf value = [] ↔ value = .null ∨ value = .str "" ∨
      ∃ items, value = .arr items ∧ (items = [] ∨ ∃ item, items = [item] ∧ itemText item = []) := by
  cases value with
  | arr items => simp [textOf, Text.joinWith_eq_nil_iff, List.map_eq_singleton_iff]
  | obj members => simp [textOf, Json.compact]
  | _ => simp [textOf, scalarText_eq_nil_iff]

end Record
end FormFill
