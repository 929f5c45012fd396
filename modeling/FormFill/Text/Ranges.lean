namespace FormFill.Text

/-- Whether a number lies in one of some ascending, inclusive ranges. -/
def inRanges : List (Nat × Nat) → Nat → Bool
  | [], _ => false
  | (low, high) :: rest, n => if n < low then false else n ≤ high || inRanges rest n

end FormFill.Text
