import FormFill.Text.Half
import Mathlib.Data.List.TakeWhile

namespace FormFill.Text.Halves

variable {halves : Halves} {refuses : Nat → Bool} {text : List Char}

theorem faultWhere_eq_none_iff :
    halves.faultWhere refuses text = none ↔ ∀ c ∈ text, (halves.unit? c).any refuses = false := by
  have whole : halves.faultWhere refuses text = none ↔
      text.dropWhile (fun c => !(halves.unit? c).any refuses) = [] := by
    unfold faultWhere
    split
    · rename_i ended
      simp [ended]
    · rename_i rest further
      simpa using further
  rw [whole, List.dropWhile_eq_nil_iff]
  simp

theorem fault?_eq_none_iff : halves.fault? text = none ↔ ∀ c ∈ text, halves.unit? c = none := by
  simp [fault?, faultWhere_eq_none_iff]

theorem unit?_of_low {c : Char} (low : c.toNat < 0xF0000) : halves.unit? c = none := by
  cases found : halves.unit? c with
  | none => rfl
  | some unit =>
    obtain ⟨half, rfl⟩ := (halves.unit?_eq_some_iff c unit).mp found
    have high := halves.isPrivate unit half
    omega

theorem fault?_of_low (low : ∀ c ∈ text, c.toNat < 0xF0000) : halves.fault? text = none :=
  fault?_eq_none_iff.mpr fun c member => unit?_of_low (low c member)

end FormFill.Text.Halves
