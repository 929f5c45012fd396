import FormFill.Text.Quoted

namespace FormFill.Text

/-- Why a text has no UTF-8 form: the halves of character pairs that stand on their own at a position. -/
structure EncodeFault where
  units : List Nat
  position : Nat
deriving DecidableEq, Repr

def EncodeFault.message (fault : EncodeFault) : String :=
  let first := fault.position
  let last := first + fault.units.length - 1
  match fault.units with
  | [unit] =>
    let code := String.ofList (hexDigits 4 unit)
    s!"'utf-8' codec can't encode character '\\u{code}' in position {first}: surrogates not allowed"
  | _ => s!"'utf-8' codec can't encode characters in position {first}-{last}: surrogates not allowed"

def isHalf (unit : Nat) : Bool :=
  0xD800 ≤ unit && unit < 0xE000

/-- Private characters for the halves of character pairs. A text can hold such a half on its own, but it is no
    character; any private characters will do for them that the text does not hold otherwise. -/
structure Halves where
  stand : Nat → Char
  unit? : Char → Option Nat
  unit?_eq_some_iff : ∀ c unit, unit? c = some unit ↔ isHalf unit = true ∧ stand unit = c
  isPrivate : ∀ unit, isHalf unit = true → 0xF0000 ≤ (stand unit).toNat

theorem toNat_ofNat_of_isValidChar {n : Nat} (valid : n.isValidChar) : (Char.ofNat n).toNat = n := by
  rw [Char.ofNat, dif_pos valid]
  rfl

namespace Halves

/-- Private characters of the last plane that are hardly ever used. -/
def usual : Halves where
  stand unit := Char.ofNat (0xFC800 + unit)
  unit? c := if 0x10A000 ≤ c.toNat ∧ c.toNat < 0x10A800 then some (c.toNat - 0xFC800) else none
  unit?_eq_some_iff := by
    intro c unit
    simp only [isHalf, Option.ite_none_right_eq_some, Option.some.injEq, Bool.and_eq_true, decide_eq_true_eq]
    constructor
    · rintro ⟨late, rfl⟩
      have back : 0xFC800 + (c.toNat - 0xFC800) = c.toNat := by omega
      exact ⟨⟨by omega, by omega⟩, by rw [back, Char.ofNat_toNat]⟩
    · rintro ⟨half, rfl⟩
      rw [toNat_ofNat_of_isValidChar (.inr ⟨by omega, by omega⟩)]
      exact ⟨⟨by omega, by omega⟩, by omega⟩
  isPrivate := by
    intro unit half
    simp only [isHalf, Bool.and_eq_true, decide_eq_true_eq] at half
    rw [toNat_ofNat_of_isValidChar (.inr ⟨by omega, by omega⟩)]
    omega

/-- Where the encoding of a text fails that refuses some of the halves, with all the halves that follow each
    other there. -/
def faultWhere (halves : Halves) (refuses : Nat → Bool) (text : List Char) : Option EncodeFault :=
  match text.dropWhile fun c => !(halves.unit? c).any refuses with
  | [] => none
  | rest =>
    let run := rest.takeWhile fun c => (halves.unit? c).isSome
    some ⟨run.filterMap halves.unit?, text.length - rest.length⟩

/-- Why a text has no UTF-8 form, if that is so. -/
def fault? (halves : Halves) (text : List Char) : Option EncodeFault :=
  halves.faultWhere (fun _ => true) text

/-- Halves that stand for bytes of a name that is not UTF-8. -/
def isEscapedByte (unit : Nat) : Bool :=
  0xDC80 ≤ unit && unit < 0xDD00

/-- Why a text cannot be the name of a file, if that is so. -/
def nameFault? (halves : Halves) (text : List Char) : Option EncodeFault :=
  halves.faultWhere (fun unit => !isEscapedByte unit) text

end Halves
end FormFill.Text
