import FormFill.Json
import FormFill.Schema.Checked
import FormFill.Schema.Numeral

namespace FormFill.Schema

def readText : Json → Checked String
  | .str text => .valid text
  | _ => .fail .notText

/-- Null stands for an attribute that is not given. -/
def readOptional {α : Type} (read : Json → Checked α) : Json → Checked (Option α)
  | .null => .valid none
  | other => (read other).map some

def trueWords : List String := ["1", "true", "t", "yes", "y", "on"]

def falseWords : List String := ["0", "false", "f", "no", "n", "off"]

/-- The first number beyond those of 64 bits. -/
def wordBound : Int := Nat.pow 2 63

/-- The numbers of 64 bits, which are compared with the two truth values. -/
def isWordSized (n : Int) : Bool :=
  -wordBound ≤ n && n < wordBound

/-- Doubles beyond this size are not taken for whole numbers. -/
def isSafeWhole (n : Int) : Bool :=
  -wordBound < n && n < wordBound

def boolOfInt (n : Int) : Checked Bool :=
  if n = 0 then .valid false else if n = 1 then .valid true else .fail .boolUnread

def readBool : Json → Checked Bool
  | .bool value => .valid value
  | .int n => if isWordSized n then boolOfInt n else .fail .notBool
  | .float x =>
    match x.toInt? with
    | some n => if isSafeWhole n then boolOfInt n else .fail .notBool
    | none => .fail .notBool
  | .str text =>
    let word := String.ofList (text.toList.map Char.toLower)
    if word ∈ trueWords then .valid true
    else if word ∈ falseWords then .valid false
    else .fail .boolUnread
  | _ => .fail .notBool

def readInt : Json → Checked Int
  | .int n => .valid n
  | .bool value => .valid (if value then 1 else 0)
  | .float .nan | .float (.infinite _) => .fail .notFinite
  | .float x =>
    match x.toInt? with
    | some n => if isSafeWhole n then .valid n else .fail .intTooLarge
    | none => .fail .intFractional
  | .str text =>
    match Numeral.read text.toList with
    | .ok n => .valid n
    | .error .overlong => .fail .intTooLarge
    | .error .unread => .fail .intUnread
  | _ => .fail .notInt

/-- A whole number that is not negative. -/
def readNat (value : Json) : Checked Nat :=
  (readInt value).andThen fun n => if n < 0 then .fail .negative else .valid n.toNat

/-- One of some words, each standing for a value. -/
def readAmong {α : Type} (fixed : Bool) (choices : List (String × α)) (value : Json) : Checked α :=
  let refusal : Checked α := .fail (.notAmong fixed (choices.map (·.1)))
  match value with
  | .str text =>
    match choices.lookup text with
    | some choice => .valid choice
    | none => refusal
  | _ => refusal

end FormFill.Schema
