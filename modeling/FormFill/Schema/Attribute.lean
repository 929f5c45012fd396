import FormFill.Schema.Scalar

namespace FormFill.Schema

/-- A member that an object may have: the keys it may stand under, how its value is read, and what
    it is when it is absent. -/
structure Attribute (α : Type) where
  spellings : List String
  read : Json → Checked α
  fallback : Option α

namespace Attribute

def optional (spellings : List String) : Attribute (Option String) :=
  ⟨spellings, readOptional readText, some none⟩

def flag (spellings : List String) (fallback : Bool) : Attribute Bool :=
  ⟨spellings, readBool, some fallback⟩

def count (spellings : List String) (fallback : Nat) : Attribute Nat :=
  ⟨spellings, readNat, some fallback⟩

def required {α : Type} (spellings : List String) (read : Json → Checked α) : Attribute α :=
  ⟨spellings, read, none⟩

end Attribute

/-- The first of some spellings that occurs as a key. -/
def usedKey? (members : Members) (spellings : List String) : Option String :=
  spellings.find? fun key => (members.lookup key).isSome

/-- What an object has for an attribute. Issues are placed at the key in use; a missing member is
    reported under its first spelling. -/
def Attribute.of {α : Type} (part : Attribute α) (members : Members) : Checked α :=
  match usedKey? members part.spellings with
  | some key => (part.read ((members.lookup key).getD .null)).under (.key key)
  | none =>
    match part.fallback with
    | some value => .valid value
    | none => (Checked.fail .missing).under (.key (part.spellings.headD ""))

/-- Keys that no attribute uses, in their order. -/
def unknownKeys (members : Members) (declared : List (List String)) : List String :=
  let used := declared.filterMap (usedKey? members)
  (members.map (·.1)).filter (· ∉ used)

def refuseUnknown (members : Members) (declared : List (List String)) : Checked Unit :=
  match unknownKeys members declared with
  | [] => .valid ()
  | keys => .invalid (keys.map fun key => ⟨.unknownKey, [.key key]⟩)

end FormFill.Schema
