import FormFill.Number.Double

namespace FormFill

/-- A JSON value. Whole numbers are unbounded and apart from doubles, members keep their order. -/
inductive Json where
  | null
  | bool (value : Bool)
  | int (value : Int)
  | float (value : Double)
  | str (text : String)
  | arr (items : List Json)
  | obj (members : List (String × Json))

abbrev Members := List (String × Json)

instance : Inhabited Json := ⟨.null⟩

/-- Puts a value under a key: in the place of an earlier value, else at the end. -/
def Members.insert : Members → String → Json → Members
  | [], key, value => [(key, value)]
  | (k, v) :: rest, key, value =>
    if k = key then (key, value) :: rest else (k, v) :: Members.insert rest key value

/-- The members of `patch` put into `members` one after the other. -/
def Members.merge (members patch : Members) : Members :=
  patch.foldl (fun merged (key, value) => Members.insert merged key value) members

namespace Json

def get? : Json → String → Option Json
  | .obj members, key => members.lookup key
  | _, _ => none

/-- Null, false, zero and everything empty, which count as not given where a default exists. -/
def isVoid : Json → Bool
  | .null => true
  | .bool value => !value
  | .int value => value == 0
  | .float (.finite _ mantissa _) => mantissa == 0
  | .float _ => false
  | .str text => text == ""
  | .arr items => items.isEmpty
  | .obj members => members.isEmpty

end Json
end FormFill
