import FormFill.Proofs.Field.Reading
import FormFill.Proofs.Form.Spelling
import FormFill.Proofs.Schema.Keywise

namespace FormFill.Field

open Schema

/-- A definition cut down to its action and one key. -/
def alone (members : Members) (key : String) : Members :=
  members.filter fun member => member.1 = "action" ∨ member.1 = key

/-- The ways of entry for which a definition asks, by naming one or by a switch. -/
inductive Asks (members : Members) : Entry → Prop where
  | named {entry : Entry} (given : entryAttribute.of members = .valid (some entry)) : Asks members entry
  | keyboard (on : useKeyboardAttribute.of members = .valid true) : Asks members .keyboard
  | paste (on : usePasteAttribute.of members = .valid true) : Asks members .paste

section Parts

variable {kind : ActionKind} {members : Members}

/-- The ways of entry for which a name and the two switches ask. -/
def asked (named : Option Entry) (useKeyboard usePaste : Bool) : List Entry :=
  named.toList ++ (if useKeyboard then [.keyboard] else []) ++ (if usePaste then [.paste] else [])

end Parts

/-- A definition without an action that has a key of another action, and values that are not right for two of its own. -/
def mixed : Members :=
  [("tagAnchor", .str "Tags"), ("pressEnter", .str "maybe"), ("value", .str "name"), ("selector", .int 5)]

end FormFill.Field
