import FormFill.Form
import FormFill.Proofs.Schema.Checked

namespace FormFill.Form

open Schema

variable {members : Members}

theorem load_eq_ok {form : Form} : load (.obj members) = .ok form ↔ ofMembers members = .valid form := by
  cases read : ofMembers members <;> simp [load, read]

/-- The parts of a document in their order: the keys that each may stand under, and what is amiss with it. -/
def parts (members : Members) : List (List String × List Issue) :=
  [(urlAttribute.spellings, (urlAttribute.of members).issues),
   (fieldsAttribute.spellings, (fieldsAttribute.of members).issues),
   (draftAttribute.spellings, (draftAttribute.of members).issues),
   (saveProgressAttribute.spellings, (saveProgressAttribute.of members).issues),
   (submitAttribute.spellings, (submitAttribute.of members).issues),
   (optionsAttribute.spellings, (optionsAttribute.of members).issues)]

end FormFill.Form
