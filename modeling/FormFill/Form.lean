import FormFill.Field.Reader
import FormFill.Options

namespace FormFill

/-- What is clicked to send the form off. -/
structure SubmitTarget where
  selector : Option String
deriving DecidableEq, Repr

/-- A form: its page, its fields in order, the steps after them, and how a run goes about it. -/
structure Form where
  url : String
  fields : List Field
  draft : Option Field
  saveProgress : Option Field
  submit : Option SubmitTarget
  options : RunOptions
deriving DecidableEq, Repr

namespace Form

open Schema

def allFields (form : Form) : List Field :=
  form.fields ++ form.draft.toList ++ form.saveProgress.toList

def usesClipboard (form : Form) : Bool :=
  form.allFields.any Field.pastes

def readUrl (value : Json) : Checked String :=
  (readText value).andThen fun url => if url = "" then .fail .emptyText else .valid url

def readFields : Json → Checked (List Field)
  | .arr items => Checked.each Field.read 0 items
  | _ => .fail (.rejected "fields must be a list")

/-- A submit target; what else it holds is not looked at. -/
def readSubmit (value : Json) : Checked SubmitTarget :=
  (membersOf "SubmitTarget" value).andThen fun members =>
    ((Attribute.optional ["selector"]).of members).map SubmitTarget.mk

def urlAttribute : Attribute String := .required ["url"] readUrl
def fieldsAttribute : Attribute (List Field) := .required ["fields"] readFields
def draftAttribute : Attribute (Option Field) := ⟨["draft"], readOptional Field.read, some none⟩
def saveProgressAttribute : Attribute (Option Field) :=
  ⟨["saveProgress", "save_progress"], readOptional Field.read, some none⟩
def submitAttribute : Attribute (Option SubmitTarget) :=
  ⟨["submit"], readOptional readSubmit, some none⟩
def optionsAttribute : Attribute RunOptions := ⟨["options"], RunOptions.read, some .default⟩

def ofMembers (members : Members) : Checked Form :=
  (Checked.valid Form.mk).apply (urlAttribute.of members)
    |>.apply (fieldsAttribute.of members)
    |>.apply (draftAttribute.of members)
    |>.apply (saveProgressAttribute.of members)
    |>.apply (submitAttribute.of members)
    |>.apply (optionsAttribute.of members)

/-- Why a document is no form. -/
inductive Refusal where
  | notObject
  | invalid (issues : List Issue)
deriving DecidableEq, Repr

def Refusal.issues : Refusal → List Issue
  | .notObject => []
  | .invalid issues => issues

def Refusal.message : Refusal → String
  | .notObject => "Schema must be a JSON object with url and fields[]"
  | .invalid issues =>
    s!"Schema must include url and fields[] with valid definitions ({issues.length} error(s))"

/-- Reads a form from a document. -/
def load : Json → Except Refusal Form
  | .obj members =>
    match ofMembers members with
    | .valid form => .ok form
    | .invalid issues => .error (.invalid issues)
  | _ => .error .notObject

end Form
end FormFill
