import FormFill.Field

namespace FormFill

inductive Status where
  | applied
  | skipped
  | failed
deriving DecidableEq, Repr

def Status.name : Status → String
  | .applied => "applied"
  | .skipped => "skipped"
  | .failed => "failed"

/-- What an interaction tells about itself. -/
inductive Detail where
  | none
  | typed (byKeys : Bool)
  | centered
  | option (value : String)
  | missing (texts : List String)
  | clicked (texts missing : List String)
  | tags (texts : List String) (entry : Entry)
deriving DecidableEq, Repr

/-- A record key with the identifier that belongs there. -/
structure Patch where
  key : String
  identifier : String
deriving DecidableEq, Repr

/-- What happened to one field. -/
structure Outcome where
  field : String
  action : ActionKind
  status : Status
  reason : Option String
  detail : Detail
  patch : Option Patch
deriving DecidableEq, Repr

namespace Outcome

def applied (field : Field) (detail : Detail) : Outcome :=
  ⟨field.displayName, field.action.kind, .applied, none, detail, none⟩

def skipped (field : Field) (reason : String) (detail : Detail) : Outcome :=
  ⟨field.displayName, field.action.kind, .skipped, some reason, detail, none⟩

def failed (field : Field) (reason : String) : Outcome :=
  ⟨field.displayName, field.action.kind, .failed, some reason, .none, none⟩

end Outcome

/-- The outcomes of a run in their order, with the record as the identifiers left it. -/
structure Report where
  url : String
  outcomes : List Outcome
  record : Members
  submitted : Bool
  finished : Bool

namespace Report

def count (report : Report) (status : Status) : Nat :=
  report.outcomes.countP (·.status = status)

def failed (report : Report) : List Outcome :=
  report.outcomes.filter (·.status = .failed)

/-- Adds an outcome and puts its identifier into the record. -/
def add (report : Report) (outcome : Outcome) : Report :=
  let record :=
    match outcome.patch with
    | some patch => Members.insert report.record patch.key (.str patch.identifier)
    | none => report.record
  { report with outcomes := report.outcomes ++ [outcome], record }

end Report
end FormFill
