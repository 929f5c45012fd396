import FormFill.Schema.Issue

namespace FormFill.Schema

/-- A value, or every issue found on the way to it. -/
inductive Checked (α : Type) where
  | valid (value : α)
  | invalid (issues : List Issue)

namespace Checked

def fail {α : Type} (cause : Cause) : Checked α :=
  .invalid [⟨cause, []⟩]

def issues {α : Type} : Checked α → List Issue
  | .valid _ => []
  | .invalid issues => issues

def map {α β : Type} (f : α → β) : Checked α → Checked β
  | .valid value => .valid (f value)
  | .invalid issues => .invalid issues

/-- Both parts are checked, and the issues of both are kept in order. -/
def apply {α β : Type} : Checked (α → β) → Checked α → Checked β
  | .valid f, .valid value => .valid (f value)
  | .valid _, .invalid issues => .invalid issues
  | .invalid issues, .valid _ => .invalid issues
  | .invalid first, .invalid second => .invalid (first ++ second)

/-- A check that is made only of a value without issues. -/
def andThen {α β : Type} (first : Checked α) (next : α → Checked β) : Checked β :=
  match first with
  | .valid value => next value
  | .invalid issues => .invalid issues

/-- The issues, moved to a place one step deeper in a larger document. -/
def under {α : Type} (step : Place) : Checked α → Checked α
  | .valid value => .valid value
  | .invalid issues => .invalid (issues.map (Issue.under step))

/-- The first check with the issues of a second one after its own. -/
def also {α : Type} (first : Checked α) (second : Checked Unit) : Checked α :=
  (first.map fun value _ => value).apply second

/-- The items of a list from a position on, each checked at its own place. -/
def each {α β : Type} (check : α → Checked β) : Nat → List α → Checked (List β)
  | _, [] => .valid []
  | position, item :: items =>
    (((check item).under (.index position)).map (· :: ·)).apply (each check (position + 1) items)

end Checked
end FormFill.Schema
