import FormFill.Browser.Locating
import FormFill.Browser.Timing
import FormFill.Field.Value
import FormFill.Identifier

namespace FormFill

/-- What an interaction has at hand besides the page. -/
structure Executor where
  timing : Timing
  identifiers : Option IdentifierSource
deriving DecidableEq, Repr

namespace Action

def log (level : LogLevel) (event : String) (values : Members) : Act Unit :=
  Act.log level "action_executor" event values

/-- Leaves a field alone for a reason. -/
def skip (field : Field) (reason : String) (detail : Detail) : Act Outcome := do
  log .info "Skipping field"
    (fieldContext field.displayName field.action.kind.name [("reason", .str reason)])
  return .skipped field reason detail

/-- The first match of a field, scrolled into view, if there is any. -/
def target (timing : Timing) (field : Field) : Act (Option Handle) := do
  match ← Locating.locate field with
  | none => return none
  | some handle =>
    if (← Act.count handle) = 0 then return none
    let _ ← timing.scrollIntoView handle field.displayName field.skipScroll
    return some handle.first

def noLocator : String := "no selector/label/placeholder/text"

/-- Goes on with the target of a field, or skips the field. -/
def onTarget (timing : Timing) (field : Field) (next : Handle → Act Outcome) : Act Outcome := do
  match ← target timing field with
  | some handle => next handle
  | none =>
    skip field (if field.strategy.isNone then noLocator else "target not found") .none

def pressEnter (handle : Handle) (delay : Nat) : Act Unit := do
  let _ ← Act.element handle (.press "Enter")
  Timing.pause delay

end Action
end FormFill
