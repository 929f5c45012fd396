import FormFill.Action.Target

namespace FormFill.Action

/-- Clicks an element, at the centre of its box if that is asked for and it has one. -/
def runClick (timing : Timing) (field : Field) (settings : Click) : Act Outcome :=
  onTarget timing field fun target => do
    if settings.center then
      if let some box := (← Act.element target .boundingBox).box then
        let (x, y) := box.center
        Act.call (.mouseClick x y)
        return .applied field .centered
      log .debug "No bounding box, clicking element" [("field", .str field.displayName)]
    let _ ← Act.element target (.click field.force)
    return .applied field .none

/-- The state of a check box; one that cannot be read counts as not checked. -/
def readChecked (field : Field) (indicator : Handle) : Act Bool :=
  Act.catchBrowser (do return (← Act.element indicator .isChecked).checked) fun error => do
    log .warning "Could not read checked state"
      [("field", .str field.displayName), ("error", .str error.text)]
    return false

/-- Whether the target counts as checked, by its indicator if the definition names one. -/
def alreadyChecked (field : Field) (settings : Check) (target : Handle) : Act Bool := do
  match given settings.indicator with
  | none => readChecked field target
  | some query =>
    let indicator ← Act.lookup none (.selector query)
    if (← Act.count indicator) = 0 then return false
    readChecked field indicator.first

/-- Checks a box unless it is checked and may then be skipped. -/
def runCheck (timing : Timing) (field : Field) (settings : Check) : Act Outcome :=
  onTarget timing field fun target => do
    let maySkip := (given settings.indicator).isSome || settings.skipIfChecked
    if ← (if maySkip then alreadyChecked field settings target else pure false) then
      skip field "already checked" .none
    else
      let _ ← Act.element target (.check field.force)
      return .applied field .none

end FormFill.Action
