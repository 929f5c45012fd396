import FormFill.Action.Target

namespace FormFill.Action

/-- Sets the value of an input, at once or, with a typing delay, key by key after clearing it. -/
def runFill (timing : Timing) (field : Field) (settings : Fill) (value : String) : Act Outcome :=
  onTarget timing field fun target => do
    let delay ← timing.keystrokeDelay settings.noTypingDelay
    if delay ≠ 0 then
      let _ ← Act.element target (.fill "")
      let _ ← Act.element target (.pressSequentially value delay)
    else
      if settings.clear then let _ ← Act.element target (.fill "")
      let _ ← Act.element target (.fill value)
    if settings.pressEnter then pressEnter target settings.enterDelay
    return .applied field (.typed (delay ≠ 0))

/-- Types a value key by key. -/
def runType (timing : Timing) (field : Field) (settings : TypeKeys) (value : String) :
    Act Outcome :=
  onTarget timing field fun target => do
    let delay ← timing.keystrokeDelay settings.noTypingDelay
    let _ ← Act.element target (.pressSequentially value delay)
    if settings.pressEnter then pressEnter target settings.enterDelay
    return .applied field .none

/-- Chooses the option of a list that has a value. -/
def runSelect (timing : Timing) (field : Field) (value : String) : Act Outcome :=
  onTarget timing field fun target => do
    let _ ← Act.element target (.selectOption value)
    return .applied field (.option value)

end FormFill.Action
