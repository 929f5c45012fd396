import FormFill.CommandLine
import FormFill.Proofs.Act

namespace FormFill.CommandLine

open Act

theorem loadRecord_runIn {path : Path} {record : Members} {world : World}
    (held : readRecord world.files path = .ok record) :
    (loadRecord path).runIn world = (.ok (some record), world) := by
  unfold loadRecord
  rw [runIn_bind_ok (runIn_get world), held]
  rfl

theorem loadForm_runIn {path : Path} {form : Form} {world : World}
    (held : readForm world.files path = .ok form) :
    (loadForm path).runIn world = (.ok (some form), world) := by
  unfold loadForm
  rw [runIn_bind_ok (runIn_get world), held]
  rfl

/-- Why the log cannot be set up, if that is so. -/
def logFault? (settings : Settings) (host : Host) (level : Option String) : Option LoggingFault :=
  match host.logSite with
  | .ready => none
  | .own handled =>
    match Logging.configure settings level none handled with
    | .ok _ => none
    | .error fault => some fault

theorem logFault?_willing : logFault? .default .willing none = none := by
  decide +kernel

/-- Setting up the log is noted even if it fails. -/
theorem setUpLog_runIn (settings : Settings) (level : Option String) (world : World) :
    (setUpLog settings level).runIn world =
      ((logFault? settings world.host level).elim (.ok ()) fun fault => .error (.logging fault),
        world.note (.configureLogging level)) := by
  unfold setUpLog logFault?
  rw [runIn_bind_ok (runIn_note _ world), runIn_bind_ok (runIn_get _), World.note]
  cases world.host.logSite with
  | ready => rfl
  | own handled =>
    dsimp only
    rw [runIn_bind, runIn_ofResult]
    cases Logging.configure settings level none handled <;> rfl

theorem setUpLog_ready {settings : Settings} {level : Option String} {world : World}
    (ready : logFault? settings world.host level = none) :
    (setUpLog settings level).runIn world = (.ok (), world.note (.configureLogging level)) := by
  rw [setUpLog_runIn, ready]
  rfl

def Ending.ofCommand : Except Failure Ending → Ending
  | .ok ending => ending
  | .error failure => .crashed failure

theorem execute_dispatches {settings : Settings} {arguments : List String} {command : Command} {world after : World}
    {result : Except Failure Ending} (asked : Command.ofArguments settings arguments = .ok command)
    (named : command.targets.any Path.hasNul = false)
    (dispatched : (dispatch settings command).runIn world = (result, after)) :
    execute settings arguments world = (.ofCommand result, after) := by
  have performed : (perform settings command).runIn world = (result, after) := by
    unfold perform
    simp only [named, Bool.false_eq_true, ↓reduceIte]
    exact dispatched
  unfold runIn at performed
  unfold execute
  rw [asked]
  dsimp only
  rw [performed]
  cases result <;> rfl

end FormFill.CommandLine
