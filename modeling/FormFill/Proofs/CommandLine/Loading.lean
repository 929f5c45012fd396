import Mathlib
import FormFill.Proofs.CommandLine.Dispatching
import FormFill.Proofs.CommandLine.Printing

namespace FormFill

/-- What stands at a path can be told: the path is not too long, the bytes of a file there are UTF-8, and reading them
    as JSON comes upon no number with too many digits. -/
structure Files.Legible (files : Files) (path : Path) : Prop where
  reachable : ∃ there, files.holds path = .ok there
  decodable : ∀ content, files.read path = .ok content → (String.fromUTF8? content).isSome
  countable : ∀ text error fault, files.readText path = .ok text → Json.read files.halves text = .error error →
    error.fault ≠ .oversized fault

theorem Files.holds_of_read {files : Files} {path : Path} {content : ByteArray}
    (found : files.read path = .ok content) : files.holds path = .ok true := by
  unfold read at found
  unfold holds
  cases named : files.placeOf path with
  | error cause =>
    rw [named] at found
    cases found
  | ok place =>
    rw [named] at found
    cases standing : files.at? place with
    | some occupant => simp [standing]
    | none =>
      simp only [Bind.bind, Except.bind, standing] at found
      cases found

namespace CommandLine

open Act

/-- How a fault ends the program where nothing is said of it. -/
def LoadFault.escape? : LoadFault → Option Failure
  | .undecodable => some .undecodable
  | .unreachable fault => some (.file fault)
  | .oversized fault => some (.numeral fault)
  | _ => none

theorem LoadFault.escape?_ofReadError {error : Json.ReadError} :
    (LoadFault.ofReadError error).escape? = none ↔ ∀ fault, error.fault ≠ .oversized fault := by
  unfold ofReadError
  cases error.fault <;> simp [escape?]

theorem readJson_of_text {files : Files} {path : Path} {text : List Char} (found : files.readText path = .ok text) :
    readJson files path = (Json.read files.halves text).mapError .ofReadError := by
  have there : files.holds path = .ok true := by
    unfold Files.readText at found
    cases held : files.read path with
    | error fault =>
      rw [held] at found
      cases found
    | ok content => exact Files.holds_of_read held
  simp only [readJson, there, found]

theorem escape?_of_legible {files : Files} {path : Path} (legible : files.Legible path) {fault : LoadFault}
    (failed : readJson files path = .error fault) : fault.escape? = none := by
  obtain ⟨there, holds⟩ := legible.reachable
  cases found : files.readText path with
  | ok text =>
    rw [readJson_of_text found] at failed
    cases read : Json.read files.halves text with
    | ok value =>
      rw [read] at failed
      cases failed
    | error error =>
      rw [read] at failed
      obtain rfl : LoadFault.ofReadError error = fault := Except.error.inj failed
      exact LoadFault.escape?_ofReadError.mpr fun fault => legible.countable text error fault found read
  | error cause =>
    unfold readJson at failed
    rw [holds, found] at failed
    cases there with
    | false =>
      cases failed
      rfl
    | true =>
      cases cause with
      | file cause =>
        cases failed
        rfl
      | undecodable =>
        unfold Files.readText at found
        cases held : files.read path with
        | error cause =>
          rw [held] at found
          cases found
        | ok content =>
          obtain ⟨decoded, utf8⟩ := Option.isSome_iff_exists.mp (legible.decodable content held)
          simp [held, decodeText, utf8] at found

theorem legible_iff {files : Files} {path : Path} :
    files.Legible path ↔ ∀ fault, readJson files path = .error fault → fault.escape? = none := by
  refine ⟨fun legible fault => escape?_of_legible legible, fun told => ⟨?_, ?_, ?_⟩⟩
  · cases holds : files.holds path with
    | ok there => exact ⟨there, rfl⟩
    | error fault =>
      have failed : readJson files path = .error (.unreachable fault) := by simp [readJson, holds]
      cases told _ failed
  · intro content found
    cases decoded : String.fromUTF8? content with
    | some text => rfl
    | none =>
      have failed : readJson files path = .error .undecodable := by
        simp [readJson, Files.holds_of_read found, Files.readText, found, decodeText, decoded]
      cases told _ failed
  · intro text error fault found read
    have failed : readJson files path = .error (.ofReadError error) := by
      rw [readJson_of_text found, read]
      rfl
    exact LoadFault.escape?_ofReadError.mp (told _ failed) fault

theorem escape?_eq_none_iff {α : Type} {files : Files} {path : Path} {next : Json → Except LoadFault α}
    {fault : LoadFault} (tells : ∀ value fault, next value = .error fault → fault.escape? = none)
    (failed : readJson files path >>= next = .error fault) : fault.escape? = none ↔ files.Legible path := by
  rw [legible_iff]
  -- Only reading can go wrong without a word; what is done with the value always tells.
  cases read : readJson files path with
  | error first =>
    rw [read] at failed
    obtain rfl : first = fault := Except.error.inj failed
    simp
  | ok value =>
    rw [read] at failed
    simp [tells value fault failed]

theorem readRecord_escape {files : Files} {path : Path} {fault : LoadFault}
    (failed : readRecord files path = .error fault) : fault.escape? = none ↔ files.Legible path := by
  refine escape?_eq_none_iff ?_ failed
  intro value cause refused
  cases value <;> cases refused <;> rfl

theorem readForm_escape {files : Files} {path : Path} {fault : LoadFault}
    (failed : readForm files path = .error fault) : fault.escape? = none ↔ files.Legible path := by
  refine escape?_eq_none_iff ?_ failed
  intro value cause refused
  cases loaded : Form.load value with
  | ok form =>
    rw [loaded] at refused
    cases refused
  | error refusal =>
    rw [loaded] at refused
    cases refused
    rfl

/-- The first file that a command needs does not load: what it is called, where it is, and why. -/
inductive Command.Fails (files : Files) : Command → String → Path → LoadFault → Prop where
  | record (request : RunRequest) (fault : LoadFault) (failed : readRecord files request.record = .error fault) :
    Fails files (.run request) "JSON" request.record fault
  | form (request : RunRequest) (record : Members) (fault : LoadFault)
    (recorded : readRecord files request.record = .ok record)
    (failed : readForm files request.form = .error fault) : Fails files (.run request) "Selectors" request.form fault
  | validated (path : Path) (fault : LoadFault) (failed : readForm files path = .error fault) :
    Fails files (.validate path) "Selectors" path fault

theorem Command.Fails.escape {files : Files} {command : Command} {label : String} {path : Path} {fault : LoadFault}
    (fails : command.Fails files label path fault) : fault.escape? = none ↔ files.Legible path := by
  cases fails with
  | record request fault failed => exact readRecord_escape failed
  | form request record fault recorded failed => exact readForm_escape failed
  | validated path fault failed => exact readForm_escape failed

/-- What a command does before it loads a file. -/
def Command.begun : Command → World → World
  | .run request, world => world.note (.configureLogging request.logLevel)
  | _, world => world

/-- Why the log of a command cannot be set up, if that is so. -/
def Command.logFault? (settings : Settings) (host : Host) : Command → Option LoggingFault
  | .run request => CommandLine.logFault? settings host request.logLevel
  | _ => none

/-- How the program goes on with a fault: it breaks off with what is not told, or it tells the fault, up to the line
    that the console refuses. -/
def LoadFault.outcome {α : Type} (label : String) (path : Path) (fault : LoadFault) (host : Host) (refused : α) :
    Except Failure α :=
  match fault.escape? with
  | some failure => .error failure
  | none =>
    (host.console.refusal? ((fault.lines label path).map .line)).elim (.ok refused) fun text => .error (.console text)

def LoadFault.told (label : String) (path : Path) (fault : LoadFault) (world : World) : World :=
  { world with printed := world.printed ++ world.host.console.shown ((fault.lines label path).map .line) }

theorem orSay_runIn {α : Type} (label : String) (path : Path) (fault : LoadFault) (world : World) :
    (orSay label path (.error fault : Except LoadFault α)).runIn world =
      (fault.outcome label path world.host none, fault.told label path world) := by
  have told (lines : List String) : (do lines.forM say; return none : Act (Option α)).runIn world =
      ((world.host.console.refusal? (lines.map .line)).elim (.ok none) fun text => .error (.console text),
        { world with printed := world.printed ++ world.host.console.shown (lines.map .line) }) := by
    rw [runIn_bind, forM_say]
    cases world.host.console.refusal? (lines.map .line) <;> rfl
  cases fault with
  | unreachable | undecodable | oversized =>
    simp [orSay, LoadFault.outcome, LoadFault.escape?, LoadFault.told, LoadFault.lines, Console.shown]
  | _ => exact told _

theorem refuses_runIn {α : Type} {load : Act (Option α)} {next : Option α → Act Ending} {fault : LoadFault}
    {world after : World} {host : Host} (loaded : load.runIn world = (fault.outcome label path host none, after))
    (refuses : next none = return .refused) :
    (load >>= next).runIn world = (fault.outcome label path host .refused, after) := by
  rw [runIn_bind, loaded]
  unfold LoadFault.outcome
  cases fault.escape? with
  | some failure => rfl
  | none =>
    cases host.console.refusal? ((fault.lines label path).map .line) with
    | some text => rfl
    | none =>
      dsimp only [Option.elim]
      rw [refuses]
      rfl

variable {settings : Settings} {command : Command} {label : String} {path : Path} {fault : LoadFault} {world : World}

theorem loadRecord_fails (failed : readRecord world.files path = .error fault) :
    (loadRecord path).runIn world = (fault.outcome "JSON" path world.host none, fault.told "JSON" path world) := by
  unfold loadRecord
  rw [runIn_bind_ok (runIn_get world), failed]
  exact orSay_runIn "JSON" path fault world

theorem loadForm_fails (failed : readForm world.files path = .error fault) :
    (loadForm path).runIn world =
      (fault.outcome "Selectors" path world.host none, fault.told "Selectors" path world) := by
  unfold loadForm
  rw [runIn_bind_ok (runIn_get world), failed]
  exact orSay_runIn "Selectors" path fault world

theorem dispatch_unlogged {cause : LoggingFault} (unlogged : command.logFault? settings world.host = some cause) :
    (dispatch settings command).runIn world = (.error (.logging cause), command.begun world) := by
  cases command with
  | run request =>
    have fails : (setUpLog settings request.logLevel).runIn world =
        (.error (.logging cause), world.note (.configureLogging request.logLevel)) := by
      have unready : logFault? settings world.host request.logLevel = some cause := unlogged
      rw [setUpLog_runIn, unready]
      rfl
    unfold dispatch run
    exact runIn_bind_error fails
  | _ => cases unlogged

theorem dispatch_fails (fails : command.Fails world.files label path fault)
    (ready : command.logFault? settings world.host = none) :
    (dispatch settings command).runIn world =
      (fault.outcome label path world.host .refused, fault.told label path (command.begun world)) := by
  unfold dispatch
  cases fails with
  | record request fault failed =>
    unfold run
    rw [runIn_bind_ok (setUpLog_ready ready)]
    exact refuses_runIn (loadRecord_fails failed) rfl
  | form request record fault recorded failed =>
    let noted := world.note (.configureLogging request.logLevel)
    have recordLoads : (loadRecord request.record).runIn noted = (.ok (some record), noted) :=
      loadRecord_runIn recorded
    unfold run
    rw [runIn_bind_ok (setUpLog_ready ready), runIn_bind_ok recordLoads]
    exact refuses_runIn (loadForm_fails failed) rfl
  | validated path fault failed =>
    unfold validate
    exact refuses_runIn (loadForm_fails failed) rfl

/-- What the program breaks off with that cannot load a file: the log cannot be set up, nothing is said of the fault,
    or the console refuses a line of what is said. -/
inductive Command.BreaksOff (settings : Settings) (host : Host) (command : Command) (fault : LoadFault)
    (lines : List String) : Failure → Prop where
  | unlogged {cause : LoggingFault} (unlogged : command.logFault? settings host = some cause) :
      BreaksOff settings host command fault lines (.logging cause)
  | untold {failure : Failure} (escapes : fault.escape? = some failure) :
      BreaksOff settings host command fault lines failure
  | unshown {line text : String} (listed : line ∈ lines) (refuses : host.console.fault? (.line line) = some text) :
      BreaksOff settings host command fault lines (.console text)

/-- How the program ends that cannot load a file, and what it has done: it has told the fault, up to a line that the
    console refuses, and nothing else. -/
inductive Command.Refuses (settings : Settings) (world : World) (command : Command) (fault : LoadFault)
    (lines : List String) : Ending × World → Prop where
  | refused (ready : command.logFault? settings world.host = none) (told : fault.escape? = none)
      (shows : ∀ line ∈ lines, world.host.console.fault? (.line line) = none) :
      Refuses settings world command fault lines
        (.refused, { command.begun world with printed := world.printed ++ lines.map .line })
  | broken {failure : Failure} {told : List String} (begins : told <+: lines)
      (breaks : command.BreaksOff settings world.host fault lines failure) :
      Refuses settings world command fault lines
        (.crashed failure, { command.begun world with printed := world.printed ++ told.map .line })

theorem execute_refuses {arguments : List String} (asked : Command.ofArguments settings arguments = .ok command)
    (named : command.targets.any Path.hasNul = false) (fails : command.Fails world.files label path fault) :
    command.Refuses settings world fault (fault.lines label path) (execute settings arguments world) := by
  cases ready : command.logFault? settings world.host with
  | some cause =>
    rw [execute_dispatches asked named (dispatch_unlogged ready)]
    have begun : command.begun world = { command.begun world with printed := world.printed ++ [].map .line } := by
      cases command <;> simp [Command.begun, World.note]
    rw [begun]
    exact .broken List.nil_prefix (.unlogged ready)
  | none =>
    have told : fault.told label path (command.begun world) = { command.begun world with
        printed := world.printed ++ world.host.console.shown ((fault.lines label path).map .line) } := by
      cases command <;> rfl
    rw [execute_dispatches asked named (dispatch_fails fails ready), told]
    obtain ⟨later, split⟩ := world.host.console.shown_prefix ((fault.lines label path).map .line)
    obtain ⟨lines, _, whole, shown, -⟩ := List.map_eq_append_iff.mp split.symm
    have begins : lines <+: fault.lines label path := ⟨_, whole.symm⟩
    unfold LoadFault.outcome
    rw [← shown]
    cases escapes : fault.escape? with
    | some failure => exact .broken begins (.untold escapes)
    | none =>
      cases refuses : world.host.console.refusal? ((fault.lines label path).map .line) with
      | some text =>
        obtain ⟨thing, among, refused⟩ := Console.refused_of_refusal refuses
        obtain ⟨line, listed, rfl⟩ := List.mem_map.mp among
        exact .broken begins (.unshown listed refused)
      | none =>
        rw [shown, Console.shown_eq_iff.mpr refuses]
        refine .refused ready escapes fun line listed => ?_
        exact Console.refusal?_eq_none_iff.mp refuses _ (List.mem_map_of_mem listed)

end CommandLine
end FormFill
