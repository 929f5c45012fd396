import Mathlib
import FormFill.Proofs.Browser.Closing
import FormFill.Proofs.CommandLine.Dispatching
import FormFill.Proofs.CommandLine.Printing
import FormFill.Proofs.Run.Events

namespace FormFill

/-- Whether an event may come of a run or of the time for a person to look at what came of it. -/
def Event.ofVisit : Event → Bool
  | .isClosed | .call .waitForClose => true
  | event => event.ofRun

theorem Event.ofVisit_of_ofRun {event : Event} (ofRun : event.ofRun = true) : event.ofVisit = true := by
  cases event with
  | call made => cases made <;> first | rfl | exact ofRun
  | _ => first | rfl | exact ofRun

theorem Event.keepsOpen_of_ofVisit {event : Event} (ofVisit : event.ofVisit = true) : event.keepsOpen = true := by
  cases event with
  | call made => cases made <;> first | rfl | cases ofVisit
  | _ => rfl

namespace CommandLine

open Act

/-- What is done in the started browser: the run, and the time for a person to look at what came of it. -/
def filling (settings : Settings) (request : RunRequest) (form : Form) (record : Members) : Act Report := do
  let run : Run :=
    { form, identifiers := .ofOptions form.options.identifiers settings.storePath,
      operator := .console, submit := request.submit }
  let report ← run.perform record
  awaitReview request form
  return report

theorem fill_eq (settings : Settings) (request : RunRequest) (form : Form) (record : Members) :
    fill settings request form record = (do
      (request.session settings form).start
      Session.closingAfter (filling settings request form record)) := rfl

theorem awaitReview_visits (request : RunRequest) (form : Form) :
    Confined Event.ofVisit (awaitReview request form) := by
  have waits : Confined Event.ofVisit Session.waitUntilClosed := by
    unfold Session.waitUntilClosed
    refine .bind .get fun world => ?_
    split
    · refine .bind (.note rfl) fun _ => ?_
      refine .bind .get fun page => ?_
      split
      · exact .call rfl
      · exact .pure ()
    · exact .pure ()
  unfold awaitReview
  split
  · exact .ask rfl
  · split
    · exact .bind (.print _) fun _ => waits
    · exact .pure ()

theorem filling_visits (settings : Settings) (request : RunRequest) (form : Form) (record : Members) :
    Confined Event.ofVisit (filling settings request form record) := by
  unfold filling
  refine .bind ((Run.perform_confined _ record).weaken fun _ => Event.ofVisit_of_ofRun) fun report => ?_
  exact .bind (awaitReview_visits request form) fun _ => .pure report

theorem awaitReview_confined (request : RunRequest) (form : Form) :
    Confined Event.keepsOpen (awaitReview request form) :=
  (awaitReview_visits request form).weaken fun _ => Event.keepsOpen_of_ofVisit

theorem filling_confined (settings : Settings) (request : RunRequest) (form : Form) (record : Members) :
    Confined Event.keepsOpen (filling settings request form record) :=
  (filling_visits settings request form record).weaken fun _ => Event.keepsOpen_of_ofVisit

/-- How the program ends after a filling. -/
def Ending.after : Except Failure Report → Ending
  | .ok _ => .success
  | .error (.fieldFailed ..) | .error (.pageNotReady ..) | .error (.browser _) => .refused
  | .error failure => .crashed failure

/-- What is told of how a filling ended. -/
def verdict : Except Failure Report → List Printed
  | .ok report => [outcomeTable report, .line (countLine report)]
  | .error failure =>
    match failure with
    | .fieldFailed _ report =>
      [.line s!"❌ {failure.message}", outcomeTable report, .line (countLine report)]
    | .pageNotReady .. | .browser _ => [.line s!"❌ Run failed: {failure.message}"]
    | _ => []

/-- How the program ends that tells on a console how a filling ended. -/
def Ending.told (console : Console) (result : Except Failure Report) : Ending :=
  (console.refusal? (verdict result)).elim (.after result) fun text => .crashed (.console text)

theorem Ending.told_of_shown {console : Console} {result : Except Failure Report}
    (shows : ∀ thing ∈ verdict result, console.fault? thing = none) : Ending.told console result = .after result := by
  rw [told, Console.refusal?_eq_none_iff.mpr shows]
  rfl

def Ending.result : Ending → Except Failure Ending
  | .crashed failure => .error failure
  | ending => .ok ending

theorem conclude_eq (result : Except Failure Report) :
    conclude result = (do
      (verdict result).forM print
      ofResult (Ending.after result).result) := by
  have tables (report : Report) : printReport report = [outcomeTable report, .line (countLine report)].forM print := by
    simp [printReport]
  cases result with
  | ok report => simp [conclude, verdict, tables, Ending.after, Ending.result, ofResult]
  | error failure =>
    cases failure <;> simp [conclude, verdict, tables, say, Ending.after, Ending.result, ofResult]

theorem conclude_runIn (result : Except Failure Report) (world : World) :
    (conclude result).runIn world = ((Ending.told world.host.console result).result,
      { world with printed := world.printed ++ world.host.console.shown (verdict result) }) := by
  rw [conclude_eq, runIn_bind, forM_print]
  unfold Ending.told
  cases world.host.console.refusal? (verdict result) with
  | some text => rfl
  | none => exact runIn_ofResult _ _

section Filling

variable {settings : Settings} {arguments : List String} {world closed : World} {request : RunRequest}
  {loaded : Form} {record : Members} {result : Except Failure Report}

/-- With its files loaded, a run ends as the filling does that it goes on with. -/
theorem execute_fills (asked : Command.ofArguments settings arguments = .ok (.run request))
    (reachable : (Command.run request).targets.any Path.hasNul = false)
    (recorded : readRecord world.files request.record = .ok record)
    (formed : readForm world.files request.form = .ok loaded)
    (ready : logFault? settings world.host request.logLevel = none)
    (filled : (fill settings request
        { loaded with options := loaded.options.override settings.safePresets request.overrides } record).runIn
        (world.note (.configureLogging request.logLevel)) = (result, closed)) :
    execute settings arguments world = (Ending.told closed.host.console result,
      { closed with printed := closed.printed ++ closed.host.console.shown (verdict result) }) := by
  let noted := world.note (.configureLogging request.logLevel)
  have recordLoads : (loadRecord request.record).runIn noted = (.ok (some record), noted) :=
    loadRecord_runIn recorded
  have formLoads : (loadForm request.form).runIn noted = (.ok (some loaded), noted) :=
    loadForm_runIn formed
  have dispatched : (dispatch settings (.run request)).runIn world = (conclude result).runIn closed := by
    unfold dispatch run
    rw [runIn_bind_ok (setUpLog_ready ready), runIn_bind_ok recordLoads]
    dsimp only
    rw [runIn_bind_ok formLoads]
    dsimp only
    rw [runIn_bind_ok (runIn_attempt _ _), filled]
  rw [execute_dispatches asked reachable (dispatched.trans (conclude_runIn result closed))]
  cases Ending.told closed.host.console result <;> rfl

end Filling

/-- Arguments, files and a page with which a browser is started to fill a form from a record. -/
structure Starts (settings : Settings) (arguments : List String) (world : World) (request : RunRequest)
    (form : Form) (record : Members) (started : World) : Prop where
  asked : Command.ofArguments settings arguments = .ok (.run request)
  reachable : (Command.run request).targets.any Path.hasNul = false
  ready : logFault? settings world.host request.logLevel = none
  recorded : readRecord world.files request.record = .ok record
  formed : ∃ loaded, readForm world.files request.form = .ok loaded ∧
    form = { loaded with options := loaded.options.override settings.safePresets request.overrides }
  fresh : world.opened = .nothing
  starts : (request.session settings form).start.runIn (world.note (.configureLogging request.logLevel)) =
    (.ok (), started)

variable {settings : Settings} {arguments : List String} {world started : World} {request : RunRequest}
  {form : Form} {record : Members}

theorem Starts.execute_concludes (starts : Starts settings arguments world request form record started)
    {result : Except Failure Report} {closed : World}
    (filled : (fill settings request form record).runIn (world.note (.configureLogging request.logLevel)) =
      (result, closed)) (host : closed.host = world.host) :
    execute settings arguments world = (Ending.told world.host.console result,
      { closed with printed := closed.printed ++ world.host.console.shown (verdict result) }) := by
  obtain ⟨loaded, formed, rfl⟩ := starts.formed
  rw [← host]
  exact execute_fills starts.asked starts.reachable starts.recorded formed starts.ready filled

/-- Once the browser has started, and if neither call that closes it fails, the filling ends as it would have
    ended by itself. The program goes by that, unless the console refuses what is told of it, and the last that happens
    is that what was launched is closed and the driver is stopped, each for the only time. -/
theorem execute_closes (starts : Starts settings arguments world request form record started)
    (closes : world.page.error? world.trace (.call (request.session settings form).closing) = none)
    (stops : world.page.error? world.trace (.call .stopDriver) = none) :
    ∃ added closed,
      ((filling settings request form record).runIn started).2.trace = world.trace ++ added ∧
      (∀ event ∈ added, event.keepsOpen = true) ∧
      (fill settings request form record).runIn (world.note (.configureLogging request.logLevel)) =
        (((filling settings request form record).runIn started).1, closed) ∧
      (execute settings arguments world).1 =
        .told world.host.console ((filling settings request form record).runIn started).1 ∧
      (execute settings arguments world).2.trace = world.trace ++ added ++
        [.call (request.session settings form).closing, .call .stopDriver] := by
  let session := request.session settings form
  let noted := world.note (.configureLogging request.logLevel)
  obtain ⟨launched, opens⟩ := session.start_opens noted () started starts.fresh starts.starts
  have begun : World.Added Event.keepsOpen { world with opened := session.opened } started
      ([.configureLogging request.logLevel] ++ launched) :=
    .trans (.note { world with opened := session.opened } rfl) opens
  have closing := (begun.error?_closing session.closing_closes).trans closes
  have stopping := (begun.error?_closing rfl).trans stops
  obtain ⟨added, closed, filled, ended, host, trace⟩ :=
    Session.closingAfter_closes begun.opened (filling_confined settings request form record) closing stopping
  have whole : (fill settings request form record).runIn noted =
      (((filling settings request form record).runIn started).1, closed) := by
    rw [fill_eq, runIn_bind_ok starts.starts, ended]
  have executed := starts.execute_concludes whole (host.trans begun.host)
  have grown := begun.trans filled
  rw [begun.trace, List.append_assoc world.trace] at trace
  refine ⟨_, closed, grown.trace, grown.ofKind, whole, ?_, ?_⟩
  · rw [executed]
  · rw [executed]
    exact trace

theorem execute_closes_profile :
    let arguments := ["run", "--user-data-dir", "profile"]
    let page : Page := { Page.blank with faults := [(.goto, .always ⟨false, "unreachable"⟩)] }
    let world : World := .untouched page { occupants := [(["listing.json"], .file "\x7b\x7d".toUTF8),
      (["selectors.json"], .file "\x7b\"url\": \"a:b\", \"fields\": []\x7d".toUTF8)] }
    ∃ added, (∀ event ∈ added, event.keepsOpen = true) ∧
      (execute .default arguments world).1 = .refused ∧
      (execute .default arguments world).2.trace = added ++ [.call .closeContext, .call .stopDriver] := by
  intro arguments page world
  let request : RunRequest :=
    ⟨.below ["listing.json"], .below ["selectors.json"], false, false, false, false, none, none, none,
      some "profile", none⟩
  let loaded : Form := ⟨"a:b", [], none, none, none, .default⟩
  let form : Form :=
    { loaded with options := loaded.options.override Settings.default.safePresets request.overrides }
  have asked : Command.ofArguments .default arguments = .ok (.run request) := by cbv
  have recorded : readRecord world.files request.record = .ok [] := by cbv
  have formed : readForm world.files request.form = .ok loaded := by cbv
  have starts : Starts .default arguments world request form [] _ :=
    ⟨asked, by decide, logFault?_willing, recorded, ⟨loaded, formed, rfl⟩, rfl, rfl⟩
  obtain ⟨added, closed, -, keeps, -, ended, trace⟩ := execute_closes starts rfl rfl
  exact ⟨added, keeps, ended, trace⟩

end CommandLine
end FormFill
