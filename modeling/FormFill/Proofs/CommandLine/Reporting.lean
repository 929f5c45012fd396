import FormFill.Proofs.CommandLine.Closing

namespace FormFill

namespace CommandLine

open Act

def RunRequest.running (settings : Settings) (request : RunRequest) (form : Form) : Run :=
  { form, identifiers := .ofOptions form.options.identifiers settings.storePath, operator := .console,
    submit := request.submit }

theorem filling_eq (settings : Settings) (request : RunRequest) (form : Form) (record : Members) :
    filling settings request form record = (do
      let report ← (request.running settings form).perform record
      awaitReview request form
      return report) := rfl

/-- The report of a run that came to its end: all steps were taken, or one that failed was the last. -/
def reportOf? : Except Failure Report → Option Report
  | .ok report => some report
  | .error (.fieldFailed _ report) => some report
  | .error _ => none

/-- What a person is asked with to look at the form. -/
def reviewRequest : Event :=
  .askConsole (reviewMessage ++ " ")

/-- Why the time for a person to look at the form does not pass. -/
def reviewFailure? (request : RunRequest) (form : Form) (world : World) : Option Failure :=
  if form.options.pauseForReview then
    if world.host.answers reviewRequest then none else some .brokenOff
  else if request.leavesOpen && !world.page.closed then
    (world.page.error? world.trace (.call .waitForClose)).map .browser
  else none

def reviewLines (request : RunRequest) (form : Form) : List Printed :=
  if !form.options.pauseForReview && request.leavesOpen then [.line leftOpenMessage] else []

/-- The events of waiting until a person closes the page, which may have been closed before. -/
def awaitingClose (page : Page) : List Event :=
  .isClosed :: if page.closed then [] else [.call .waitForClose]

def reviewEvents (request : RunRequest) (form : Form) (page : Page) : List Event :=
  if form.options.pauseForReview then [reviewRequest]
  else if request.leavesOpen then awaitingClose page
  else []

theorem leftOpenMessage_plain : ∀ c ∈ leftOpenMessage.toList, c ≠ '[' ∧ c.toNat < 0xF0000 := by
  have plain : leftOpenMessage.toList.all (fun c => c ≠ '[' ∧ c.toNat < 0xF0000) = true := by cbv
  simpa using plain

theorem awaitReview_ended (request : RunRequest) (form : Form) {world : World} (started : world.opened.page = true) :
    ∃ after, (awaitReview request form).runIn world = ((reviewFailure? request form world).elim (.ok ()) .error, after) ∧
      after.printed = world.printed ++ reviewLines request form ∧
      after.trace = world.trace ++ reviewEvents request form world.page := by
  unfold awaitReview reviewFailure? reviewLines reviewEvents
  cases form.options.pauseForReview with
  | true =>
    have asked : (Run.ask .console reviewMessage).runIn world =
        (if world.host.answers reviewRequest then .ok () else .error .brokenOff, world.note reviewRequest) :=
      runIn_ask reviewRequest world
    refine ⟨world.note reviewRequest, ?_, (List.append_nil _).symm, rfl⟩
    cases answers : world.host.answers reviewRequest with
    | true => simpa [answers] using asked
    | false => simpa [answers] using asked
  | false =>
    cases request.leavesOpen with
    | false => exact ⟨world, rfl, by simp, by simp⟩
    | true =>
      let told : World := { world with printed := world.printed ++ [.line leftOpenMessage] }
      have waits : (do say leftOpenMessage; Session.waitUntilClosed : Act Unit).runIn world =
          (if !told.page.closed then call .waitForClose else pure ()).runIn (told.note .isClosed) := by
        unfold Session.waitUntilClosed
        rw [runIn_bind_ok (say_plain leftOpenMessage_plain world), runIn_bind_ok (runIn_get _)]
        simp only [started, ↓reduceIte]
        rw [runIn_bind_ok (runIn_note _ _), runIn_bind_ok (runIn_get _)]
        rfl
      simp only [Bool.false_eq_true, ↓reduceIte, Bool.true_and, Bool.not_false, awaitingClose]
      rw [waits]
      cases closed : world.page.closed with
      | true => exact ⟨told.note .isClosed, by simp [told], rfl, rfl⟩
      | false =>
        have unaffected : world.page.error? (world.trace ++ [.isClosed]) (.call .waitForClose) =
            world.page.error? world.trace (.call .waitForClose) := Page.error?_append (by simp [Page.sameKind])
        simp only [told, Bool.not_false, ↓reduceIte]
        cases fault : world.page.error? world.trace (.call .waitForClose) with
        | some error => exact ⟨_, runIn_call_error (unaffected.trans fault), rfl, List.append_assoc _ _ _⟩
        | none => exact ⟨_, runIn_call (unaffected.trans fault), rfl, List.append_assoc _ _ _⟩

/-- Why the result of a run is not told: the browser cannot be closed, or the form of a run that returned cannot be
    looked at. -/
def interruption? (session : Session) (request : RunRequest) (form : Form) (ran : World)
    (result : Except Failure Report) : Option Failure :=
  ((session.closingFault? ran.page ran.trace).map .browser).or
    (result.toOption.bind fun _ => reviewFailure? request form ran)

def linesAfter (request : RunRequest) (form : Form) (result : Except Failure Report) : List Printed :=
  if result.isOk then reviewLines request form else []

/-- The calls that close a session: the driver is stopped only if what was launched could be closed. -/
def closingEvents (session : Session) (page : Page) (before : List Event) : List Event :=
  .call session.closing ::
    if page.error? before (.call session.closing) = none then [.call .stopDriver] else []

def eventsAfter (request : RunRequest) (form : Form) (page : Page) (result : Except Failure Report) : List Event :=
  if result.isOk then reviewEvents request form page else []

variable {settings : Settings} {arguments : List String} {world started ran : World} {request : RunRequest}
  {form : Form} {record : Members} {result : Except Failure Report}

theorem filling_ended (opened : ran.opened.page = true)
    (performed : ((request.running settings form).perform record).runIn started = (result, ran)) :
    ∃ reviewed, (filling settings request form record).runIn started =
        ((result.toOption.bind fun _ => reviewFailure? request form ran).elim result .error, reviewed) ∧
      reviewed.printed = ran.printed ++ linesAfter request form result ∧
      ran.Added Event.keepsOpen reviewed (eventsAfter request form ran.page result) := by
  rw [filling_eq]
  cases result with
  | error failure => exact ⟨ran, runIn_bind_error performed, (List.append_nil _).symm, .nil rfl rfl rfl rfl⟩
  | ok report =>
    rw [runIn_bind_ok performed]
    obtain ⟨reviewed, ended, printed, trace⟩ := awaitReview_ended request form opened
    obtain ⟨added, grown⟩ := awaitReview_confined request form ran
    rw [ended] at grown
    obtain rfl : added = reviewEvents request form ran.page := List.append_cancel_left (grown.trace.symm.trans trace)
    refine ⟨reviewed, ?_, printed, grown⟩
    cases failed : reviewFailure? request form ran with
    | some failure =>
      rw [failed] at ended
      exact runIn_bind_error ended
    | none =>
      rw [failed] at ended
      exact runIn_bind_ok ended

theorem Starts.fill_ended (starts : Starts settings arguments world request form record started)
    (performed : ((request.running settings form).perform record).runIn started = (result, ran)) :
    ∃ closed, (fill settings request form record).runIn (world.note (.configureLogging request.logLevel)) =
        ((interruption? (request.session settings form) request form ran result).elim result .error, closed) ∧
      closed.host = world.host ∧ closed.printed = ran.printed ++ linesAfter request form result ∧
      closed.trace = ran.trace ++ eventsAfter request form ran.page result ++
        closingEvents (request.session settings form) ran.page ran.trace := by
  let session := request.session settings form
  let noted := world.note (.configureLogging request.logLevel)
  -- The run has closed nothing that the start has opened, and the review closes nothing either.
  obtain ⟨launched, begun⟩ := session.start_opens noted () started starts.fresh starts.starts
  obtain ⟨filling, worked⟩ := (request.running settings form).perform_confined record started
  rw [performed] at worked
  have opened : ran.opened = session.opened := worked.opened.trans begun.opened
  have page : ran.opened.page = true := by rw [opened]; rfl
  obtain ⟨reviewed, ended, printed, grown⟩ := filling_ended page performed
  obtain ⟨closed, finished, host, said, trace⟩ := Session.closingAfter_ended ended (grown.opened.trans opened)
  rw [grown.error?_closing session.closing_closes, grown.trace] at trace
  refine ⟨closed, ?_, host.trans (grown.host.trans (worked.host.trans begun.host)), said.trans printed, trace⟩
  rw [fill_eq, runIn_bind_ok starts.starts, finished, session.closingFault?_of_added grown]
  unfold interruption?
  cases session.closingFault? ran.page ran.trace <;> rfl

theorem failure_of_interruption {session : Session} {failure : Failure}
    (interrupted : interruption? session request form ran result = some failure) :
    (∃ error, failure = .browser error) ∨ failure = .brokenOff := by
  unfold interruption? at interrupted
  rcases Option.or_eq_some_iff.mp interrupted with closing | ⟨-, review⟩
  · obtain ⟨error, -, rfl⟩ := Option.map_eq_some_iff.mp closing
    exact .inl ⟨error, rfl⟩
  · obtain ⟨report, -, failed⟩ := Option.bind_eq_some_iff.mp review
    unfold reviewFailure? at failed
    split at failed
    · split at failed
      · cases failed
      · exact .inr (Option.some.inj failed).symm
    · split at failed
      · obtain ⟨error, -, rfl⟩ := Option.map_eq_some_iff.mp failed
        exact .inl ⟨error, rfl⟩
      · cases failed

theorem verdict_of_completed {report : Report} (completed : reportOf? result = some report) :
    ∃ announced, verdict result = announced ++ [outcomeTable report, .line (countLine report)] := by
  cases result with
  | ok given =>
    obtain rfl : given = report := Option.some.inj completed
    exact ⟨[], rfl⟩
  | error failure =>
    cases failure with
    | fieldFailed outcome given =>
      obtain rfl : given = report := Option.some.inj completed
      exact ⟨[.line s!"❌ {(Failure.fieldFailed outcome given).message}"], rfl⟩
    | _ => cases completed

theorem exitCode_of_interruption {session : Session} {failure : Failure} (console : Console)
    (interrupted : interruption? session request form ran result = some failure) :
    (verdict (.error failure)).length ≤ 1 ∧ (Ending.told console (.error failure)).exitCode = 1 := by
  have after : (verdict (.error failure)).length ≤ 1 ∧ (Ending.after (.error failure)).exitCode = 1 := by
    rcases failure_of_interruption interrupted with ⟨error, rfl⟩ | rfl <;> simp [verdict, Ending.after, Ending.exitCode]
  refine ⟨after.1, ?_⟩
  unfold Ending.told
  cases console.refusal? (verdict (.error failure)) with
  | some text => rfl
  | none => exact after.2

theorem after_of_completed {report : Report} (completed : reportOf? result = some report) (failure : Failure) :
    Ending.after result ≠ .crashed failure := by
  cases result with
  | ok given => exact nofun
  | error failure =>
    cases failure with
    | fieldFailed outcome given => exact nofun
    | _ => cases completed

/-- A run that came to its end is reported, with the exit code that goes with it, exactly if nothing fails after
    it and the console takes the report. Otherwise the program fails: it tells at most of what failed, or it breaks off
    where the console refuses to go on. -/
theorem execute_reports_iff (starts : Starts settings arguments world request form record started)
    (performed : ((request.running settings form).perform record).runIn started = (result, ran))
    {report : Report} (completed : reportOf? result = some report) :
    ((execute settings arguments world).1 = .after result ∧
        (execute settings arguments world).2.printed = ran.printed ++ linesAfter request form result ++ verdict result ↔
      interruption? (request.session settings form) request form ran result = none ∧
        ∀ thing ∈ verdict result, world.host.console.fault? thing = none) ∧
    (∀ failure, interruption? (request.session settings form) request form ran result = some failure →
      (execute settings arguments world).1 = .told world.host.console (.error failure) ∧
      (execute settings arguments world).1.exitCode = 1 ∧
      (execute settings arguments world).2.printed = ran.printed ++ linesAfter request form result ++
        world.host.console.shown (verdict (.error failure)) ∧
      (verdict (.error failure)).length ≤ 1) ∧
    (interruption? (request.session settings form) request form ran result = none →
      ∀ text, world.host.console.refusal? (verdict result) = some text →
        (execute settings arguments world).1 = .crashed (.console text) ∧
        (execute settings arguments world).1.exitCode = 1 ∧
        (execute settings arguments world).2.printed = ran.printed ++ linesAfter request form result ++
          world.host.console.shown (verdict result)) := by
  obtain ⟨closed, filled, host, printed, -⟩ := starts.fill_ended performed
  have executed := starts.execute_concludes filled host
  obtain ⟨announced, told⟩ := verdict_of_completed completed
  rw [executed, printed]
  cases interrupted : interruption? (request.session settings form) request form ran result with
  | none =>
    refine ⟨?_, fun failure same => absurd same.symm (Option.some_ne_none failure), fun _ text refused => ?_⟩
    · cases refused : world.host.console.refusal? (verdict result) with
      | none =>
        have shows := Console.refusal?_eq_none_iff.mp refused
        refine iff_of_true ⟨Ending.told_of_shown shows, ?_⟩ ⟨rfl, shows⟩
        exact congrArg _ (Console.shown_eq_iff.mpr refused)
      | some text =>
        refine iff_of_false ?_ fun shows => ?_
        · rintro ⟨same, -⟩
          refine after_of_completed completed (.console text) (same.symm.trans ?_)
          simp [Ending.told, refused]
        · rw [Console.refusal?_eq_none_iff.mpr shows.2] at refused
          cases refused
    · have crashed : Ending.told world.host.console result = .crashed (.console text) := by
        simp [Ending.told, refused]
      exact ⟨crashed, congrArg Ending.exitCode crashed, rfl⟩
  | some failure =>
    obtain ⟨short, code⟩ := exitCode_of_interruption world.host.console interrupted
    have broken := Option.some_ne_none failure
    refine ⟨iff_of_false ?_ fun calm => broken calm.1, ?_, fun calm => absurd calm broken⟩
    -- A report takes two lines at least, the failure that replaces it at most one.
    · rintro ⟨-, same⟩
      have lengths := congrArg List.length (List.append_cancel_left same)
      have shown := (world.host.console.shown_prefix (verdict (.error failure))).length_le
      rw [told] at lengths
      simp only [Option.elim_some, List.length_append, List.length_cons] at lengths
      omega
    · intro other same
      obtain rfl := Option.some.inj same
      exact ⟨rfl, code, rfl, short⟩

/-- A record without members and a form without fields. -/
def plainFiles : Files where
  occupants := [(["listing.json"], .file "\x7b\x7d".toUTF8),
    (["selectors.json"],
      .file "\x7b\"url\": \"a:b\", \"fields\": [], \"submit\": \x7b\"selector\": \"#go\"\x7d\x7d".toUTF8)]

def plainForm : Form := ⟨"a:b", [], none, none, some ⟨some "#go"⟩, .default⟩

def plainRequest (headed : Bool) : RunRequest :=
  ⟨.below ["listing.json"], .below ["selectors.json"], false, headed, false, true, none, none, none, none, none⟩

theorem readRecord_plain : readRecord plainFiles (.below ["listing.json"]) = .ok [] := by cbv

theorem readForm_plain : readForm plainFiles (.below ["selectors.json"]) = .ok plainForm := by cbv

theorem starts_plain {arguments : List String} {headed : Bool} {world started : World}
    (asked : Command.ofArguments .default arguments = .ok (.run (plainRequest headed)))
    (files : world.files = plainFiles) (host : world.host = .willing) (fresh : world.opened = .nothing)
    (starts : ((plainRequest headed).session .default plainForm).start.runIn (world.note (.configureLogging none)) =
      (.ok (), started)) :
    Starts .default arguments world (plainRequest headed) plainForm [] started := by
  have recorded := readRecord_plain
  have formed := readForm_plain
  rw [← files] at recorded formed
  exact ⟨asked, rfl, host ▸ logFault?_willing, recorded, ⟨plainForm, formed, rfl⟩, fresh, starts⟩

theorem execute_reports_iff_waiting :
    let page : Page := { Page.blank with faults := [(.waitForClose, .always ⟨false, "crashed"⟩)] }
    let ended := execute .default ["run", "--headed", "--submit"] (.untouched page plainFiles)
    ended.1 = .refused ∧ ended.2.printed = [.line leftOpenMessage, .line "❌ Run failed: crashed"] := by
  intro page ended
  let world : World := .untouched page plainFiles
  let request := plainRequest true
  let started : World := ((request.session .default plainForm).start.runIn (world.note (.configureLogging none))).2
  let performed := ((request.running .default plainForm).perform []).runIn started
  have asked : Command.ofArguments .default ["run", "--headed", "--submit"] = .ok (.run request) := by cbv
  have starts : Starts .default ["run", "--headed", "--submit"] world request plainForm [] started :=
    starts_plain asked rfl rfl rfl rfl
  have completed : reportOf? performed.1 = some ⟨"a:b", [], [], true, true⟩ := rfl
  have interrupted : interruption? (request.session .default plainForm) request plainForm performed.2 performed.1 =
      some (.browser ⟨false, "crashed"⟩) := rfl
  obtain ⟨refused, -, told, -⟩ := (execute_reports_iff starts rfl completed).2.1 _ interrupted
  exact ⟨refused, told⟩

/-- A form that was sent off is told to have failed if the browser cannot be closed. -/
theorem execute_hides_submission :
    let page : Page := { Page.blank with faults := [(.closeBrowser, .always ⟨false, "gone"⟩)] }
    let request := plainRequest false
    let session := request.session .default plainForm
    let world : World := .untouched page plainFiles
    let started : World := (session.start.runIn (world.note (.configureLogging none))).2
    let performed := ((request.running .default plainForm).perform []).runIn started
    let ended := execute .default ["run", "--submit"] world
    performed.1 = .ok ⟨"a:b", [], [], true, true⟩ ∧ ended.1 = .refused ∧
      ended.2.printed = [.line "❌ Run failed: gone"] := by
  intro page request session world started performed ended
  have asked : Command.ofArguments .default ["run", "--submit"] = .ok (.run request) := by cbv
  have starts : Starts .default ["run", "--submit"] world request plainForm [] started :=
    starts_plain asked rfl rfl rfl rfl
  have ran : ((request.running .default plainForm).perform []).runIn started = (performed.1, performed.2) := rfl
  obtain ⟨closed, filled, host, printed, -⟩ := starts.fill_ended ran
  have executed : ended = _ := starts.execute_concludes filled host
  refine ⟨rfl, ?_, ?_⟩
  · rw [executed]
    rfl
  · rw [executed, printed]
    rfl

end CommandLine
end FormFill
