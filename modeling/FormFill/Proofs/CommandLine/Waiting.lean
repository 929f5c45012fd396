import FormFill.Proofs.CommandLine.Reporting

namespace FormFill

open Act

theorem Session.start_launches {session : Session} {world started : World}
    (starts : session.start.runIn world = (.ok (), started)) :
    started.page = world.page ∧
      started.trace = world.trace ++ (session.launching world.page.openPages).map .call := by
  obtain ⟨page, -, made⟩ := session.start_makes world.page world.opened world rfl rfl
  rw [starts] at page made
  exact ⟨page, made.2.1⟩

namespace CommandLine

/-- A browser is shown only where that is asked for, by name or for a cautious run. -/
theorem leavesOpen_of_shown {request : RunRequest} (shown : request.hidesBrowser = false) :
    request.leavesOpen = request.headed ∧ (request.headed = true ∨ request.safe = true) := by
  unfold RunRequest.hidesBrowser at shown
  unfold RunRequest.leavesOpen
  cases headless : request.headless with
  | true => simp [headless] at shown
  | false =>
    cases headed : request.headed with
    | true => simp
    | false =>
      have safe : request.safe = true := by simpa [headless, headed] using shown
      simp [safe]

variable {settings : Settings} {arguments : List String} {world started ran : World} {request : RunRequest}
  {form : Form} {record : Members}

theorem Starts.runs (starts : Starts settings arguments world request form record started)
    {result : Except Failure Report}
    (performed : ((request.running settings form).perform record).runIn started = (result, ran)) :
    ran.page = world.page ∧ ∃ filled, (∀ event ∈ filled, event.ofRun = true) ∧
      ran.trace = world.trace ++ .configureLogging request.logLevel ::
        ((request.session settings form).launching world.page.openPages).map .call ++ filled := by
  obtain ⟨page, launched⟩ := Session.start_launches starts.starts
  obtain ⟨filled, grown⟩ := (request.running settings form).perform_confined record started
  rw [performed] at grown
  refine ⟨grown.page.trans page, filled, grown.ofKind, ?_⟩
  rw [grown.trace, launched, List.append_cancel_right_eq]
  exact List.append_assoc _ _ _

/-- A browser that is shown, and that no one is to be asked about, stays open after a run that returned until its
    page is closed, just where it was asked for by name. One that is shown for a cautious run is closed at once. -/
theorem execute_awaits_close_iff (starts : Starts settings arguments world request form record started)
    (shown : (request.session settings form).launchOptions.headless = false)
    (unreviewed : form.options.pauseForReview = false) {report : Report}
    (performed : ((request.running settings form).perform record).runIn started = (.ok report, ran)) :
    ∃ filled waiting, (∀ event ∈ filled, event.ofRun = true) ∧
      ran.trace = world.trace ++ .configureLogging request.logLevel ::
        ((request.session settings form).launching world.page.openPages).map .call ++ filled ∧
      (execute settings arguments world).2.trace =
        ran.trace ++ waiting ++ closingEvents (request.session settings form) ran.page ran.trace ∧
      (waiting = awaitingClose world.page ↔ request.headed = true) ∧
      (waiting = [] ↔ request.headed = false ∧ request.safe = true) := by
  obtain ⟨page, filled, ofRun, trace⟩ := starts.runs performed
  obtain ⟨closed, filling, host, -, ended⟩ := starts.fill_ended performed
  have executed := starts.execute_concludes filling host
  obtain ⟨leaves, asked⟩ := leavesOpen_of_shown shown
  have after : eventsAfter request form ran.page (.ok report) =
      if request.headed then awaitingClose world.page else [] := by
    simp only [eventsAfter, Except.isOk, Except.toBool, reviewEvents, unreviewed, leaves, page, Bool.false_eq_true,
      ↓reduceIte]
  have something : awaitingClose world.page ≠ [] := List.cons_ne_nil _ _
  refine ⟨filled, if request.headed then awaitingClose world.page else [], ofRun, trace, ?_, ?_, ?_⟩
  · rw [executed, ← after]
    exact ended
  · cases headed : request.headed <;> simp [something.symm]
  · cases headed : request.headed with
    | true => simp [something]
    | false => simpa [headed] using asked

/-- A form without fields that is filled with the window shown and with the delays of a cautious run. -/
def cautiousRequest : RunRequest :=
  { plainRequest false with safe := true, submit := false }

def cautiousForm : Form :=
  { plainForm with options := plainForm.options.override Settings.default.safePresets cautiousRequest.overrides }

theorem execute_awaits_close_iff_headed :
    let request := { plainRequest true with submit := true }
    let ended := execute .default ["run", "--headed", "--submit"] (.untouched .blank plainFiles)
    (request.session .default plainForm).launchOptions.headless = false ∧
      ∃ earlier, ended.2.trace = earlier ++
        [.isClosed, .call .waitForClose, .call .closeBrowser, .call .stopDriver] := by
  intro request ended
  let world : World := .untouched .blank plainFiles
  let started : World := ((request.session .default plainForm).start.runIn (world.note (.configureLogging none))).2
  let performed := ((request.running .default plainForm).perform []).runIn started
  have asked : Command.ofArguments .default ["run", "--headed", "--submit"] = .ok (.run request) := by cbv
  have starts : Starts .default ["run", "--headed", "--submit"] world request plainForm [] started :=
    starts_plain asked rfl rfl rfl rfl
  have ran : ((request.running .default plainForm).perform []).runIn started =
      (.ok ⟨"a:b", [], [], true, true⟩, performed.2) := rfl
  obtain ⟨filled, waiting, -, -, trace, awaits, -⟩ := execute_awaits_close_iff starts rfl rfl ran
  rw [awaits.mpr rfl] at trace
  exact ⟨rfl, performed.2.trace, trace⟩

/-- A window that is shown for a cautious run is closed as soon as the form is filled. -/
theorem execute_closes_shown :
    let ended := execute .default ["run", "--safe"] (.untouched .blank plainFiles)
    ended.1 = .success ∧ Page.blank.closed = false ∧ cautiousForm.options.pauseForReview = false ∧
      ended.2.trace = [.configureLogging none, .call .startDriver, .call (.launch ⟨false, some 100, none⟩),
        .call .newContext, .call .newPage, .call (.goto "a:b" .domContentLoaded), .call .closeBrowser,
        .call .stopDriver] := by
  intro ended
  let world : World := .untouched .blank plainFiles
  let session := cautiousRequest.session .default cautiousForm
  let started : World := (session.start.runIn (world.note (.configureLogging none))).2
  have asked : Command.ofArguments .default ["run", "--safe"] = .ok (.run cautiousRequest) := by cbv
  have starts : Starts .default ["run", "--safe"] world cautiousRequest cautiousForm [] started :=
    ⟨asked, rfl, logFault?_willing, readRecord_plain, ⟨plainForm, readForm_plain, rfl⟩, rfl, rfl⟩
  have ran : ((cautiousRequest.running .default cautiousForm).perform []).runIn started =
      (.ok ⟨"a:b", [], [], false, true⟩, _) := rfl
  obtain ⟨closed, filled, host, -, trace⟩ := starts.fill_ended ran
  have executed : ended = _ := starts.execute_concludes filled host
  refine ⟨?_, rfl, rfl, ?_⟩
  · rw [executed]
    rfl
  · rw [executed]
    exact trace.trans rfl

end CommandLine
end FormFill
