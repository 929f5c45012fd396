import FormFill.Proofs.Act.Adding
import FormFill.Proofs.CommandLine.Closing
import FormFill.Proofs.CommandLine.Loading

namespace FormFill

/-- The value that the text of a file stands for, if there is one. -/
def Files.json? (files : Files) (path : Path) : Option Json :=
  match files.readText path with
  | .ok text => (Json.read files.halves text).toOption
  | .error _ => none

/-- The profile over which a browser is launched, if any, and the options of the launch. -/
def Event.launch? : Event → Option (Option String × LaunchOptions)
  | .call (.launch options) => some (none, options)
  | .call (.launchPersistent folder options) => some (some folder, options)
  | _ => none

theorem Event.launch?_of_ofVisit {event : Event} (ofVisit : event.ofVisit = true) : event.launch? = none := by
  cases event with
  | call made => cases made <;> first | rfl | cases ofVisit
  | _ => rfl

theorem Event.launch?_of_closing {event : Event} (closing : event.keepsOpen = false) : event.launch? = none := by
  cases event with
  | call made => cases made <;> first | rfl | cases closing
  | _ => rfl

namespace Session

open Act

/-- Whatever an event launches is the browser of a session. -/
def Launches (session : Session) (event : Event) : Prop :=
  ∀ launched, event.launch? = some launched → launched = (given session.userDataDir, session.launchOptions)

theorem Launches.of_none {session : Session} {event : Event} (none : event.launch? = none) :
    session.Launches event := by
  intro launched launches
  rw [none] at launches
  cases launches

theorem launching_launches (session : Session) (openPages : Nat) :
    ∀ made ∈ session.launching openPages, session.Launches (.call made) := by
  unfold launching Launches
  cases given session.userDataDir with
  | some folder =>
    dsimp only
    split <;> simp [Event.launch?]
  | none => simp [Event.launch?]

theorem start_each (session : Session) : Each session.Launches session.start := by
  intro world
  obtain ⟨page, -, ended⟩ := session.start_makes world.page world.opened world rfl rfl
  have launches {made : List Call} (among : made ⊆ session.launching world.page.openPages) :
      ∀ event ∈ made.map Event.call, session.Launches event := by
    intro event member
    obtain ⟨call, called, rfl⟩ := List.mem_map.mp member
    exact session.launching_launches _ call (among called)
  rcases ran : session.start.runIn world with ⟨failure | _, after⟩
  · rw [ran] at page ended
    obtain ⟨earlier, failed, _, -, breaks, trace⟩ := ended
    exact ⟨_, page, trace, launches breaks.planned.subset⟩
  · rw [ran] at page ended
    obtain ⟨-, trace, -⟩ := ended
    exact ⟨_, page, trace, launches (List.Subset.refl _)⟩

theorem close_each : Each (fun event => event.keepsOpen = false) close := by
  have forgets : Each (fun event => event.keepsOpen = false) (do
      open_ fun _ => .nothing
      log "Browser closed" []) :=
    .bind (.silent (fun _ => rfl) fun _ => rfl) fun _ => .silent (fun _ => rfl) fun _ => rfl
  have stops (opened : Opened) : Each (fun event => event.keepsOpen = false) (do
      if opened.driver then call .stopDriver
      open_ fun _ => .nothing
      log "Browser closed" []) := by
    dsimp only
    split
    · exact .bind (.call rfl) fun _ => forgets
    · exact forgets
  unfold close
  refine .bind (.silent (fun _ => rfl) fun _ => rfl) fun world => ?_
  dsimp only
  split
  · exact .bind (.call rfl) fun _ => stops _
  · split
    · exact .bind (.call rfl) fun _ => stops _
    · exact stops _

theorem closingAfter_each {α : Type} {kind : Event → Prop} {action : Act α} (acts : Each kind action)
    (closes : ∀ event, event.keepsOpen = false → kind event) : Each kind (closingAfter action) := by
  intro world
  -- The session is closed whatever the action has come to, in the world that this has left.
  have closed : ((closingAfter action).runIn world).2 = (close.runIn (action.runIn world).2).2 := by
    unfold closingAfter
    rw [runIn_bind_ok (runIn_attempt action world), runIn_bind]
    rcases close.runIn (action.runIn world).2 with ⟨failure | _, after⟩
    · rfl
    · cases (action.runIn world).1 <;> rfl
  obtain ⟨acted, page, trace, holds⟩ := acts world
  obtain ⟨closing, still, further, ends⟩ := close_each (action.runIn world).2
  rw [closed]
  refine ⟨acted ++ closing, still.trans page, by rw [further, trace, List.append_assoc], ?_⟩
  exact List.forall_mem_append.mpr ⟨holds, fun event member => closes event (ends event member)⟩

end Session

namespace CommandLine

open Act

variable {settings : Settings} {arguments : List String} {world : World}

/-- The files that a run is pointed to hold what it needs: a JSON object as the record, and a form. -/
structure RunRequest.Loads (request : RunRequest) (files : Files) (record : Members) (form : Form) : Prop where
  reachable : (Command.run request).targets.any Path.hasNul = false
  recorded : files.json? request.record = some (.obj record)
  formed : ∃ document, files.json? request.form = some document ∧ Form.load document = .ok form

theorem readJson_eq_ok_iff {files : Files} {path : Path} {value : Json} :
    readJson files path = .ok value ↔ files.json? path = some value := by
  unfold Files.json?
  cases found : files.readText path with
  | ok text =>
    rw [readJson_of_text found]
    cases parsed : Json.read files.halves text <;> simp [Except.mapError, Except.toOption, parsed]
  | error fault =>
    have unread : readJson files path ≠ .ok value := by
      unfold readJson
      rw [found]
      cases files.holds path with
      | error cause => exact nofun
      | ok there => cases there <;> cases fault <;> exact nofun
    simp [unread]

theorem RunRequest.loads_iff {request : RunRequest} {files : Files} {record : Members} {form : Form} :
    request.Loads files record form ↔ (Command.run request).targets.any Path.hasNul = false ∧
      readRecord files request.record = .ok record ∧ readForm files request.form = .ok form := by
  have recorded : readRecord files request.record = .ok record ↔ files.json? request.record = some (.obj record) := by
    rw [← readJson_eq_ok_iff]
    unfold readRecord
    rcases readJson files request.record with fault | value
    · exact iff_of_false nofun nofun
    · cases value <;> simp [Bind.bind, Except.bind]
  have formed : readForm files request.form = .ok form ↔
      ∃ document, files.json? request.form = some document ∧ Form.load document = .ok form := by
    simp only [← readJson_eq_ok_iff]
    unfold readForm
    rcases readJson files request.form with fault | document
    · exact iff_of_false nofun nofun
    · cases loaded : Form.load document <;> simp [Bind.bind, Except.bind, Except.mapError, loaded]
  rw [recorded, formed]
  exact ⟨fun loads => ⟨loads.reachable, loads.recorded, loads.formed⟩, fun loads => ⟨loads.1, loads.2.1, loads.2.2⟩⟩

theorem fill_each (settings : Settings) (request : RunRequest) (form : Form) (record : Members) :
    Each (request.session settings form).Launches (fill settings request form record) := by
  rw [fill_eq]
  refine .bind (Session.start_each _) fun _ => ?_
  refine Session.closingAfter_each ?_ fun event closes => .of_none (Event.launch?_of_closing closes)
  exact .of_confined (filling_visits settings request form record) fun event visits =>
    .of_none (Event.launch?_of_ofVisit visits)

/-- The first file of a run that does not load is what the run fails with. -/
theorem RunRequest.fails_of_not_loads {request : RunRequest} {files : Files}
    (reachable : (Command.run request).targets.any Path.hasNul = false)
    (unloaded : ∀ record form, ¬ request.Loads files record form) :
    ∃ label path fault, (Command.run request).Fails files label path fault := by
  cases recorded : readRecord files request.record with
  | error fault => exact ⟨_, _, fault, .record request fault recorded⟩
  | ok record =>
    cases formed : readForm files request.form with
    | error fault => exact ⟨_, _, fault, .form request record fault recorded formed⟩
    | ok form => exact absurd (loads_iff.mpr ⟨reachable, recorded, formed⟩) (unloaded record form)

/-- How the program ends without having dealt with a browser or changed a file. -/
structure Untouched (world : World) (ended : Ending × World) : Prop where
  files : ended.2.files = world.files
  trace : ∃ added, ended.2.trace = world.trace ++ added ∧ ∀ event ∈ added, ∃ level, event = .configureLogging level

theorem Untouched.of_kept {ended : Ending × World} (files : ended.2.files = world.files)
    (trace : ended.2.trace = world.trace) : Untouched world ended :=
  ⟨files, [], by rw [trace, List.append_nil], nofun⟩

theorem Untouched.of_begun {command : Command} {ended : Ending × World}
    (files : ended.2.files = (command.begun world).files) (trace : ended.2.trace = (command.begun world).trace) :
    Untouched world ended := by
  cases command with
  | run request => exact ⟨files, [.configureLogging request.logLevel], trace, by simp⟩
  | _ => exact .of_kept files trace

theorem Command.Refuses.untouched {command : Command} {fault : LoadFault} {lines : List String}
    {ended : Ending × World} (refuses : command.Refuses settings world fault lines ended) : Untouched world ended := by
  cases refuses <;> exact .of_begun rfl rfl

theorem execute_misused {misuse : Misuse} (misused : Command.ofArguments settings arguments = .error misuse) :
    execute settings arguments world = (.misused misuse, world) := by
  unfold execute
  rw [misused]

theorem execute_unnamable {command : Command} (asked : Command.ofArguments settings arguments = .ok command)
    (unnamable : command.targets.any Path.hasNul = true) :
    execute settings arguments world = (.crashed .nulInPath, world) := by
  have thrown : (perform settings command).runIn world = (.error .nulInPath, world) := by
    unfold perform
    simp only [unnamable, ↓reduceIte]
    exact runIn_bind_error rfl
  unfold runIn at thrown
  unfold execute
  rw [asked]
  dsimp only
  rw [thrown]

theorem execute_unloaded {request : RunRequest} (asked : Command.ofArguments settings arguments = .ok (.run request))
    (unloaded : ∀ record form, ¬ request.Loads world.files record form) :
    Untouched world (execute settings arguments world) ∧ (execute settings arguments world).1.exitCode ≠ 0 := by
  cases reachable : (Command.run request).targets.any Path.hasNul with
  | true =>
    rw [execute_unnamable asked reachable]
    exact ⟨.of_kept rfl rfl, Nat.one_ne_zero⟩
  | false =>
    obtain ⟨label, path, fault, fails⟩ := RunRequest.fails_of_not_loads reachable unloaded
    have refuses := execute_refuses asked reachable fails
    refine ⟨refuses.untouched, ?_⟩
    generalize execute settings arguments world = ended at refuses ⊢
    cases refuses <;> exact Nat.one_ne_zero

theorem execute_validates {path : Path} (asked : Command.ofArguments settings arguments = .ok (.validate path)) :
    Untouched world (execute settings arguments world) := by
  cases reachable : (Command.validate path).targets.any Path.hasNul with
  | true =>
    rw [execute_unnamable asked reachable]
    exact .of_kept rfl rfl
  | false =>
    cases formed : readForm world.files path with
    | error fault => exact (execute_refuses asked reachable (.validated path fault formed)).untouched
    | ok form =>
      have prints : (do printForm form; return .success : Act Ending) =
          [fieldTable form, .line s!"✅ {form.fields.length} field(s) valid"].forM print >>= fun _ =>
            return .success := by
        simp [printForm]
      have validated : (dispatch settings (.validate path)).runIn world =
          (do printForm form; return .success : Act Ending).runIn world := by
        unfold dispatch validate
        rw [runIn_bind_ok (loadForm_runIn formed)]
      rw [prints, runIn_bind, forM_print] at validated
      cases refused : world.host.console.refusal?
          [fieldTable form, .line s!"✅ {form.fields.length} field(s) valid"] with
      | none =>
        rw [refused] at validated
        rw [execute_dispatches asked reachable validated]
        exact .of_kept rfl rfl
      | some text =>
        rw [refused] at validated
        rw [execute_dispatches asked reachable validated]
        exact .of_kept rfl rfl

/-- The options by which a form is filled: its own, unless the request overrides them. -/
def RunRequest.options (settings : Settings) (request : RunRequest) (form : Form) : RunOptions :=
  form.options.override settings.safePresets request.overrides

/-- A launch that arguments have led to: they ask for a run, its files load, and the browser is the one that the
    overridden options of the form ask for. -/
structure Launched (settings : Settings) (arguments : List String) (files : Files) (profile : Option String)
    (launch : LaunchOptions) (request : RunRequest) (record : Members) (form : Form) : Prop where
  asked : Command.ofArguments settings arguments = .ok (.run request)
  loads : request.Loads files record form
  profile : profile = given (request.options settings form).userDataDir
  slowMotion : launch.slowMotion =
    if (request.options settings form).slowMotion = 0 then none else some (request.options settings form).slowMotion

/-- Every launch since the program has begun has been led to by its arguments and the files it began with. -/
def LaunchesLoaded (settings : Settings) (arguments : List String) (world : World) (ended : Ending × World) : Prop :=
  ∃ added, ended.2.trace = world.trace ++ added ∧
    ∀ event ∈ added, ∀ profile launch, event.launch? = some (profile, launch) →
      ∃ request record form, Launched settings arguments world.files profile launch request record form

theorem Untouched.launchesLoaded {ended : Ending × World} (untouched : Untouched world ended) :
    LaunchesLoaded settings arguments world ended := by
  obtain ⟨added, trace, quiet⟩ := untouched.trace
  refine ⟨added, trace, fun event member profile launch launches => ?_⟩
  obtain ⟨level, rfl⟩ := quiet event member
  cases launches

theorem execute_loaded {request : RunRequest} {record : Members} {form : Form}
    (asked : Command.ofArguments settings arguments = .ok (.run request))
    (loads : request.Loads world.files record form) :
    LaunchesLoaded settings arguments world (execute settings arguments world) := by
  obtain ⟨reachable, recorded, formed⟩ := RunRequest.loads_iff.mp loads
  cases ready : logFault? settings world.host request.logLevel with
  | some cause =>
    rw [execute_dispatches asked reachable (dispatch_unlogged ready)]
    exact (Untouched.of_begun rfl rfl).launchesLoaded
  | none =>
    let overridden : Form := { form with options := request.options settings form }
    let noted := world.note (.configureLogging request.logLevel)
    obtain ⟨filling, -, trace, launches⟩ := fill_each settings request overridden record noted
    rcases filled : (fill settings request overridden record).runIn noted with ⟨result, closed⟩
    rw [filled] at trace
    rw [execute_fills asked reachable recorded formed ready filled]
    refine ⟨.configureLogging request.logLevel :: filling, trace.trans (List.append_assoc world.trace [_] filling), ?_⟩
    intro event member profile launch launched
    rcases List.mem_cons.mp member with rfl | member
    · cases launched
    · have same := launches event member _ launched
      cases same
      exact ⟨request, record, form, asked, loads, rfl, rfl⟩

theorem versionLine_plain : ∀ c ∈ versionLine.toList, c ≠ '[' ∧ c.toNat < 0xF0000 := by
  have plain : versionLine.toList.all (fun c => c ≠ '[' ∧ c.toNat < 0xF0000) = true := by cbv
  simpa using plain

theorem execute_launchesLoaded (settings : Settings) (arguments : List String) (world : World) :
    LaunchesLoaded settings arguments world (execute settings arguments world) := by
  cases asked : Command.ofArguments settings arguments with
  | error misuse =>
    rw [execute_misused asked]
    exact (Untouched.of_kept rfl rfl).launchesLoaded
  | ok command =>
    cases command with
    | help =>
      rw [execute_dispatches asked rfl (runIn_pure _ _)]
      exact (Untouched.of_kept rfl rfl).launchesLoaded
    | version =>
      have said : (dispatch settings .version).runIn world =
          (.ok .success, { world with printed := world.printed ++ [.line versionLine] }) :=
        runIn_bind_ok (say_plain versionLine_plain world)
      rw [execute_dispatches asked rfl said]
      exact (Untouched.of_kept rfl rfl).launchesLoaded
    | validate path => exact (execute_validates asked).launchesLoaded
    | run request =>
      by_cases loads : ∃ record form, request.Loads world.files record form
      · obtain ⟨record, form, loaded⟩ := loads
        exact execute_loaded asked loaded
      · have unloaded : ∀ record form, ¬ request.Loads world.files record form :=
          fun record form loaded => loads ⟨record, form, loaded⟩
        exact (execute_unloaded asked unloaded).1.launchesLoaded

/-- A run whose files do not load touches neither the browser nor a file, and the program fails unless it is asked
    for help. A browser is launched only for files that have been loaded, and as their options say once they are
    overridden. -/
theorem execute_launches (settings : Settings) (arguments : List String) (world : World) :
    ((∀ command, Command.ofArguments settings arguments = .ok command → command = .help ∨
        ∃ request, command = .run request ∧ ∀ record form, ¬ request.Loads world.files record form) →
      Untouched world (execute settings arguments world) ∧
      ((execute settings arguments world).1.exitCode = 0 ↔ Command.ofArguments settings arguments = .ok .help)) ∧
    LaunchesLoaded settings arguments world (execute settings arguments world) := by
  refine ⟨fun unloaded => ?_, execute_launchesLoaded settings arguments world⟩
  cases asked : Command.ofArguments settings arguments with
  | error misuse =>
    rw [execute_misused asked]
    exact ⟨.of_kept rfl rfl, iff_of_false (Nat.succ_ne_zero 1) nofun⟩
  | ok command =>
    rcases unloaded command asked with rfl | ⟨request, rfl, unloaded⟩
    · rw [execute_dispatches asked rfl (runIn_pure _ _)]
      exact ⟨.of_kept rfl rfl, iff_of_true rfl rfl⟩
    · obtain ⟨untouched, fails⟩ := execute_unloaded asked unloaded
      exact ⟨untouched, iff_of_false fails nofun⟩

theorem execute_launches_list :
    let world : World := .untouched .blank { occupants := [(["listing.json"], .file "[]".toUTF8)] }
    Untouched world (execute .default ["run"] world) ∧ (execute .default ["run"] world).1.exitCode ≠ 0 := by
  intro world
  let request : RunRequest :=
    ⟨.below ["listing.json"], .below ["selectors.json"], false, false, false, false, none, none, none, none, none⟩
  have asked : Command.ofArguments .default ["run"] = .ok (.run request) := by cbv
  have listed : world.files.json? request.record = some (.arr []) := by cbv
  have unloaded (record : Members) (form : Form) : ¬ request.Loads world.files record form := by
    intro loads
    have same := listed.symm.trans loads.recorded
    cases same
  obtain ⟨untouched, succeeds⟩ := (execute_launches .default ["run"] world).1 fun command given =>
    .inr ⟨request, (Except.ok.inj (asked.symm.trans given)).symm, unloaded⟩
  refine ⟨untouched, fun success => ?_⟩
  have helps := asked.symm.trans (succeeds.mp success)
  cases helps

/-- Asked for help, the program does not look for the files that it would load. -/
theorem execute_helps :
    let world : World := .untouched .blank .empty
    world.files.json? (.ofText Settings.default.recordPath) = none ∧
      (execute .default ["run", "--help"] world).1.exitCode = 0 := by
  intro world
  have asked : Command.ofArguments .default ["run", "--help"] = .ok .help := by cbv
  rw [execute_dispatches asked rfl (runIn_pure _ _)]
  exact ⟨by cbv, rfl⟩

end CommandLine
end FormFill
