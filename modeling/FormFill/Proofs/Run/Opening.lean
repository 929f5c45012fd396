import FormFill.Proofs.Act.Growing
import FormFill.Proofs.Run.Steps

namespace FormFill

/-- Whether an event may come before the clipboard is allowed and before a field is dealt with. -/
def Event.ofOpening : Event → Bool
  | .call (.goto ..) | .call (.waitForSelector ..) | .ask _ | .askConsole _ | .sleep _ => true
  | _ => false

/-- What a failure of an event comes to while a page is opened: an element that does not appear in time is one
    that is not there. -/
def Failure.ofOpening (event : Event) : Failure → Failure
  | .browser error =>
    match event with
    | .call (.waitForSelector selector timeout) =>
      if error.timedOut then .pageNotReady selector timeout else .browser error
    | _ => .browser error
  | failure => failure

/-- What an operator is asked with, if there is one. -/
def Operator.request? (message : String) : Operator → Option Event
  | .absent => none
  | .present => some (.ask message)
  | .console => some (.askConsole (message ++ " "))

namespace Run

open Act

def opening (run : Run) : Event :=
  .call (.goto run.form.url run.form.options.waitUntil)

/-- What the operator is asked with before the first field, if the form has that asked and there is one. -/
def request? (run : Run) : Option Event :=
  if run.form.options.pauseForManualStart then run.operator.request? manualStartMessage else none

def waiting (run : Run) (selector : String) : Event :=
  .call (.waitForSelector selector run.form.options.readyTimeout)

/-- What stops a run before its page is ready, after the events that pass and with its own error: the page does not
    open, the operator breaks off, or the element that is waited for does not appear. -/
inductive Stops (run : Run) (world : World) : List Event → Event → Failure → Prop where
  | unopened {error : BrowserError} (raised : world.page.error? world.trace run.opening = some error) :
      Stops run world [] run.opening (.browser error)
  | brokenOff {request : Event} (opened : world.page.error? world.trace run.opening = none)
      (asked : run.request? = some request) (unanswered : world.host.answers request = false) :
      Stops run world [run.opening] request .brokenOff
  | unready {selector : String} {error : BrowserError} (opened : world.page.error? world.trace run.opening = none)
      (answered : ∀ request ∈ run.request?, world.host.answers request = true)
      (awaited : given run.form.options.readySelector = some selector)
      (raised : world.page.error? (world.trace ++ run.opening :: run.request?.toList) (run.waiting selector) =
        some error) :
      Stops run world (run.opening :: run.request?.toList) (run.waiting selector) (.browser error)

/-- Asks the operator to get the page to where filling can begin, if the form has that asked. -/
def askOperator (run : Run) : Act Unit :=
  if run.form.options.pauseForManualStart then ask run.operator manualStartMessage else pure ()

def awaitSelector (run : Run) : Act Unit :=
  match given run.form.options.readySelector with
  | some selector => awaitReady selector run.form.options.readyTimeout
  | none => pure ()

/-- Whether a run lets its page use the clipboard. -/
def grants (run : Run) : Bool :=
  run.form.options.grantClipboard && run.form.usesClipboard

/-- What comes between the readiness of the page and the first field. -/
def settle (run : Run) : Act Unit := do
  Timing.pause run.form.options.pauseBeforeFill
  if run.grants then grantClipboard run.form.url

theorem preparePage_eq (run : Run) :
    run.preparePage = (do
      log .info "Opening form" [("url", .str run.form.url), ("wait_until", .str run.form.options.waitUntil.name)]
      Act.call (.goto run.form.url run.form.options.waitUntil)
      run.askOperator
      run.awaitSelector
      run.settle) := by
  unfold preparePage askOperator awaitSelector settle grants
  dsimp only
  cases run.form.options.pauseForManualStart <;> cases given run.form.options.readySelector <;>
    simp only [Bool.false_eq_true, ↓reduceIte, pure_bind]

theorem log_runIn (level : LogLevel) (event : String) (values : Members) (world : World) :
    ∃ after, (log level event values).runIn world = (.ok (), after) ∧ world.Grown after [] :=
  ⟨_, rfl, .write world _⟩

/-- What comes of asking a person, if anyone is asked. -/
def Answered (world : World) : Option Event → Except Failure Unit
  | none => .ok ()
  | some request => if world.host.answers request then .ok () else .error .brokenOff

theorem answered_of_all {world : World} {request? : Option Event}
    (answered : ∀ request ∈ request?, world.host.answers request = true) : Answered world request? = .ok () := by
  cases request? with
  | none => rfl
  | some request => rw [Answered, if_pos (answered request rfl)]

theorem ask_runIn (operator : Operator) (message : String) (world : World) :
    ∃ after, (ask operator message).runIn world = (Answered world (operator.request? message), after) ∧
      world.Grown after (operator.request? message).toList := by
  cases operator with
  | absent =>
    obtain ⟨after, logged, grown⟩ :=
      log_runIn .warning "No operator prompt available, continuing" [("message", .str message)] world
    exact ⟨after, logged, grown⟩
  | present => exact ⟨_, runIn_ask _ world, .note world _⟩
  | console => exact ⟨_, runIn_ask _ world, .note world _⟩

theorem askOperator_runIn (run : Run) (world : World) :
    ∃ after, run.askOperator.runIn world = (Answered world run.request?, after) ∧
      world.Grown after run.request?.toList := by
  unfold askOperator request?
  split
  · exact ask_runIn run.operator manualStartMessage world
  · exact ⟨world, rfl, .refl world⟩

theorem awaitReady_runIn (selector : String) (timeout : Nat) (world : World) :
    (awaitReady selector timeout).runIn world =
      (match world.page.error? world.trace (.call (.waitForSelector selector timeout)) with
        | none => .ok ()
        | some error => .error ((Failure.browser error).ofOpening (.call (.waitForSelector selector timeout))),
      world.note (.call (.waitForSelector selector timeout))) := by
  unfold awaitReady
  rw [runIn_catchBrowser]
  cases raised : world.page.error? world.trace (.call (.waitForSelector selector timeout)) with
  | none => rw [runIn_call raised]
  | some error => rw [runIn_call_error raised]; rfl

variable {run : Run} {world : World} {earlier : List Event} {event : Event} {original : Failure}

theorem preparePage_logged (run : Run) (world : World) :
    ∃ logged, world.Grown logged [] ∧ run.preparePage.runIn world = (do
      Act.perform run.opening
      run.askOperator
      run.awaitSelector
      run.settle : Act Unit).runIn logged := by
  obtain ⟨logged, ended, grown⟩ := log_runIn .info "Opening form"
    [("url", .str run.form.url), ("wait_until", .str run.form.options.waitUntil.name)] world
  exact ⟨logged, grown, by rw [preparePage_eq, runIn_bind_ok ended]; rfl⟩

theorem preparePage_opened (opened : world.page.error? world.trace run.opening = none) :
    ∃ middle, world.Grown middle [run.opening] ∧ run.preparePage.runIn world = (do
      run.askOperator
      run.awaitSelector
      run.settle : Act Unit).runIn middle := by
  obtain ⟨logged, grown, ran⟩ := run.preparePage_logged world
  rw [← grown.page, ← grown.trace_nil] at opened
  refine ⟨logged.note run.opening, grown.trans (.note logged run.opening), ?_⟩
  rw [ran, runIn_bind, runIn_perform, opened]

theorem preparePage_answered (opened : world.page.error? world.trace run.opening = none)
    (answered : ∀ request ∈ run.request?, world.host.answers request = true) :
    ∃ middle, world.Grown middle (run.opening :: run.request?.toList) ∧ run.preparePage.runIn world = (do
      run.awaitSelector
      run.settle : Act Unit).runIn middle := by
  obtain ⟨first, begun, ran⟩ := preparePage_opened opened
  obtain ⟨second, asked, grown⟩ := run.askOperator_runIn first
  rw [answered_of_all (begun.host ▸ answered)] at asked
  refine ⟨second, begun.trans grown, ?_⟩
  rw [ran, runIn_bind_ok asked]

theorem preparePage_stops (stops : run.Stops world earlier event original) :
    ∃ after, run.preparePage.runIn world = (.error (original.ofOpening event), after) ∧
      world.Grown after (earlier ++ [event]) := by
  cases stops with
  | unopened raised =>
    obtain ⟨logged, grown, ran⟩ := run.preparePage_logged world
    rw [← grown.page, ← grown.trace_nil] at raised
    refine ⟨logged.note run.opening, ?_, grown.trans (.note logged run.opening)⟩
    rw [ran, runIn_bind, runIn_perform, raised]
    rfl
  | brokenOff opened asked unanswered =>
    obtain ⟨first, begun, ran⟩ := preparePage_opened opened
    obtain ⟨second, broken, grown⟩ := run.askOperator_runIn first
    rw [asked] at broken grown
    rw [Answered, begun.host, unanswered, if_neg Bool.false_ne_true] at broken
    exact ⟨second, by rw [ran, runIn_bind_error broken]; rfl, begun.trans grown⟩
  | @unready selector error opened answered awaited raised =>
    obtain ⟨middle, begun, ran⟩ := preparePage_answered opened answered
    rw [← begun.page, ← begun.trace] at raised
    have broken : run.awaitSelector.runIn middle =
        (.error ((Failure.browser error).ofOpening (run.waiting selector)), middle.note (run.waiting selector)) := by
      unfold waiting at raised ⊢
      rw [awaitSelector, awaited]
      dsimp only
      rw [awaitReady_runIn, raised]
    exact ⟨middle.note (run.waiting selector), by rw [ran, runIn_bind_error broken],
      begun.trans (.note middle (run.waiting selector))⟩

/-- What a run that does not stop has done when its page is ready. -/
def readied (run : Run) : List Event :=
  run.opening :: run.request?.toList ++ (given run.form.options.readySelector).toList.map run.waiting

/-- A run that does not stop before its page is ready gets there. -/
theorem preparePage_settles (going : ∀ earlier event original, ¬ run.Stops world earlier event original) :
    ∃ middle, world.Grown middle run.readied ∧ run.preparePage.runIn world = run.settle.runIn middle := by
  have opened : world.page.error? world.trace run.opening = none := by
    cases raised : world.page.error? world.trace run.opening with
    | none => rfl
    | some error => exact absurd (.unopened raised) (going _ _ _)
  have answered : ∀ request ∈ run.request?, world.host.answers request = true := by
    intro request asked
    cases answers : world.host.answers request with
    | true => rfl
    | false => exact absurd (.brokenOff opened asked answers) (going _ _ _)
  obtain ⟨middle, begun, ran⟩ := preparePage_answered opened answered
  unfold readied
  cases awaited : given run.form.options.readySelector with
  | none =>
    refine ⟨middle, by simpa using begun, ?_⟩
    have passed : run.awaitSelector.runIn middle = (.ok (), middle) := by
      rw [awaitSelector, awaited]
      rfl
    rw [ran, runIn_bind_ok passed]
  | some selector =>
    refine ⟨middle.note (run.waiting selector), begun.trans (.note middle (run.waiting selector)), ?_⟩
    have appears : middle.page.error? middle.trace (run.waiting selector) = none := by
      rw [begun.page, begun.trace]
      cases raised : world.page.error? (world.trace ++ run.opening :: run.request?.toList) (run.waiting selector) with
      | none => rfl
      | some error => exact absurd (.unready opened answered awaited raised) (going _ _ _)
    have passed : run.awaitSelector.runIn middle = (.ok (), middle.note (run.waiting selector)) := by
      unfold waiting at appears
      rw [awaitSelector, awaited]
      dsimp only
      rw [awaitReady_runIn, appears]
      rfl
    rw [ran, runIn_bind_ok passed]

/-- The events of the pause before the first field. -/
def pausing (run : Run) : List Event :=
  if 0 < (run.form.options.pauseBeforeFill : Int) then [.sleep run.form.options.pauseBeforeFill] else []

/-- The pause before the first field is too long. -/
def Lingers (run : Run) : Prop :=
  Timing.IsOverlong run.form.options.pauseBeforeFill

def granting (origin : String) : Event :=
  .call (.grantPermissions clipboardPermissions origin)

/-- An error of the page does not end the granting of permissions. -/
theorem grantClipboard_runIn {url origin : String} (addressed : Address.origin url = .ok origin) (world : World) :
    ∃ after, (grantClipboard url).runIn world = (.ok (), after) ∧ world.Grown after [granting origin] := by
  unfold grantClipboard
  rw [addressed]
  dsimp only
  rw [runIn_catchBrowser]
  cases raised : world.page.error? world.trace (granting origin) with
  | none =>
    unfold granting at raised
    rw [runIn_call raised]
    exact ⟨_, rfl, .note world _⟩
  | some error =>
    unfold granting at raised
    rw [runIn_call_error raised]
    obtain ⟨after, logged, grown⟩ := log_runIn .warning "Clipboard permission not granted"
      [("origin", .str origin), ("error", .str error.text)] (world.note (granting origin))
    exact ⟨after, logged, World.Grown.trans (.note world _) grown⟩

theorem settle_lingers (slow : run.Lingers) (world : World) :
    run.settle.runIn world = (.error .overlongPause, world) :=
  runIn_bind_error (Timing.pause_of_overlong slow world)

theorem settle_idle (short : ¬run.Lingers) (idle : run.grants = false) (world : World) :
    ∃ after, run.settle.runIn world = (.ok (), after) ∧ world.Grown after run.pausing := by
  obtain ⟨after, paused, grown⟩ := Timing.pause_runIn short world
  refine ⟨after, ?_, grown⟩
  rw [settle, runIn_bind_ok paused, idle]
  rfl

theorem settle_grants (short : ¬run.Lingers) (grants : run.grants = true) {origin : String}
    (addressed : Address.origin run.form.url = .ok origin) (world : World) :
    ∃ after, run.settle.runIn world = (.ok (), after) ∧ world.Grown after (run.pausing ++ [granting origin]) := by
  obtain ⟨middle, paused, grown⟩ := Timing.pause_runIn short world
  obtain ⟨after, granted, further⟩ := grantClipboard_runIn addressed middle
  refine ⟨after, ?_, grown.trans further⟩
  rw [settle, runIn_bind_ok paused, if_pos grants, granted]

theorem settle_breaks (short : ¬run.Lingers) (grants : run.grants = true) {fault : AddressFault}
    (unaddressed : Address.origin run.form.url = .error fault) (world : World) :
    ∃ after, run.settle.runIn world = (.error (.address fault), after) ∧ world.Grown after run.pausing := by
  obtain ⟨after, paused, grown⟩ := Timing.pause_runIn short world
  refine ⟨after, ?_, grown⟩
  rw [settle, runIn_bind_ok paused, if_pos grants, grantClipboard, unaddressed]
  rfl

theorem upTo_zero_error {record : Members} {failure : Failure} {after : World} :
    (run.upTo record 0).runIn world = (.error failure, after) ↔
      run.preparePage.runIn world = (.error failure, after) := by
  rw [upTo_zero, runIn_bind]
  rcases run.preparePage.runIn world with ⟨other | _, middle⟩ <;> simp

theorem upTo_zero_ok {after : World} (ended : run.preparePage.runIn world = (.ok (), after)) (record : Members) :
    (run.upTo record 0).runIn world = (.ok (run.blankReport record), after) := by
  rw [upTo_zero, runIn_bind_ok ended, runIn_pure]

/-- A run whose page is not made ready ends there. -/
theorem perform_error {failure : Failure} {after : World} (ended : run.preparePage.runIn world = (.error failure, after))
    (record : Members) : (run.perform record).runIn world = (.error failure, after) := by
  have reached : (run.upTo record run.steps.length).runIn world = (.error failure, after) := by
    rw [upTo, runIn_bind_error ended]
  rw [perform_eq, runIn_bind_error reached]

theorem readied_ofOpening (run : Run) : ∀ event ∈ run.readied ++ run.pausing, event.ofOpening = true := by
  have requested : ∀ event ∈ run.request?.toList, event.ofOpening = true := by
    intro event member
    unfold request? at member
    split at member
    · cases asked : run.operator <;> simp_all [Operator.request?, Event.ofOpening]
    · cases member
  have paused : ∀ event ∈ run.pausing, event.ofOpening = true := by
    unfold pausing
    split <;> simp [Event.ofOpening]
  simp only [readied, List.cons_append, List.mem_cons, List.mem_append, List.mem_map]
  rintro event (rfl | (asked | ⟨selector, -, rfl⟩) | pause)
  · rfl
  · exact requested event asked
  · rfl
  · exact paused event pause

theorem Stops.planned (stops : run.Stops world earlier event original) : earlier ++ [event] <+: run.readied := by
  unfold readied
  cases stops with
  | unopened _ => simp
  | brokenOff _ asked _ => simp [asked]
  | unready _ _ awaited _ => simp [awaited]

/-- What stops a run is reported as it is, unless an element has not appeared in time. -/
theorem Stops.reported (stops : run.Stops world earlier event original) :
    original.ofOpening event = original ∨
      ∃ selector timeout error, event = .call (.waitForSelector selector timeout) ∧ original = .browser error ∧
        error.timedOut = true ∧ original.ofOpening event = .pageNotReady selector timeout := by
  cases stops with
  | unopened _ => exact .inl rfl
  | brokenOff _ _ _ => exact .inl rfl
  | @unready selector error _ _ _ _ =>
    cases timedOut : error.timedOut with
    | false => exact .inl (by simp [Failure.ofOpening, waiting, timedOut])
    | true =>
      refine .inr ⟨selector, _, error, rfl, rfl, timedOut, ?_⟩
      simp [Failure.ofOpening, waiting, timedOut]

/-- What ends a run whose page is ready, before its first field: its pause is too long, or its address cannot be taken
    apart. -/
inductive Unsettled (run : Run) (world after : World) : Failure → Prop where
  | lingers (slow : run.Lingers) (grown : world.Grown after run.readied) : Unsettled run world after .overlongPause
  | unaddressed {fault : AddressFault} (unaddressed : Address.origin run.form.url = .error fault)
      (grown : world.Grown after (run.readied ++ run.pausing)) : Unsettled run world after (.address fault)

variable {failure : Failure} {after : World}

theorem preparePage_unsettled (going : ∀ earlier event original, ¬run.Stops world earlier event original)
    (ended : run.preparePage.runIn world = (.error failure, after)) : run.Unsettled world after failure := by
  obtain ⟨middle, begun, ran⟩ := preparePage_settles going
  rw [ran] at ended
  by_cases slow : run.Lingers
  · rw [settle_lingers slow] at ended
    cases ended
    exact .lingers slow begun
  · cases grants : run.grants with
    | false =>
      obtain ⟨later, settled, -⟩ := settle_idle slow grants middle
      rw [settled] at ended
      cases ended
    | true =>
      cases addressed : Address.origin run.form.url with
      | ok origin =>
        obtain ⟨later, settled, -⟩ := settle_grants slow grants addressed middle
        rw [settled] at ended
        cases ended
      | error fault =>
        obtain ⟨later, broken, grown⟩ := settle_breaks slow grants addressed middle
        rw [broken] at ended
        cases ended
        exact .unaddressed addressed (begun.trans grown)

theorem preparePage_error (ended : run.preparePage.runIn world = (.error failure, after)) :
    (∃ earlier event original, run.Stops world earlier event original ∧ failure = original.ofOpening event ∧
      world.Grown after (earlier ++ [event])) ∨ run.Unsettled world after failure := by
  by_cases going : ∃ earlier event original, run.Stops world earlier event original
  · obtain ⟨earlier, event, original, stops⟩ := going
    obtain ⟨_, broken, grown⟩ := preparePage_stops stops
    rw [ended] at broken
    cases broken
    exact .inl ⟨earlier, event, original, stops, rfl, grown⟩
  · have ready : ∀ earlier event original, ¬run.Stops world earlier event original := by simpa using going
    exact .inr (preparePage_unsettled ready ended)

theorem preparePage_grown (ended : run.preparePage.runIn world = (.error failure, after)) :
    ∃ added, world.Grown after added ∧ ∀ event ∈ added, event.ofOpening = true := by
  have readied : ∀ event ∈ run.readied, event.ofOpening = true :=
    fun event member => run.readied_ofOpening event (List.mem_append_left _ member)
  obtain ⟨earlier, event, original, stops, -, grown⟩ | ⟨-, grown⟩ | ⟨-, grown⟩ := preparePage_error ended
  · have planned : earlier ++ [event] ⊆ run.readied := stops.planned.subset
    exact ⟨_, grown, fun made member => readied made (planned member)⟩
  · exact ⟨_, grown, readied⟩
  · exact ⟨_, grown, run.readied_ofOpening⟩

theorem pageNotReady_iff (ended : run.preparePage.runIn world = (.error failure, after)) (selector : String)
    (timeout : Nat) : failure = .pageNotReady selector timeout ↔ ∃ earlier error, error.timedOut = true ∧
      run.Stops world earlier (.call (.waitForSelector selector timeout)) (.browser error) := by
  constructor
  · intro late
    obtain ⟨earlier, event, original, stops, same, -⟩ | unsettled := preparePage_error ended
    · rw [late] at same
      obtain kept | ⟨_, _, error, rfl, rfl, timedOut, reported⟩ := stops.reported
      · rw [kept] at same
        subst same
        cases stops
      · rw [reported] at same
        cases same
        exact ⟨earlier, error, timedOut, stops⟩
    · rw [late] at unsettled
      cases unsettled
  · rintro ⟨earlier, error, timedOut, stops⟩
    obtain ⟨_, broken, -⟩ := preparePage_stops stops
    rw [ended] at broken
    cases broken
    exact if_pos timedOut

theorem preparePage_original (ended : run.preparePage.runIn world = (.error failure, after))
    (other : ∀ selector timeout, failure ≠ .pageNotReady selector timeout) :
    (∃ earlier event, run.Stops world earlier event failure) ∨
      (∃ fault, failure = .address fault ∧ Address.origin run.form.url = .error fault) ∨
        failure = .overlongPause ∧ run.Lingers := by
  obtain ⟨earlier, event, original, stops, same, -⟩ | ⟨slow, -⟩ | ⟨unaddressed, -⟩ := preparePage_error ended
  · obtain kept | ⟨selector, timeout, _, -, -, -, reported⟩ := stops.reported
    · rw [kept] at same
      exact .inl ⟨earlier, event, same ▸ stops⟩
    · exact absurd (same.trans reported) (other selector timeout)
  · exact .inr (.inr ⟨rfl, slow⟩)
  · exact .inr (.inl ⟨_, rfl, unaddressed⟩)

/-- A run that ends before its first field has drawn nothing, has left the files and the elements of the page
    alone, and has been stopped, or its address cannot be taken apart, or its pause is too long. It ends with what has
    stopped it, except that the page is not ready if the element that shows this has not appeared in time. -/
theorem perform_ends_early (run : Run) (record : Members) (world : World) :
    (∀ earlier event original, run.Stops world earlier event original →
      ∃ failure after, (run.upTo record 0).runIn world = (.error failure, after)) ∧
    ∀ failure after, (run.upTo record 0).runIn world = (.error failure, after) →
      (run.perform record).runIn world = (.error failure, after) ∧
      after.draws = world.draws ∧ after.files = world.files ∧
      (∃ added, after.trace = world.trace ++ added ∧ ∀ event ∈ added, event.ofOpening = true) ∧
      (∀ selector timeout, failure = .pageNotReady selector timeout ↔
        ∃ earlier error, error.timedOut = true ∧
          run.Stops world earlier (.call (.waitForSelector selector timeout)) (.browser error)) ∧
      ((∀ selector timeout, failure ≠ .pageNotReady selector timeout) →
        (∃ earlier event, run.Stops world earlier event failure) ∨
          (∃ fault, failure = .address fault ∧ Address.origin run.form.url = .error fault) ∨
            failure = .overlongPause ∧ run.Lingers) := by
  refine ⟨fun earlier event original stops => ?_, fun failure after ended => ?_⟩
  · obtain ⟨after, ended, -⟩ := preparePage_stops stops
    exact ⟨_, after, upTo_zero_error.mpr ended⟩
  · rw [upTo_zero_error] at ended
    obtain ⟨added, grown, ofOpening⟩ := preparePage_grown ended
    exact ⟨perform_error ended record, grown.draws, grown.files, ⟨added, grown.trace, ofOpening⟩,
      pageNotReady_iff ended, preparePage_original ended⟩

theorem perform_ends_early_late :
    let form : Form := ⟨"a:b", [], none, none, none, { RunOptions.default with readySelector := some "#ready" }⟩
    let run : Run := ⟨form, ⟨⟨.below ["last.txt"]⟩, some "1", "id"⟩, .absent, false⟩
    let page : Page := { Page.blank with faults := [(.waitForSelector, .always ⟨true, "Timeout"⟩)] }
    ∃ after, (run.perform []).runIn (.untouched page .empty) = (.error (.pageNotReady "#ready" 120000), after) ∧
      after.draws = ⟨[], 0⟩ ∧ after.files = .empty := by
  intro form run page
  have stops : run.Stops (.untouched page .empty) _ _ _ := .unready rfl nofun rfl rfl
  obtain ⟨started, early⟩ := perform_ends_early run [] (.untouched page .empty)
  obtain ⟨failure, after, ended⟩ := started _ _ _ stops
  obtain ⟨performed, draws, files, -, late, -⟩ := early failure after ended
  have same := (late _ _).mpr ⟨_, _, rfl, stops⟩
  subst same
  exact ⟨after, performed, draws, files⟩

end Run
end FormFill
