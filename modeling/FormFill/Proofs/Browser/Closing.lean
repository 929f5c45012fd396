import FormFill.Proofs.Act.Confined
import FormFill.Proofs.Browser.Launching

namespace FormFill

/-- Whether an event leaves open what a session has opened. -/
def Event.keepsOpen : Event → Bool
  | .call .closeBrowser | .call .closeContext | .call .stopDriver => false
  | _ => true

theorem Page.sameKind_of_keepsOpen {made : Call} {other : Event}
    (closing : (Event.call made).keepsOpen = false) (keeps : other.keepsOpen = true) :
    Page.sameKind (.call made) other = false := by
  cases other with
  | call earlier =>
    have apart : made.kind ≠ earlier.kind := by
      intro same
      cases made <;> cases closing <;> cases earlier <;> cases same <;> cases keeps
    simp [Page.sameKind, apart]
  | _ => rfl

theorem World.Added.error?_closing {before after : World} {added : List Event} {made : Call}
    (grown : before.Added Event.keepsOpen after added) (closing : (Event.call made).keepsOpen = false) :
    after.page.error? after.trace (.call made) = before.page.error? before.trace (.call made) := by
  have apart : ∀ event ∈ added, Page.sameKind (.call made) event = false :=
    fun event member => Page.sameKind_of_keepsOpen closing (grown.ofKind event member)
  rw [grown.page, grown.trace, Page.error?_append apart]

namespace Session

open Act

/-- How what the session has launched is closed. -/
def closing (session : Session) : Call :=
  if (given session.userDataDir).isSome then .closeContext else .closeBrowser

theorem closing_closes (session : Session) : (Event.call session.closing).keepsOpen = false := by
  unfold closing
  split <;> rfl

theorem launching_keepsOpen (session : Session) (openPages : Nat) :
    ∀ call ∈ session.launching openPages, (Event.call call).keepsOpen = true := by
  unfold launching
  cases given session.userDataDir with
  | some folder => split <;> simp [Event.keepsOpen]
  | none => simp [Event.keepsOpen]

theorem start_opens (session : Session) (world : World) (value : Unit) (started : World)
    (fresh : world.opened = .nothing) (returned : session.start.runIn world = (.ok value, started)) :
    ∃ added, World.Added Event.keepsOpen { world with opened := session.opened } started added := by
  obtain ⟨page, host, made⟩ := session.start_makes world.page .nothing world rfl fresh
  rw [returned] at page host made
  obtain ⟨-, trace, opened⟩ := made
  refine ⟨(session.launching world.page.openPages).map .call, page, host, ?_, trace, ?_⟩
  · simpa [Opened.nothing] using opened
  · simpa using session.launching_keepsOpen world.page.openPages

theorem error?_stopDriver (session : Session) (page : Page) (before : List Event) :
    page.error? (before ++ [.call session.closing]) (.call .stopDriver) = page.error? before (.call .stopDriver) := by
  have apart : ∀ event ∈ [Event.call session.closing], Page.sameKind (.call .stopDriver) event = false := by
    intro event member
    obtain rfl := List.mem_singleton.mp member
    unfold closing
    split <;> rfl
  exact Page.error?_append apart

theorem close_calls {session : Session} {world : World} (started : world.opened = session.opened) :
    close.runIn world = (do
      call session.closing
      call .stopDriver
      open_ fun _ => .nothing
      log "Browser closed" [] : Act Unit).runIn world := by
  unfold close
  rw [runIn_bind_ok (runIn_get world), started]
  unfold opened closing
  cases given session.userDataDir <;> rfl

/-- The error that closing ends with: that of closing what was launched, or else that of stopping the driver. -/
def closingFault? (session : Session) (page : Page) (before : List Event) : Option BrowserError :=
  (page.error? before (.call session.closing)).or (page.error? before (.call .stopDriver))

theorem closingFault?_eq_none_iff {session : Session} {page : Page} {before : List Event} :
    session.closingFault? page before = none ↔
      page.error? before (.call session.closing) = none ∧ page.error? before (.call .stopDriver) = none := by
  unfold closingFault?
  rw [Option.or_eq_none_iff]

theorem closingFault?_of_added (session : Session) {before after : World} {added : List Event}
    (grown : before.Added Event.keepsOpen after added) :
    session.closingFault? after.page after.trace = session.closingFault? before.page before.trace := by
  unfold closingFault?
  rw [grown.error?_closing session.closing_closes, grown.error?_closing rfl]

/-- Closing goes on to the driver only if what was launched could be closed, and forgets what is open only if the
    driver could be stopped, too. -/
theorem close_ended {session : Session} {world : World} (started : world.opened = session.opened) :
    ∃ after, close.runIn world =
        ((session.closingFault? world.page world.trace).elim (.ok ()) fun error => .error (.browser error), after) ∧
      after.host = world.host ∧ after.printed = world.printed ∧
      after.opened =
        (if session.closingFault? world.page world.trace = none then .nothing else session.opened) ∧
      after.trace = world.trace ++ .call session.closing ::
        (if world.page.error? world.trace (.call session.closing) = none then [.call .stopDriver] else []) := by
  rw [close_calls started]
  unfold closingFault?
  cases closes : world.page.error? world.trace (.call session.closing) with
  | some error =>
    rw [runIn_bind_error (runIn_call_error closes)]
    exact ⟨_, rfl, rfl, rfl, started, rfl⟩
  | none =>
    rw [runIn_bind_ok (runIn_call closes)]
    -- Faults are counted by kind of call, so the closing just made does not change how stopping ends.
    have stopping := session.error?_stopDriver world.page world.trace
    cases stops : world.page.error? world.trace (.call .stopDriver) with
    | some error =>
      rw [runIn_bind_error (runIn_call_error (stopping.trans stops))]
      exact ⟨_, rfl, rfl, rfl, started, List.append_assoc _ _ _⟩
    | none =>
      rw [runIn_bind_ok (runIn_call (stopping.trans stops))]
      exact ⟨_, rfl, rfl, rfl, rfl, List.append_assoc _ _ _⟩

/-- Closing a started session is complete only as far as its calls pass: the driver is stopped exactly if what was
    launched could be closed, and the session forgets what it has opened exactly if neither call fails. -/
theorem close_completes_iff {session : Session} {world after : World} {result : Except Failure Unit}
    (started : world.opened = session.opened) (closed : close.runIn world = (result, after)) :
    (after.trace = world.trace ++ [.call session.closing, .call .stopDriver] ↔
      world.page.error? world.trace (.call session.closing) = none) ∧
    (after.trace = world.trace ++ [.call session.closing] ↔
      world.page.error? world.trace (.call session.closing) ≠ none) ∧
    (after.opened = .nothing ↔ session.closingFault? world.page world.trace = none) ∧
    (after.opened = session.opened ↔ session.closingFault? world.page world.trace ≠ none) ∧
    result = (session.closingFault? world.page world.trace).elim (.ok ()) fun error => .error (.browser error) := by
  obtain ⟨final, ended, -, -, opened, trace⟩ := close_ended started
  obtain ⟨same, rfl⟩ := Prod.mk.inj (closed.symm.trans ended)
  have something : session.opened ≠ .nothing := by simp [Session.opened, Opened.nothing]
  rw [trace, opened]
  refine ⟨?_, ?_, ?_, ?_, same⟩
  · split <;> simp [*]
  · split <;> simp [*]
  · split <;> simp [*]
  · split <;> simp [*, something.symm]

theorem close_completes_iff_driver :
    let session : Session := ⟨true, 0, some "profile", none⟩
    let page : Page := { Page.blank with faults := [(.stopDriver, .always ⟨false, "no answer"⟩)] }
    let world : World := (session.start.runIn (.untouched page .empty)).2
    world.opened = session.opened ∧
      (close.runIn world).2.trace = world.trace ++ [.call .closeContext, .call .stopDriver] ∧
      (close.runIn world).2.opened = session.opened := by
  intro session page world
  have started : world.opened = session.opened := rfl
  obtain ⟨attempts, -, -, keeps, -⟩ := close_completes_iff started rfl
  have fault : session.closingFault? world.page world.trace ≠ none := by
    unfold closingFault?
    exact Option.some_ne_none (⟨false, "no answer"⟩ : BrowserError)
  exact ⟨started, attempts.mpr rfl, keeps.mpr fault⟩

/-- Neither is the driver stopped nor is anything forgotten once the browser could not be closed. -/
theorem close_stops_short :
    let session : Session := ⟨true, 0, none, none⟩
    let page : Page := { Page.blank with faults := [(.closeBrowser, .always ⟨false, "gone"⟩)] }
    let world : World := (session.start.runIn (.untouched page .empty)).2
    world.opened = session.opened ∧ (close.runIn world).1 = .error (.browser ⟨false, "gone"⟩) ∧
      Event.call .stopDriver ∉ (close.runIn world).2.trace ∧
      (close.runIn world).2.opened = ⟨true, true, true, true⟩ := by
  intro session page world
  have trace : (close.runIn world).2.trace =
      [.call .startDriver, .call (.launch session.launchOptions), .call .newContext, .call .newPage,
        .call .closeBrowser] := rfl
  refine ⟨rfl, rfl, ?_, rfl⟩
  rw [trace]
  simp

/-- An error of closing replaces how that has ended which closing comes after. -/
theorem closingAfter_ended {α : Type} {session : Session} {action : Act α} {world middle : World}
    {result : Except Failure α} (ended : action.runIn world = (result, middle))
    (opened : middle.opened = session.opened) :
    ∃ after, (closingAfter action).runIn world =
        ((session.closingFault? middle.page middle.trace).elim result fun error => .error (.browser error), after) ∧
      after.host = middle.host ∧ after.printed = middle.printed ∧
      after.trace = middle.trace ++ .call session.closing ::
        (if middle.page.error? middle.trace (.call session.closing) = none then [.call .stopDriver] else []) := by
  obtain ⟨after, closed, host, printed, -, trace⟩ := close_ended opened
  have attempted : (attempt action).runIn world = (.ok result, middle) := by
    rw [runIn_attempt, ended]
  refine ⟨after, ?_, host, printed, trace⟩
  unfold closingAfter
  rw [runIn_bind_ok attempted]
  cases fault : session.closingFault? middle.page middle.trace with
  | some error =>
    rw [fault] at closed
    exact runIn_bind_error closed
  | none =>
    rw [fault] at closed
    rw [runIn_bind_ok closed]
    cases result <;> rfl

/-- Closing after something that itself closes nothing: however that ends, it ends so, and in the end the session
    is closed, once. -/
theorem closingAfter_closes {α : Type} {session : Session} {action : Act α} {world : World}
    (opened : world.opened = session.opened) (confined : Confined Event.keepsOpen action)
    (closes : world.page.error? world.trace (.call session.closing) = none)
    (stops : world.page.error? world.trace (.call .stopDriver) = none) :
    ∃ added after, world.Added Event.keepsOpen (action.runIn world).2 added ∧
      (closingAfter action).runIn world = ((action.runIn world).1, after) ∧ after.host = world.host ∧
      after.trace = world.trace ++ added ++ [.call session.closing, .call .stopDriver] := by
  obtain ⟨added, grown⟩ := confined world
  -- The action has left open what it found open, so closing goes by how the session was started.
  have closing := (grown.error?_closing session.closing_closes).trans closes
  have faultless := (session.closingFault?_of_added grown).trans (closingFault?_eq_none_iff.mpr ⟨closes, stops⟩)
  have acted : action.runIn world = ((action.runIn world).1, (action.runIn world).2) := rfl
  obtain ⟨after, ended, host, -, trace⟩ := closingAfter_ended acted (grown.opened.trans opened)
  rw [faultless] at ended
  rw [closing, grown.trace] at trace
  exact ⟨added, after, grown, ended, host.trans grown.host, trace⟩

end Session
end FormFill
