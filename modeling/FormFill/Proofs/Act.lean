import FormFill.Browser.World

namespace FormFill

/-- A page on which nothing is found and no call fails. -/
def Page.blank : Page :=
  { lookups := [], nodes := [], faults := [], openPages := 1, closed := false }

/-- A person who always answers, a console that shows everything, and a log with a handler in place. -/
def Host.willing : Host :=
  { answers := fun _ => true, console := .patient, logSite := .own true }

def World.untouched (page : Page) (files : Files) : World :=
  { page, files, draws := ⟨[], 0⟩, host := .willing, opened := .nothing, trace := [], log := [], printed := [] }

namespace Act

/-- How an action ends in a world, with the world that it leaves behind. -/
def runIn {α : Type} (action : Act α) (world : World) : Except Failure α × World :=
  action.run.run world

@[simp] theorem runIn_pure {α : Type} (value : α) (world : World) :
    (pure value : Act α).runIn world = (.ok value, world) := rfl

@[simp] theorem runIn_throw {α : Type} (failure : Failure) (world : World) :
    (throw failure : Act α).runIn world = (.error failure, world) := rfl

@[simp] theorem runIn_get (world : World) : (get : Act World).runIn world = (.ok world, world) := rfl

@[simp] theorem runIn_modify (change : World → World) (world : World) :
    (modify change : Act Unit).runIn world = (.ok (), change world) := rfl

theorem runIn_bind {α β : Type} (action : Act α) (next : α → Act β) (world : World) :
    (action >>= next).runIn world =
      match action.runIn world with
      | (.ok value, middle) => (next value).runIn middle
      | (.error failure, after) => (.error failure, after) := by
  have steps : (action >>= next).runIn world =
      (match action.runIn world with
        | (ended, middle) => (ExceptT.bindCont next ended).run middle) := rfl
  rw [steps]
  rcases action.runIn world with ⟨failure | value, middle⟩ <;> rfl

theorem runIn_bind_ok {α β : Type} {action : Act α} {next : α → Act β} {world middle : World} {value : α}
    (first : action.runIn world = (.ok value, middle)) :
    (action >>= next).runIn world = (next value).runIn middle := by
  rw [runIn_bind, first]

theorem runIn_bind_error {α β : Type} {action : Act α} {next : α → Act β} {world after : World}
    {failure : Failure} (first : action.runIn world = (.error failure, after)) :
    (action >>= next).runIn world = (.error failure, after) := by
  rw [runIn_bind, first]

theorem ok_of_bind {α β : Type} {action : Act α} {next : α → Act β} {world after : World} {result : β}
    (ended : (action >>= next).runIn world = (.ok result, after)) :
    ∃ value middle, action.runIn world = (.ok value, middle) ∧
      (next value).runIn middle = (.ok result, after) := by
  rw [runIn_bind] at ended
  rcases first : action.runIn world with ⟨value | value, middle⟩
  · rw [first] at ended
    cases ended
  · rw [first] at ended
    exact ⟨value, middle, rfl, ended⟩

@[simp] theorem runIn_note (event : Event) (world : World) :
    (note event).runIn world = (.ok (), world.note event) := rfl

@[simp] theorem runIn_log (level : LogLevel) (component event : String) (values : Members)
    (world : World) :
    (log level component event values).runIn world =
      (.ok (), world.write ⟨level, event, ("component", .str component) :: values⟩) := rfl

theorem runIn_print (printed : Printed) (world : World) :
    (print printed).runIn world =
      match world.host.console.fault? printed with
      | some text => (.error (.console text), world)
      | none => (.ok (), { world with printed := world.printed ++ [printed] }) := by
  simp only [print, runIn_bind, runIn_get]
  cases world.host.console.fault? printed <;> rfl

@[simp] theorem runIn_ofResult {α : Type} (result : Except Failure α) (world : World) :
    (ofResult result).runIn world = (result, world) := by
  cases result <;> rfl

@[simp] theorem runIn_failOn_none (world : World) : (failOn none).runIn world = (.ok (), world) := rfl

@[simp] theorem runIn_failOn_some (failure : Failure) (world : World) :
    (failOn (some failure)).runIn world = (.error failure, world) := rfl

/-- A call is noted in any case; whether it fails is decided by the events before it. -/
theorem runIn_perform (event : Event) (world : World) :
    (perform event).runIn world =
      match world.page.error? world.trace event with
      | some error => (.error (.browser error), world.note event)
      | none => (.ok (), world.note event) := by
  simp only [perform, runIn_bind, runIn_get, runIn_note]
  cases world.page.error? world.trace event <;> rfl

theorem runIn_call {made : Call} {world : World} (passes : world.page.error? world.trace (.call made) = none) :
    (call made).runIn world = (.ok (), world.note (.call made)) := by
  unfold call
  rw [runIn_perform, passes]

theorem runIn_call_error {made : Call} {world : World} {error : BrowserError}
    (fails : world.page.error? world.trace (.call made) = some error) :
    (call made).runIn world = (.error (.browser error), world.note (.call made)) := by
  unfold call
  rw [runIn_perform, fails]

theorem runIn_ask (event : Event) (world : World) :
    (ask event).runIn world =
      (if world.host.answers event then .ok () else .error .brokenOff, world.note event) := by
  simp only [ask, runIn_bind, runIn_note, runIn_get]
  cases answers : world.host.answers event <;> simp [World.note, answers]

theorem runIn_catchBrowser {α : Type} (action : Act α) (handler : BrowserError → Act α)
    (world : World) :
    (catchBrowser action handler).runIn world =
      match action.runIn world with
      | (.error (.browser error), middle) => (handler error).runIn middle
      | ended => ended := by
  simp only [catchBrowser, runIn, tryCatch, tryCatchThe, MonadExceptOf.tryCatch, ExceptT.tryCatch,
    ExceptT.run, ExceptT.mk, StateT.run, bind, StateT.bind]
  rcases action world with ⟨failure | value, middle⟩
  · cases failure <;> rfl
  · rfl

theorem runIn_attempt {α : Type} (action : Act α) (world : World) :
    (attempt action).runIn world = (.ok (action.runIn world).1, (action.runIn world).2) := by
  simp only [attempt, runIn, tryCatch, tryCatchThe, MonadExceptOf.tryCatch, ExceptT.tryCatch,
    ExceptT.run, ExceptT.mk, StateT.run, bind, StateT.bind, Functor.map, ExceptT.map]
  rcases action world with ⟨failure | value, middle⟩ <;> rfl

end Act
end FormFill
