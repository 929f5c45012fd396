import FormFill.Proofs.Act
import FormFill.Proofs.Browser.Endings

namespace FormFill

theorem Draws.next_mem (draws : Draws) {low high : Int} (ordered : low ≤ high) :
    low ≤ draws.next low high ∧ draws.next low high ≤ high := by
  unfold next
  dsimp only
  have positive : 0 < high - low + 1 := by omega
  have nonneg := Int.emod_nonneg ((draws.script[draws.used % draws.script.length]?).getD 0) (Int.ne_of_gt positive)
  have below := Int.emod_lt_of_pos ((draws.script[draws.used % draws.script.length]?).getD 0) positive
  omega

/-- Some events of dealing with a field have been added between two worlds, and besides these only the
    log and the use of chance may have moved on. -/
structure World.Onward (before after : World) (added : List Event) : Prop where
  page : after.page = before.page
  files : after.files = before.files
  host : after.host = before.host
  opened : after.opened = before.opened
  printed : after.printed = before.printed
  trace : after.trace = before.trace ++ added
  ofField : ∀ event ∈ added, event.ofField = true

theorem World.Onward.refl (world : World) : world.Onward world [] :=
  ⟨rfl, rfl, rfl, rfl, rfl, by simp, nofun⟩

theorem World.Onward.trans {before middle after : World} {first second : List Event}
    (left : before.Onward middle first) (right : middle.Onward after second) :
    before.Onward after (first ++ second) where
  page := right.page.trans left.page
  files := right.files.trans left.files
  host := right.host.trans left.host
  opened := right.opened.trans left.opened
  printed := right.printed.trans left.printed
  trace := by rw [right.trace, left.trace, List.append_assoc]
  ofField := by
    intro event member
    rcases List.mem_append.mp member with member | member
    · exact left.ofField event member
    · exact right.ofField event member

theorem World.Onward.note (world : World) {event : Event} (ofField : event.ofField = true) :
    world.Onward (world.note event) [event] :=
  ⟨rfl, rfl, rfl, rfl, rfl, rfl, by simpa using ofField⟩

theorem World.Onward.write {before after : World} {added : List Event} (onward : before.Onward after added)
    (entry : LogEntry) : before.Onward (after.write entry) added :=
  ⟨onward.page, onward.files, onward.host, onward.opened, onward.printed, onward.trace, onward.ofField⟩

theorem World.Onward.ignore_log {before after : World} {added : List Event} {log : List LogEntry}
    (onward : { before with log }.Onward after added) : before.Onward after added :=
  ⟨onward.page, onward.files, onward.host, onward.opened, onward.printed, onward.trace, onward.ofField⟩

/-- How an interaction may end after it has added some events: with a value that is as described, with an
    error of the browser in its last call, or, where there may be such, with a pause that is too long. -/
def Page.Ended {α : Type} (page : Page) (waits : Prop) (soft : Bool) (returns : α → Prop) (before added : List Event) :
    Except Failure α → Prop
  | .ok value => returns value ∧ page.Calm before added
  | .error (.browser error) => page.Broken soft error before added
  | .error .overlongPause => waits ∧ page.Calm before added
  | .error _ => False

theorem Page.Ended.after {α : Type} {page : Page} {waits : Prop} {soft : Bool} {returns : α → Prop}
    {before first second : List Event} {result : Except Failure α} (calm : page.Calm before first)
    (ended : page.Ended waits soft returns (before ++ first) second result) :
    page.Ended waits soft returns before (first ++ second) result := by
  cases result with
  | ok value => exact ⟨ended.1, calm.append ended.2⟩
  | error failure =>
    cases failure with
    | browser error => exact Broken.after calm ended
    | overlongPause => exact ⟨ended.1, calm.append ended.2⟩
    | _ => exact ended

namespace Act

/-- The action deals with the page alone. The errors that end it are those of calls that are soft or
    of calls that are not, as `soft` says; no other call of that sort ends with one. Besides, only a pause that
    is too long may end it, as `waits` says. -/
def Interacts {α : Type} (waits : Prop) (soft : Bool) (returns : α → Prop) (action : Act α) : Prop :=
  ∀ world : World, ∃ added, world.Onward (action.runIn world).2 added ∧
    world.page.Ended waits soft returns world.trace added (action.runIn world).1

variable {α β : Type} {waits : Prop} {soft : Bool} {returns : α → Prop}

theorem Interacts.pure {value : α} (good : returns value) : Interacts waits soft returns (pure value) := by
  intro world
  exact ⟨[], .refl world, good, .nil⟩

theorem Interacts.bind {next : α → Act β} {later : β → Prop} {action : Act α}
    (first : Interacts waits soft returns action)
    (second : ∀ value, returns value → Interacts waits soft later (next value)) :
    Interacts waits soft later (action >>= next) := by
  intro world
  obtain ⟨added, onward, ended⟩ := first world
  rw [runIn_bind]
  rcases result : action.runIn world with ⟨failure | value, middle⟩
  · rw [result] at onward ended
    refine ⟨added, onward, ?_⟩
    cases failure <;> exact ended
  · rw [result] at onward ended
    obtain ⟨good, calm⟩ := ended
    obtain ⟨more, further, finished⟩ := second value good middle
    rw [onward.page, onward.trace] at finished
    exact ⟨added ++ more, onward.trans further, finished.after calm⟩

/-- As `bind`, where what follows does not depend on a property of the value. -/
theorem Interacts.andThen {next : α → Act β} {later : β → Prop} {action : Act α}
    (first : Interacts waits soft returns action) (second : ∀ value, Interacts waits soft later (next value)) :
    Interacts waits soft later (action >>= next) :=
  first.bind fun value _ => second value

theorem Interacts.note {event : Event} (quiet : ∀ page before, Page.error? page before event = none)
    (ofField : event.ofField = true) : Interacts waits soft (fun _ => True) (note event) := by
  intro world
  refine ⟨[event], .note world ofField, trivial, .singleton ?_⟩
  intro error raised
  rw [quiet] at raised
  cases raised

theorem Interacts.log {level : LogLevel} {component event : String} {values : Members} :
    Interacts waits soft (fun _ => True) (log level component event values) := by
  intro world
  exact ⟨[], (World.Onward.refl world).write _, trivial, .nil⟩

theorem Interacts.overlong (waiting : waits) : Interacts waits soft returns (throw .overlongPause) := by
  intro world
  exact ⟨[], .refl world, waiting, .nil⟩

theorem Interacts.get : Interacts waits soft (fun _ => True) (get : Act World) := by
  intro world
  exact ⟨[], .refl world, trivial, .nil⟩

theorem Interacts.perform {event : Event} (ofField : event.ofField = true) :
    Interacts waits event.isSoft (fun _ => True) (perform event) := by
  intro world
  refine ⟨[event], ?_⟩
  rw [runIn_perform]
  cases raised : world.page.error? world.trace event with
  | none =>
    refine ⟨.note world ofField, trivial, .singleton ?_⟩
    intro error other
    rw [raised] at other
    cases other
  | some error =>
    exact ⟨.note world ofField, [], event, rfl, .nil, rfl, by simpa using raised⟩

/-- A draw from a window that is not empty. -/
theorem Interacts.draw {low high : Int} (ordered : low ≤ high) :
    Interacts waits soft (fun drawn => low ≤ drawn ∧ drawn ≤ high) (draw low high) := by
  have notEmpty : ¬ high < low := by omega
  unfold Act.draw
  refine .andThen (.note (fun _ _ => rfl) rfl) fun _ => ?_
  rw [if_neg notEmpty]
  intro world
  exact ⟨[], ⟨rfl, rfl, rfl, rfl, rfl, (List.append_nil _).symm, nofun⟩, world.draws.next_mem ordered, .nil⟩

/-- Errors of soft calls end where they are caught; the errors of the answer to them go on. -/
theorem Interacts.catchBrowser {action : Act α} {handler : BrowserError → Act α}
    (tried : Interacts waits true returns action) (answered : ∀ error, Interacts waits soft returns (handler error)) :
    Interacts waits soft returns (catchBrowser action handler) := by
  intro world
  obtain ⟨added, onward, ended⟩ := tried world
  rw [runIn_catchBrowser]
  rcases result : action.runIn world with ⟨failure | value, middle⟩
  · rw [result] at onward ended
    cases failure with
    | browser error =>
      obtain ⟨more, further, finished⟩ := answered error middle
      rw [onward.page, onward.trace] at finished
      exact ⟨added ++ more, onward.trans further, finished.after (Page.Broken.calm ended)⟩
    | overlongPause => exact ⟨added, onward, ended⟩
    | _ => exact ended.elim
  · rw [result] at onward ended
    exact ⟨added, onward, ended⟩

/-- An action that breaks off with no soft call and with no other call returns, unless a pause is too long. -/
theorem Interacts.calm {action : Act α} (both : ∀ soft, Interacts waits soft returns action) (world : World) :
    ∃ result after added, action.runIn world = (result, after) ∧ world.Onward after added ∧
      world.page.Calm world.trace added ∧
      ((∃ value, result = .ok value ∧ returns value) ∨ waits ∧ result = .error .overlongPause) := by
  obtain ⟨added, onward, ended⟩ := both false world
  obtain ⟨same, again, softly⟩ := both true world
  -- The same events are seen twice, and the last of them cannot be soft and not soft.
  have equal : same = added := List.append_cancel_left (again.trace.symm.trans onward.trace)
  subst equal
  rcases result : action.runIn world with ⟨failure | value, after⟩
  · rw [result] at onward ended softly
    cases failure with
    | browser error =>
      obtain ⟨earlier, event, parts, -, hard, -⟩ := ended
      obtain ⟨other, last, otherwise, -, soft, -⟩ := softly
      have events : event = last := by
        rw [parts] at otherwise
        simpa using (List.append_inj' otherwise rfl).2
      rw [events, soft] at hard
      cases hard
    | overlongPause => exact ⟨_, after, same, rfl, onward, ended.2, .inr ⟨ended.1, rfl⟩⟩
    | _ => exact ended.elim
  · rw [result] at onward ended
    exact ⟨_, after, same, rfl, onward, ended.2, .inl ⟨value, rfl, ended.1⟩⟩

theorem Interacts.ok {action : Act α} (both : ∀ soft, Interacts False soft returns action) (world : World) :
    ∃ value after added, action.runIn world = (.ok value, after) ∧ returns value ∧
      world.Onward after added ∧ world.page.Calm world.trace added := by
  obtain ⟨_, after, added, ran, onward, calm, ⟨value, rfl, good⟩ | ⟨waiting, -⟩⟩ := Interacts.calm both world
  · exact ⟨value, after, added, ran, good, onward, calm⟩
  · exact waiting.elim

end Act
end FormFill
