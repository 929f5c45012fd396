import FormFill.Proofs.Act

namespace FormFill

/-- Calls pass that are made one after the other. -/
def Page.Passes (page : Page) : List Event → List Call → Prop
  | _, [] => True
  | before, made :: rest =>
    page.error? before (.call made) = none ∧ page.Passes (before ++ [.call made]) rest

theorem Page.Passes.append {page : Page} {before : List Event} {first second : List Call}
    (left : page.Passes before first) (right : page.Passes (before ++ first.map .call) second) :
    page.Passes before (first ++ second) := by
  induction first generalizing before with
  | nil => simpa using right
  | cons made rest ih =>
    refine ⟨left.1, ih left.2 ?_⟩
    simpa using right

/-- Planned calls break off: those before one pass, that one fails, and the others are not made. -/
structure Page.BreaksOff (page : Page) (before : List Event) (planned earlier : List Call) (failed : Call)
    (error : BrowserError) : Prop where
  planned : earlier ++ [failed] <+: planned
  passes : page.Passes before earlier
  raised : page.error? (before ++ earlier.map .call) (.call failed) = some error

theorem Page.BreaksOff.weaken {page : Page} {before : List Event} {planned earlier : List Call} {failed : Call}
    {error : BrowserError} (breaks : page.BreaksOff before planned earlier failed error) (more : List Call) :
    page.BreaksOff before (planned ++ more) earlier failed error :=
  ⟨breaks.planned.trans (List.prefix_append planned more), breaks.passes, breaks.raised⟩

theorem Page.BreaksOff.after {page : Page} {before : List Event} {first planned earlier : List Call}
    {failed : Call} {error : BrowserError} (passes : page.Passes before first)
    (breaks : page.BreaksOff (before ++ first.map .call) planned earlier failed error) :
    page.BreaksOff before (first ++ planned) (first ++ earlier) failed error where
  planned := by
    rw [List.append_assoc, List.prefix_append_right_inj]
    exact breaks.planned
  passes := passes.append breaks.passes
  raised := by
    rw [List.map_append, ← List.append_assoc]
    exact breaks.raised

namespace Act

/-- How planned calls end. If they pass, this is left open. -/
def CallsEnd {α : Type} (page : Page) (planned : List Call) (opened : Opened) (before : List Event) (after : World) :
    Except Failure α → Prop
  | .ok _ => page.Passes before planned ∧ after.trace = before ++ planned.map .call ∧ after.opened = opened
  | .error failure => ∃ earlier failed error, failure = .browser error ∧
      page.BreaksOff before planned earlier failed error ∧ after.trace = before ++ (earlier ++ [failed]).map .call

theorem CallsEnd.after {α : Type} {page : Page} {first second : List Call} {opened : Opened} {before : List Event}
    {final : World} {result : Except Failure α} (passes : page.Passes before first)
    (ended : CallsEnd page second opened (before ++ first.map .call) final result) :
    CallsEnd page (first ++ second) opened before final result := by
  cases result with
  | ok value =>
    obtain ⟨further, trace, left⟩ := ended
    exact ⟨passes.append further, by simpa using trace, left⟩
  | error failure =>
    obtain ⟨earlier, failed, error, same, breaks, trace⟩ := ended
    exact ⟨first ++ earlier, failed, error, same, breaks.after passes, by simpa using trace⟩

/-- An action makes the planned calls in order, up to the first that fails, and nothing else happens in it. If none
    fails, it leaves open what is open `after`, given what is open `before`. -/
def Makes {α : Type} (page : Page) (planned : List Call) (before after : Opened) (action : Act α) : Prop :=
  ∀ world : World, world.page = page → world.opened = before →
    (action.runIn world).2.page = page ∧ (action.runIn world).2.host = world.host ∧
    CallsEnd page planned after world.trace (action.runIn world).2 (action.runIn world).1

namespace Makes

variable {α β : Type} {page : Page} {first second planned : List Call} {before middle after opened : Opened}

theorem modify {change : World → World} (page_eq : ∀ world, (change world).page = world.page)
    (host_eq : ∀ world, (change world).host = world.host)
    (trace_eq : ∀ world, (change world).trace = world.trace)
    (opens : ∀ world, world.opened = before → (change world).opened = after) :
    Makes page [] before after (modify change : Act Unit) := by
  rintro world rfl here
  exact ⟨page_eq world, host_eq world, trivial, by simp [trace_eq], opens world here⟩

theorem call (made : Call) : Makes page [made] opened opened (call made) := by
  rintro world rfl here
  cases passes : world.page.error? world.trace (.call made) with
  | none =>
    rw [runIn_call passes]
    exact ⟨rfl, rfl, ⟨passes, trivial⟩, rfl, here⟩
  | some error =>
    rw [runIn_call_error passes]
    have raised : world.page.error? (world.trace ++ [].map .call) (.call made) = some error := by
      simpa using passes
    exact ⟨rfl, rfl, [], made, error, rfl, ⟨List.prefix_rfl, trivial, raised⟩, rfl⟩

theorem bind {action : Act α} {next : α → Act β} (begins : Makes page first before middle action)
    (goes : ∀ value, Makes page second middle after (next value)) :
    Makes page (first ++ second) before after (action >>= next) := by
  intro world here opened
  obtain ⟨still, same, ended⟩ := begins world here opened
  rw [runIn_bind]
  rcases result : action.runIn world with ⟨failure | value, between⟩
  · rw [result] at still same ended
    obtain ⟨earlier, failed, error, raised, breaks, trace⟩ := ended
    exact ⟨still, same, earlier, failed, error, raised, breaks.weaken second, trace⟩
  -- What follows starts from the events of the first part, so its calls come after those of that part.
  · rw [result] at still same ended
    obtain ⟨passes, trace, left⟩ := ended
    dsimp only at trace
    obtain ⟨page, host, finished⟩ := goes value between still left
    rw [trace] at finished
    exact ⟨page, host.trans same, finished.after passes⟩

theorem read {next : World → Act β} (goes : ∀ world, world.page = page → Makes page planned before after (next world)) :
    Makes page planned before after (get >>= next) := by
  intro world here opened
  rw [runIn_bind_ok (runIn_get world)]
  exact goes world here world here opened

end Makes
end Act
end FormFill
