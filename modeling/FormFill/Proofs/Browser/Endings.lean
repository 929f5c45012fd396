import FormFill.Browser.Page

namespace FormFill

/-- Whether an event deals with the page, its devices or the browser, rather than with time, chance
    or a person. -/
def Event.isCall : Event → Bool
  | .lookup .. | .element .. | .call _ | .isClosed => true
  | .sleep _ | .draw .. | .ask _ | .askConsole _ | .configureLogging _ => false

/-- Whether an event is a call whose errors do not fail a field. -/
def Event.isSoft : Event → Bool
  | .element _ (.scrollIntoView _) | .element _ .isChecked | .element _ .innerText => true
  | .call (.evaluate ..) | .call (.waitForTimeout _) | .call (.keyPress _) => true
  | _ => false

/-- Whether a call on the page as a whole may come of dealing with a field. -/
def Call.ofField : Call → Bool
  | .evaluate .. | .waitForTimeout _ | .mouseClick .. | .keyPress _ | .insertText _ => true
  | _ => false

/-- Whether an event may come of dealing with a field or of the pause after it. -/
def Event.ofField : Event → Bool
  | .lookup .. | .element .. | .sleep _ | .draw .. => true
  | .call made => made.ofField
  | _ => false

namespace Page

/-- The events of a stretch of a trace, each with the error that it ended with. -/
def endings (page : Page) : List Event → List Event → List (Event × Option BrowserError)
  | _, [] => []
  | before, event :: rest => (event, page.error? before event) :: page.endings (before ++ [event]) rest

/-- The last call in a stretch of a trace with the error that it ended with. -/
def lastCall? (page : Page) (before added : List Event) : Option (Event × Option BrowserError) :=
  ((page.endings before added).filter (·.1.isCall)).getLast?

theorem endings_append (page : Page) (before first second : List Event) :
    page.endings before (first ++ second) =
      page.endings before first ++ page.endings (before ++ first) second := by
  induction first generalizing before with
  | nil => simp [endings]
  | cons event rest ih => simp [endings, ih]

theorem error?_append {page : Page} {before added : List Event} {event : Event}
    (apart : ∀ other ∈ added, sameKind event other = false) :
    page.error? (before ++ added) event = page.error? before event := by
  have uncounted : added.countP (sameKind event) = 0 := by
    rw [List.countP_eq_zero]
    simpa using apart
  simp only [error?, List.countP_append, uncounted, Nat.add_zero]

theorem isCall_of_error {page : Page} {before : List Event} {event : Event} {error : BrowserError}
    (raised : page.error? before event = some error) : event.isCall = true := by
  cases event <;> first | rfl | simp [error?, plan?] at raised

/-- Every error in a stretch of a trace is one of a soft call. -/
def Calm (page : Page) (before added : List Event) : Prop :=
  ∀ event error, (event, some error) ∈ page.endings before added → event.isSoft = true

theorem Calm.nil {page : Page} {before : List Event} : page.Calm before [] := by
  simp [Calm, endings]

theorem Calm.append {page : Page} {before first second : List Event} (left : page.Calm before first)
    (right : page.Calm (before ++ first) second) : page.Calm before (first ++ second) := by
  intro event error member
  rw [endings_append, List.mem_append] at member
  rcases member with member | member
  · exact left event error member
  · exact right event error member

theorem Calm.singleton {page : Page} {before : List Event} {event : Event}
    (calm : ∀ error, page.error? before event = some error → event.isSoft = true) :
    page.Calm before [event] := by
  intro other error member
  simp only [endings, List.mem_singleton, Prod.mk.injEq] at member
  obtain ⟨same, raised⟩ := member
  subst same
  exact calm error raised.symm

/-- A stretch of a trace breaks off with an error of its last event, a soft one or not. -/
def Broken (page : Page) (soft : Bool) (error : BrowserError) (before added : List Event) : Prop :=
  ∃ earlier event, added = earlier ++ [event] ∧ page.Calm before earlier ∧ event.isSoft = soft ∧
    page.error? (before ++ earlier) event = some error

theorem Broken.after {page : Page} {soft : Bool} {error : BrowserError} {before first second : List Event}
    (calm : page.Calm before first) (broken : page.Broken soft error (before ++ first) second) :
    page.Broken soft error before (first ++ second) := by
  obtain ⟨earlier, event, rfl, between, kind, raised⟩ := broken
  refine ⟨first ++ earlier, event, by simp, calm.append between, kind, ?_⟩
  simpa only [List.append_assoc] using raised

theorem Broken.calm {page : Page} {error : BrowserError} {before added : List Event}
    (broken : page.Broken true error before added) : page.Calm before added := by
  obtain ⟨earlier, event, rfl, calm, soft, -⟩ := broken
  exact calm.append (.singleton fun _ _ => soft)

theorem Broken.lastCall {page : Page} {soft : Bool} {error : BrowserError} {before added : List Event}
    (broken : page.Broken soft error before added) :
    ∃ event, page.lastCall? before added = some (event, some error) ∧ event.isSoft = soft := by
  obtain ⟨earlier, event, rfl, -, kind, raised⟩ := broken
  refine ⟨event, ?_, kind⟩
  have call := isCall_of_error raised
  simp [lastCall?, endings_append, endings, raised, call]

theorem Calm.lastCall {page : Page} {before added : List Event} (calm : page.Calm before added)
    {event : Event} {error : BrowserError}
    (last : page.lastCall? before added = some (event, some error)) : event.isSoft = true := by
  have member := List.mem_of_getLast? last
  exact calm event error (List.mem_filter.mp member).1

end Page
end FormFill
