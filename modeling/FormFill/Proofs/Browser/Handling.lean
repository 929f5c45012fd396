import FormFill.Browser.Locating
import FormFill.Browser.Timing
import FormFill.Proofs.Act
import FormFill.Proofs.Browser.Endings

namespace FormFill

/-- Whether a call on an element may change the form. Of the scripts only the one that asks whether the
    element is editable cannot. -/
def ElementCall.mutates : ElementCall → Bool
  | .click _ | .fill _ | .press _ | .pressSequentially .. | .check _ | .selectOption _ => true
  | .evaluate script => script != Locating.isEditableScript
  | .count | .all | .boundingBox | .isChecked | .innerText | .scrollIntoView _ => false

/-- Whether a call on the page as a whole may change the form or the clipboard. Of the scripts only the
    one that scrolls cannot. -/
def Call.mutates : Call → Bool
  | .click _ | .mouseClick .. | .keyPress _ | .insertText _ => true
  | .evaluate script _ => script != Timing.bottomScript
  | _ => false

def Event.mutates : Event → Bool
  | .element _ made => made.mutates
  | .call made => made.mutates
  | _ => false

/-- None of the events may have changed the form. -/
def Still (events : List Event) : Prop :=
  ∀ event ∈ events, event.mutates = false

theorem Still.nil : Still [] := nofun

theorem Still.append {first second : List Event} (left : Still first) (right : Still second) :
    Still (first ++ second) := by
  intro event member
  rcases List.mem_append.mp member with member | member
  · exact left event member
  · exact right event member

theorem Still.singleton {event : Event} (harmless : event.mutates = false) : Still [event] := by
  intro other member
  rw [List.mem_singleton.mp member]
  exact harmless

namespace Page

variable {page : Page} {before earlier first second : List Event} {handle : Handle}

/-- The handle is what one of the lookups among the events has given. -/
def Looked (page : Page) (events : List Event) (handle : Handle) : Prop :=
  ∃ owner lookup, .lookup owner lookup ∈ events ∧ handle = ⟨page.find owner lookup, false⟩

/-- The events have shown that there is an element behind the handle: it is the first match of a lookup
    that was counted and is not empty, or one of those that were listed. -/
inductive Obtained (page : Page) (before events : List Event) : Handle → Prop
  | first {found : Handle} (looked : page.Looked events found)
    (counted : (.element found .count, none) ∈ page.endings before events)
    (present : (page.node found.node).count ≠ 0) : page.Obtained before events found.first
  | listed {found : Handle} {name : String} (looked : page.Looked events found)
    (listed : (.element found .all, none) ∈ page.endings before events)
    (member : name ∈ (page.node found.node).all) : page.Obtained before events ⟨name, false⟩

theorem mem_endings_append {ending : Event × Option BrowserError}
    (member : ending ∈ page.endings before earlier) (more : List Event) :
    ending ∈ page.endings before (earlier ++ more) := by
  rw [endings_append]
  exact List.mem_append_left _ member

theorem Looked.append (looked : page.Looked earlier handle) (more : List Event) :
    page.Looked (earlier ++ more) handle := by
  obtain ⟨owner, lookup, member, same⟩ := looked
  exact ⟨owner, lookup, List.mem_append_left _ member, same⟩

theorem Obtained.append (obtained : page.Obtained before earlier handle) (more : List Event) :
    page.Obtained before (earlier ++ more) handle := by
  cases obtained with
  | first looked counted present => exact .first (looked.append more) (mem_endings_append counted more) present
  | listed looked listed member => exact .listed (looked.append more) (mem_endings_append listed more) member

/-- Through what has been found, if anything has, changes may be made. -/
def Finds (page : Page) (before : List Event) (found : Option Handle) (events : List Event) : Prop :=
  ∀ handle ∈ found, page.Obtained before events handle

theorem Finds.none : page.Finds before none earlier := nofun

theorem Finds.some (obtained : page.Obtained before earlier handle) : page.Finds before (some handle) earlier := by
  intro other same
  cases same
  exact obtained

/-- Every change to an element among the events is made through a handle that was obtained before. -/
def Grounded (page : Page) (before earlier added : List Event) : Prop :=
  ∀ front handle call rest, added = front ++ .element handle call :: rest → call.mutates = true →
    page.Obtained before (earlier ++ front) handle

theorem Grounded.of_still {added : List Event} (still : Still added) : page.Grounded before earlier added := by
  intro front handle call rest split mutates
  have harmless := still (.element handle call) (by simp [split])
  rw [Event.mutates, mutates] at harmless
  cases harmless

theorem Grounded.singleton {event : Event}
    (obtained : ∀ handle call, event = .element handle call → page.Obtained before earlier handle) :
    page.Grounded before earlier [event] := by
  intro front handle call rest split mutates
  obtain ⟨rfl, same, -⟩ : front = [] ∧ event = .element handle call ∧ rest = [] := by
    rcases List.append_eq_singleton_iff.mp split.symm with ⟨empty, same⟩ | ⟨-, none⟩
    · exact ⟨empty, by simpa using same.symm⟩
    · cases none
  rw [List.append_nil]
  exact obtained handle call same

theorem Grounded.append (left : page.Grounded before earlier first)
    (right : page.Grounded before (earlier ++ first) second) : page.Grounded before earlier (first ++ second) := by
  intro front handle call rest split mutates
  -- The changing call stands in the second part, or it ends what is taken of the first.
  rcases List.append_eq_append_iff.mp split with ⟨between, rfl, inSecond⟩ | ⟨between, inFirst, inRest⟩
  · have obtained := right between handle call rest inSecond mutates
    rwa [List.append_assoc] at obtained
  · cases between with
    | nil =>
      have obtained := right [] handle call rest inRest.symm mutates
      simpa [inFirst] using obtained
    | cons event between =>
      rw [List.cons_append, List.cons.injEq] at inRest
      obtain ⟨rfl, -⟩ := inRest
      exact left front handle call between inFirst mutates

/-- A stretch of work on the page has added some events, none of which changes the form if it is to be
    `still`, and each change is made through a handle obtained before. -/
structure Worked (page : Page) (before earlier : List Event) (still : Bool) (after : World)
    (added : List Event) : Prop where
  kept : after.page = page
  trace : after.trace = before ++ (earlier ++ added)
  still : still = true → Still added
  grounded : page.Grounded before earlier added

theorem Worked.trans {still : Bool} {middle after : World} (left : page.Worked before earlier still middle first)
    (right : page.Worked before (earlier ++ first) still after second) :
    page.Worked before earlier still after (first ++ second) where
  kept := right.kept
  trace := by rw [right.trace, List.append_assoc]
  still := fun quiet => (left.still quiet).append (right.still quiet)
  grounded := left.grounded.append right.grounded

theorem Worked.unchanged {still : Bool} {after : World} (samePage : after.page = page)
    (sameTrace : after.trace = before ++ earlier) : page.Worked before earlier still after [] :=
  ⟨samePage, by rw [sameTrace, List.append_nil], fun _ => .nil, .of_still .nil⟩

theorem Worked.note {still : Bool} {world : World} {event : Event} (samePage : world.page = page)
    (sameTrace : world.trace = before ++ earlier) (quiet : still = true → event.mutates = false)
    (grounded : page.Grounded before earlier [event]) :
    page.Worked before earlier still (world.note event) [event] where
  kept := samePage
  trace := by rw [World.note, sameTrace, List.append_assoc]
  still := fun isStill => .singleton (quiet isStill)
  grounded := grounded

end Page

namespace Act

variable {α β : Type} {page : Page} {before earlier : List Event} {still : Bool}
variable {gives : α → List Event → Prop}

/-- After what has happened `earlier` since dealing with a field began, the action works on the page in
    the manner of `Worked`, and a value that it returns is as described for all that has happened then. -/
def Handles (page : Page) (before earlier : List Event) (still : Bool) (gives : α → List Event → Prop)
    (action : Act α) : Prop :=
  ∀ world : World, world.page = page → world.trace = before ++ earlier →
    ∃ added, page.Worked before earlier still (action.runIn world).2 added ∧
      ∀ value, (action.runIn world).1 = .ok value → gives value (earlier ++ added)

theorem Handles.pure {value : α} (good : gives value earlier) :
    Handles page before earlier still gives (pure value) := by
  intro world samePage sameTrace
  refine ⟨[], .unchanged samePage sameTrace, ?_⟩
  intro other same
  cases same
  rwa [List.append_nil]

theorem Handles.fail {failure : Failure} : Handles page before earlier still gives (throw failure) := by
  intro world samePage sameTrace
  exact ⟨[], .unchanged samePage sameTrace, nofun⟩

theorem Handles.failOn (failure : Option Failure) :
    Handles page before earlier still (fun _ _ => True) (failOn failure) := by
  cases failure with
  | none => exact .pure trivial
  | some failure => exact .fail

theorem Handles.weaken {weaker : α → List Event → Prop} {action : Act α}
    (handles : Handles page before earlier still gives action)
    (implies : ∀ value added, gives value (earlier ++ added) → weaker value (earlier ++ added)) :
    Handles page before earlier still weaker action := by
  intro world samePage sameTrace
  obtain ⟨added, worked, given⟩ := handles world samePage sameTrace
  exact ⟨added, worked, fun value same => implies value added (given value same)⟩

theorem Handles.bind {next : α → Act β} {later : β → List Event → Prop} {action : Act α}
    (first : Handles page before earlier still gives action)
    (second : ∀ value added, gives value (earlier ++ added) →
      Handles page before (earlier ++ added) still later (next value)) :
    Handles page before earlier still later (action >>= next) := by
  intro world samePage sameTrace
  obtain ⟨added, worked, given⟩ := first world samePage sameTrace
  rw [runIn_bind]
  rcases result : action.runIn world with ⟨failure | value, middle⟩
  · rw [result] at worked
    exact ⟨added, worked, nofun⟩
  · rw [result] at worked given
    obtain ⟨more, further, finished⟩ := second value added (given value rfl) middle worked.kept worked.trace
    refine ⟨added ++ more, worked.trans further, ?_⟩
    rwa [← List.append_assoc]

theorem Handles.quiet {action : Act α} (handles : Handles page before earlier true gives action) :
    Handles page before earlier still
      (fun value events => gives value events ∧ ∀ added, events = earlier ++ added → Still added) action := by
  intro world samePage sameTrace
  obtain ⟨added, worked, given⟩ := handles world samePage sameTrace
  have quiet : Still added := worked.still rfl
  refine ⟨added, ⟨worked.kept, worked.trace, fun _ => quiet, worked.grounded⟩, ?_⟩
  intro value returned
  refine ⟨given value returned, fun other same => ?_⟩
  rwa [← List.append_cancel_left same]

/-- As `bind`, where the first action changes nothing whatever the second may do. -/
theorem Handles.after {next : α → Act β} {later : β → List Event → Prop} {action : Act α}
    (first : Handles page before earlier true gives action)
    (second : ∀ value added, Still added → gives value (earlier ++ added) →
      Handles page before (earlier ++ added) still later (next value)) :
    Handles page before earlier still later (action >>= next) :=
  first.quiet.bind fun value added given => second value added (given.2 added rfl) given.1

theorem Handles.get : Handles page before earlier still (fun world _ => world.page = page) (get : Act World) := by
  intro world samePage sameTrace
  refine ⟨[], .unchanged samePage sameTrace, ?_⟩
  intro value same
  cases same
  exact samePage

theorem Handles.modify {change : World → World} (keepsPage : ∀ world, (change world).page = world.page)
    (keepsTrace : ∀ world, (change world).trace = world.trace) :
    Handles page before earlier still (fun _ _ => True) (modify change : Act Unit) := by
  intro world samePage sameTrace
  exact ⟨[], .unchanged ((keepsPage world).trans samePage) ((keepsTrace world).trans sameTrace), fun _ _ => trivial⟩

theorem Handles.log {level : LogLevel} {component event : String} {values : Members} :
    Handles page before earlier still (fun _ _ => True) (log level component event values) :=
  .modify (fun _ => rfl) fun _ => rfl

theorem Handles.note {event : Event} (harmless : event.mutates = false) :
    Handles page before earlier still (fun _ events => event ∈ events) (note event) := by
  intro world samePage sameTrace
  refine ⟨[event], .note samePage sameTrace (fun _ => harmless) (.of_still (.singleton harmless)), ?_⟩
  intro _ _
  simp

theorem Handles.perform {event : Event} (quiet : still = true → event.mutates = false)
    (grounded : page.Grounded before earlier [event]) :
    Handles page before earlier still (fun _ events => (event, none) ∈ page.endings before events)
      (perform event) := by
  intro world samePage sameTrace
  refine ⟨[event], ?_⟩
  rw [runIn_perform, samePage, sameTrace]
  cases raised : page.error? (before ++ earlier) event with
  | none =>
    refine ⟨.note samePage sameTrace quiet grounded, ?_⟩
    intro _ _
    rw [Page.endings_append]
    simp [Page.endings, raised]
  | some error =>
    refine ⟨.note samePage sameTrace quiet grounded, ?_⟩
    intro value returned
    cases returned

theorem Handles.element {handle : Handle} {call : ElementCall} (quiet : still = true → call.mutates = false)
    (grounded : page.Grounded before earlier [.element handle call]) :
    Handles page before earlier still
      (fun node events => node = page.node handle.node ∧
        (.element handle call, none) ∈ page.endings before events) (Act.element handle call) := by
  refine .bind (.perform quiet grounded) fun _ added ended => ?_
  refine .bind .get fun world more samePage => .pure ⟨by rw [samePage], Page.mem_endings_append ended more⟩

/-- A call that only looks. -/
theorem Handles.look {handle : Handle} {call : ElementCall} (harmless : call.mutates = false) :
    Handles page before earlier still
      (fun node events => node = page.node handle.node ∧
        (.element handle call, none) ∈ page.endings before events) (Act.element handle call) :=
  .element (fun _ => harmless) (.of_still (.singleton harmless))

/-- A call that may change an element needs a handle that was obtained before. -/
theorem Handles.touch {handle : Handle} {call : ElementCall} (obtained : page.Obtained before earlier handle) :
    Handles page before earlier false (fun _ _ => True) (Act.element handle call) := by
  have grounded : page.Grounded before earlier [.element handle call] := by
    refine .singleton fun other _ same => ?_
    cases same
    exact obtained
  have unstill : false = true → call.mutates = false := nofun
  exact (Handles.element unstill grounded).weaken fun _ _ _ => trivial

theorem Handles.call {call : Call} (quiet : still = true → call.mutates = false) :
    Handles page before earlier still (fun _ _ => True) (Act.call call) := by
  have grounded : page.Grounded before earlier [.call call] := .singleton fun _ _ same => by cases same
  have harmless : still = true → (Event.call call).mutates = false := quiet
  exact (Handles.perform harmless grounded).weaken fun _ _ _ => trivial

theorem Handles.lookup (owner : Option Handle) (lookup : Lookup) :
    Handles page before earlier still (fun handle events => page.Looked events handle)
      (Act.lookup owner lookup) := by
  refine .bind (.note rfl) fun _ added noted => ?_
  refine .bind .get fun world more samePage => .pure ?_
  exact ⟨owner, lookup, List.mem_append_left _ noted, by rw [samePage]⟩

/-- A lookup that is counted as not empty has a first match. -/
theorem Handles.count {handle : Handle} (looked : page.Looked earlier handle) :
    Handles page before earlier still
      (fun number events => number ≠ 0 → page.Obtained before events handle.first) (Act.count handle) := by
  refine .bind (.look rfl) fun node added counted => .pure fun present => ?_
  rw [counted.1] at present
  exact .first (looked.append added) counted.2 present

theorem Handles.draw (low high : Int) :
    Handles page before earlier still (fun _ _ => True) (Act.draw low high) := by
  unfold Act.draw
  refine .bind (.note rfl) fun _ _ _ => ?_
  dsimp only
  split
  · have broken : ∀ events, Handles page before events still (fun _ _ => False)
        (throw (Failure.emptyWindow low high) : Act PUnit) := fun _ => .fail
    exact .bind (broken _) fun _ _ never => never.elim
  · refine .bind .get fun _ _ _ => ?_
    exact .bind (.modify (fun _ => rfl) fun _ => rfl) fun _ _ _ => .pure trivial

theorem Handles.catchBrowser {action : Act α} {handler : BrowserError → Act α}
    (tried : Handles page before earlier still gives action)
    (answered : ∀ error added, Handles page before (earlier ++ added) still gives (handler error)) :
    Handles page before earlier still gives (Act.catchBrowser action handler) := by
  intro world samePage sameTrace
  obtain ⟨added, worked, given⟩ := tried world samePage sameTrace
  rw [runIn_catchBrowser]
  rcases result : action.runIn world with ⟨failure | value, middle⟩
  · rw [result] at worked
    cases failure with
    | browser error =>
      obtain ⟨more, further, finished⟩ := answered error added middle worked.kept worked.trace
      exact ⟨added ++ more, worked.trans further, by rwa [← List.append_assoc]⟩
    | _ => exact ⟨added, worked, nofun⟩
  · rw [result] at worked given
    exact ⟨added, worked, given⟩

end Act
end FormFill
