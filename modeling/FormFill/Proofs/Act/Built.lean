import FormFill.Proofs.Browser.Interaction

namespace FormFill

/-- Whether a call fails on the page is not up to the calls before it. -/
def Page.Steady (page : Page) : Prop :=
  ∀ event plan, page.plan? event = some plan → ∀ first second, plan.error? first = plan.error? second

theorem Page.Steady.error? {page : Page} (steady : page.Steady) (before others : List Event) (event : Event) :
    page.error? before event = page.error? others event := by
  unfold Page.error?
  cases planned : page.plan? event with
  | none => rfl
  | some plan => exact steady event plan planned _ _

def FaultPlan.isAlways : FaultPlan → Bool
  | .always _ => true
  | .each _ => false

theorem Page.Steady.of_always {page : Page} (calls : ∀ fault ∈ page.faults, fault.2.isAlways)
    (elements : ∀ entry ∈ page.nodes, ∀ fault ∈ entry.2.faults, fault.2.isAlways) : page.Steady := by
  intro event plan planned
  have always : plan.isAlways := by
    cases event with
    | call made =>
      obtain ⟨_, _, split, -⟩ := List.lookup_eq_some_iff.mp planned
      exact calls (made.kind, plan) (by simp [split])
    | element handle made =>
      have among : (made.kind, plan) ∈ (page.node handle.node).faults := by
        obtain ⟨_, _, split, -⟩ := List.lookup_eq_some_iff.mp planned
        simp [split]
      unfold Page.node at among
      cases found : page.nodes.lookup handle.node with
      | none =>
        rw [found] at among
        cases among
      | some node =>
        obtain ⟨_, _, split, -⟩ := List.lookup_eq_some_iff.mp found
        rw [found] at among
        exact elements (handle.node, node) (by simp [split]) _ among
    | _ => cases planned
  cases plan with
  | always error => exact fun _ _ => rfl
  | each errors => cases always

/-- The page is as it was, and nothing has been drawn. -/
structure World.Stays (world after : World) : Prop where
  page : after.page = world.page
  draws : after.draws = world.draws

theorem World.Stays.refl (world : World) : world.Stays world :=
  ⟨rfl, rfl⟩

theorem World.Stays.trans {world middle after : World} (first : world.Stays middle) (second : middle.Stays after) :
    world.Stays after :=
  ⟨second.page.trans first.page, second.draws.trans first.draws⟩

namespace Act

/-- How the action ends is up to the page alone, which stays as it is; nothing is drawn. -/
def Repeats {α : Type} (page : Page) (action : Act α) : Prop :=
  ∀ world other : World, world.page = page → other.page = page → ∃ result after after',
    action.runIn world = (result, after) ∧ action.runIn other = (result, after') ∧ world.Stays after ∧
      other.Stays after'

namespace Repeats

variable {α β : Type} {page : Page} {action : Act α}

theorem pure (value : α) : Repeats page (pure value) :=
  fun _ _ _ _ => ⟨_, _, _, rfl, rfl, .refl _, .refl _⟩

theorem throw (failure : Failure) : Repeats page (throw failure : Act α) :=
  fun _ _ _ _ => ⟨_, _, _, rfl, rfl, .refl _, .refl _⟩

theorem log (level : LogLevel) (component event : String) (values : Members) :
    Repeats page (log level component event values) :=
  fun _ _ _ _ => ⟨_, _, _, rfl, rfl, ⟨rfl, rfl⟩, ⟨rfl, rfl⟩⟩

theorem perform (steady : page.Steady) (event : Event) : Repeats page (perform event) := by
  intro world other kept kept'
  rw [runIn_perform, runIn_perform, kept, kept', steady.error? other.trace world.trace]
  cases page.error? world.trace event with
  | none => exact ⟨_, _, _, rfl, rfl, ⟨rfl, rfl⟩, ⟨rfl, rfl⟩⟩
  | some error => exact ⟨_, _, _, rfl, rfl, ⟨rfl, rfl⟩, ⟨rfl, rfl⟩⟩

theorem bind {waits : Prop} {soft : Bool} {returns : α → Prop} {next : α → Act β} (first : Repeats page action)
    (interacts : Interacts waits soft returns action) (second : ∀ value, returns value → Repeats page (next value)) :
    Repeats page (action >>= next) := by
  intro world other kept kept'
  obtain ⟨result, middle, middle', ran, ran', still, still'⟩ := first world other kept kept'
  obtain ⟨added, -, ended⟩ := interacts world
  rw [ran] at ended
  rw [runIn_bind, runIn_bind, ran, ran']
  cases result with
  | error failure => exact ⟨_, _, _, rfl, rfl, still, still'⟩
  | ok value =>
    obtain ⟨result, after, after', went, went', further, further'⟩ :=
      second value ended.1 middle middle' (still.page.trans kept) (still'.page.trans kept')
    exact ⟨result, after, after', went, went', still.trans further, still'.trans further'⟩

theorem catchBrowser {handler : BrowserError → Act α} (tried : Repeats page action)
    (answered : ∀ error, Repeats page (handler error)) : Repeats page (catchBrowser action handler) := by
  intro world other kept kept'
  obtain ⟨result, middle, middle', ran, ran', still, still'⟩ := tried world other kept kept'
  rw [runIn_catchBrowser, runIn_catchBrowser, ran, ran']
  rcases result with failure | value
  · cases failure with
    | browser error =>
      obtain ⟨result, after, after', went, went', further, further'⟩ :=
        answered error middle middle' (still.page.trans kept) (still'.page.trans kept')
      exact ⟨result, after, after', went, went', still.trans further, still'.trans further'⟩
    | _ => exact ⟨_, _, _, rfl, rfl, still, still'⟩
  · exact ⟨_, _, _, rfl, rfl, still, still'⟩

end Repeats

/-- Actions that are put together of what can be done with a page. The errors that end them are those of calls that are
    soft or of calls that are not, as `soft` says; the values they return are as described; numbers are drawn only
    where `draws` allows it, and a pause may be too long only where `waits` does. -/
inductive Built (draws waits : Prop) : {α : Type} → Bool → (α → Prop) → Act α → Prop where
  | pure {α : Type} {soft : Bool} {returns : α → Prop} {value : α} (good : returns value) :
      Built draws waits soft returns (pure value)
  | read {α : Type} {soft : Bool} (value : Page → α) :
      Built draws waits soft (fun _ => True) (do return value (← get).page)
  | log {soft : Bool} {level : LogLevel} {component event : String} {values : Members} :
      Built draws waits soft (fun _ => True) (log level component event values)
  | note {soft : Bool} {event : Event} (passes : ∀ page before, Page.error? page before event = none)
      (ofField : event.ofField = true) : Built draws waits soft (fun _ => True) (note event)
  | overlong {α : Type} {soft : Bool} {returns : α → Prop} (waiting : waits) :
      Built draws waits soft returns (throw .overlongPause)
  | perform (event : Event) (ofField : event.ofField = true) :
      Built draws waits event.isSoft (fun _ => True) (perform event)
  | draw {soft : Bool} {low high : Int} (drawing : draws) (ordered : low ≤ high) :
      Built draws waits soft (fun drawn => low ≤ drawn ∧ drawn ≤ high) (draw low high)
  | bind {α β : Type} {soft : Bool} {returns : α → Prop} {later : β → Prop} {action : Act α} {next : α → Act β}
      (first : Built draws waits soft returns action)
      (second : ∀ value, returns value → Built draws waits soft later (next value)) :
      Built draws waits soft later (action >>= next)
  | catchBrowser {α : Type} {soft : Bool} {returns : α → Prop} {action : Act α} {handler : BrowserError → Act α}
      (tried : Built draws waits true returns action)
      (answered : ∀ error, Built draws waits soft returns (handler error)) :
      Built draws waits soft returns (catchBrowser action handler)

namespace Built

variable {α β : Type} {draws waits : Prop} {soft : Bool} {returns : α → Prop} {later : β → Prop} {action : Act α}

/-- As `bind`, where what follows does not depend on a property of the value. -/
theorem andThen {next : α → Act β} (first : Built draws waits soft returns action)
    (second : ∀ value, Built draws waits soft later (next value)) : Built draws waits soft later (action >>= next) :=
  .bind first fun value _ => second value

theorem weaken {wider : α → Prop} (built : Built draws waits soft returns action)
    (implies : ∀ value, returns value → wider value) : Built draws waits soft wider action := by
  have returned : Built draws waits soft wider (action >>= Pure.pure) :=
    .bind built fun value good => .pure (implies value good)
  rwa [bind_pure] at returned

theorem call (made : Call) (ofField : made.ofField = true) :
    Built draws waits (Event.call made).isSoft (fun _ => True) (Act.call made) :=
  .perform _ ofField

theorem element (handle : Handle) (made : ElementCall) :
    Built draws waits (Event.element handle made).isSoft (fun _ => True) (Act.element handle made) :=
  .andThen (.perform _ rfl) fun _ => .read fun page => page.node handle.node

theorem lookup (owner : Option Handle) (lookup : Lookup) :
    Built draws waits soft (fun _ => True) (Act.lookup owner lookup) :=
  .andThen (.note (fun _ _ => rfl) rfl) fun _ => .read fun page => Handle.mk (page.find owner lookup) false

theorem count (handle : Handle) : Built draws waits false (fun _ => True) (Act.count handle) :=
  .andThen (.element handle .count) fun _ => .pure trivial

theorem interacts (built : Built draws waits soft returns action) : Interacts waits soft returns action := by
  induction built with
  | pure good => exact .pure good
  | read value => exact .andThen .get fun _ => .pure trivial
  | log => exact .log
  | note passes ofField => exact .note passes ofField
  | overlong waiting => exact .overlong waiting
  | perform _ ofField => exact .perform ofField
  | draw _ ordered => exact .draw ordered
  | bind _ _ first second => exact .bind first second
  | catchBrowser _ _ tried answered => exact .catchBrowser tried answered

theorem repeats {page : Page} (steady : page.Steady) (built : Built False waits soft returns action) :
    Repeats page action := by
  induction built with
  | pure => exact .pure _
  | read value =>
    intro world other kept kept'
    have same : other.page = world.page := kept'.trans kept.symm
    exact ⟨.ok (value world.page), _, _, rfl, same ▸ rfl, .refl _, .refl _⟩
  | log => exact .log _ _ _ _
  | note => exact fun _ _ _ _ => ⟨_, _, _, rfl, rfl, ⟨rfl, rfl⟩, ⟨rfl, rfl⟩⟩
  | overlong => exact .throw _
  | perform event => exact .perform steady event
  | draw drawing => exact drawing.elim
  | bind first _ repeated repeats => exact .bind repeated first.interacts repeats
  | catchBrowser _ _ tried answered => exact .catchBrowser tried answered

end Built
end Act
end FormFill
