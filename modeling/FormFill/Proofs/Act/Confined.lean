import FormFill.Proofs.Browser.Interaction

namespace FormFill

/-- Events of some kind have been added between two worlds; the page, what stands around and what is open have
    stayed. -/
structure World.Added (kind : Event → Bool) (before after : World) (added : List Event) : Prop where
  page : after.page = before.page
  host : after.host = before.host
  opened : after.opened = before.opened
  trace : after.trace = before.trace ++ added
  ofKind : ∀ event ∈ added, kind event = true

namespace World.Added

variable {kind : Event → Bool} {before middle after : World} {first second added : List Event}

theorem nil (page : after.page = before.page) (host : after.host = before.host) (opened : after.opened = before.opened)
    (trace : after.trace = before.trace) : before.Added kind after [] :=
  ⟨page, host, opened, by rw [trace, List.append_nil], nofun⟩

theorem note (world : World) {event : Event} (ofKind : kind event = true) :
    world.Added kind (world.note event) [event] :=
  ⟨rfl, rfl, rfl, rfl, by simpa using ofKind⟩

theorem trans (left : before.Added kind middle first) (right : middle.Added kind after second) :
    before.Added kind after (first ++ second) where
  page := right.page.trans left.page
  host := right.host.trans left.host
  opened := right.opened.trans left.opened
  trace := by rw [right.trace, left.trace, List.append_assoc]
  ofKind := by
    intro event member
    rcases List.mem_append.mp member with member | member
    · exact left.ofKind event member
    · exact right.ofKind event member

theorem weaken {wider : Event → Bool} (grown : before.Added kind after added)
    (implies : ∀ event, kind event = true → wider event = true) : before.Added wider after added :=
  ⟨grown.page, grown.host, grown.opened, grown.trace, fun event member => implies event (grown.ofKind event member)⟩

end World.Added

theorem World.Onward.grown {before after : World} {added : List Event} (onward : before.Onward after added) :
    before.Added Event.ofField after added :=
  ⟨onward.page, onward.host, onward.opened, onward.trace, onward.ofField⟩

namespace Act

/-- Whatever comes of the action, only events of some kind happen in it. -/
def Confined {α : Type} (kind : Event → Bool) (action : Act α) : Prop :=
  ∀ world : World, ∃ added, world.Added kind (action.runIn world).2 added

namespace Confined

variable {α β : Type} {kind : Event → Bool}

theorem of_interacts {waits : Prop} {soft : Bool} {returns : α → Prop} {action : Act α}
    (interacts : Interacts waits soft returns action) : Confined Event.ofField action := by
  intro world
  obtain ⟨added, onward, -⟩ := interacts world
  exact ⟨added, onward.grown⟩

theorem weaken {wider : Event → Bool} {action : Act α} (confined : Confined kind action)
    (implies : ∀ event, kind event = true → wider event = true) : Confined wider action := by
  intro world
  obtain ⟨added, grown⟩ := confined world
  exact ⟨added, grown.weaken implies⟩

theorem pure (value : α) : Confined kind (pure value) :=
  fun _ => ⟨[], .nil rfl rfl rfl rfl⟩

theorem throw (failure : Failure) : Confined kind (throw failure : Act α) :=
  fun _ => ⟨[], .nil rfl rfl rfl rfl⟩

theorem get : Confined kind (get : Act World) :=
  fun _ => ⟨[], .nil rfl rfl rfl rfl⟩

theorem log (level : LogLevel) (component event : String) (values : Members) :
    Confined kind (log level component event values) :=
  fun _ => ⟨[], .nil rfl rfl rfl rfl⟩

theorem print (printed : Printed) : Confined kind (print printed) := by
  intro world
  rw [runIn_print]
  split <;> exact ⟨[], .nil rfl rfl rfl rfl⟩

theorem failOn (failure : Option Failure) : Confined kind (failOn failure) := by
  cases failure with
  | none => exact .pure ()
  | some failure => exact .throw failure

theorem note {event : Event} (ofKind : kind event = true) : Confined kind (note event) :=
  fun world => ⟨[event], .note world ofKind⟩

theorem bind {action : Act α} {next : α → Act β} (first : Confined kind action)
    (second : ∀ value, Confined kind (next value)) : Confined kind (action >>= next) := by
  intro world
  obtain ⟨added, grown⟩ := first world
  rw [runIn_bind]
  rcases result : action.runIn world with ⟨failure | value, middle⟩
  · rw [result] at grown
    exact ⟨added, grown⟩
  · rw [result] at grown
    obtain ⟨more, further⟩ := second value middle
    exact ⟨added ++ more, grown.trans further⟩

theorem catchBrowser {action : Act α} {handler : BrowserError → Act α} (tried : Confined kind action)
    (answered : ∀ error, Confined kind (handler error)) : Confined kind (catchBrowser action handler) := by
  intro world
  obtain ⟨added, grown⟩ := tried world
  rw [runIn_catchBrowser]
  rcases result : action.runIn world with ⟨failure | value, middle⟩
  · rw [result] at grown
    cases failure with
    | browser error =>
      obtain ⟨more, further⟩ := answered error middle
      exact ⟨added ++ more, grown.trans further⟩
    | _ => exact ⟨added, grown⟩
  · rw [result] at grown
    exact ⟨added, grown⟩

theorem perform {event : Event} (ofKind : kind event = true) : Confined kind (perform event) := by
  intro world
  have noted : world.Added kind (world.note event) [event] := .note world ofKind
  rw [runIn_perform]
  cases world.page.error? world.trace event with
  | none => exact ⟨_, noted⟩
  | some error => exact ⟨_, noted⟩

theorem call {made : Call} (ofKind : kind (.call made) = true) : Confined kind (call made) :=
  .perform ofKind

theorem element {handle : Handle} {made : ElementCall} (ofKind : kind (.element handle made) = true) :
    Confined kind (element handle made) :=
  .bind (.perform ofKind) fun _ => .bind .get fun _ => .pure _

theorem lookup {owner : Option Handle} {lookup : Lookup} (ofKind : kind (.lookup owner lookup) = true) :
    Confined kind (Act.lookup owner lookup) :=
  .bind (.note ofKind) fun _ => .bind .get fun _ => .pure _

theorem count {handle : Handle} (ofKind : kind (.element handle .count) = true) : Confined kind (count handle) :=
  .bind (.element ofKind) fun _ => .pure _

theorem draw {low high : Int} (ofKind : kind (.draw low high) = true) : Confined kind (draw low high) := by
  have drawn : Confined kind (do
      let draws := (← MonadState.get).draws
      modify fun world => { world with draws := { draws with used := draws.used + 1 } }
      return draws.next low high : Act Int) :=
    .bind .get fun _ => .bind (fun _ => ⟨[], .nil rfl rfl rfl rfl⟩) fun _ => .pure _
  unfold Act.draw
  refine .bind (.note ofKind) fun _ => ?_
  split
  · exact .bind (.throw _) fun _ => drawn
  · exact drawn

theorem ask {event : Event} (ofKind : kind event = true) : Confined kind (ask event) := by
  unfold Act.ask
  refine .bind (.note ofKind) fun _ => ?_
  refine .bind .get fun world => ?_
  split
  · exact .throw _
  · exact .pure ()

end Confined
end Act
end FormFill
