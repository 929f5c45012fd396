import FormFill.Proofs.Browser.Handling

namespace FormFill

/-- The events that may have changed the form. -/
def changes (events : List Event) : List Event :=
  events.filter Event.mutates

theorem changes_append (first second : List Event) : changes (first ++ second) = changes first ++ changes second :=
  List.filter_append first second

theorem Still.changes {events : List Event} (still : Still events) : changes events = [] := by
  rw [FormFill.changes, List.filter_eq_nil_iff]
  intro event member
  simp [still event member]

/-- Planned changes have been carried out: all of them, or those that came before an error. Before a pause that is too
    long, all of them have been. -/
def Carried {α : Type} (planned : List Event) (returns : α → Prop) (added : List Event) : Except Failure α → Prop
  | .ok value => returns value ∧ changes added = planned
  | .error .overlongPause => changes added = planned
  | .error _ => changes added <+: planned

theorem Carried.after {α : Type} {first second : List Event} {returns : α → Prop} {made added : List Event}
    {result : Except Failure α} (before : changes made = first) (carried : Carried second returns added result) :
    Carried (first ++ second) returns (made ++ added) result := by
  have split : changes (made ++ added) = first ++ changes added := by rw [changes_append, before]
  cases result with
  | ok value => exact ⟨carried.1, by rw [split, carried.2]⟩
  | error failure =>
    cases failure with
    | overlongPause => exact split.trans (congrArg (first ++ ·) carried)
    | _ =>
      unfold Carried at carried ⊢
      rwa [split, List.prefix_append_right_inj]

theorem Carried.quiet {α : Type} {planned : List Event} {returns : α → Prop} {still added : List Event}
    {result : Except Failure α} (before : Still still) (carried : Carried planned returns added result) :
    Carried planned returns (still ++ added) result :=
  carried.after before.changes

namespace Act

/-- The action makes the planned changes in order, and no others, as far as it comes. -/
def Follows {α : Type} (planned : List Event) (returns : α → Prop) (action : Act α) : Prop :=
  ∀ world : World, ∃ added, (action.runIn world).2.trace = world.trace ++ added ∧
    Carried planned returns added (action.runIn world).1

namespace Follows

variable {α β : Type} {first second : List Event} {returns : α → Prop}

theorem pure {value : α} (good : returns value) : Follows [] returns (pure value) :=
  fun _ => ⟨[], by simp, good, rfl⟩

theorem note {event : Event} (harmless : event.mutates = false) : Follows [] (fun _ => True) (note event) :=
  fun _ => ⟨[event], rfl, trivial, (Still.singleton harmless).changes⟩

/-- Planned changes come after a call that is one of them itself. -/
theorem andThen {handle : Handle} {made : ElementCall} {next : Node → Act β} {later : β → Prop}
    (mutates : made.mutates = true) (goes : ∀ node, Follows second later (next node)) :
    Follows (.element handle made :: second) later (Act.element handle made >>= next) := by
  intro world
  have all : changes [.element handle made] = [.element handle made] := by
    simp [changes, Event.mutates, mutates]
  have begun : changes [.element handle made] <+: .element handle made :: second := by
    rw [all]
    exact List.prefix_append [_] second
  unfold Act.element
  rw [runIn_bind, runIn_bind, runIn_perform]
  cases world.page.error? world.trace (.element handle made) with
  | some error => exact ⟨_, rfl, begun⟩
  | none =>
    obtain ⟨added, trace, carried⟩ := goes (world.page.node handle.node) (world.note (.element handle made))
    exact ⟨.element handle made :: added, trace.trans (List.append_assoc ..), carried.after all⟩

/-- What is returned in the end makes no change. -/
theorem returning {later : β → Prop} {action : Act α} {value : β} (follows : Follows first returns action)
    (good : later value) : Follows first later (action >>= fun _ => Pure.pure value) := by
  intro world
  obtain ⟨made, trace, carried⟩ := follows world
  rw [runIn_bind]
  rcases result : action.runIn world with ⟨failure | _, middle⟩
  · rw [result] at trace carried
    refine ⟨made, trace, ?_⟩
    cases failure <;> exact carried
  · rw [result] at trace carried
    exact ⟨made, trace, good, carried.2⟩

end Follows
end Act
end FormFill
