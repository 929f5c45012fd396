import FormFill.Proofs.Act.Adding
import FormFill.Proofs.Action.Entering

namespace FormFill.Executor

open Act

/-- The interaction of a field begins in a world on the same page, after it may have been scrolled. -/
structure Begins (world begun : World) (opening : List Event) : Prop where
  page : begun.page = world.page
  trace : begun.trace = world.trace ++ opening
  calls : ∀ event ∈ opening, ∃ made, event = .call made ∧ made.mutates = false

theorem Begins.still {world begun : World} {opening : List Event} (begins : Begins world begun opening) :
    Still opening := by
  intro event member
  obtain ⟨made, rfl, harmless⟩ := begins.calls event member
  exact harmless

theorem filterMap_calls {γ : Type} {shown : Event → Option γ} {opening : List Event}
    (calls : ∀ event ∈ opening, ∃ made, event = .call made ∧ made.mutates = false)
    (silent : ∀ made, shown (.call made) = none) : opening.filterMap shown = [] := by
  refine List.filterMap_eq_nil_iff.mpr fun event member => ?_
  obtain ⟨made, rfl, -⟩ := calls event member
  exact silent made

/-- An interaction has returned in the world that dealing with a field comes to, after it may have scrolled the page. -/
structure Interacted (timing : Timing) (field : Field) (record : Json) (value : String) (page : Page)
    (before opening : List Event) (given : Outcome) (after : World) : Prop where
  still : Still opening
  reached : ∃ world : World, world.page = page ∧ world.trace = before ++ opening ∧
    (interact timing field record value).runIn world = (.ok given, after)

/-- What dealing with a field comes to: it is left alone for there is nothing to do or no identifier for it, it is a
    failed one, or its interaction gives the outcome. -/
inductive Reached (executor : Executor) (field : Field) (record : Json) (world : World) : Outcome → World → Prop where
  | inert {after : World} (inert : field.isInert = true) (trace : after.trace = world.trace) :
      Reached executor field record world (.skipped field Action.noLocator .none) after
  | unidentified {reason : String} {after : World} (active : field.isInert = false)
      (unvalued : executor.value? field record world.files = none) (trace : after.trace = world.trace) :
      Reached executor field record world (.skipped field reason .none) after
  | failed {outcome : Outcome} {after : World} (failed : outcome.status = .failed) :
      Reached executor field record world outcome after
  | interacted {value : String} {opening : List Event} {given : Outcome} {after : World}
      (active : field.isInert = false)
      (valued : executor.value? field record world.files = some value)
      (interacted : Interacted executor.timing field record value world.page world.trace opening given after)
      (patch : Option Patch) : Reached executor field record world { given with patch } after

variable {timing : Timing} {executor : Executor} {field : Field} {record : Json} {value : String} {world after : World}
  {outcome : Outcome}

theorem interact_reaches {failed : BrowserError → Act Outcome}
    (fails : ∀ error world, ((failed error).runIn world).1 = .ok (.failed field error.text))
    (ended : (catchBrowser (interact timing field record value) failed).runIn world = (.ok outcome, after)) :
    outcome.status = .failed ∨ (interact timing field record value).runIn world = (.ok outcome, after) := by
  rw [runIn_catchBrowser] at ended
  rcases result : (interact timing field record value).runIn world with ⟨failure | given, middle⟩
  · rw [result] at ended
    cases failure with
    | browser error =>
      have same := (congrArg Prod.fst ended).symm.trans (fails error middle)
      cases same
      exact .inl rfl
    | _ => cases ended
  · rw [result] at ended
    exact .inr ended

theorem attempt_runIn (timing : Timing) (field : Field) (record : Json) (value : String) (world : World) :
    ∃ begun opening, Begins world begun opening ∧ (attempt timing field record value).runIn world =
      (catchBrowser (interact timing field record value) fun error => do
        Action.log .error "Field action failed"
          (fieldContext field.displayName field.action.kind.name [("error", .str error.text)])
        return .failed field error.text).runIn begun := by
  unfold attempt
  dsimp only
  split
  · obtain ⟨_, begun, opening, scrolled, grown, scrolls⟩ := Timing.scrollPageBottom_runIn world
    have calls := Timing.calls_of_bottomScroll scrolls
    exact ⟨begun, opening, ⟨grown.page, grown.trace, calls⟩, runIn_bind_ok scrolled⟩
  · exact ⟨world, [], ⟨rfl, (List.append_nil _).symm, List.forall_mem_nil _⟩, rfl⟩

theorem attempt_reaches (ended : (attempt timing field record value).runIn world = (.ok outcome, after)) :
    outcome.status = .failed ∨
      ∃ opening, Interacted timing field record value world.page world.trace opening outcome after := by
  obtain ⟨begun, opening, begins, attempts⟩ := attempt_runIn timing field record value world
  rw [attempts] at ended
  refine (interact_reaches (fun _ _ => rfl) ended).imp_right fun interacted => ?_
  exact ⟨opening, begins.still, begun, begins.page, begins.trace, interacted⟩

theorem execute_reaches (ended : (executor.execute field record).runIn world = (.ok outcome, after)) :
    Reached executor field record world outcome after := by
  rcases executor.untried_or_tried field record world.files with untried | ⟨active, value, valued⟩
  · obtain ⟨_, _, left, trace, skipped⟩ := executor.execute_untried field record world untried
    rw [ended] at left
    cases left
    obtain ⟨reason, rfl, named⟩ := skipped outcome rfl
    cases inert : field.isInert with
    | true =>
      rw [named inert]
      exact .inert inert trace
    | false => exact .unidentified inert (untried.resolve_left (by simp [inert])) trace
  · obtain ⟨files, log, patch, ran⟩ := execute_valued active valued
    rw [ran] at ended
    obtain ⟨given, middle, attempted, returned⟩ := ok_of_bind ended
    cases returned
    rcases attempt_reaches attempted with failed | ⟨opening, interacted⟩
    · exact .failed failed
    · exact .interacted active valued ⟨interacted.still, interacted.reached⟩ (patch given)

/-- Dealing with a field is its interaction with its value: what that returns is what comes of the field, but for the
    patch, and whatever comes of it, nothing else is done. -/
theorem execute_tries (active : field.isInert = false)
    (valued : executor.value? field record world.files = some value) :
    ∃ begun opening, Begins world begun opening ∧
      (∀ given after, (interact executor.timing field record value).runIn begun = (.ok given, after) →
        ∃ patch, (executor.execute field record).runIn world = (.ok { given with patch }, after)) ∧
      ((executor.execute field record).runIn world).2.trace =
        ((interact executor.timing field record value).runIn begun).2.trace := by
  obtain ⟨files, log, patch, ran⟩ := execute_valued active valued
  obtain ⟨begun, opening, begins, attempts⟩ :=
    attempt_runIn executor.timing field record value { world with files, log }
  refine ⟨begun, opening, ⟨begins.page, begins.trace, begins.calls⟩, fun given after returned => ⟨patch given, ?_⟩, ?_⟩
  · have tried : (attempt executor.timing field record value).runIn { world with files, log } = (.ok given, after) := by
      rw [attempts, runIn_catchBrowser, returned]
    rw [ran, runIn_bind_ok tried, runIn_pure]
  · rw [ran, runIn_bind, attempts, runIn_catchBrowser]
    rcases (interact executor.timing field record value).runIn begun with ⟨failure | given, middle⟩
    · cases failure <;> rfl
    · rfl

/-- What an interaction adds to the trace in any case is what dealing with the field adds, after the page may have been
    scrolled, unless the field is left alone. -/
theorem execute_adds {told : Page → List Event → Prop} (executor : Executor) {field : Field} {record : Json}
    (adds : ∀ value, Adds (fun page _ added => told page added) (interact executor.timing field record value))
    (world : World) :
    ∃ opening added, ((executor.execute field record).runIn world).2.trace = world.trace ++ (opening ++ added) ∧
      (∀ event ∈ opening, ∃ made, event = .call made ∧ made.mutates = false) ∧
      (told world.page added ∨
        added = [] ∧ (field.isInert = true ∨ executor.value? field record world.files = none)) := by
  rcases executor.untried_or_tried field record world.files with untried | ⟨active, value, valued⟩
  · obtain ⟨_, _, ended, trace, -⟩ := executor.execute_untried field record world untried
    exact ⟨[], [], by simp [ended, trace], List.forall_mem_nil _, .inr ⟨rfl, untried⟩⟩
  · obtain ⟨begun, opening, begins, -, trace⟩ := execute_tries active valued
    obtain ⟨added, -, further, holds⟩ := adds value begun
    rw [begins.page] at holds
    exact ⟨opening, added, by rw [trace, further, begins.trace, List.append_assoc], begins.calls, .inl holds⟩

end FormFill.Executor
