import FormFill.Proofs.Action.Handling
import FormFill.Proofs.Identifier.Next

namespace FormFill

open Act

variable {page : Page} {before earlier : List Event} {still : Bool}

/-- Identifiers are given out without a look at the page. -/
theorem IdentifierSource.next_handles (source : IdentifierSource) (record : Json) :
    Handles page before earlier still (fun _ _ => True) (source.next record) := by
  intro world samePage sameTrace
  obtain ⟨log, ran⟩ := source.next_runIn record world
  rw [ran]
  exact ⟨[], .unchanged samePage sameTrace, fun _ _ => trivial⟩

namespace Executor

theorem interact_handles (timing : Timing) (field : Field) (record : Json) (value : String) :
    Handles page before earlier false (Outcome.Spares earlier) (interact timing field record value) := by
  unfold interact
  split
  · exact Action.runFill_handles _ value
  · exact Action.runType_handles _ value
  · exact Action.runClick_handles _
  · exact Action.runCheck_handles _
  · exact Action.runSelect_handles value
  · exact Action.runEachText_handles _ record
  · exact Action.runEachTag_handles _ record value

theorem attempt_handles (timing : Timing) (field : Field) (record : Json) (value : String) :
    Handles page before earlier false (Outcome.Spares earlier) (attempt timing field record value) := by
  have caught : ∀ events, Handles page before events false (Outcome.Spares events)
      (catchBrowser (interact timing field record value) fun error => do
        Action.log .error "Field action failed"
          (fieldContext field.displayName field.action.kind.name [("error", .str error.text)])
        return .failed field error.text) := by
    intro events
    apply Handles.catchBrowser
    · exact interact_handles timing field record value
    · intro error added
      exact .bind .log fun _ _ _ => .pure nofun
  unfold attempt
  dsimp only
  split
  · refine .after Timing.scrollPageBottom_handles fun _ added quiet _ => ?_
    exact (caught _).weaken fun _ _ spares skipped start => spares skipped (start.append quiet)
  · exact caught earlier

theorem execute_handles (executor : Executor) (field : Field) (record : Json) :
    Handles page before earlier false (Outcome.Spares earlier) (executor.execute field record) := by
  unfold execute
  split
  · exact .after .log fun _ _ quiet _ => .pure fun _ start => start.append quiet
  · refine .after (.failOn _) fun _ first early _ => ?_
    split
    · unfold executeIdentified
      split
      · exact Action.skip_handles (fun start => start.append early) field _ _
      · rename_i source _
        refine .after (source.next_handles record) fun assigned added quiet _ => ?_
        have before : Still earlier → Still (earlier ++ first ++ added) := fun start => (start.append early).append quiet
        split
        · exact Action.skip_handles before field _ _
        · refine .bind (attempt_handles executor.timing field record _) fun outcome more spares => ?_
          exact .pure fun skipped start => by simpa using spares skipped (before start)
    · exact (attempt_handles executor.timing field record _).weaken fun _ _ spares skipped start =>
        spares skipped (start.append early)

/-- However dealing with a field ends, a skipped field has been left alone, and any element that was
    touched was obtained before, since dealing with the field began. -/
theorem execute_touches_obtained (executor : Executor) (field : Field) (record : Json) (world : World) :
    ∃ added, ((executor.execute field record).runIn world).2.trace = world.trace ++ added ∧
      (∀ outcome, ((executor.execute field record).runIn world).1 = .ok outcome → outcome.status = .skipped →
        ∀ event ∈ added, event.mutates = false) ∧
      (∀ earlier handle call later, added = earlier ++ .element handle call :: later → call.mutates = true →
        world.page.Obtained world.trace earlier handle) := by
  have start : world.trace = world.trace ++ [] := (List.append_nil _).symm
  obtain ⟨added, worked, spares⟩ := execute_handles executor field record world rfl start
  refine ⟨added, worked.trace, ?_, worked.grounded⟩
  intro outcome ended skipped
  exact spares outcome ended skipped .nil

end Executor
end FormFill
