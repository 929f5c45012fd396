import FormFill.Proofs.Run.Events
import FormFill.Proofs.Run.Outcomes

namespace FormFill

theorem given_eq_some_iff {text : Option String} {value : String} :
    given text = some value ↔ text = some value ∧ value ≠ "" := by
  unfold given
  rw [Option.filter_eq_some_iff]
  simp

namespace Run

open Act

theorem submitSelector_eq_some_iff {form : Form} {selector : String} :
    submitSelector form = some selector ↔
      (∃ target, form.submit = some target ∧ target.selector = some selector) ∧ selector ≠ "" := by
  rw [submitSelector, given_eq_some_iff, Option.bind_eq_some_iff]

/-- How a run goes on after its last step: it sends the form off with the call that is its last event, unless
    that is not asked for or the form does not say how. A pause before that may be too long. -/
inductive Concluded (run : Run) (report : Report) (before : World) : Except Failure Report × World → Prop where
  | kept {after : World} {waited : List Event} (unasked : submitSelector run.form = none ∨ run.submit = false)
      (added : before.Added Event.ofFilling after waited) :
      Concluded run report before (.ok { report with finished := true }, after)
  | lingers {after : World} {waited : List Event} (slow : Timing.IsOverlong run.form.options.pauseAfterDraft)
      (added : before.Added Event.ofFilling after waited) : Concluded run report before (.error .overlongPause, after)
  | clicked {result : Except Failure Report} {after : World} {waited : List Event} {selector : String}
      (asked : run.submit = true) (selected : submitSelector run.form = some selector)
      (ofFilling : ∀ event ∈ waited, event.ofFilling = true)
      (trace : after.trace = before.trace ++ waited ++ [.call (.click selector)])
      (ended : match before.page.error? (before.trace ++ waited) (.call (.click selector)) with
        | none => result = .ok { report with submitted := true, finished := true }
        | some error => result = .error (.browser error)) :
      Concluded run report before (result, after)

theorem conclude_concluded (run : Run) (report : Report) (before : World) :
    run.Concluded report before ((run.conclude report).runIn before) := by
  obtain ⟨_, middle, waited, paused, onward, -, ends⟩ := Interacts.calm (fun _ => Timing.pause_interacts id) before
  have added := onward.grown.weaken fun _ => Event.ofFilling_of_ofField
  unfold conclude
  rcases ends.symm with ⟨slow, rfl⟩ | ⟨_, rfl, -⟩
  · rw [runIn_bind_error paused]
    exact .lingers slow added
  · rw [runIn_bind_ok paused]
    unfold finish
    split
    · rename_i selector selected asked
      have page := added.page
      have trace := added.trace
      cases raised : middle.page.error? middle.trace (.call (.click selector)) with
      | none =>
        simp only [call, log, runIn_bind, runIn_perform, raised, runIn_log, runIn_pure]
        rw [page, trace] at raised
        exact .clicked asked selected added.ofKind (by simp [World.write, World.note, trace]) (by simp [raised])
      | some error =>
        simp only [call, runIn_bind, runIn_perform, raised]
        rw [page, trace] at raised
        exact .clicked asked selected added.ofKind (by simp [World.note, trace]) (by simp [raised])
    · rename_i unasked
      simp only [log, runIn_bind, runIn_log, runIn_pure]
      exact .kept (.inr unasked) ⟨added.page, added.host, added.opened, added.trace, added.ofKind⟩
    · rename_i unnamed
      simp only [log, runIn_bind, runIn_log, runIn_pure]
      exact .kept (.inl unnamed) ⟨added.page, added.host, added.opened, added.trace, added.ofKind⟩

variable {run : Run} {record : Members} {world : World}

theorem upTo_unsubmitted {count : Nat} {report : Report} {before : World}
    (reached : (run.upTo record count).runIn world = (.ok report, before)) : report.submitted = false :=
  upTo_rule (fun _ report _ => report.submitted = false) (fun _ _ => rfl)
    (fun _ _ _ _ _ _ _ unsubmitted _ _ => unsubmitted) (fun _ _ _ _ unsubmitted => unsubmitted) count report before reached

/-- All is ready for sending off the form by a click on some selector, some events after a run has begun: it
    is asked for, the form names the selector, and every step has its outcome, with none failed unless the run
    is to go on then. There has been no such click before. -/
structure Ready (run : Run) (record : Members) (world : World) (earlier : List Event) (selector : String) :
    Prop where
  asked : run.submit = true
  named : ∃ target, run.form.submit = some target ∧ target.selector = some selector
  nonempty : selector ≠ ""
  filled : ∃ report before waited, (run.upTo record run.steps.length).runIn world = (.ok report, before) ∧
    world.trace ++ earlier = before.trace ++ waited ∧
    report.outcomes.map (·.title) = run.steps.map (·.title) ∧
    (run.form.options.continueOnError = false → ∀ outcome ∈ report.outcomes, outcome.status ≠ .failed)
  first : ∀ other, .call (.click other) ∉ earlier

section Clicks

variable {front earlier later : List Event} {selector other : String}

theorem no_click_of_ofFilling (filling : ∀ event ∈ front, event.ofFilling = true) :
    .call (.click selector) ∉ front := by
  intro member
  have ofFilling := filling _ member
  cases ofFilling

theorem no_split_at_click (filling : ∀ event ∈ front, event.ofFilling = true) :
    front ≠ earlier ++ .call (.click selector) :: later := by
  intro split
  exact no_click_of_ofFilling filling (split ▸ List.mem_append_right earlier List.mem_cons_self)

theorem split_at_last_click (filling : ∀ event ∈ front, event.ofFilling = true)
    (split : front ++ [.call (.click selector)] = earlier ++ .call (.click other) :: later) :
    earlier = front ∧ other = selector ∧ later = [] := by
  rcases List.eq_nil_or_concat later with rfl | ⟨inner, event, rfl⟩
  · obtain ⟨fronts, clicks⟩ := List.append_inj' split rfl
    cases clicks
    exact ⟨fronts.symm, rfl, rfl⟩
  · have snoc : front ++ [.call (.click selector)] = (earlier ++ .call (.click other) :: inner) ++ [event] := by
      simpa using split
    exact absurd (List.append_inj' snoc rfl).1 (no_split_at_click filling)

end Clicks

/-- What the events of a run and its result have to do with each other and with the form being sent off: only the
    last event can do that, all is ready by then, and the report tells whether it has been done. -/
structure Submits (run : Run) (record : Members) (world : World) (added : List Event)
    (result : Except Failure Report) : Prop where
  last : ∀ earlier selector later, added = earlier ++ .call (.click selector) :: later →
    later = [] ∧ run.Ready record world earlier selector
  told : (∃ report, result = .ok report ∧ report.submitted = true) ↔
    ∃ earlier selector, added = earlier ++ [.call (.click selector)] ∧
      world.page.error? (world.trace ++ earlier) (.call (.click selector)) = none
  due : ∀ report, result = .ok report →
    (report.submitted = true ↔ run.submit = true ∧ (submitSelector run.form).isSome)

theorem Submits.unsent {added : List Event} {result : Except Failure Report}
    (filling : ∀ event ∈ added, event.ofFilling = true)
    (kept : ∀ report, result = .ok report →
      report.submitted = false ∧ (submitSelector run.form = none ∨ run.submit = false)) :
    run.Submits record world added result where
  last := fun _ _ _ split => absurd split (no_split_at_click filling)
  told := by
    constructor
    · rintro ⟨report, returned, submitted⟩
      rw [(kept report returned).1] at submitted
      cases submitted
    · rintro ⟨earlier, selector, split, -⟩
      exact absurd split (no_split_at_click filling)
  due := by
    intro report returned
    obtain ⟨unsubmitted, unnamed | unasked⟩ := kept report returned
    · simp [unsubmitted, unnamed]
    · simp [unsubmitted, unasked]

theorem Submits.sent {front : List Event} {selector : String} {report : Report} {result : Except Failure Report}
    (filling : ∀ event ∈ front, event.ofFilling = true) (ready : run.Ready record world front selector)
    (ended : match world.page.error? (world.trace ++ front) (.call (.click selector)) with
      | none => result = .ok { report with submitted := true, finished := true }
      | some error => result = .error (.browser error)) :
    run.Submits record world (front ++ [.call (.click selector)]) result where
  last := by
    intro earlier other later split
    obtain ⟨rfl, rfl, none⟩ := split_at_last_click filling split
    exact ⟨none, ready⟩
  told := by
    constructor
    · rintro ⟨final, returned, -⟩
      refine ⟨front, selector, rfl, ?_⟩
      split at ended
      · assumption
      · cases returned.symm.trans ended
    · rintro ⟨earlier, other, split, done⟩
      obtain ⟨rfl, rfl, -⟩ := split_at_last_click filling split
      rw [done] at ended
      exact ⟨_, ended, rfl⟩
  due := by
    intro final returned
    have selected : submitSelector run.form = some selector :=
      submitSelector_eq_some_iff.mpr ⟨ready.named, ready.nonempty⟩
    split at ended
    · cases returned.symm.trans ended
      simp [ready.asked, selected]
    · cases returned.symm.trans ended

/-- The form is sent off at most once: by the last call of the run, on the selector that the form gives, if
    that was asked for and all steps are done. The run reports it just where that call was made without an
    error, and so it does whenever it returns although it was to send the form off. -/
theorem perform_submits (run : Run) (record : Members) (world : World) :
    ∃ added, ((run.perform record).runIn world).2.trace = world.trace ++ added ∧
      run.Submits record world added ((run.perform record).runIn world).1 := by
  obtain ⟨filled, grown⟩ := run.upTo_confined record run.steps.length world
  have accounted := run.upTo_accounted record world run.steps.length
  rw [perform_eq, runIn_bind]
  rcases reached : (run.upTo record run.steps.length).runIn world with ⟨failure | report, before⟩
  · rw [reached] at grown
    exact ⟨filled, grown.trace, .unsent grown.ofKind nofun⟩
  · rw [reached] at grown accounted
    have titles := accounted.labels
    rw [List.take_length] at titles
    have unsubmitted : report.submitted = false := upTo_unsubmitted reached
    have concluded := run.conclude_concluded report before
    dsimp only
    generalize (run.conclude report).runIn before = result at concluded ⊢
    cases concluded with
    | @lingers after waited slow added =>
      have whole := grown.trans added
      exact ⟨filled ++ waited, whole.trace, .unsent whole.ofKind nofun⟩
    | @kept after waited unasked added =>
      have whole := grown.trans added
      refine ⟨filled ++ waited, whole.trace, .unsent whole.ofKind ?_⟩
      rintro final ⟨⟩
      exact ⟨unsubmitted, unasked⟩
    | @clicked result after waited selector asked selected ofFilling trace ended =>
      have filling : ∀ event ∈ filled ++ waited, event.ofFilling = true := by
        intro event member
        rcases List.mem_append.mp member with member | member
        · exact grown.ofKind event member
        · exact ofFilling event member
      have place : world.trace ++ (filled ++ waited) = before.trace ++ waited := by
        rw [grown.trace, List.append_assoc]
      obtain ⟨named, nonempty⟩ := submitSelector_eq_some_iff.mp selected
      have ready : run.Ready record world (filled ++ waited) selector :=
        ⟨asked, named, nonempty, ⟨report, before, waited, reached, place, titles, accounted.unfailed⟩,
          fun _ => no_click_of_ofFilling filling⟩
      rw [grown.page, ← place] at ended
      refine ⟨filled ++ waited ++ [.call (.click selector)], ?_, .sent filling ready ended⟩
      rw [trace, grown.trace]
      simp only [List.append_assoc]

end Run
end FormFill
