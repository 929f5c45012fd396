import FormFill.Proofs.Action.Keying
import FormFill.Proofs.Run.Events

namespace FormFill

open Act

/-- While a field is dealt with, each text is entered with a delay fixed for it, and nothing else is drawn. -/
theorem Executor.execute_keys {executor : Executor} (proper : executor.timing.Proper) (field : Field) (record : Json) :
    Keys executor.timing field.suppressed (executor.execute field record) := by
  have skipped (reason : String) : Keys executor.timing field.suppressed (Action.skip field reason .none) :=
    .of_quiet (Action.skip_quiet field reason .none)
  unfold execute
  split
  · exact .of_quiet (.bind (.log _ _ _ _) fun _ => .pure _)
  · refine .bind (.of_quiet (.failOn _)) fun _ => ?_
    split
    · unfold executeIdentified
      split
      · exact skipped _
      · rename_i source _
        refine .bind (.of_quiet (source.next_confined record)) fun assigned => ?_
        split
        · exact skipped _
        · exact .bind (attempt_keys proper field record _) fun _ => .pure fun _ => .nil
    · exact attempt_keys proper field record _

namespace Timing

variable {timing : Timing}

/-- What a pause between two fields adds to the trace: what is drawn for its delay, and a sleep of that length unless
    there is none. -/
def Paused (timing : Timing) (events : List Event) : Prop :=
  ∃ delay drawn, Jittered timing.betweenFieldsDelay timing.fieldBelow timing.fieldAbove delay drawn ∧
    events = drawn ++ if delay = 0 then [] else [.sleep delay]

/-- What is left of a pause between two fields that is too long: what is drawn for its delay. -/
def Lingered (timing : Timing) (events : List Event) : Prop :=
  ∃ delay, Jittered timing.betweenFieldsDelay timing.fieldBelow timing.fieldAbove delay events ∧ IsOverlong delay

theorem betweenFields_pauses (proper : timing.Proper) (world : World) :
    ∃ result after added, timing.betweenFields.runIn world = (result, after) ∧ after.page = world.page ∧
      after.trace = world.trace ++ added ∧
      ((∃ delay, result = .ok delay ∧ timing.Paused added) ∨
        result = .error .overlongPause ∧ timing.Lingered added) := by
  obtain ⟨delay, middle, drawn, ran, page, trace, fixed⟩ :=
    jitter_runIn timing.betweenFieldsDelay proper.fieldBelow proper.fieldAbove world
  unfold betweenFields fieldJitter
  rw [Option.getD_none, runIn_bind_ok ran]
  by_cases none : delay = 0
  · rw [if_neg (not_not_intro none)]
    exact ⟨_, _, drawn, rfl, page, trace, .inl ⟨delay, rfl, delay, drawn, fixed, by simp [none]⟩⟩
  · have positive : ¬delay ≤ 0 := by
      cases fixed with
      | idle => exact absurd rfl none
      | drawn => omega
    rw [if_pos none, log, runIn_bind_ok (runIn_log _ _ _ _ _), pause, if_neg positive]
    by_cases short : delay < pauseBound
    · rw [if_pos short, runIn_bind_ok (runIn_note _ _)]
      refine ⟨_, _, drawn ++ [.sleep delay], rfl, page, ?_, .inl ⟨delay, rfl, delay, drawn, fixed, by simp [none]⟩⟩
      simp [World.note, World.write, trace]
    · rw [if_neg short, runIn_bind_error (runIn_throw _ _)]
      exact ⟨_, _, drawn, rfl, page, trace, .inr ⟨rfl, delay, fixed, Int.not_lt.mp short⟩⟩

/-- No draw is from an empty window or from one that reaches below zero; each is for a positive base, from its window.
    No sleep is for nothing. -/
def Permits (timing : Timing) : Event → Prop
  | .draw low high =>
    0 ≤ low ∧ low ≤ high ∧
      ((0 < timing.typingDelay ∧ low = max 0 (timing.typingDelay - timing.typingBelow) ∧
          high = timing.typingDelay + timing.typingAbove) ∨
        (0 < timing.betweenFieldsDelay ∧ low = max 0 (timing.betweenFieldsDelay - timing.fieldBelow) ∧
          high = timing.betweenFieldsDelay + timing.fieldAbove))
  | .sleep milliseconds => 0 < milliseconds
  | _ => True

theorem permits_of_isUnkeyed {event : Event} (unkeyed : event.isUnkeyed = true) : timing.Permits event := by
  cases event with
  | draw low high => cases unkeyed
  | sleep milliseconds => exact (of_decide_eq_true unkeyed : 0 < milliseconds)
  | _ => trivial

theorem jittered_permitted (proper : timing.Proper) {delay : Int} {drawn : List Event}
    (fixed : Jittered timing.betweenFieldsDelay timing.fieldBelow timing.fieldAbove delay drawn) :
    ∀ event ∈ drawn, timing.Permits event := by
  have below := proper.fieldBelow
  have above := proper.fieldAbove
  intro event member
  cases fixed with
  | idle => cases member
  | drawn active =>
    obtain rfl := List.mem_singleton.mp member
    exact ⟨by omega, by omega, .inr ⟨active, rfl, rfl⟩⟩

theorem Paused.permitted (proper : timing.Proper) {events : List Event} (paused : timing.Paused events) :
    ∀ event ∈ events, timing.Permits event := by
  obtain ⟨delay, drawn, fixed, rfl⟩ := paused
  rw [List.forall_mem_append]
  refine ⟨jittered_permitted proper fixed, fun event member => ?_⟩
  by_cases none : delay = 0
  · simp [none] at member
  · obtain rfl : event = .sleep delay := by simpa [none] using member
    change 0 < delay
    cases fixed with
    | idle => exact absurd rfl none
    | drawn => omega

theorem Lingered.permitted (proper : timing.Proper) {events : List Event} (lingered : timing.Lingered events) :
    ∀ event ∈ events, timing.Permits event := by
  obtain ⟨delay, fixed, -⟩ := lingered
  exact jittered_permitted proper fixed

end Timing

theorem TextEntry.permitted {timing : Timing} {delay : Int} {entered : List Event} (entry : TextEntry delay entered) :
    ∀ event ∈ entered, timing.Permits event := by
  intro event member
  cases entry with
  | keys | cleared | filled =>
    obtain rfl := List.mem_singleton.mp member
    trivial
  | clearedKeys | clearedFilled =>
    obtain rfl | rfl : event = _ ∨ event = _ := by simpa using member
    · trivial
    · trivial

theorem Timing.Keystroke.permitted {timing : Timing} (proper : timing.Proper) {suppressed : Bool} {delay : Int}
    {drawn : List Event} (fixed : timing.Keystroke suppressed delay drawn) :
    ∀ event ∈ drawn, timing.Permits event := by
  have below := proper.typingBelow
  have above := proper.typingAbove
  intro event member
  cases suppressed with
  | true =>
    obtain ⟨-, rfl⟩ : delay = 0 ∧ drawn = [] := fixed
    cases member
  | false =>
    have jittered : Jittered timing.typingDelay timing.typingBelow timing.typingAbove delay drawn := fixed
    cases jittered with
    | idle => cases member
    | drawn active =>
      obtain rfl := List.mem_singleton.mp member
      exact ⟨by omega, by omega, .inl ⟨active, rfl, rfl⟩⟩

theorem Keyed.permitted {timing : Timing} (proper : timing.Proper) {suppressed : Bool} {events : List Event}
    (keyed : Keyed timing suppressed events) : ∀ event ∈ events, timing.Permits event := by
  induction keyed with
  | nil => nofun
  | unkeyed unkeyed _ ih => exact List.forall_mem_cons.mpr ⟨Timing.permits_of_isUnkeyed unkeyed, ih⟩
  | entry fixed entry _ ih =>
    rw [List.forall_mem_append, List.forall_mem_append]
    exact ⟨fixed.permitted proper, entry.permitted, ih⟩

namespace Run

/-- Fields have been dealt with in order, with something between each of them and what follows. -/
inductive DealtWith (run : Run) (between : List Event → Prop) : List Field → List Event → Prop where
  | nil : DealtWith run between [] []
  | cons {field : Field} {fields : List Field} {dealt pause later : List Event}
      (keyed : Keyed run.timing field.suppressed dealt) (paused : between pause)
      (rest : DealtWith run between fields later) :
      DealtWith run between (field :: fields) (dealt ++ (pause ++ later))

/-- How dealing with fields goes: through all of them, up to one that ends the run, after which there is no pause, or up
    to a pause that is too long. -/
inductive Goes (run : Run) (between lingering : List Event → Prop) (fields : List Field) :
    Except Failure Report → List Event → Prop where
  | through {report : Report} {events : List Event} (dealt : run.DealtWith between fields events) :
      Goes run between lingering fields (.ok report) events
  | ends {failure : Failure} {earlier later : List Field} {field : Field} {before last : List Event}
      (listed : fields = earlier ++ field :: later) (dealt : run.DealtWith between earlier before)
      (keyed : Keyed run.timing field.suppressed last) :
      Goes run between lingering fields (.error failure) (before ++ last)
  | lingers {earlier later : List Field} {field : Field} {before last pause : List Event}
      (listed : fields = earlier ++ field :: later) (dealt : run.DealtWith between earlier before)
      (keyed : Keyed run.timing field.suppressed last) (lingered : lingering pause) :
      Goes run between lingering fields (.error .overlongPause) (before ++ (last ++ pause))

/-- What a run adds to the trace, by the place where it ends. Nothing is drawn but in the fields and the steps, and
    between the fields. -/
inductive Paced (run : Run) : Except Failure Report → List Event → Prop where
  | unopened {failure : Failure} {opening : List Event} (opened : ∀ event ∈ opening, event.ofPreparing = true) :
      Paced run (.error failure) opening
  | field {failure : Failure} {opening events : List Event} (opened : ∀ event ∈ opening, event.ofPreparing = true)
      (goes : run.Goes run.timing.Paused run.timing.Lingered run.form.fields (.error failure) events) :
      Paced run (.error failure) (opening ++ events)
  | step {failure : Failure} {opening through events : List Event}
      (opened : ∀ event ∈ opening, event.ofPreparing = true)
      (dealt : run.DealtWith run.timing.Paused run.form.fields through)
      (goes : run.Goes (· = []) (fun _ => False) (finalSteps run.form) (.error failure) events) :
      Paced run (.error failure) (opening ++ (through ++ events))
  | concluded {result : Except Failure Report} {opening through steps concluding : List Event}
      (opened : ∀ event ∈ opening, event.ofPreparing = true)
      (dealt : run.DealtWith run.timing.Paused run.form.fields through)
      (stepped : run.DealtWith (· = []) (finalSteps run.form) steps)
      (concluded : ∀ event ∈ concluding, event.ofConclusion = true) :
      Paced run result (opening ++ (through ++ (steps ++ concluding)))

variable {run : Run} {between lingering : List Event → Prop}

theorem Goes.cons {field : Field} {fields : List Field} {result : Except Failure Report}
    {dealt pause events : List Event} (keyed : Keyed run.timing field.suppressed dealt) (paused : between pause)
    (goes : run.Goes between lingering fields result events) :
    run.Goes between lingering (field :: fields) result (dealt ++ (pause ++ events)) := by
  cases goes with
  | through rest => exact .through (.cons keyed paused rest)
  | @ends failure earlier later last before added listed rest ending =>
    have whole : field :: fields = (field :: earlier) ++ last :: later := by rw [listed, List.cons_append]
    rw [← List.append_assoc pause, ← List.append_assoc dealt]
    exact .ends whole (.cons keyed paused rest) ending
  | @lingers earlier later last before added pause listed rest ending lingered =>
    have whole : field :: fields = (field :: earlier) ++ last :: later := by rw [listed, List.cons_append]
    rw [← List.append_assoc _ before, ← List.append_assoc dealt]
    exact .lingers whole (.cons keyed paused rest) ending lingered

/-- What follows a field: a pause that is too long, or one that is not and the fields after it. -/
def Follows (run : Run) (between lingering : List Event → Prop) (fields : List Field) (result : Except Failure Report)
    (added : List Event) : Prop :=
  (∃ pause events, added = pause ++ events ∧ between pause ∧ run.Goes between lingering fields result events) ∨
    result = .error .overlongPause ∧ lingering added

theorem Goes.step {field : Field} {fields : List Field} {first : Act Report} {next : Report → Act Report}
    (keys : Keys run.timing field.suppressed first)
    (follows : ∀ report, Adds (fun _ => run.Follows between lingering fields) (next report)) :
    Adds (fun _ => run.Goes between lingering (field :: fields)) (first >>= next) := by
  refine (Adds.bind keys follows).imp fun _ result added told => ?_
  rcases told with ⟨failure, rfl, keyed⟩ | ⟨report, dealt, _, rfl, keyed, rest⟩
  · exact .ends rfl .nil keyed
  · rcases rest with ⟨pause, events, rfl, paused, rest⟩ | ⟨rfl, lingered⟩
    · exact rest.cons keyed paused
    · exact .lingers rfl .nil keyed lingered

theorem runField_keys (run : Run) (field : Field) (report : Report) :
    Keys run.timing field.suppressed (run.runField field report) := by
  have proper : run.executor.timing.Proper := Timing.ofOptions_proper run.form.options
  unfold runField
  refine .bind (Executor.execute_keys proper field _) fun outcome => ?_
  dsimp only
  split
  · exact .of_quiet (.bind (.throw _) fun _ => .pure _)
  · exact .pure fun _ => .nil

theorem runFields_goes (run : Run) (fields : List Field) (report : Report) :
    Adds (fun _ => run.Goes run.timing.Paused run.timing.Lingered fields) (run.runFields fields report) := by
  induction fields generalizing report with
  | nil => exact .pure fun _ => .through .nil
  | cons field fields ih =>
    have proper : run.timing.Proper := Timing.ofOptions_proper run.form.options
    -- A field that ends the run leaves no pause behind: the pause belongs to what follows the field.
    refine Goes.step (run.runField_keys field report) fun report world => ?_
    obtain ⟨_, after, pause, ran, page, trace, ⟨delay, rfl, paused⟩ | ⟨rfl, lingered⟩⟩ :=
      Timing.betweenFields_pauses proper world
    · obtain ⟨events, same, further, goes⟩ := ih report after
      rw [runIn_bind_ok ran]
      refine ⟨pause ++ events, same.trans page, ?_, .inl ⟨pause, events, rfl, paused, goes⟩⟩
      rw [further, trace, List.append_assoc]
    · rw [runIn_bind_error ran]
      exact ⟨pause, page, trace, .inr ⟨rfl, lingered⟩⟩

theorem runSteps_goes (run : Run) (fields : List Field) (report : Report) :
    Adds (fun _ => run.Goes (· = []) (fun _ => False) fields) (run.runSteps fields report) := by
  induction fields generalizing report with
  | nil => exact .pure fun _ => .through .nil
  | cons field fields ih =>
    exact Goes.step (run.runField_keys field report) fun report =>
      (ih report).imp fun _ result events goes => .inl ⟨[], events, rfl, rfl, goes⟩

theorem perform_eq_stages (run : Run) (record : Members) :
    run.perform record = (do
      run.preparePage
      let report ← run.runFields run.form.fields (run.blankReport record)
      let report ← run.runSteps (finalSteps run.form) report
      run.conclude report) := by
  simp only [perform, conclude]
  rfl

theorem perform_paces (run : Run) (record : Members) : Adds (fun _ => run.Paced) (run.perform record) := by
  have concluding (report : Report) := Adds.of_confined (run.conclude_concludes report)
  have stepping (report : Report) := Adds.bind (run.runSteps_goes (finalSteps run.form) report) concluding
  have filling := Adds.bind (run.runFields_goes run.form.fields (run.blankReport record)) stepping
  have opening := Adds.of_confined run.preparePage_opens
  rw [perform_eq_stages]
  refine (Adds.bind opening fun _ => filling).imp fun _ result added told => ?_
  rcases told with ⟨failure, rfl, opened⟩ | ⟨_, opening, _, rfl, opened, ⟨failure, rfl, goes⟩ |
    ⟨report, through, _, rfl, ⟨dealt⟩, ⟨failure, rfl, goes⟩ |
      ⟨_, steps, concluding, rfl, ⟨stepped⟩, concluded⟩⟩⟩
  · exact .unopened opened
  · exact .field opened goes
  · exact .step opened dealt goes
  · exact .concluded opened dealt stepped concluded

theorem DealtWith.permitted {fields : List Field} {events : List Event} (dealt : run.DealtWith between fields events)
    (paused : ∀ pause, between pause → ∀ event ∈ pause, run.timing.Permits event) :
    ∀ event ∈ events, run.timing.Permits event := by
  have proper : run.timing.Proper := Timing.ofOptions_proper run.form.options
  induction dealt with
  | nil => nofun
  | cons keyed pause _ ih =>
    rw [List.forall_mem_append, List.forall_mem_append]
    exact ⟨keyed.permitted proper, paused _ pause, ih⟩

theorem Goes.permitted {fields : List Field} {result : Except Failure Report} {events : List Event}
    (goes : run.Goes between lingering fields result events)
    (paused : ∀ pause, between pause → ∀ event ∈ pause, run.timing.Permits event)
    (lingered : ∀ pause, lingering pause → ∀ event ∈ pause, run.timing.Permits event) :
    ∀ event ∈ events, run.timing.Permits event := by
  have proper : run.timing.Proper := Timing.ofOptions_proper run.form.options
  cases goes with
  | through dealt => exact dealt.permitted paused
  | ends _ dealt keyed =>
    rw [List.forall_mem_append]
    exact ⟨dealt.permitted paused, keyed.permitted proper⟩
  | lingers _ dealt keyed last =>
    rw [List.forall_mem_append, List.forall_mem_append]
    exact ⟨dealt.permitted paused, keyed.permitted proper, lingered _ last⟩

theorem Paced.permitted {result : Except Failure Report} {events : List Event} (paced : run.Paced result events) :
    ∀ event ∈ events, run.timing.Permits event := by
  have proper : run.timing.Proper := Timing.ofOptions_proper run.form.options
  have pausing (pause : List Event) (paused : run.timing.Paused pause) := paused.permitted proper
  have nothing (pause : List Event) (none : pause = []) : ∀ event ∈ pause, run.timing.Permits event := by
    rw [none]
    nofun
  have opening {event : Event} (opens : event.ofPreparing = true) : run.timing.Permits event := by
    cases event with
    | sleep milliseconds => exact (of_decide_eq_true opens : 0 < milliseconds)
    | draw => cases opens
    | _ => trivial
  have concluding {event : Event} (concludes : event.ofConclusion = true) : run.timing.Permits event := by
    cases event with
    | sleep milliseconds => exact (of_decide_eq_true concludes : 0 < milliseconds)
    | draw => cases concludes
    | _ => trivial
  cases paced with
  | unopened opened => exact fun event member => opening (opened event member)
  | field opened goes =>
    rw [List.forall_mem_append]
    exact ⟨fun event member => opening (opened event member),
      goes.permitted pausing fun _ lingered => lingered.permitted proper⟩
  | step opened dealt goes =>
    rw [List.forall_mem_append, List.forall_mem_append]
    exact ⟨fun event member => opening (opened event member), dealt.permitted pausing,
      goes.permitted nothing fun _ => False.elim⟩
  | concluded opened dealt stepped concluded =>
    rw [List.forall_mem_append, List.forall_mem_append, List.forall_mem_append]
    exact ⟨fun event member => opening (opened event member), dealt.permitted pausing, stepped.permitted nothing,
      fun event member => concluding (concluded event member)⟩

/-- Whatever options are given for one run, and whatever numbers are drawn, every draw of the run is from the window
    of its delay, which is not empty. One delay is fixed for each text that is entered by keys and for each pause after
    a field of the form that did not end the run: with one draw if its base is positive, else with none, and then
    there is no delay. No sleep is for nothing. -/
theorem perform_draws (form : Form) (presets : SafePresets) (overrides : Overrides) (identifiers : IdentifierSource)
    (operator : Operator) (submit : Bool) (record : Members) (world : World) :
    let options := form.options.override presets overrides
    let run : Run := { form := { form with options }, identifiers, operator, submit }
    (∃ added, ((run.perform record).runIn world).2.trace = world.trace ++ added ∧
      run.Paced ((run.perform record).runIn world).1 added ∧ ∀ event ∈ added, run.timing.Permits event) ∧
    ∀ suppressed before, ∃ delay after drawn,
      (run.timing.keystrokeDelay suppressed).runIn before = (.ok delay, after) ∧
      after.trace = before.trace ++ drawn ∧ run.timing.Keystroke suppressed delay drawn := by
  intro options run
  obtain ⟨added, -, trace, paced⟩ := run.perform_paces record world
  refine ⟨⟨added, trace, paced, paced.permitted⟩, fun suppressed before => ?_⟩
  obtain ⟨delay, after, drawn, ran, -, drew, fixed⟩ :=
    Timing.keystrokeDelay_fixes (Timing.ofOptions_proper options) suppressed before
  exact ⟨delay, after, drawn, ran, drew, fixed⟩

end Run
end FormFill
