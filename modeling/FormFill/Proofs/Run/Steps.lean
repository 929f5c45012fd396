import FormFill.Proofs.Executor
import FormFill.Proofs.Run.Preparing

namespace FormFill.Run

open Act

variable {run : Run} {record : Members}

/-- All that a run deals with, in order: the fields and the steps that follow them. -/
def steps (run : Run) : List Field :=
  run.form.fields ++ finalSteps run.form

def blankReport (run : Run) (record : Members) : Report :=
  { url := run.form.url, outcomes := [], record, submitted := false, finished := false }

/-- The run before its step number `count`. -/
def upTo (run : Run) (record : Members) (count : Nat) : Act Report := do
  run.preparePage
  let report ← run.runFields (run.form.fields.take count) (run.blankReport record)
  run.runSteps ((finalSteps run.form).take (count - run.form.fields.length)) report

/-- A step of the run. There is a pause after those that are fields of the form. -/
def stepAt (run : Run) (index : Nat) (field : Field) (report : Report) : Act Report := do
  let report ← run.runField field report
  if index < run.form.fields.length then
    let _ ← run.timing.betweenFields
    return report
  else return report

theorem runFields_append (first second : List Field) (report : Report) :
    run.runFields (first ++ second) report = (do
      let report ← run.runFields first report
      run.runFields second report) := by
  induction first generalizing report with
  | nil => simp [runFields]
  | cons field fields ih => simp [runFields, ih]

theorem runSteps_append (first second : List Field) (report : Report) :
    run.runSteps (first ++ second) report = (do
      let report ← run.runSteps first report
      run.runSteps second report) := by
  induction first generalizing report with
  | nil => simp [runSteps]
  | cons field fields ih => simp [runSteps, ih]

theorem upTo_zero : run.upTo record 0 = (do
    run.preparePage
    return run.blankReport record) := by
  simp [upTo, runFields, runSteps]

/-- Each step begins where the run before it ends. -/
theorem upTo_succ {index : Nat} {field : Field} (found : run.steps[index]? = some field) :
    run.upTo record (index + 1) = (do
      let report ← run.upTo record index
      run.stepAt index field report) := by
  unfold steps at found
  by_cases among : index < run.form.fields.length
  · have next : run.form.fields[index]? = some field := by
      rwa [List.getElem?_append_left among] at found
    have grown : run.form.fields.take (index + 1) = run.form.fields.take index ++ [field] := by
      rw [List.take_add_one, next]
      rfl
    have early : ∀ count, count ≤ run.form.fields.length →
        (finalSteps run.form).take (count - run.form.fields.length) = [] := by
      intro count within
      rw [Nat.sub_eq_zero_of_le within, List.take_zero]
    rw [upTo, upTo, grown, early index (by omega), early (index + 1) (by omega)]
    simp [runFields_append, runFields, runSteps, stepAt, among]
  · have next : (finalSteps run.form)[index - run.form.fields.length]? = some field := by
      rwa [List.getElem?_append_right (by omega)] at found
    have onward : index + 1 - run.form.fields.length = index - run.form.fields.length + 1 := by omega
    have before : run.form.fields.take index = run.form.fields := List.take_of_length_le (by omega)
    have after : run.form.fields.take (index + 1) = run.form.fields := List.take_of_length_le (by omega)
    have last : (finalSteps run.form).take (index + 1 - run.form.fields.length) =
        (finalSteps run.form).take (index - run.form.fields.length) ++ [field] := by
      rw [onward, List.take_add_one, next]
      rfl
    rw [upTo, upTo, before, after, last]
    simp [runSteps_append, runSteps, stepAt, among]

theorem upTo_beyond {index : Nat} (ended : run.steps[index]? = none) :
    run.upTo record (index + 1) = run.upTo record index := by
  have beyond : run.form.fields.length + (finalSteps run.form).length ≤ index := by
    simpa [steps] using ended
  have fields : ∀ count, index ≤ count → run.form.fields.take count = run.form.fields :=
    fun count _ => List.take_of_length_le (by omega)
  have final : ∀ count, index ≤ count →
      (finalSteps run.form).take (count - run.form.fields.length) = finalSteps run.form :=
    fun count _ => List.take_of_length_le (by omega)
  simp only [upTo, fields index (Nat.le_refl _), fields (index + 1) (Nat.le_succ _),
    final index (Nat.le_refl _), final (index + 1) (Nat.le_succ _)]

/-- What follows the last step. -/
def conclude (run : Run) (report : Report) : Act Report := do
  Timing.pause run.form.options.pauseAfterDraft
  let report ← run.finish report
  let counts := [Status.applied, .skipped, .failed].map fun status =>
    (status.name, Json.int (report.count status))
  log .info "Run completed" counts
  return { report with finished := true }

/-- The run from its step number `count` on. -/
def onward (run : Run) (count : Nat) (report : Report) : Act Report := do
  let report ← run.runFields (run.form.fields.drop count) report
  let report ← run.runSteps ((finalSteps run.form).drop (count - run.form.fields.length)) report
  run.conclude report

/-- A run goes on wherever it is looked at. -/
theorem perform_upTo (run : Run) (record : Members) (count : Nat) :
    run.perform record = run.upTo record count >>= run.onward count := by
  have whole : run.perform record = (do
      run.preparePage
      let report ← run.runFields run.form.fields (run.blankReport record)
      let report ← run.runSteps (finalSteps run.form) report
      run.conclude report) := rfl
  unfold upTo onward
  by_cases within : count ≤ run.form.fields.length
  · have fields := run.runFields_append (run.form.fields.take count) (run.form.fields.drop count)
    simp only [List.take_append_drop] at fields
    simp only [whole, fields, Nat.sub_eq_zero_of_le within, List.take_zero, List.drop_zero, runSteps, bind_assoc,
      bind_pure]
  · have steps := run.runSteps_append ((finalSteps run.form).take (count - run.form.fields.length))
      ((finalSteps run.form).drop (count - run.form.fields.length))
    have before : run.form.fields.take count = run.form.fields := List.take_of_length_le (by omega)
    have after : run.form.fields.drop count = [] := List.drop_of_length_le (by omega)
    simp only [List.take_append_drop] at steps
    simp only [whole, before, after, steps, runFields, bind_assoc, pure_bind]

theorem drop_of_found {fields : List Field} {index : Nat} {field : Field} (found : fields[index]? = some field) :
    fields.drop index = field :: fields.drop (index + 1) := by
  obtain ⟨within, rfl⟩ := List.getElem?_eq_some_iff.mp found
  exact List.drop_eq_getElem_cons within

theorem onward_step {index : Nat} {field : Field} (found : run.steps[index]? = some field) (report : Report) :
    run.onward index report = run.stepAt index field report >>= run.onward (index + 1) := by
  unfold steps at found
  unfold onward stepAt
  by_cases among : index < run.form.fields.length
  · have next : run.form.fields.drop index = field :: run.form.fields.drop (index + 1) := by
      rw [List.getElem?_append_left among] at found
      exact drop_of_found found
    simp only [next, runFields, among, ↓reduceIte, Nat.sub_eq_zero_of_le (Nat.le_of_lt among), bind_assoc, pure_bind,
      Nat.sub_eq_zero_of_le (Nat.succ_le_of_lt among)]
  · have next : (finalSteps run.form).drop (index - run.form.fields.length) =
        field :: (finalSteps run.form).drop (index + 1 - run.form.fields.length) := by
      rw [List.getElem?_append_right (by omega)] at found
      have beyond : index + 1 - run.form.fields.length = index - run.form.fields.length + 1 := by omega
      rw [beyond]
      exact drop_of_found found
    have done : ∀ count, index ≤ count → run.form.fields.drop count = [] :=
      fun count _ => List.drop_of_length_le (by omega)
    simp only [next, done index (Nat.le_refl _), done (index + 1) (Nat.le_succ _), runFields, runSteps, among,
      ↓reduceIte, bind_assoc, pure_bind, bind_pure]

theorem perform_eq (run : Run) (record : Members) :
    run.perform record = (do
      let report ← run.upTo record run.steps.length
      run.conclude report) := by
  have fields : run.form.fields.drop run.steps.length = [] := List.drop_of_length_le (by simp [steps])
  have final : (finalSteps run.form).drop (run.steps.length - run.form.fields.length) = [] :=
    List.drop_of_length_le (by simp [steps])
  rw [run.perform_upTo record run.steps.length]
  refine congrArg _ (funext fun report => ?_)
  simp only [onward, fields, final, runFields, runSteps, pure_bind]

theorem conclude_aside (run : Run) (report : Report) : (run.conclude report).Aside := by
  refine .bind (pause_aside _) fun _ => ?_
  refine .bind (finish_aside run report) fun _ => ?_
  exact .bind (log_aside _ _ _) fun _ => .pure _

theorem finish_report {report final : Report} {world after : World}
    (finished : (run.finish report).runIn world = (.ok final, after)) :
    final = { report with submitted := final.submitted } := by
  unfold finish at finished
  split at finished
  · obtain ⟨_, _, -, finished⟩ := ok_of_bind finished
    obtain ⟨_, _, -, finished⟩ := ok_of_bind finished
    cases finished
    rfl
  · obtain ⟨_, _, -, finished⟩ := ok_of_bind finished
    cases finished
    rfl
  · obtain ⟨_, _, -, finished⟩ := ok_of_bind finished
    cases finished
    rfl

/-- What follows the last step leaves the outcomes and the record of the report as they are. -/
theorem conclude_report {report final : Report} {world after : World}
    (concluded : (run.conclude report).runIn world = (.ok final, after)) :
    final = { report with submitted := final.submitted, finished := true } := by
  obtain ⟨_, _, -, concluded⟩ := ok_of_bind concluded
  obtain ⟨middle, _, finished, concluded⟩ := ok_of_bind concluded
  obtain ⟨_, _, -, concluded⟩ := ok_of_bind concluded
  have kept := finish_report finished
  cases concluded
  rw [kept]

/-- The files that a field leaves, and what its identifier changes in the record, if the field asks for one. -/
structure Supplied (run : Run) (field : Field) (report : Report) (before : World) (patch : Option Patch)
    (after : World) : Prop where
  readable : field.asks = true → field.overlong? (.obj report.record) = none
  unasked : field.asks = false → patch = none ∧ after.files = before.files
  asked : field.asks = true → ∃ given,
    run.identifiers.assigned (.obj report.record) before.files = .ok given ∧ patch = given.patch ∧
      after.files = run.identifiers.filesAfter (.obj report.record) before.files

theorem Supplied.later {field : Field} {report : Report} {before after later : World} {patch : Option Patch}
    (supplied : run.Supplied field report before patch after) (files : later.files = after.files) :
    run.Supplied field report before patch later :=
  ⟨supplied.readable, files ▸ supplied.unasked, files ▸ supplied.asked⟩

/-- A field has been dealt with in a run. -/
structure Done (run : Run) (field : Field) (report : Report) (before : World) (outcome : Outcome)
    (after : World) : Prop extends run.Supplied field report before outcome.patch after where
  about : outcome.About field

/-- What comes of dealing with a field of a run: a value that cannot be had, an identifier that cannot be had, a pause
    that is too long, or an outcome. -/
inductive Executed (run : Run) (field : Field) (report : Report) (before : World) :
    Except Failure Outcome × World → Prop where
  | unreadable {fault : NumeralFault} (overlong : field.overlong? (.obj report.record) = some fault) :
      Executed run field report before (.error (.numeral fault), before)
  | unusable {failure : Failure} {after : World} (asks : field.asks = true)
      (readable : field.overlong? (.obj report.record) = none)
      (assigns : run.identifiers.assigned (.obj report.record) before.files = .error failure) :
      Executed run field report before (.error failure, after)
  | lingers {patch : Option Patch} {after : World} (supplied : run.Supplied field report before patch after)
      (lingers : field.Lingers) : Executed run field report before (.error .overlongPause, after)
  | done {outcome : Outcome} {after : World} (done : run.Done field report before outcome after) :
      Executed run field report before (.ok outcome, after)

theorem Supplied.executed {field : Field} {report : Report} {before middle : World} {patch : Option Patch}
    {ended : Except Failure Outcome × World} (supplied : run.Supplied field report before patch middle)
    (deals : Executor.Deals field patch middle ended) : run.Executed field report before ended := by
  cases deals with
  | dealt dealt => exact .done ⟨dealt.patched ▸ supplied.later dealt.onward.files, dealt.toAbout⟩
  | overlong lingers onward => exact .lingers (supplied.later onward.files) lingers

theorem asked?_executor (run : Run) (field : Field) :
    run.executor.asked? field = if field.asks then some run.identifiers else none :=
  rfl

theorem execute_executed (run : Run) (field : Field) (report : Report) (before : World) :
    run.Executed field report before ((run.executor.execute field (.obj report.record)).runIn before) := by
  have proper : run.executor.timing.Proper := Timing.ofOptions_proper run.form.options
  have comes := Executor.execute_comes proper field (.obj report.record) before
  generalize (run.executor.execute field (.obj report.record)).runIn before = ended at comes ⊢
  cases comes with
  | unreadable _ overlong => exact .unreadable overlong
  | unasked _ unasked deals =>
    have silent : field.asks = false := by simpa [asked?_executor] using unasked
    have unsupplied (asks : field.asks = true) : False := by simp [silent] at asks
    have supplied : run.Supplied field report before none before :=
      ⟨fun asks => (unsupplied asks).elim, fun _ => ⟨rfl, rfl⟩, fun asks => (unsupplied asks).elim⟩
    exact supplied.executed deals
  | unassigned readable asked unassigned =>
    obtain ⟨asks, rfl⟩ : field.asks = true ∧ run.identifiers = _ := by simpa [asked?_executor] using asked
    exact .unusable asks readable unassigned
  | @assigned source given _ readable asked assigns deals =>
    obtain ⟨asks, rfl⟩ : field.asks = true ∧ run.identifiers = source := by simpa [asked?_executor] using asked
    have supplied : run.Supplied field report before given.patch
        { before with files := run.identifiers.filesAfter (.obj report.record) before.files } :=
      ⟨fun _ => readable, fun silent => by simp [silent] at asks, fun _ => ⟨given, assigns, rfl, rfl⟩⟩
    exact supplied.executed deals

theorem execute_done {field : Field} {report : Report} {before after : World} {outcome : Outcome}
    (ran : (run.executor.execute field (.obj report.record)).runIn before = (.ok outcome, after)) :
    run.Done field report before outcome after := by
  have executed := run.execute_executed field report before
  rw [ran] at executed
  cases executed with
  | done done => exact done

/-- What comes of a step: a value that cannot be had, an identifier that cannot be had, a pause that is too long, where
    one may be, a failed field that ends the run, or an outcome that is added to the report. -/
inductive Ended (run : Run) (slow : Prop) (field : Field) (report : Report) (before : World) :
    Except Failure Report × World → Prop where
  | unreadable {fault : NumeralFault} (overlong : field.overlong? (.obj report.record) = some fault) :
      Ended run slow field report before (.error (.numeral fault), before)
  | unusable {failure : Failure} {after : World} (asks : field.asks = true)
      (readable : field.overlong? (.obj report.record) = none)
      (assigns : run.identifiers.assigned (.obj report.record) before.files = .error failure) :
      Ended run slow field report before (.error failure, after)
  | lingers {patch : Option Patch} {after : World} (supplied : run.Supplied field report before patch after)
      (waiting : slow) : Ended run slow field report before (.error .overlongPause, after)
  | stops {outcome : Outcome} {after : World} (done : run.Done field report before outcome after)
      (failed : outcome.status = .failed) (stopping : run.form.options.continueOnError = false) :
      Ended run slow field report before (.error (.fieldFailed outcome (report.add outcome)), after)
  | goes {outcome : Outcome} {after : World} (done : run.Done field report before outcome after)
      (unfailed : run.form.options.continueOnError = false → outcome.status ≠ .failed) :
      Ended run slow field report before (.ok (report.add outcome), after)

variable {slow : Prop}

theorem Ended.weaken {slower : Prop} {field : Field} {report : Report} {before : World}
    {ended : Except Failure Report × World} (came : run.Ended slow field report before ended) (imp : slow → slower) :
    run.Ended slower field report before ended := by
  cases came with
  | unreadable overlong => exact .unreadable overlong
  | unusable asks readable assigns => exact .unusable asks readable assigns
  | lingers supplied waiting => exact .lingers supplied (imp waiting)
  | stops done failed stopping => exact .stops done failed stopping
  | goes done unfailed => exact .goes done unfailed

/-- What a run makes of an outcome. -/
def judge (run : Run) (report : Report) (outcome : Outcome) : Act Report :=
  if outcome.status = .failed && !run.form.options.continueOnError then
    throw (.fieldFailed outcome (report.add outcome))
  else return report.add outcome

theorem runField_eq (run : Run) (field : Field) (report : Report) :
    run.runField field report = run.executor.execute field (.obj report.record) >>= run.judge report := by
  unfold runField
  refine congrArg _ (funext fun outcome => ?_)
  unfold judge
  dsimp only
  split <;> rfl

theorem Done.judged {field : Field} {report : Report} {before after : World} {outcome : Outcome}
    (done : run.Done field report before outcome after) :
    run.Ended slow field report before ((run.judge report outcome).runIn after) := by
  unfold judge
  by_cases stops : outcome.status = .failed ∧ run.form.options.continueOnError = false
  · rw [if_pos (by simp [stops])]
    exact .stops done stops.1 stops.2
  · rw [if_neg (by simpa using stops)]
    exact .goes done fun stopping failed => stops ⟨failed, stopping⟩

theorem runField_ended (run : Run) (field : Field) (report : Report) (before : World) :
    run.Ended field.Lingers field report before ((run.runField field report).runIn before) := by
  have executed := run.execute_executed field report before
  rw [runField_eq, runIn_bind]
  generalize (run.executor.execute field (.obj report.record)).runIn before = ended at executed ⊢
  cases executed with
  | unreadable overlong => exact .unreadable overlong
  | unusable asks readable assigns => exact .unusable asks readable assigns
  | lingers supplied lingers => exact .lingers supplied lingers
  | done done => exact done.judged

theorem betweenFields_files (run : Run) (world : World) :
    ∃ result after, run.timing.betweenFields.runIn world = (result, after) ∧ after.files = world.files ∧
      ((∃ delay, result = .ok delay) ∨ run.timing.SlowBetweenFields ∧ result = .error .overlongPause) := by
  obtain ⟨result, after, added, ran, onward, -, ends⟩ := Interacts.calm
    (fun _ => Timing.betweenFields_interacts (Timing.ofOptions_proper run.form.options) id) world
  exact ⟨result, after, ran, onward.files, ends.imp_left fun returned => returned.imp fun _ => And.left⟩

theorem stepAt_ended (run : Run) (index : Nat) (field : Field) (report : Report) (before : World) :
    run.Ended (field.Lingers ∨ run.timing.SlowBetweenFields) field report before
      ((run.stepAt index field report).runIn before) := by
  unfold stepAt
  have ended : run.Ended (field.Lingers ∨ run.timing.SlowBetweenFields) field report before _ :=
    (run.runField_ended field report before).weaken .inl
  rcases dealt : (run.runField field report).runIn before with ⟨failure | added, after⟩
  · rw [dealt] at ended
    rw [runIn_bind_error dealt]
    exact ended
  · rw [dealt] at ended
    rw [runIn_bind_ok dealt]
    cases ended with
    | goes done unfailed =>
      split
      · obtain ⟨_, later, paused, files, ⟨delay, rfl⟩ | ⟨slow, rfl⟩⟩ := run.betweenFields_files after
        · rw [runIn_bind_ok paused, runIn_pure]
          exact .goes ⟨done.later files, done.about⟩ unfailed
        · rw [runIn_bind_error paused]
          exact .lingers (done.later files) (.inr slow)
      · exact .goes done unfailed

/-- What holds of the end of the preparation holds of the end of all steps up to any one, if it stays where nothing
    more is done and is kept by every step that the run comes to. -/
theorem upTo_ends (holds : Nat → Except Failure Report × World → Prop) {world : World}
    (start : holds 0 ((run.upTo record 0).runIn world))
    (idle : ∀ index ended, (run.upTo record index).runIn world = ended →
      (run.steps[index]? = none ∨ ∃ failure after, ended = (.error failure, after)) →
      holds index ended → holds (index + 1) ended)
    (step : ∀ index field report before ended, run.steps[index]? = some field →
      (run.upTo record index).runIn world = (.ok report, before) → holds index (.ok report, before) →
      run.Ended (field.Lingers ∨ run.timing.SlowBetweenFields) field report before ended →
      holds (index + 1) ended) (index : Nat) :
    holds index ((run.upTo record index).runIn world) := by
  induction index with
  | zero => exact start
  | succ index ih =>
    cases found : run.steps[index]? with
    | none =>
      rw [upTo_beyond found]
      exact idle index _ rfl (.inl found) ih
    | some field =>
      rw [upTo_succ found, runIn_bind]
      rcases reached : (run.upTo record index).runIn world with ⟨failure | report, before⟩
      · rw [reached] at ih
        exact idle index _ reached (.inr ⟨failure, before, rfl⟩) ih
      · rw [reached] at ih
        exact step index field report before _ found reached ih (run.stepAt_ended index field report before)

/-- What holds once the page is prepared, and is kept by every step that the run goes on from, holds wherever
    the run comes to. -/
theorem upTo_rule (holds : Nat → Report → World → Prop) {world : World}
    (start : ∀ before, run.preparePage.runIn world = (.ok (), before) → holds 0 (run.blankReport record) before)
    (step : ∀ index field report before outcome after, run.steps[index]? = some field →
      holds index report before → run.Done field report before outcome after →
      (run.form.options.continueOnError = false → outcome.status ≠ .failed) →
      holds (index + 1) (report.add outcome) after)
    (beyond : ∀ index report before, run.steps[index]? = none → holds index report before →
      holds (index + 1) report before) :
    ∀ index report before, (run.upTo record index).runIn world = (.ok report, before) →
      holds index report before := by
  refine upTo_ends (fun index ended => ∀ report before, ended = (.ok report, before) → holds index report before)
    ?_ ?_ ?_
  · intro report before reached
    rw [upTo_zero] at reached
    obtain ⟨_, middle, prepared, ended⟩ := ok_of_bind reached
    cases ended
    exact start _ prepared
  · rintro index ended - (found | ⟨failure, after, rfl⟩) kept report before reached
    · exact beyond index report before found (kept report before reached)
    · cases reached
  · intro index field earlier before ended found _ kept came report after stepped
    subst stepped
    cases came with
    | goes done unfailed => exact step index field earlier before _ after found (kept earlier before rfl) done unfailed

end FormFill.Run
