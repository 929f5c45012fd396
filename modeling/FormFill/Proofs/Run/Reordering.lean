import FormFill.Failure
import FormFill.Proofs.Run.Opening
import FormFill.Proofs.Run.Pacing
import FormFill.Proofs.Run.Submitting
import Mathlib.Data.List.Perm.Basic

namespace FormFill

open Act

namespace Executor

variable {timing : Timing} {field : Field} {page : Page}

theorem attempt_repeats (proper : timing.Proper) (atOnce : timing.typingDelay ≤ 0) (steady : page.Steady)
    (field : Field) (record : Json) (value : String) : Repeats page (attempt timing field record value) := by
  have drawless : 0 < timing.typingDelay → False := fun slow => absurd slow (Int.not_lt.mpr atOnce)
  have caught : Repeats page (catchBrowser (interact timing field record value) fun error => do
      Action.log .error "Field action failed"
        (fieldContext field.displayName field.action.kind.name [("error", .str error.text)])
      return .failed field error.text) := by
    refine ((interact_built proper drawless (fun _ => trivial) record value).repeats steady).catchBrowser fun error => ?_
    exact fun _ _ _ _ => ⟨_, _, _, rfl, rfl, ⟨rfl, rfl⟩, ⟨rfl, rfl⟩⟩
  have scrolls : Built False False false (fun _ => True) Timing.scrollPageBottom := Timing.scrollPageBottom_built
  unfold attempt
  dsimp only
  split
  · exact .bind (scrolls.repeats steady) scrolls.interacts fun _ _ => caught
  · exact caught

/-- Dealing with a field that asks for no identifier is a matter of the page alone. -/
theorem execute_repeats (executor : Executor) (proper : executor.timing.Proper)
    (atOnce : executor.timing.typingDelay ≤ 0) (steady : page.Steady) (plain : field.autoIdentifier = false)
    (record : Json) : Repeats page (executor.execute field record) := by
  unfold execute
  rw [plain]
  split
  · exact fun _ _ _ _ => ⟨_, _, _, rfl, rfl, ⟨rfl, rfl⟩, ⟨rfl, rfl⟩⟩
  · have checks : Interacts False false (fun _ => True) (pure () : Act Unit) := .pure trivial
    cases field.overlong? record with
    | some fault => exact .throw (.numeral fault)
    | none => exact .bind (.pure ()) checks fun _ _ => attempt_repeats proper atOnce steady field record _

end Executor

namespace Run

/-- The field comes to the outcome if it is dealt with before all others. -/
def Gives (run : Run) (record : Members) (world : World) (field : Field) (outcome : Outcome) : Prop :=
  ((run.executor.execute field (.obj record)).runIn world).1 = .ok outcome

/-- What breaks off a run whose page is ready, wherever it comes up: dealing with one of the fields breaks off, or the
    pause after a field is too long. -/
inductive Breaks (run : Run) (record : Members) (world : World) (fields : List Field) : Failure → Prop where
  | field {field : Field} {failure : Failure} (among : field ∈ fields)
      (fails : ((run.executor.execute field (.obj record)).runIn world).1 = .error failure) :
      Breaks run record world fields failure
  | pause (slow : run.timing.SlowBetweenFields) : Breaks run record world fields .overlongPause

/-- How a run ends after its last step, on a page whose errors are not up to what has been done. -/
def ending (run : Run) (page : Page) (report : Report) : Except Failure Report :=
  if Timing.IsOverlong run.form.options.pauseAfterDraft then .error .overlongPause
  else
    match submitSelector run.form, run.submit with
    | some selector, true =>
      match page.error? [] (.call (.click selector)) with
      | some error => .error (.browser error)
      | none => .ok { report with submitted := true, finished := true }
    | _, _ => .ok { report with finished := true }

/-- The same run with its fields in another order. -/
def withFields (run : Run) (fields : List Field) : Run :=
  { run with form := { run.form with fields } }

variable {run : Run} {record : Members} {world other : World}

theorem Breaks.weaken {fields others : List Field} {failure : Failure} (breaks : run.Breaks record world fields failure)
    (among : fields ⊆ others) : run.Breaks record world others failure := by
  cases breaks with
  | field member fails => exact .field (among member) fails
  | pause slow => exact .pause slow

theorem gives_of_forall₂ {fields : List Field} {outcomes : List Outcome}
    (gave : List.Forall₂ (run.Gives record world) fields outcomes) :
    ∀ field ∈ fields, ∃ outcome, run.Gives record world field outcome := by
  induction gave with
  | nil =>
    intro field member
    cases member
  | cons gives _ ih => exact List.forall_mem_cons.mpr ⟨⟨_, gives⟩, ih⟩

theorem not_all_give {fields : List Field} {field : Field} {failure : Failure} (among : field ∈ fields)
    (fails : ((run.executor.execute field (.obj record)).runIn world).1 = .error failure) :
    ¬∀ field ∈ fields, ∃ outcome, run.Gives record world field outcome := by
  intro give
  obtain ⟨outcome, gives⟩ := give field among
  rw [Gives, fails] at gives
  cases gives

theorem conclude_ending (report : Report) (steady : other.page.Steady) :
    ((run.conclude report).runIn other).1 = run.ending other.page report := by
  unfold ending
  by_cases slow : Timing.IsOverlong run.form.options.pauseAfterDraft
  · rw [if_pos slow, conclude, runIn_bind_error (Timing.pause_of_overlong slow other)]
  · rw [if_neg slow]
    have concluded := run.conclude_concluded report other
    generalize (run.conclude report).runIn other = ended at concluded
    cases concluded with
    | kept unasked =>
      rcases unasked with unnamed | unasked
      · rw [unnamed]
      · rw [unasked]
        split
        · contradiction
        · rfl
    | lingers lingers => exact absurd lingers slow
    | @clicked _ _ _ selector asked selected _ _ ended =>
      rw [steady.error? _ []] at ended
      rw [asked, selected]
      cases raised : other.page.error? [] (.call (.click selector)) with
      | none => simpa only [raised] using ended
      | some error => simpa only [raised] using ended

section Independence

variable (atOnce : run.form.options.typingDelay ≤ 0) (steady : world.page.Steady)
include atOnce steady

/-- Wherever the run has come to, dealing with a field ends as it would have ended at first. -/
theorem execute_again {field : Field} (plain : field.autoIdentifier = false) (record : Members)
    (page : other.page = world.page) :
    ∃ result after, (run.executor.execute field (.obj record)).runIn other = (result, after) ∧ other.Stays after ∧
      ((∃ outcome, result = .ok outcome ∧ run.Gives record world field outcome ∧ outcome.patch = none) ∨
        ∃ failure, result = .error failure ∧
          ((run.executor.execute field (.obj record)).runIn world).1 = .error failure) := by
  have proper := Timing.ofOptions_proper run.form.options
  obtain ⟨result, after, after', ran, ran', -, stays⟩ :=
    run.executor.execute_repeats proper atOnce steady plain (.obj record) world other rfl page
  refine ⟨result, after', ran', stays, ?_⟩
  cases result with
  | error failure => exact .inr ⟨failure, rfl, by rw [ran]⟩
  | ok outcome =>
    have done : run.Done field (run.blankReport record) world outcome after := execute_done ran
    obtain ⟨unpatched, -⟩ := done.unasked (by simp [Field.asks, plain])
    exact .inl ⟨outcome, rfl, by rw [Gives, ran], unpatched⟩

variable (continues : run.form.options.continueOnError = true)
include continues

theorem runField_again {field : Field} (plain : field.autoIdentifier = false) (report : Report)
    (held : report.record = record) (page : other.page = world.page) :
    ∃ result after, (run.runField field report).runIn other = (result, after) ∧ other.Stays after ∧
      ((∃ outcome, result = .ok { report with outcomes := report.outcomes ++ [outcome] } ∧
          run.Gives record world field outcome) ∨
        ∃ failure, result = .error failure ∧
          ((run.executor.execute field (.obj record)).runIn world).1 = .error failure) := by
  subst held
  obtain ⟨_, after, ran, stays, ⟨outcome, rfl, gives, unpatched⟩ | ⟨failure, rfl, fails⟩⟩ :=
    execute_again atOnce steady plain report.record page
  · refine ⟨_, after, ?_, stays, .inl ⟨outcome, rfl, gives⟩⟩
    rw [runField_eq, runIn_bind_ok ran, judge, continues]
    simp [Report.add, unpatched]
  · refine ⟨_, after, ?_, stays, .inr ⟨failure, rfl, fails⟩⟩
    rw [runField_eq, runIn_bind_error ran]

/-- The fields are dealt with in full just where each of them comes to an outcome and none of the pauses is too
    long. -/
theorem runFields_again (fields : List Field) (plain : ∀ field ∈ fields, field.autoIdentifier = false)
    (report : Report) (held : report.record = record) (page : other.page = world.page) :
    (∃ outcomes after, List.Forall₂ (run.Gives record world) fields outcomes ∧
      (run.timing.afterPauses fields.length other.draws).isSome ∧ after.page = world.page ∧
      (run.runFields fields report).runIn other =
        (.ok { report with outcomes := report.outcomes ++ outcomes }, after)) ∨
    ∃ failure after, (run.runFields fields report).runIn other = (.error failure, after) ∧
      run.Breaks record world fields failure ∧
      ¬((∀ field ∈ fields, ∃ outcome, run.Gives record world field outcome) ∧
        (run.timing.afterPauses fields.length other.draws).isSome) := by
  induction fields generalizing report other with
  | nil => exact .inl ⟨[], other, .nil, rfl, page, by simp [runFields]⟩
  | cons field fields ih =>
    obtain ⟨head, rest⟩ := List.forall_mem_cons.mp plain
    have proper : run.timing.Proper := Timing.ofOptions_proper run.form.options
    obtain ⟨_, middle, ran, stays, ⟨outcome, rfl, gives⟩ | ⟨failure, rfl, fails⟩⟩ :=
      runField_again atOnce steady continues head report held page
    · obtain ⟨_, later, paused, kept, ⟨delay, rfl, passes⟩ | ⟨slow, rfl, overlong⟩⟩ :=
        Timing.betweenFields_draws proper middle
      · rw [stays.draws] at passes
        simp only [runFields, runIn_bind_ok ran, runIn_bind_ok paused, List.length_cons, Timing.afterPauses, passes,
          Option.bind_some]
        rcases ih rest { report with outcomes := report.outcomes ++ [outcome] } held
          (kept.trans (stays.page.trans page)) with ⟨outcomes, after, gave, pauses, still, went⟩ |
            ⟨failure, after, went, breaks, rough⟩
        · exact .inl ⟨outcome :: outcomes, after, .cons gives gave, pauses, still, by simpa using went⟩
        · refine .inr ⟨failure, after, went, breaks.weaken (List.subset_cons_self field fields), ?_⟩
          exact fun smooth => rough ⟨(List.forall_mem_cons.mp smooth.1).2, smooth.2⟩
      · rw [stays.draws] at overlong
        refine .inr ⟨.overlongPause, later, ?_, .pause slow, ?_⟩
        · rw [runFields, runIn_bind_ok ran, runIn_bind_error paused]
        · simp [Timing.afterPauses, overlong]
    · refine .inr ⟨failure, middle, ?_, .field List.mem_cons_self fails, ?_⟩
      · rw [runFields, runIn_bind_error ran]
      · exact fun smooth => not_all_give List.mem_cons_self fails smooth.1

theorem runSteps_again (fields : List Field) (plain : ∀ field ∈ fields, field.autoIdentifier = false)
    (report : Report) (held : report.record = record) (page : other.page = world.page) :
    (∃ outcomes after, List.Forall₂ (run.Gives record world) fields outcomes ∧ after.page = world.page ∧
      (run.runSteps fields report).runIn other =
        (.ok { report with outcomes := report.outcomes ++ outcomes }, after)) ∨
    ∃ failure after, (run.runSteps fields report).runIn other = (.error failure, after) ∧
      run.Breaks record world fields failure ∧
      ¬∀ field ∈ fields, ∃ outcome, run.Gives record world field outcome := by
  induction fields generalizing report other with
  | nil => exact .inl ⟨[], other, .nil, page, by simp [runSteps]⟩
  | cons field fields ih =>
    obtain ⟨head, rest⟩ := List.forall_mem_cons.mp plain
    obtain ⟨_, middle, ran, stays, ⟨outcome, rfl, gives⟩ | ⟨failure, rfl, fails⟩⟩ :=
      runField_again atOnce steady continues head report held page
    · simp only [runSteps, runIn_bind_ok ran]
      rcases ih rest { report with outcomes := report.outcomes ++ [outcome] } held (stays.page.trans page) with
        ⟨outcomes, after, gave, still, went⟩ | ⟨failure, after, went, breaks, rough⟩
      · exact .inl ⟨outcome :: outcomes, after, .cons gives gave, still, by simpa using went⟩
      · refine .inr ⟨failure, after, went, breaks.weaken (List.subset_cons_self field fields), ?_⟩
        exact fun give => rough (List.forall_mem_cons.mp give).2
    · refine .inr ⟨failure, middle, ?_, .field List.mem_cons_self fails, ?_⟩
      · rw [runSteps, runIn_bind_error ran]
      · exact not_all_give List.mem_cons_self fails

end Independence

/-- Nothing breaks off a run that goes on after errors, once its page is ready: each step comes to an outcome, and no
    pause after a field is too long. -/
def Smooth (run : Run) (record : Members) (world : World) (draws : Draws) : Prop :=
  (∀ field ∈ run.steps, ∃ outcome, run.Gives record world field outcome) ∧
    (run.timing.afterPauses run.form.fields.length draws).isSome

/-- How a run that goes on after errors ends, once its page is ready. -/
inductive Performed (run : Run) (record : Members) (world : World) (draws : Draws) : Except Failure Report → Prop where
  | broken {failure : Failure} (rough : ¬run.Smooth record world draws)
      (breaks : run.Breaks record world run.steps failure) : Performed run record world draws (.error failure)
  | through {outcomes : List Outcome} (smooth : run.Smooth record world draws)
      (gave : List.Forall₂ (run.Gives record world) run.steps outcomes) :
      Performed run record world draws (run.ending world.page { run.blankReport record with outcomes })

/-- A run that goes on after errors comes to one outcome for each step, whatever came of the steps before it, unless
    something breaks it off. -/
theorem perform_performed (atOnce : run.form.options.typingDelay ≤ 0) (steady : world.page.Steady)
    (continues : run.form.options.continueOnError = true) (plain : ∀ field ∈ run.steps, field.autoIdentifier = false)
    (record : Members) {middle : World} (prepared : run.preparePage.runIn world = (.ok (), middle)) :
    run.Performed record world middle.draws ((run.perform record).runIn world).1 := by
  have page : middle.page = world.page := by
    obtain ⟨_, kept⟩ := run.preparePage_confined world
    rw [← kept.page, prepared]
  obtain ⟨fields, final⟩ := List.forall_mem_append.mp plain
  rw [perform_eq_stages, runIn_bind_ok prepared]
  rcases runFields_again atOnce steady continues run.form.fields fields (run.blankReport record) rfl page with
    ⟨first, later, gave, pauses, kept, filled⟩ | ⟨failure, after, filled, breaks, rough⟩
  · rw [runIn_bind_ok filled]
    rcases runSteps_again atOnce steady continues (finalSteps run.form) final
        { run.blankReport record with outcomes := (run.blankReport record).outcomes ++ first } rfl kept with
      ⟨last, after, stepped, still, ran⟩ | ⟨failure, after, ran, breaks, rough⟩
    · rw [runIn_bind_ok ran, conclude_ending _ (still ▸ steady), still]
      have whole := List.rel_append gave stepped
      exact .through ⟨gives_of_forall₂ whole, pauses⟩ whole
    · rw [runIn_bind_error ran]
      refine .broken ?_ (breaks.weaken (List.subset_append_right _ _))
      exact fun ⟨give, _⟩ => rough (List.forall_mem_append.mp give).2
  · rw [runIn_bind_error filled]
    refine .broken ?_ (breaks.weaken (List.subset_append_left _ _))
    exact fun ⟨give, pauses⟩ => rough ⟨(List.forall_mem_append.mp give).1, pauses⟩

/-- How a run ends and how it ends with its fields in another order: it does not come to the fields, or it breaks off
    in both orders, or there is no end with the form as it is, or the outcomes come in the order of the fields and the
    rest of the report is the same. -/
inductive Reordered (run : Run) (record : Members) (world : World) (fields : List Field) :
    Except Failure Report → Except Failure Report → Prop where
  | unprepared {failure : Failure} (stopped : (run.preparePage.runIn world).1 = .error failure) :
      Reordered run record world fields (.error failure) (.error failure)
  | broken {first second : Failure} (breaks : run.Breaks record world run.steps first)
      (reordered : run.Breaks record world run.steps second) :
      Reordered run record world fields (.error first) (.error second)
  | lingers (slow : Timing.IsOverlong run.form.options.pauseAfterDraft) :
      Reordered run record world fields (.error .overlongPause) (.error .overlongPause)
  | unsent {selector : String} {error : BrowserError} (asked : run.submit = true)
      (selected : submitSelector run.form = some selector)
      (raised : world.page.error? [] (.call (.click selector)) = some error) :
      Reordered run record world fields (.error (.browser error)) (.error (.browser error))
  | returned {first second : Report}
      (outcomes : List.Forall₂ (run.Gives record world) run.steps first.outcomes)
      (reordered : List.Forall₂ (run.Gives record world) (fields ++ finalSteps run.form) second.outcomes)
      (same : second = { first with outcomes := second.outcomes }) (kept : second.record = record)
      (counts : ∀ status, second.count status = first.count status) :
      Reordered run record world fields (.ok first) (.ok second)

theorem gives_unique {fields : List Field} {first second : List Outcome}
    (gave : List.Forall₂ (run.Gives record world) fields first)
    (again : List.Forall₂ (run.Gives record world) fields second) : first = second := by
  induction gave generalizing second with
  | nil =>
    cases again
    rfl
  | cons gives _ ih =>
    cases again with
    | cons same rest =>
      rw [Gives, gives] at same
      cases same
      rw [ih rest]

theorem ending_reordered {fields : List Field} (order : fields.Perm run.form.fields) {first second : List Outcome}
    (gave : List.Forall₂ (run.Gives record world) run.steps first)
    (reordered : List.Forall₂ (run.Gives record world) (fields ++ finalSteps run.form) second) :
    run.Reordered record world fields (run.ending world.page { run.blankReport record with outcomes := first })
      (run.ending world.page { run.blankReport record with outcomes := second }) := by
  obtain ⟨outcomes, again, perm⟩ := List.perm_comp_forall₂ (order.append_right (finalSteps run.form)) gave
  obtain rfl := gives_unique reordered again
  have counts (status : Status) := perm.countP_eq (·.status = status)
  unfold ending
  split
  · rename_i slow
    exact .lingers slow
  · split
    · rename_i selector selected asked
      cases raised : world.page.error? [] (.call (.click selector)) with
      | some error => exact .unsent asked selected raised
      | none => exact .returned gave reordered rfl rfl counts
    · exact .returned gave reordered rfl rfl counts

theorem preparePage_withFields {fields : List Field} (order : fields.Perm run.form.fields) :
    (run.withFields fields).preparePage = run.preparePage := by
  have members : (run.withFields fields).form.allFields.Perm run.form.allFields :=
    (order.append_right run.form.draft.toList).append_right run.form.saveProgress.toList
  have clipboard : (run.withFields fields).form.usesClipboard = run.form.usesClipboard :=
    members.any_eq
  unfold preparePage
  rw [clipboard]
  rfl

theorem smooth_withFields {fields : List Field} (order : fields.Perm run.form.fields) {draws : Draws} :
    (run.withFields fields).Smooth record world draws ↔ run.Smooth record world draws := by
  have steps : (run.withFields fields).steps.Perm run.steps := order.append_right (finalSteps run.form)
  unfold Smooth
  refine and_congr ⟨fun give field member => ?_, fun give field member => ?_⟩ ?_
  · exact give field (steps.mem_iff.mpr member)
  · exact give field (steps.mem_iff.mp member)
  · exact (congrArg (fun count => (run.timing.afterPauses count draws).isSome = true) order.length_eq).to_iff

theorem performed_reordered {fields : List Field} (order : fields.Perm run.form.fields) {draws : Draws}
    {first second : Except Failure Report} (performed : run.Performed record world draws first)
    (again : (run.withFields fields).Performed record world draws second) :
    run.Reordered record world fields first second := by
  have steps : (run.withFields fields).steps.Perm run.steps := order.append_right (finalSteps run.form)
  have same : (run.withFields fields).Smooth record world draws ↔ run.Smooth record world draws :=
    smooth_withFields order
  cases performed with
  | broken rough breaks =>
    cases again with
    | broken _ reordered =>
      cases reordered with
      | field member fails => exact .broken breaks (.field (steps.subset member) fails)
      | pause slow => exact .broken breaks (.pause slow)
    | through smooth _ => exact absurd (same.mp smooth) rough
  | through smooth gave =>
    cases again with
    | broken rough _ => exact absurd (same.mpr smooth) rough
    | through _ reordered => exact ending_reordered order gave reordered

/-- Fields are independent of each other where no identifier is asked for, nothing is drawn for a key and errors are
    not up to what has been done: their order is that of the outcomes and makes no other difference, except for which of
    several faults breaks off a run. -/
theorem perform_reordered (run : Run) {fields : List Field} (order : fields.Perm run.form.fields) (record : Members)
    (world : World) (plain : ∀ field ∈ run.steps, field.autoIdentifier = false)
    (continues : run.form.options.continueOnError = true) (atOnce : run.form.options.typingDelay = 0)
    (steady : world.page.Steady) :
    run.Reordered record world fields ((run.perform record).runIn world).1
      (((run.withFields fields).perform record).runIn world).1 := by
  have everywhere : ∀ field ∈ (run.withFields fields).steps, field.autoIdentifier = false := by
    intro field member
    exact plain field ((order.append_right (finalSteps run.form)).subset member)
  have undelayed : (run.withFields fields).form.options.typingDelay ≤ 0 := Int.le_of_eq atOnce
  have opening := preparePage_withFields order
  rcases prepared : run.preparePage.runIn world with ⟨failure | _, middle⟩
  · rw [perform_error prepared, perform_error (opening ▸ prepared)]
    exact .unprepared (by rw [prepared])
  · have given := perform_performed (Int.le_of_eq atOnce) steady continues plain record prepared
    have reordered := perform_performed undelayed steady continues everywhere record (opening ▸ prepared)
    exact performed_reordered order given reordered

theorem perform_reordered_failing :
    let refused : Field :=
      ⟨none, some "#refuse", none, none, none, false, none, .none, false, false, false, false, .click ⟨false⟩⟩
    let chosen : Field :=
      ⟨none, some "#size", none, none, none, false, some "=XL", .none, false, false, false, false, .select⟩
    let run : Run :=
      ⟨⟨"https://form.test", [refused, chosen], none, none, none, { RunOptions.default with continueOnError := true }⟩,
        ⟨⟨.below ["last.txt"]⟩, none, "number"⟩, .present, false⟩
    let button : Node := { Node.absent with count := 1, faults := [(.click, .always ⟨true, "covered"⟩)] }
    let page : Page :=
      { Page.blank with lookups := [(.selector "#refuse", "refuse")], nodes := [("refuse", button)] }
    let world : World := .untouched page .empty
    [chosen, refused].Perm run.form.fields ∧ (∀ field ∈ run.steps, field.autoIdentifier = false) ∧
      run.form.options.continueOnError = true ∧ run.form.options.typingDelay = 0 ∧ world.page.Steady ∧
      ((run.perform []).runIn world).1.toOption.map (·.outcomes.map (·.status)) = some [.failed, .skipped] ∧
      run.Reordered [] world [chosen, refused] ((run.perform []).runIn world).1
        (((run.withFields [chosen, refused]).perform []).runIn world).1 := by
  intro refused chosen run button page world
  have order : [chosen, refused].Perm run.form.fields := .swap refused chosen []
  have plain : ∀ field ∈ run.steps, field.autoIdentifier = false := by decide
  have steady : world.page.Steady := .of_always (by simp [world, World.untouched, page, Page.blank])
    (by simp [world, World.untouched, page, button, FaultPlan.isAlways])
  have statuses :
      ((run.perform []).runIn world).1.toOption.map (·.outcomes.map (·.status)) = some [.failed, .skipped] := by
    subst refused chosen run button page world
    rfl
  exact ⟨order, plain, rfl, rfl, steady, statuses, perform_reordered run order [] world plain rfl rfl steady⟩

end Run
end FormFill
