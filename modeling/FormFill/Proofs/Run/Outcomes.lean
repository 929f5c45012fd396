import FormFill.Proofs.Run.Steps

namespace FormFill

def Field.title (field : Field) : String × ActionKind :=
  (field.displayName, field.action.kind)

def Outcome.title (outcome : Outcome) : String × ActionKind :=
  (outcome.field, outcome.action)

theorem Outcome.About.title {field : Field} {outcome : Outcome} (about : outcome.About field) :
    outcome.title = field.title :=
  Prod.ext about.name about.action

theorem Report.count_total (report : Report) :
    report.count .applied + report.count .skipped + report.count .failed = report.outcomes.length := by
  unfold count
  induction report.outcomes with
  | nil => rfl
  | cons outcome rest ih =>
    simp only [List.countP_cons, List.length_cons]
    cases outcome.status <;> simp <;> omega

namespace Run

open Act

/-- The report speaks of the first steps of a run, one outcome for each, and the run has had no reason to
    stop. -/
structure Reported (run : Run) (count : Nat) (report : Report) : Prop where
  labels : report.outcomes.map (·.title) = (run.steps.take count).map (·.title)
  unfailed : run.form.options.continueOnError = false → ∀ outcome ∈ report.outcomes, outcome.status ≠ .failed

/-- A run has stopped at the outcome of its last step, the only one that is failed. -/
structure Stopped (run : Run) (last : Outcome) (report : Report) : Prop where
  stopping : run.form.options.continueOnError = false
  failed : last.status = .failed
  outcomes : ∃ earlier, report.outcomes = earlier ++ [last] ∧ (∀ outcome ∈ earlier, outcome.status ≠ .failed) ∧
    earlier.length < run.steps.length ∧
    report.outcomes.map (·.title) = (run.steps.take (earlier.length + 1)).map (·.title)

variable {run : Run} {record : Members} {world : World}

theorem Reported.add {count : Nat} {report : Report} {field : Field} {outcome : Outcome}
    (reported : run.Reported count report) (found : run.steps[count]? = some field)
    (about : outcome.About field)
    (unfailed : run.form.options.continueOnError = false → outcome.status ≠ .failed) :
    run.Reported (count + 1) (report.add outcome) := by
  refine ⟨?_, fun stopping other member => ?_⟩
  · simp [Report.add, reported.labels, List.take_add_one, found, about.title]
  · rcases List.mem_append.mp member with member | member
    · exact reported.unfailed stopping other member
    · rw [List.mem_singleton.mp member]
      exact unfailed stopping

theorem Reported.stop {count : Nat} {report : Report} {field : Field} {outcome : Outcome}
    (reported : run.Reported count report) (found : run.steps[count]? = some field)
    (about : outcome.About field) (failed : outcome.status = .failed)
    (stopping : run.form.options.continueOnError = false) : run.Stopped outcome (report.add outcome) := by
  have within : count < run.steps.length := (List.getElem?_eq_some_iff.mp found).1
  have length : report.outcomes.length = count := by
    have same := congrArg List.length reported.labels
    simpa [Nat.min_eq_left (Nat.le_of_lt within)] using same
  refine ⟨stopping, failed, report.outcomes, rfl, reported.unfailed stopping, by omega, ?_⟩
  simp [Report.add, reported.labels, List.take_add_one, found, about.title, length]

/-- What has been reported after some steps fits them. -/
def Accounted (run : Run) (count : Nat) : Except Failure Report → Prop
  | .ok report => run.Reported count report
  | .error (.fieldFailed last report) => run.Stopped last report
  | .error _ => True

theorem Accounted.of_other {count : Nat} {failure : Failure}
    (other : ∀ outcome report, failure ≠ .fieldFailed outcome report) :
    run.Accounted count (.error failure) := by
  cases failure with
  | fieldFailed outcome report => exact absurd rfl (other outcome report)
  | _ => trivial

theorem upTo_zero_accounted (run : Run) (record : Members) (world : World) :
    run.Accounted 0 ((run.upTo record 0).runIn world).1 := by
  rw [upTo_zero, runIn_bind]
  rcases prepared : run.preparePage.runIn world with ⟨failure | _, middle⟩
  · have aside := (run.preparePage_aside world).2
    rw [prepared] at aside
    exact .of_other fun outcome report same => aside outcome report (congrArg Except.error same)
  · exact ⟨rfl, fun _ _ member => by cases member⟩

theorem upTo_accounted (run : Run) (record : Members) (world : World) (count : Nat) :
    run.Accounted count ((run.upTo record count).runIn world).1 := by
  refine upTo_ends (fun count ended => run.Accounted count ended.1) (run.upTo_zero_accounted record world) ?_ ?_ count
  · rintro count ⟨failure | report, after⟩ - idle accounted
    · cases failure <;> exact accounted
    · rcases idle with found | ⟨_, _, same⟩
      · have whole : run.steps.take (count + 1) = run.steps.take count := by simp [List.take_add_one, found]
        exact ⟨whole ▸ accounted.labels, accounted.unfailed⟩
      · cases same
  · intro count field report before ended found _ reported came
    cases came with
    | unreadable | lingers => trivial
    | unusable _ _ assigns =>
      obtain rfl | rfl | ⟨fault, rfl⟩ | ⟨fault, rfl⟩ := IdentifierSource.assigned_failure assigns <;> trivial
    | stops done failed stopping => exact Reported.stop reported found done.about failed stopping
    | goes done unfailed => exact Reported.add reported found done.about unfailed

/-- A run that returns has one outcome for each of its steps; one that ends with a failed field has them up
    to that field. -/
theorem perform_outcomes (run : Run) (record : Members) (world : World) :
    (∀ report after, (run.perform record).runIn world = (.ok report, after) →
      report.outcomes.map (·.title) = run.steps.map (·.title) ∧
      (run.form.options.continueOnError = false → ∀ outcome ∈ report.outcomes, outcome.status ≠ .failed) ∧
      report.count .applied + report.count .skipped + report.count .failed = report.outcomes.length) ∧
    (∀ last report after, (run.perform record).runIn world = (.error (.fieldFailed last report), after) →
      run.form.options.continueOnError = false ∧ last.status = .failed ∧
      (∃ earlier, report.outcomes = earlier ++ [last] ∧ (∀ outcome ∈ earlier, outcome.status ≠ .failed) ∧
        earlier.length < run.steps.length ∧
        report.outcomes.map (·.title) = (run.steps.take (earlier.length + 1)).map (·.title)) ∧
      report.count .applied + report.count .skipped + report.count .failed = report.outcomes.length) := by
  have accounted := run.upTo_accounted record world run.steps.length
  rw [perform_eq, runIn_bind]
  rcases ended : (run.upTo record run.steps.length).runIn world with ⟨failure | report, middle⟩
  · rw [ended] at accounted
    refine ⟨fun report after same => (by cases same), fun last report after same => ?_⟩
    cases same
    exact ⟨accounted.stopping, accounted.failed, accounted.outcomes, report.count_total⟩
  · rw [ended] at accounted
    refine ⟨fun final after concluded => ?_, fun last final after concluded => ?_⟩
    · have same : final.outcomes = report.outcomes := by rw [conclude_report concluded]
      have titles := accounted.labels
      rw [List.take_length] at titles
      exact ⟨same ▸ titles, same ▸ accounted.unfailed, final.count_total⟩
    · have aside := (run.conclude_aside report middle).2 last final
      exact absurd (congrArg Prod.fst concluded) aside

/-- With a first field that fails, a run that is to go on reports both of its fields, and any other only that one. -/
theorem perform_outcomes_refused :
    let refused : Field :=
      ⟨none, some "#size", none, none, none, false, some "=XL", .none, false, true, false, false, .select⟩
    let absent : Field :=
      ⟨none, some "#none", none, none, none, false, some "=1", .none, false, true, false, false, .select⟩
    let run (continueOnError : Bool) : Run :=
      ⟨⟨"https://form.test", [refused, absent], none, none, none, { RunOptions.default with continueOnError }⟩,
        ⟨⟨.below ["last.txt"]⟩, none, "number"⟩, .present, false⟩
    let page : Page :=
      { Page.blank with
        lookups := [(.selector "#size", "size")]
        nodes := [("size", { Node.absent with count := 1, faults := [(.selectOption, .always ⟨false, "no XL"⟩)] })] }
    (∃ report after, ((run true).perform []).runIn (.untouched page .empty) = (.ok report, after) ∧
      report.outcomes.map (·.title) = [("#size", .select), ("#none", .select)] ∧
      report.count .applied + report.count .skipped + report.count .failed = report.outcomes.length) ∧
    ∃ last report after,
      ((run false).perform []).runIn (.untouched page .empty) = (.error (.fieldFailed last report), after) ∧
      last.status = .failed ∧ ∃ earlier, report.outcomes = earlier ++ [last] ∧
        report.outcomes.map (·.title) = ([refused, absent].take (earlier.length + 1)).map (·.title) := by
  intro refused absent run page
  have whole := (perform_outcomes (run true) [] (.untouched page .empty)).1
  have broken := (perform_outcomes (run false) [] (.untouched page .empty)).2
  constructor
  · obtain ⟨report, after, ended⟩ :
        ∃ report after, ((run true).perform []).runIn (.untouched page .empty) = (.ok report, after) := by
      subst page run absent refused
      exact ⟨_, _, rfl⟩
    obtain ⟨titles, -, total⟩ := whole report after ended
    exact ⟨report, after, ended, titles, total⟩
  · obtain ⟨last, report, after, ended⟩ : ∃ last report after,
        ((run false).perform []).runIn (.untouched page .empty) = (.error (.fieldFailed last report), after) := by
      subst page run absent refused
      exact ⟨_, _, _, rfl⟩
    obtain ⟨-, failed, ⟨earlier, outcomes, -, -, titles⟩, -⟩ := broken last report after ended
    exact ⟨last, report, after, ended, failed, earlier, outcomes, titles⟩

end Run
end FormFill
