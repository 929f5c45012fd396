import FormFill.Proofs.Record.Agreement
import FormFill.Proofs.Run.Identifiers

namespace FormFill

/-- What a run reads of two records is the same. -/
def Run.Agree (run : Run) (first second : Members) : Prop :=
  Members.Agree run.form.allFields run.identifiers.recordKey first second

/-- Two reports that differ in their records only, which agree on what the run still reads of them. -/
structure Report.Alike (run : Run) (first second : Report) : Prop where
  told : second = { first with record := second.record }
  agree : run.Agree first.record second.record

theorem Report.Alike.add {run : Run} {first second : Report} (alike : Report.Alike run first second)
    {outcome : Outcome} (placed : ∀ given ∈ outcome.patch, given.key = run.identifiers.recordKey) :
    Report.Alike run (first.add outcome) (second.add outcome) where
  told := by
    rw [Report.add, alike.told]
    rfl
  agree := by
    rw [Report.add_record, Report.add_record]
    exact alike.agree.patched placed

/-- Two runs end the same way: both give a report, both are stopped by the same outcome, or both fail alike. -/
inductive EndsAlike (run : Run) : Except Failure Report → Except Failure Report → Prop where
  | returned {first second : Report} (alike : Report.Alike run first second) :
      EndsAlike run (.ok first) (.ok second)
  | stopped {first second : Report} (outcome : Outcome) (alike : Report.Alike run first second) :
      EndsAlike run (.error (.fieldFailed outcome first)) (.error (.fieldFailed outcome second))
  | failed (failure : Failure) : EndsAlike run (.error failure) (.error failure)

namespace Act

/-- Two actions that leave the same world behind and end alike, whatever world they begin in. -/
def InStep (run : Run) (first second : Act Report) : Prop :=
  ∀ world, (first.runIn world).2 = (second.runIn world).2 ∧
    EndsAlike run (first.runIn world).1 (second.runIn world).1

namespace InStep

variable {α : Type} {run : Run} {first second : Act Report}

theorem pure {first second : Report} (alike : Report.Alike run first second) :
    InStep run (pure first) (pure second) :=
  fun _ => ⟨rfl, .returned alike⟩

theorem stop {first second : Report} (outcome : Outcome) (alike : Report.Alike run first second)
    {next other : α → Act Report} :
    InStep run (throw (.fieldFailed outcome first) >>= next) (throw (.fieldFailed outcome second) >>= other) :=
  fun _ => ⟨rfl, .stopped outcome alike⟩

theorem bind {next other : Report → Act Report} (inStep : InStep run first second)
    (onward : ∀ given given', Report.Alike run given given' → InStep run (next given) (other given')) :
    InStep run (first >>= next) (second >>= other) := by
  intro world
  obtain ⟨after, ends⟩ := inStep world
  rw [runIn_bind, runIn_bind]
  rcases ran : first.runIn world with ⟨result, middle⟩
  rcases ran' : second.runIn world with ⟨result', middle'⟩
  rw [ran, ran'] at after ends
  obtain rfl : middle = middle' := after
  cases ends with
  | returned alike => exact onward _ _ alike middle
  | stopped outcome alike => exact ⟨rfl, .stopped outcome alike⟩
  | failed failure => exact ⟨rfl, .failed failure⟩

/-- What both do first in common may be followed by what is in step for the values that come of it. -/
theorem after {shared : Act α} {next other : α → Act Report}
    (onward : ∀ world value middle, shared.runIn world = (.ok value, middle) →
      InStep run (next value) (other value)) :
    InStep run (shared >>= next) (shared >>= other) := by
  intro world
  rw [runIn_bind, runIn_bind]
  rcases ran : shared.runIn world with ⟨failure | value, middle⟩
  · exact ⟨rfl, .failed failure⟩
  · exact onward world value middle ran middle

end InStep
end Act

namespace Run

open Act

variable {run : Run}

theorem Done.patch_key {field : Field} {report : Report} {before after : World} {outcome : Outcome}
    (done : run.Done field report before outcome after) :
    ∀ given ∈ outcome.patch, given.key = run.identifiers.recordKey := by
  intro given patched
  cases asks : field.asks with
  | false =>
    rw [(done.unasked asks).1] at patched
    cases patched
  | true =>
    obtain ⟨assigned, assigns, patch, -⟩ := done.asked asks
    rw [patch] at patched
    have dues := (IdentifierSource.assigned_eq_ok_iff.mp assigns).1
    obtain ⟨existing, -, -, rfl⟩ | ⟨-, rfl⟩ | ⟨-, -, placed⟩ := IdentifierSource.due_cases dues
    · cases patched
    · cases patched
    · rw [placed] at patched
      cases patched
      rfl

theorem execute_patch_key {field : Field} {report : Report} {world after : World} {outcome : Outcome}
    (ran : (run.executor.execute field (.obj report.record)).runIn world = (.ok outcome, after)) :
    ∀ given ∈ outcome.patch, given.key = run.identifiers.recordKey :=
  (run.execute_done ran).patch_key

theorem runField_inStep {field : Field} (member : field ∈ run.form.allFields) {first second : Report}
    (alike : Report.Alike run first second) :
    InStep run (run.runField field first) (run.runField field second) := by
  have value := alike.agree.values field member
  have carried : ∀ source ∈ run.executor.identifiers,
      source.existing? (.obj first.record) = source.existing? (.obj second.record) := by
    rintro source ⟨⟩
    exact IdentifierSource.existing?_congr alike.agree.identifier
  have same : run.executor.execute field (.obj first.record) =
      run.executor.execute field (.obj second.record) :=
    Executor.execute_congr value carried
  unfold runField
  rw [same]
  refine .after fun world outcome middle ran => ?_
  -- An identifier goes into both records under the key that the run reads it from, so they go on to agree.
  have added := alike.add (execute_patch_key ran)
  dsimp only
  split
  · exact .stop outcome added
  · exact .pure added

theorem runFields_inStep (fields : List Field) (members : fields ⊆ run.form.allFields) {first second : Report}
    (alike : Report.Alike run first second) :
    InStep run (run.runFields fields first) (run.runFields fields second) := by
  induction fields generalizing first second with
  | nil => exact .pure alike
  | cons field fields ih =>
    obtain ⟨member, rest⟩ := List.cons_subset.mp members
    refine .bind (runField_inStep member alike) fun _ _ alike => ?_
    exact .after fun _ _ _ _ => ih rest alike

theorem runSteps_inStep (fields : List Field) (members : fields ⊆ run.form.allFields) {first second : Report}
    (alike : Report.Alike run first second) :
    InStep run (run.runSteps fields first) (run.runSteps fields second) := by
  induction fields generalizing first second with
  | nil => exact .pure alike
  | cons field fields ih =>
    obtain ⟨member, rest⟩ := List.cons_subset.mp members
    exact .bind (runField_inStep member alike) fun _ _ alike => ih rest alike

theorem finalSteps_subset (form : Form) : finalSteps form ⊆ form.allFields := by
  intro field member
  unfold finalSteps at member
  rcases List.mem_append.mp member with draft | saved
  · split at draft
    · simp [Form.allFields, draft]
    · cases draft
  · split at saved
    · simp [Form.allFields, saved]
    · cases saved

theorem finish_inStep {first second : Report} (alike : Report.Alike run first second) :
    InStep run (run.finish first) (run.finish second) := by
  have submitted : Report.Alike run { first with submitted := true } { second with submitted := true } :=
    ⟨by rw [alike.told], alike.agree⟩
  unfold finish
  split
  · refine .after fun _ _ _ _ => ?_
    exact .after fun _ _ _ _ => .pure submitted
  · exact .after fun _ _ _ _ => .pure alike
  · exact .after fun _ _ _ _ => .pure alike

theorem conclude_inStep {first second : Report} (alike : Report.Alike run first second) :
    InStep run (run.conclude first) (run.conclude second) := by
  unfold conclude
  refine .after fun _ _ _ _ => ?_
  refine .bind (finish_inStep alike) fun given given' alike => ?_
  have counts (status : Status) : given'.count status = given.count status := by
    rw [alike.told]
    rfl
  have finished : Report.Alike run { given with finished := true } { given' with finished := true } :=
    ⟨by rw [alike.told], alike.agree⟩
  simp only [counts]
  exact .after fun _ _ _ _ => .pure finished

/-- A record makes a difference to a run only through the values that the fields select from it and the
    identifier in it. -/
theorem perform_agree (run : Run) (first second : Members)
    (values : ∀ field ∈ run.form.allFields,
      Record.select (.obj first) field.value = Record.select (.obj second) field.value)
    (identifier : (first.lookup run.identifiers.recordKey).getD .null =
      (second.lookup run.identifiers.recordKey).getD .null) (world : World) :
    ((run.perform first).runIn world).2 = ((run.perform second).runIn world).2 ∧
      EndsAlike run ((run.perform first).runIn world).1 ((run.perform second).runIn world).1 := by
  have blank : Report.Alike run (run.blankReport first) (run.blankReport second) :=
    ⟨rfl, values, identifier⟩
  have fields : run.form.fields ⊆ run.form.allFields := by
    intro field member
    simp [Form.allFields, member]
  have inStep : InStep run (run.perform first) (run.perform second) := by
    refine .after fun _ _ _ _ => ?_
    refine .bind (runFields_inStep _ fields blank) fun _ _ alike => ?_
    exact .bind (runSteps_inStep _ (finalSteps_subset run.form) alike) fun _ _ alike => conclude_inStep alike
  exact inStep world

theorem perform_agree_unread :
    let numbered : Field :=
      ⟨some "number", some "#number", none, none, none, false, none, .none, true, false, false, false, .select⟩
    let copied : Field :=
      ⟨some "copy", some "#copy", none, none, none, false, some "number", .none, false, false, false, false, .select⟩
    let run : Run :=
      ⟨⟨"https://form.test", [numbered, copied], none, none, none, .default⟩, ⟨⟨.below ["last.txt"]⟩, none, "number"⟩,
        .present, false⟩
    let first : Members := [("colour", .str "red")]
    let second : Members := [("size", .str "XL"), ("number", .null)]
    let world : World := .untouched .blank { occupants := [(["last.txt"], .file "41".toUTF8)] }
    ((run.perform first).runIn world).2 = ((run.perform second).runIn world).2 ∧
      EndsAlike run ((run.perform first).runIn world).1 ((run.perform second).runIn world).1 := by
  intro numbered copied run first second world
  refine perform_agree run first second ?_ rfl world
  intro field member
  have among : field = numbered ∨ field = copied := by simpa [run, Form.allFields] using member
  rcases among with rfl | rfl
  · rfl
  · rfl

end Run
end FormFill
