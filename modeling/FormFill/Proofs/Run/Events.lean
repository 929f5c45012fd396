import FormFill.Proofs.Act.Confined
import FormFill.Proofs.Run.Steps

namespace FormFill

/-- Whether an event may come of filling a form: of opening its page, of asking a person for help, or of
    dealing with its fields. -/
def Event.ofFilling : Event → Bool
  | .call (.goto ..) | .call (.waitForSelector ..) | .call (.grantPermissions ..) => true
  | .ask _ | .askConsole _ => true
  | event => event.ofField

/-- Whether an event may come of a run, which may send the form off in the end. -/
def Event.ofRun : Event → Bool
  | .call (.click _) => true
  | event => event.ofFilling

/-- Whether an event may come of opening the page and of asking a person for help. -/
def Event.ofPreparing : Event → Bool
  | .call (.goto ..) | .call (.waitForSelector ..) | .call (.grantPermissions ..) => true
  | .ask _ | .askConsole _ => true
  | .sleep milliseconds => 0 < milliseconds
  | _ => false

/-- Whether an event may come of what follows the last step. -/
def Event.ofConclusion : Event → Bool
  | .call (.click _) => true
  | .sleep milliseconds => 0 < milliseconds
  | _ => false

theorem Event.ofFilling_of_ofPreparing {event : Event} (ofPreparing : event.ofPreparing = true) :
    event.ofFilling = true := by
  cases event with
  | call made => cases made <;> first | rfl | cases ofPreparing
  | _ => first | rfl | cases ofPreparing

theorem Event.ofRun_of_ofConclusion {event : Event} (ofConclusion : event.ofConclusion = true) :
    event.ofRun = true := by
  cases event with
  | call made => cases made <;> first | rfl | cases ofConclusion
  | _ => first | rfl | cases ofConclusion

theorem Event.ofFilling_of_ofField {event : Event} (ofField : event.ofField = true) :
    event.ofFilling = true := by
  cases event with
  | call made => cases made <;> first | rfl | exact ofField
  | _ => first | rfl | exact ofField

theorem Event.ofRun_of_ofFilling {event : Event} (ofFilling : event.ofFilling = true) :
    event.ofRun = true := by
  cases event with
  | call made => cases made <;> first | rfl | exact ofFilling
  | _ => exact ofFilling

open Act

/-- Identifiers are handed out without an event. -/
theorem IdentifierSource.next_confined (source : IdentifierSource) (record : Json) {kind : Event → Bool} :
    Confined kind (source.next record) := by
  intro world
  obtain ⟨log, ran⟩ := source.next_runIn record world
  rw [ran]
  exact ⟨[], .nil rfl rfl rfl rfl⟩

namespace Executor

theorem Deals.grown {field : Field} {patch : Option Patch} {before : World} {ended : Except Failure Outcome × World}
    (deals : Deals field patch before ended) : ∃ added, before.Added Event.ofField ended.2 added := by
  cases deals with
  | dealt dealt => exact ⟨_, dealt.onward.grown⟩
  | overlong _ onward => exact ⟨_, onward.grown⟩

theorem execute_confined {executor : Executor} (proper : executor.timing.Proper) (field : Field)
    (record : Json) : Confined Event.ofField (executor.execute field record) := by
  intro world
  have comes := execute_comes proper field record world
  generalize (executor.execute field record).runIn world = ended at comes ⊢
  cases comes with
  | unreadable | unassigned => exact ⟨[], .nil rfl rfl rfl rfl⟩
  | unasked _ _ deals => exact deals.grown
  | assigned _ _ _ deals =>
    obtain ⟨added, grown⟩ := deals.grown
    exact ⟨added, grown.page, grown.host, grown.opened, grown.trace, grown.ofKind⟩

end Executor

namespace Run

theorem ask_confined (operator : Operator) (message : String) :
    Confined Event.ofPreparing (ask operator message) := by
  cases operator with
  | absent => exact .log _ _ _ _
  | present => exact .ask rfl
  | console => exact .ask rfl

theorem grantClipboard_confined (url : String) : Confined Event.ofPreparing (grantClipboard url) := by
  unfold grantClipboard
  cases Address.origin url with
  | error fault => exact .throw _
  | ok origin => exact .catchBrowser (.call rfl) fun _ => .log _ _ _ _

theorem awaitReady_confined (selector : String) (timeout : Nat) :
    Confined Event.ofPreparing (awaitReady selector timeout) :=
  .catchBrowser (.call rfl) fun _ => .throw _

theorem preparePage_opens (run : Run) : Confined Event.ofPreparing run.preparePage := by
  have granted : Confined Event.ofPreparing (do
      Timing.pause run.form.options.pauseBeforeFill
      if run.form.options.grantClipboard && run.form.usesClipboard then
        grantClipboard run.form.url : Act Unit) := by
    refine .bind (Timing.pause_confined (fun _ => decide_eq_true) _) fun _ => ?_
    split
    · exact grantClipboard_confined _
    · exact .pure ()
  unfold preparePage
  refine .bind (.log _ _ _ _) fun _ => ?_
  refine .bind (.call rfl) fun _ => ?_
  dsimp only
  split
  · refine .bind (ask_confined _ _) fun _ => ?_
    split
    · exact .bind (awaitReady_confined _ _) fun _ => granted
    · exact granted
  · split
    · exact .bind (awaitReady_confined _ _) fun _ => granted
    · exact granted

theorem preparePage_confined (run : Run) : Confined Event.ofFilling run.preparePage :=
  run.preparePage_opens.weaken fun _ => Event.ofFilling_of_ofPreparing

theorem runField_confined (run : Run) (field : Field) (report : Report) :
    Confined Event.ofFilling (run.runField field report) := by
  have proper : run.executor.timing.Proper := Timing.ofOptions_proper run.form.options
  have dealt := Executor.execute_confined proper field (.obj report.record)
  unfold runField
  refine .bind (dealt.weaken fun _ => Event.ofFilling_of_ofField) fun outcome => ?_
  dsimp only
  split
  · exact .bind (.throw _) fun _ => .pure _
  · exact .pure _

theorem runFields_confined (run : Run) (fields : List Field) (report : Report) :
    Confined Event.ofFilling (run.runFields fields report) := by
  have interacts : Interacts True false (fun _ => True) run.timing.betweenFields :=
    Timing.betweenFields_interacts (Timing.ofOptions_proper run.form.options) fun _ => trivial
  have paused := (Confined.of_interacts interacts).weaken fun _ => Event.ofFilling_of_ofField
  induction fields generalizing report with
  | nil => exact .pure report
  | cons field fields ih =>
    refine .bind (run.runField_confined field report) fun next => ?_
    exact .bind paused fun _ => ih next

theorem runSteps_confined (run : Run) (fields : List Field) (report : Report) :
    Confined Event.ofFilling (run.runSteps fields report) := by
  induction fields generalizing report with
  | nil => exact .pure report
  | cons field fields ih => exact .bind (run.runField_confined field report) fun next => ih next

theorem upTo_confined (run : Run) (record : Members) (count : Nat) :
    Confined Event.ofFilling (run.upTo record count) := by
  unfold upTo
  refine .bind run.preparePage_confined fun _ => ?_
  exact .bind (run.runFields_confined _ _) fun report => run.runSteps_confined _ report

theorem conclude_concludes (run : Run) (report : Report) : Confined Event.ofConclusion (run.conclude report) := by
  have finished : Confined Event.ofConclusion (run.finish report) := by
    unfold finish
    split
    · refine .bind (.call rfl) fun _ => ?_
      exact .bind (.log _ _ _ _) fun _ => .pure _
    · exact .bind (.log _ _ _ _) fun _ => .pure _
    · exact .bind (.log _ _ _ _) fun _ => .pure _
  unfold conclude
  refine .bind (Timing.pause_confined (fun _ => decide_eq_true) _) fun _ => ?_
  refine .bind finished fun _ => ?_
  exact .bind (.log _ _ _ _) fun _ => .pure _

theorem conclude_confined (run : Run) (report : Report) : Confined Event.ofRun (run.conclude report) :=
  (run.conclude_concludes report).weaken fun _ => Event.ofRun_of_ofConclusion

theorem perform_confined (run : Run) (record : Members) : Confined Event.ofRun (run.perform record) := by
  have reached := (run.upTo_confined record run.steps.length).weaken fun _ => Event.ofRun_of_ofFilling
  rw [perform_eq]
  exact .bind reached fun report => run.conclude_confined report

end Run
end FormFill
