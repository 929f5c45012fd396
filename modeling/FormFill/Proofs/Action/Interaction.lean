import FormFill.Executor
import FormFill.Proofs.Browser.Locating
import FormFill.Proofs.Browser.Pacing

namespace FormFill

/-- The outcome names a field and what is done with it. -/
structure Outcome.About (field : Field) (outcome : Outcome) : Prop where
  name : outcome.field = field.displayName
  action : outcome.action = field.action.kind

/-- An outcome as handlers give it: about the field, not failed, and without an identifier. -/
structure Outcome.Plain (field : Field) (outcome : Outcome) : Prop extends outcome.About field where
  unfailed : outcome.status ≠ .failed
  unpatched : outcome.patch = none

theorem Outcome.applied_plain (field : Field) (detail : Detail) : (applied field detail).Plain field :=
  ⟨⟨rfl, rfl⟩, by simp [applied], rfl⟩

theorem Outcome.skipped_plain (field : Field) (reason : String) (detail : Detail) :
    (skipped field reason detail).Plain field :=
  ⟨⟨rfl, rfl⟩, by simp [skipped], rfl⟩

/-- The pause that dealing with a field takes, in milliseconds. -/
def Field.pause (field : Field) : Nat :=
  match field.action with
  | .fill settings => if settings.pressEnter then settings.enterDelay else 0
  | .type settings => if settings.pressEnter then settings.enterDelay else 0
  | .typeEachTag settings => settings.settle
  | _ => 0

/-- No pause can be taken that is as long as the one of the field. -/
def Field.Lingers (field : Field) : Prop :=
  Timing.IsOverlong field.pause

theorem Field.lingers_fill {field : Field} {settings : Fill} (filling : field.action = .fill settings)
    (lingers : field.Lingers) : settings.pressEnter = true ∧ Timing.IsOverlong settings.enterDelay := by
  unfold Field.Lingers Field.pause at lingers
  rw [filling] at lingers
  dsimp only at lingers
  split at lingers
  · rename_i pressing
    exact ⟨pressing, lingers⟩
  · exact absurd lingers Timing.not_isOverlong_zero

namespace Action

open Act

variable {draws waits : Prop} {timing : Timing} {field : Field}

theorem skip_built (field : Field) (reason : String) (detail : Detail) {soft : Bool} :
    Built draws waits soft (·.Plain field) (skip field reason detail) :=
  .andThen .log fun _ => .pure (Outcome.skipped_plain field reason detail)

theorem skip_interacts (field : Field) (reason : String) (detail : Detail) {soft : Bool} :
    Interacts waits soft (·.Plain field) (skip field reason detail) := by
  have built : Built True waits soft (·.Plain field) (skip field reason detail) := skip_built field reason detail
  exact built.interacts

theorem target_built (timing : Timing) (field : Field) :
    Built draws waits false (fun _ => True) (target timing field) := by
  unfold target
  refine .andThen (Locating.locate_built field) fun found => ?_
  cases found with
  | none => exact .pure trivial
  | some handle =>
    refine .andThen (.count handle) fun count => ?_
    split
    · exact .pure trivial
    · refine .andThen (timing.scrollIntoView_built handle _ _) fun _ => ?_
      exact .pure trivial

theorem onTarget_built {next : Handle → Act Outcome}
    (continues : ∀ handle, Built draws waits false (·.Plain field) (next handle)) :
    Built draws waits false (·.Plain field) (onTarget timing field next) := by
  unfold onTarget
  refine .andThen (target_built timing field) fun found => ?_
  cases found with
  | none => exact skip_built field _ _
  | some handle => exact continues handle

theorem pressEnter_built (handle : Handle) {delay : Nat} (waiting : Timing.IsOverlong delay → waits) :
    Built draws waits false (fun _ => True) (pressEnter handle delay) := by
  unfold pressEnter
  refine .andThen (.element handle (.press "Enter")) fun _ => ?_
  exact Timing.pause_built waiting

theorem runFill_built (proper : timing.Proper) (drawing : 0 < timing.typingDelay → draws) {settings : Fill}
    (waiting : settings.pressEnter = true → Timing.IsOverlong settings.enterDelay → waits) (value : String) :
    Built draws waits false (·.Plain field) (runFill timing field settings value) := by
  apply onTarget_built
  intro target
  refine .andThen (Timing.keystrokeDelay_built proper drawing _) fun delay => ?_
  have ending : Built draws waits false (·.Plain field)
      (if settings.pressEnter = true then do
          pressEnter target settings.enterDelay
          pure (Outcome.applied field (.typed (delay ≠ 0)))
        else pure (Outcome.applied field (.typed (delay ≠ 0)))) := by
    split
    · rename_i pressing
      refine .andThen (pressEnter_built target (waiting pressing)) fun _ => ?_
      exact .pure (Outcome.applied_plain field _)
    · exact .pure (Outcome.applied_plain field _)
  dsimp only
  split
  · refine .andThen (.element target (.fill "")) fun _ => ?_
    exact .andThen (.element target (.pressSequentially value delay)) fun _ => ending
  · split
    · refine .andThen (.element target (.fill "")) fun _ => ?_
      exact .andThen (.element target (.fill value)) fun _ => ending
    · exact .andThen (.element target (.fill value)) fun _ => ending

theorem runType_built (proper : timing.Proper) (drawing : 0 < timing.typingDelay → draws) {settings : TypeKeys}
    (waiting : settings.pressEnter = true → Timing.IsOverlong settings.enterDelay → waits) (value : String) :
    Built draws waits false (·.Plain field) (runType timing field settings value) := by
  apply onTarget_built
  intro target
  refine .andThen (Timing.keystrokeDelay_built proper drawing _) fun delay => ?_
  refine .andThen (.element target (.pressSequentially value delay)) fun _ => ?_
  dsimp only
  split
  · rename_i pressing
    refine .andThen (pressEnter_built target (waiting pressing)) fun _ => ?_
    exact .pure (Outcome.applied_plain field _)
  · exact .pure (Outcome.applied_plain field _)

theorem runSelect_built (value : String) :
    Built draws waits false (·.Plain field) (runSelect timing field value) := by
  apply onTarget_built
  intro target
  refine .andThen (.element target (.selectOption value)) fun _ => ?_
  exact .pure (Outcome.applied_plain field _)

theorem runClick_built (settings : Click) :
    Built draws waits false (·.Plain field) (runClick timing field settings) := by
  apply onTarget_built
  intro target
  have ending : Built draws waits false (·.Plain field) (do
      let _ ← Act.element target (.click field.force)
      pure (Outcome.applied field .none)) :=
    .andThen (.element target (.click field.force)) fun _ => .pure (Outcome.applied_plain field _)
  dsimp only
  split
  · refine .andThen (.element target .boundingBox) fun node => ?_
    split
    · refine .andThen (.call (.mouseClick _ _) rfl) fun _ => ?_
      exact .pure (Outcome.applied_plain field _)
    · exact .andThen .log fun _ => ending
  · exact ending

theorem readChecked_built (field : Field) (indicator : Handle) :
    Built draws waits false (fun _ => True) (readChecked field indicator) := by
  apply Built.catchBrowser
  · exact .andThen (.element indicator .isChecked) fun _ => .pure trivial
  · intro error
    exact .andThen .log fun _ => .pure trivial

theorem alreadyChecked_built (field : Field) (settings : Check) (target : Handle) :
    Built draws waits false (fun _ => True) (alreadyChecked field settings target) := by
  unfold alreadyChecked
  split
  · exact readChecked_built field target
  · refine .andThen (.lookup none _) fun indicator => ?_
    refine .andThen (.count indicator) fun count => ?_
    split
    · exact .pure trivial
    · exact readChecked_built field indicator.first

theorem runCheck_built (settings : Check) :
    Built draws waits false (·.Plain field) (runCheck timing field settings) := by
  apply onTarget_built
  intro target
  have asked : Built draws waits false (fun _ => True)
      (if (given settings.indicator).isSome || settings.skipIfChecked then
        alreadyChecked field settings target else pure false) := by
    split
    · exact alreadyChecked_built field settings target
    · exact .pure trivial
  refine .andThen asked fun checked => ?_
  split
  · exact skip_built field _ _
  · refine .andThen (.element target (.check field.force)) fun _ => ?_
    exact .pure (Outcome.applied_plain field _)

theorem textNotFound_built (field : Field) (text : String) :
    Built draws waits false (fun _ => True) (textNotFound field text) :=
  .andThen .log fun _ => .pure trivial

theorem forTexts_built {step : String → Act Bool} (texts : List String)
    (each : ∀ text, Built draws waits false (fun _ => True) (step text)) :
    Built draws waits false (fun _ => True) (forTexts step texts) := by
  induction texts with
  | nil => exact .pure trivial
  | cons text texts ih =>
    refine .andThen (each text) fun found => ?_
    exact .andThen ih fun _ => .pure trivial

theorem clickText_built (timing : Timing) (field : Field) (scope : Option Handle) (text : String) :
    Built draws waits false (fun _ => True) (clickText timing field scope text) := by
  unfold clickText
  refine .andThen (.lookup scope _) fun found => ?_
  refine .andThen (.count found) fun count => ?_
  split
  · exact textNotFound_built field text
  · refine .andThen (timing.scrollIntoView_built found _ _) fun _ => ?_
    exact .andThen (.element found.first (.click field.force)) fun _ => .pure trivial

theorem candidateText_built (candidate : Handle) :
    Built draws waits false (fun _ => True) (candidateText? candidate) := by
  apply Built.catchBrowser
  · exact .andThen (.element candidate .innerText) fun _ => .pure trivial
  · intro error
    exact .pure trivial

theorem findCandidate_built (wanted : List Char) (handles : List Handle) :
    Built draws waits false (fun _ => True) (findCandidate wanted handles) := by
  induction handles with
  | nil => exact .pure trivial
  | cons candidate handles ih =>
    refine .andThen (candidateText_built candidate) fun text => ?_
    cases text with
    | none => exact ih
    | some text =>
      dsimp only
      split
      · exact .pure trivial
      · exact ih

theorem clickNormalized_built (timing : Timing) (field : Field) (handles : List Handle)
    (text : String) :
    Built draws waits false (fun _ => True) (clickNormalized timing field handles text) := by
  unfold clickNormalized
  refine .andThen (findCandidate_built _ handles) fun found => ?_
  cases found with
  | none => exact textNotFound_built field text
  | some candidate =>
    refine .andThen (timing.scrollIntoView_built candidate _ _) fun _ => ?_
    exact .andThen (.element candidate (.click field.force)) fun _ => .pure trivial

theorem candidates_built (settings : EachText) (scope : Handle) :
    Built draws waits false (fun _ => True) (candidates settings scope) := by
  unfold candidates
  refine .andThen (.lookup (some scope) _) fun found => ?_
  exact .andThen (.element found .all) fun _ => .pure trivial

theorem clickTexts_built (timing : Timing) (field : Field) (settings : EachText)
    (texts : List String) :
    Built draws waits false (fun _ => True) (clickTexts timing field settings texts) := by
  unfold clickTexts
  split
  · exact forTexts_built texts (clickText_built timing field none)
  · refine .andThen (.lookup none _) fun scope => ?_
    split
    · refine .andThen (candidates_built settings scope) fun handles => ?_
      exact forTexts_built texts (clickNormalized_built timing field handles)
    · exact forTexts_built texts (clickText_built timing field (some scope))

theorem runEachText_built (settings : EachText) (record : Json) :
    Built draws waits false (·.Plain field) (runEachText timing field settings record) := by
  unfold runEachText
  dsimp only
  split
  · exact skip_built field _ _
  · refine .andThen (clickTexts_built timing field settings _) fun clicks => ?_
    split
    · exact skip_built field _ _
    · exact .pure (Outcome.applied_plain field _)

theorem focus_built (field : Field) (settings : EachTag) (target : Handle) :
    Built draws waits false (fun _ => True) (focus field settings target) := by
  have clicking : Built draws waits false (fun _ => True)
      (if settings.focus ≠ Focus.script then do
          let _ ← Act.element target (.click field.force)
          pure ()
        else pure ()) := by
    split
    · exact .andThen (.element target (.click field.force)) fun _ => .pure trivial
    · exact .pure trivial
  unfold focus
  dsimp only
  split
  · exact .andThen (.element target (.evaluate focusScript)) fun _ => clicking
  · exact clicking

theorem paste_built (field : Field) (text : String) :
    Built draws waits false (fun _ => True) (paste field text) := by
  apply Built.catchBrowser
  · refine .andThen (.call (.evaluate clipboardScript (some text)) rfl) fun _ => ?_
    exact .call (.keyPress pasteShortcut) rfl
  · intro error
    refine .andThen .log fun _ => ?_
    exact .call (.insertText text) rfl

theorem completeTag_built (proper : timing.Proper) (drawing : 0 < timing.typingDelay → draws) (field : Field)
    {settings : EachTag} (waiting : Timing.IsOverlong settings.settle → waits) (target : Handle) (tag : String) :
    Built draws waits false (fun _ => True) (completeTag timing field settings target tag) := by
  have entering : Built draws waits false (fun _ => True) (enterTag timing field settings target tag) := by
    unfold enterTag
    split
    · refine .andThen (Timing.keystrokeDelay_built proper drawing _) fun delay => ?_
      exact .andThen (.element target (.pressSequentially tag delay)) fun _ => .pure trivial
    · exact paste_built field tag
    · exact .call (.insertText tag) rfl
  unfold completeTag
  refine .andThen entering fun _ => ?_
  refine .andThen (Timing.pause_built waiting) fun _ => ?_
  exact .andThen (.element target (.press "Enter")) fun _ => .pure trivial

theorem furtherTags_built (proper : timing.Proper) (drawing : 0 < timing.typingDelay → draws) (field : Field)
    {settings : EachTag} (waiting : Timing.IsOverlong settings.settle → waits) (target : Handle) (tags : List String) :
    Built draws waits false (fun _ => True) (furtherTags timing field settings target tags) := by
  induction tags with
  | nil => exact .pure trivial
  | cons tag tags ih =>
    have entering : Built draws waits false (fun _ => True) (do
        completeTag timing field settings target tag
        furtherTags timing field settings target tags) :=
      .andThen (completeTag_built proper drawing field waiting target tag) fun _ => ih
    unfold furtherTags
    dsimp only
    split
    · exact .andThen (focus_built field settings target) fun _ => entering
    · exact entering

theorem runEachTag_built (proper : timing.Proper) (drawing : 0 < timing.typingDelay → draws) {settings : EachTag}
    (waiting : Timing.IsOverlong settings.settle → waits) (record : Json) (value : String) :
    Built draws waits false (·.Plain field) (runEachTag timing field settings record value) := by
  unfold runEachTag
  split
  · exact skip_built field _ _
  · refine .andThen (Locating.locateTagInput_built field settings) fun found => ?_
    cases found with
    | none => exact skip_built field _ _
    | some target =>
      refine .andThen (timing.scrollIntoView_built target _ _) fun _ => ?_
      refine .andThen (focus_built field settings target) fun _ => ?_
      refine .andThen (completeTag_built proper drawing field waiting target _) fun _ => ?_
      refine .andThen (furtherTags_built proper drawing field waiting target _) fun _ => ?_
      exact .pure (Outcome.applied_plain field _)

end Action

namespace Executor

open Act

variable {draws waits : Prop} {timing : Timing}

theorem interact_built (proper : timing.Proper) (drawing : 0 < timing.typingDelay → draws) {field : Field}
    (waiting : field.Lingers → waits) (record : Json) (value : String) :
    Built draws waits false (·.Plain field) (interact timing field record value) := by
  unfold interact
  split
  · rename_i settings filling
    refine Action.runFill_built proper drawing (fun pressing overlong => waiting ?_) value
    simpa only [Field.Lingers, Field.pause, filling, pressing, ↓reduceIte] using overlong
  · rename_i settings typing
    refine Action.runType_built proper drawing (fun pressing overlong => waiting ?_) value
    simpa only [Field.Lingers, Field.pause, typing, pressing, ↓reduceIte] using overlong
  · exact Action.runClick_built _
  · exact Action.runCheck_built _
  · exact Action.runSelect_built value
  · exact Action.runEachText_built _ record
  · rename_i settings tagging
    refine Action.runEachTag_built proper drawing (fun overlong => waiting ?_) record value
    simpa only [Field.Lingers, Field.pause, tagging] using overlong

/-- Every handler deals with the page alone and tells of its field; it fails only with the error of a
    call that is not soft, or with a pause that is too long. -/
theorem interact_interacts (proper : timing.Proper) (field : Field) (record : Json) (value : String) :
    Interacts field.Lingers false (·.Plain field) (interact timing field record value) := by
  have built : Built True field.Lingers false (·.Plain field) (interact timing field record value) :=
    interact_built proper (fun _ => trivial) id record value
  exact built.interacts

end Executor
end FormFill
