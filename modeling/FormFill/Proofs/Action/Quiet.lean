import FormFill.Executor
import FormFill.Proofs.Browser.Pacing

namespace FormFill

/-- The text that an event puts into an element or offers it for choice. -/
def Event.text? : Event → Option String
  | .element _ (.fill text) | .element _ (.pressSequentially text _) | .element _ (.selectOption text) => some text
  | .call (.insertText text) => some text
  | .call (.evaluate _ argument) => argument
  | _ => none

/-- Whether an event enters no text and draws no number, and is no sleep for nothing. -/
def Event.isQuiet : Event → Bool
  | .draw .. => false
  | .sleep milliseconds => 0 < milliseconds
  | event => event.text?.isNone

open Act

namespace Timing

theorem pause_quiet (milliseconds : Int) : Confined Event.isQuiet (pause milliseconds) :=
  pause_confined (fun _ => decide_eq_true) milliseconds

theorem scrollIntoView_confined {kind : Event → Bool}
    (ofKind : ∀ handle timeout, kind (.element handle (.scrollIntoView timeout)) = true) (timing : Timing)
    (handle : Handle) (fieldName : String) (skip : Bool) :
    Confined kind (timing.scrollIntoView handle fieldName skip) := by
  unfold scrollIntoView
  split
  · exact .pure _
  · apply Confined.catchBrowser
    · exact .bind (.perform (ofKind _ _)) fun _ => .pure _
    · exact fun _ => .bind (.log _ _ _ _) fun _ => .pure _

theorem scrollIntoView_quiet (timing : Timing) (handle : Handle) (fieldName : String) (skip : Bool) :
    Confined Event.isQuiet (timing.scrollIntoView handle fieldName skip) :=
  scrollIntoView_confined (fun _ _ => rfl) timing handle fieldName skip

theorem scrollPageBottom_confined {kind : Event → Bool} (scrolls : kind (.call (.evaluate bottomScript none)) = true)
    (waits : kind (.call (.waitForTimeout settleTime)) = true) : Confined kind scrollPageBottom := by
  unfold scrollPageBottom
  apply Confined.catchBrowser
  · refine .bind (.call scrolls) fun _ => ?_
    exact .bind (.call waits) fun _ => .pure _
  · exact fun _ => .bind (.log _ _ _ _) fun _ => .pure _

theorem scrollPageBottom_quiet : Confined Event.isQuiet scrollPageBottom :=
  scrollPageBottom_confined rfl rfl

end Timing

namespace Locating

theorem locate_quiet (field : Field) : Confined Event.isQuiet (locate field) := by
  rw [locate_eq]
  split
  · exact .bind (.lookup rfl) fun _ => .pure _
  · exact .pure _

theorem narrow_quiet (field : Field) (settings : EachTag) (container : Handle) :
    Confined Event.isQuiet (narrow field settings container) := by
  unfold narrow editableTarget
  split
  · refine .bind (.lookup rfl) fun inner => ?_
    refine .bind (.count rfl) fun count => ?_
    split
    · exact .pure _
    · refine .bind (.element rfl) fun node => ?_
      split
      · exact .pure _
      · exact .bind (.log _ _ _ _) fun _ => .pure _
  · exact .pure _

theorem siblingControl_quiet (field : Field) (anchor : String) :
    Confined Event.isQuiet (siblingControl field anchor) := by
  unfold siblingControl
  refine .bind (.lookup rfl) fun label => ?_
  refine .bind (.count rfl) fun count => ?_
  split
  · exact .pure _
  · refine .bind (.lookup rfl) fun sibling => ?_
    refine .bind (.count rfl) fun count => ?_
    split
    · exact .pure _
    · exact .bind (.log _ _ _ _) fun _ => .pure _

theorem locateTagInput_quiet (field : Field) (settings : EachTag) :
    Confined Event.isQuiet (locateTagInput field settings) := by
  have direct : Confined Event.isQuiet (directTagInput field settings) := by
    unfold directTagInput
    refine .bind (locate_quiet field) fun found => ?_
    split
    · exact .pure _
    · refine .bind (.count rfl) fun count => ?_
      split
      · exact narrow_quiet field settings _
      · exact .pure _
  have sibling : Confined Event.isQuiet (siblingTagInput field settings) := by
    unfold siblingTagInput
    split
    · exact .pure _
    · split
      · refine .bind (siblingControl_quiet field _) fun found => ?_
        split
        · exact narrow_quiet field settings _
        · exact .pure _
      · exact .pure _
  unfold locateTagInput
  refine .bind direct fun found => ?_
  split
  · exact .pure _
  · refine .bind sibling fun found => ?_
    split
    · exact .pure _
    · exact .bind (.log _ _ _ _) fun _ => .pure _

end Locating

namespace Action

variable {field : Field}

theorem skip_quiet (field : Field) (reason : String) (detail : Detail) :
    Confined Event.isQuiet (skip field reason detail) :=
  .bind (.log _ _ _ _) fun _ => .pure _

theorem target_quiet (timing : Timing) (field : Field) : Confined Event.isQuiet (target timing field) := by
  unfold target
  refine .bind (Locating.locate_quiet field) fun found => ?_
  split
  · exact .pure _
  · refine .bind (.count rfl) fun count => ?_
    split
    · exact .pure _
    · exact .bind (timing.scrollIntoView_quiet _ _ _) fun _ => .pure _

theorem onTarget_quiet (timing : Timing) {next : Handle → Act Outcome}
    (continues : ∀ handle, Confined Event.isQuiet (next handle)) :
    Confined Event.isQuiet (onTarget timing field next) := by
  unfold onTarget
  refine .bind (target_quiet timing field) fun found => ?_
  split
  · exact continues _
  · exact skip_quiet _ _ _

theorem pressEnter_quiet (handle : Handle) (delay : Nat) : Confined Event.isQuiet (pressEnter handle delay) :=
  .bind (.element rfl) fun _ => Timing.pause_quiet delay

theorem runClick_quiet (timing : Timing) (field : Field) (settings : Click) :
    Confined Event.isQuiet (runClick timing field settings) := by
  refine onTarget_quiet timing fun target => ?_
  have clicking : Confined Event.isQuiet (do
      let _ ← Act.element target (.click field.force)
      return Outcome.applied field .none) :=
    .bind (.element rfl) fun _ => .pure _
  dsimp only
  split
  · refine .bind (.element rfl) fun node => ?_
    split
    · exact .bind (.call rfl) fun _ => .pure _
    · exact .bind (.log _ _ _ _) fun _ => clicking
  · exact clicking

theorem readChecked_quiet (field : Field) (indicator : Handle) :
    Confined Event.isQuiet (readChecked field indicator) := by
  apply Confined.catchBrowser
  · exact .bind (.element rfl) fun _ => .pure _
  · exact fun _ => .bind (.log _ _ _ _) fun _ => .pure _

theorem alreadyChecked_quiet (field : Field) (settings : Check) (target : Handle) :
    Confined Event.isQuiet (alreadyChecked field settings target) := by
  unfold alreadyChecked
  split
  · exact readChecked_quiet field target
  · refine .bind (.lookup rfl) fun indicator => ?_
    refine .bind (.count rfl) fun count => ?_
    split
    · exact .pure _
    · exact readChecked_quiet field indicator.first

theorem runCheck_quiet (timing : Timing) (field : Field) (settings : Check) :
    Confined Event.isQuiet (runCheck timing field settings) := by
  refine onTarget_quiet timing fun target => ?_
  have asked : Confined Event.isQuiet (if (given settings.indicator).isSome || settings.skipIfChecked then
      alreadyChecked field settings target else pure false) := by
    split
    · exact alreadyChecked_quiet field settings target
    · exact .pure _
  refine .bind asked fun checked => ?_
  split
  · exact skip_quiet _ _ _
  · exact .bind (.element rfl) fun _ => .pure _

theorem forTexts_quiet {step : String → Act Bool} (each : ∀ text, Confined Event.isQuiet (step text))
    (texts : List String) : Confined Event.isQuiet (forTexts step texts) := by
  induction texts with
  | nil => exact .pure _
  | cons text texts ih => exact .bind (each text) fun _ => .bind ih fun _ => .pure _

theorem clickFound_quiet (timing : Timing) (field : Field) (found target : Handle) :
    Confined Event.isQuiet (do
      let _ ← timing.scrollIntoView found field.displayName field.skipScroll
      let _ ← Act.element target (.click field.force)
      return true) := by
  refine .bind (timing.scrollIntoView_quiet _ _ _) fun _ => ?_
  exact .bind (.element rfl) fun _ => .pure _

theorem textNotFound_quiet (field : Field) (text : String) : Confined Event.isQuiet (textNotFound field text) :=
  .bind (.log _ _ _ _) fun _ => .pure _

theorem clickText_quiet (timing : Timing) (field : Field) (scope : Option Handle) (text : String) :
    Confined Event.isQuiet (clickText timing field scope text) := by
  unfold clickText
  refine .bind (.lookup rfl) fun found => ?_
  refine .bind (.count rfl) fun count => ?_
  split
  · exact textNotFound_quiet field text
  · exact clickFound_quiet timing field _ _

theorem findCandidate_confined {kind : Event → Bool} (ofKind : ∀ handle, kind (.element handle .innerText) = true)
    (wanted : List Char) (candidates : List Handle) : Confined kind (findCandidate wanted candidates) := by
  induction candidates with
  | nil => exact .pure _
  | cons candidate candidates ih =>
    have read : Confined kind (candidateText? candidate) :=
      .catchBrowser (.bind (.element (ofKind candidate)) fun _ => .pure _) fun _ => .pure _
    refine .bind read fun text => ?_
    split
    · split
      · exact .pure _
      · exact ih
    · exact ih

theorem clickNormalized_quiet (timing : Timing) (field : Field) (candidates : List Handle) (text : String) :
    Confined Event.isQuiet (clickNormalized timing field candidates text) := by
  unfold clickNormalized
  refine .bind (findCandidate_confined (fun _ => rfl) _ candidates) fun found => ?_
  split
  · exact textNotFound_quiet field text
  · exact clickFound_quiet timing field _ _

theorem clickTexts_quiet (timing : Timing) (field : Field) (settings : EachText) (texts : List String) :
    Confined Event.isQuiet (clickTexts timing field settings texts) := by
  unfold clickTexts
  split
  · exact forTexts_quiet (clickText_quiet timing field none) texts
  · refine .bind (.lookup rfl) fun scope => ?_
    split
    · unfold candidates
      refine .bind (.bind (.lookup rfl) fun _ => .bind (.element rfl) fun _ => .pure _) fun handles => ?_
      exact forTexts_quiet (clickNormalized_quiet timing field handles) texts
    · exact forTexts_quiet (clickText_quiet timing field (some scope)) texts

theorem runEachText_quiet (timing : Timing) (field : Field) (settings : EachText) (record : Json) :
    Confined Event.isQuiet (runEachText timing field settings record) := by
  unfold runEachText
  dsimp only
  split
  · exact skip_quiet _ _ _
  · refine .bind (clickTexts_quiet timing field settings _) fun clicks => ?_
    split
    · exact skip_quiet _ _ _
    · exact .pure _

theorem focus_quiet (field : Field) (settings : EachTag) (target : Handle) :
    Confined Event.isQuiet (focus field settings target) := by
  have clicking : Confined Event.isQuiet (if settings.focus ≠ .script then do
      let _ ← Act.element target (.click field.force)
      pure ()
    else pure ()) := by
    split
    · exact .bind (.element rfl) fun _ => .pure _
    · exact .pure _
  unfold focus
  dsimp only
  split
  · exact .bind (.element rfl) fun _ => clicking
  · exact clicking

end Action
end FormFill
