import FormFill.Executor
import FormFill.Proofs.Browser.Finding

namespace FormFill

/-- Where the field was skipped, nothing has been changed since the earlier events. -/
def Outcome.Spares (earlier : List Event) (outcome : Outcome) (events : List Event) : Prop :=
  outcome.status = .skipped → Still earlier → Still events

theorem Outcome.applied_spares {earlier events : List Event} (field : Field) (detail : Detail) :
    (applied field detail).Spares earlier events := nofun

namespace Action

open Act

variable {page : Page} {before earlier : List Event} {still : Bool} {timing : Timing} {field : Field}

theorem skip_handles {now : List Event} (unchanged : Still earlier → Still now) (field : Field)
    (reason : String) (detail : Detail) :
    Handles page before now still (Outcome.Spares earlier) (skip field reason detail) :=
  .after .log fun _ _ quiet _ => .pure fun _ start => (unchanged start).append quiet

theorem target_handles (timing : Timing) (field : Field) :
    Handles page before earlier still (page.Finds before) (target timing field) := by
  unfold target
  refine .bind (Locating.locate_handles field) fun found first looked => ?_
  cases found with
  | none => exact .pure .none
  | some handle =>
    refine .bind (.count (looked handle rfl)) fun number second counted => ?_
    split
    · exact .pure .none
    · rename_i present
      refine .bind (timing.scrollIntoView_handles handle _ _) fun _ third _ => ?_
      exact .pure (.some ((counted present).append third))

theorem onTarget_handles {next : Handle → Act Outcome}
    (continues : ∀ handle added, Still added → page.Obtained before (earlier ++ added) handle →
      Handles page before (earlier ++ added) false (Outcome.Spares earlier) (next handle)) :
    Handles page before earlier false (Outcome.Spares earlier) (onTarget timing field next) := by
  unfold onTarget
  refine .after (target_handles timing field) fun found added quiet obtained => ?_
  cases found with
  | none => exact skip_handles (fun start => start.append quiet) field _ _
  | some handle => exact continues handle added quiet (obtained handle rfl)

theorem pressEnter_handles {handle : Handle} (obtained : page.Obtained before earlier handle) (delay : Nat) :
    Handles page before earlier false (fun _ _ => True) (pressEnter handle delay) := by
  unfold pressEnter
  refine .bind (.touch obtained) fun _ _ _ => ?_
  exact Timing.pause_handles delay

theorem runFill_handles (settings : Fill) (value : String) :
    Handles page before earlier false (Outcome.Spares earlier) (runFill timing field settings value) := by
  apply onTarget_handles
  intro target first _ obtained
  refine .bind (timing.keystrokeDelay_handles _) fun delay second _ => ?_
  have obtained := obtained.append second
  have ending : ∀ events, page.Obtained before events target →
      Handles page before events false (Outcome.Spares earlier)
        (if settings.pressEnter = true then do
            pressEnter target settings.enterDelay
            pure (Outcome.applied field (.typed (delay ≠ 0)))
          else pure (Outcome.applied field (.typed (delay ≠ 0)))) := by
    intro events obtained
    split
    · refine .bind (pressEnter_handles obtained _) fun _ _ _ => ?_
      exact .pure (Outcome.applied_spares field _)
    · exact .pure (Outcome.applied_spares field _)
  dsimp only
  split
  · refine .bind (.touch obtained) fun _ third _ => ?_
    refine .bind (.touch (obtained.append third)) fun _ fourth _ => ?_
    exact ending _ ((obtained.append third).append fourth)
  · split
    · refine .bind (.touch obtained) fun _ third _ => ?_
      refine .bind (.touch (obtained.append third)) fun _ fourth _ => ?_
      exact ending _ ((obtained.append third).append fourth)
    · refine .bind (.touch obtained) fun _ third _ => ?_
      exact ending _ (obtained.append third)

theorem runType_handles (settings : TypeKeys) (value : String) :
    Handles page before earlier false (Outcome.Spares earlier) (runType timing field settings value) := by
  apply onTarget_handles
  intro target first _ obtained
  refine .bind (timing.keystrokeDelay_handles _) fun delay second _ => ?_
  refine .bind (.touch (obtained.append second)) fun _ third _ => ?_
  dsimp only
  split
  · refine .bind (pressEnter_handles ((obtained.append second).append third) _) fun _ _ _ => ?_
    exact .pure (Outcome.applied_spares field _)
  · exact .pure (Outcome.applied_spares field _)

theorem runSelect_handles (value : String) :
    Handles page before earlier false (Outcome.Spares earlier) (runSelect timing field value) := by
  apply onTarget_handles
  intro target first _ obtained
  exact .bind (.touch obtained) fun _ _ _ => .pure (Outcome.applied_spares field _)

theorem runClick_handles (settings : Click) :
    Handles page before earlier false (Outcome.Spares earlier) (runClick timing field settings) := by
  apply onTarget_handles
  intro target first _ obtained
  have ending : ∀ events, page.Obtained before events target →
      Handles page before events false (Outcome.Spares earlier) (do
        let _ ← Act.element target (.click field.force)
        pure (Outcome.applied field .none)) := fun _ obtained =>
    .bind (.touch obtained) fun _ _ _ => .pure (Outcome.applied_spares field _)
  dsimp only
  split
  · refine .bind (.look rfl) fun node second _ => ?_
    split
    · exact .bind (.call nofun) fun _ _ _ => .pure (Outcome.applied_spares field _)
    · exact .bind .log fun _ third _ => ending _ ((obtained.append second).append third)
  · exact ending _ obtained

theorem readChecked_handles (field : Field) (indicator : Handle) :
    Handles page before earlier still (fun _ _ => True) (readChecked field indicator) := by
  apply Handles.catchBrowser
  · exact .bind (.look rfl) fun _ _ _ => .pure trivial
  · intro error added
    exact .bind .log fun _ _ _ => .pure trivial

theorem alreadyChecked_handles (field : Field) (settings : Check) (target : Handle) :
    Handles page before earlier still (fun _ _ => True) (alreadyChecked field settings target) := by
  unfold alreadyChecked
  split
  · exact readChecked_handles field target
  · refine .bind (.lookup none _) fun indicator first looked => ?_
    refine .bind (.count looked) fun number second _ => ?_
    split
    · exact .pure trivial
    · exact readChecked_handles field indicator.first

theorem runCheck_handles (settings : Check) :
    Handles page before earlier false (Outcome.Spares earlier) (runCheck timing field settings) := by
  apply onTarget_handles
  intro target first quiet obtained
  have asked : Handles page before (earlier ++ first) true (fun _ _ => True)
      (if (given settings.indicator).isSome || settings.skipIfChecked then
        alreadyChecked field settings target else pure false) := by
    split
    · exact alreadyChecked_handles field settings target
    · exact .pure trivial
  refine .after asked fun checked second further _ => ?_
  split
  · exact skip_handles (fun start => (start.append quiet).append further) field _ _
  · refine .bind (.touch (obtained.append second)) fun _ _ _ => ?_
    exact .pure (Outcome.applied_spares field _)

theorem textNotFound_handles {now : List Event} (unchanged : Still earlier → Still now) (field : Field)
    (text : String) :
    Handles page before now still (fun found events => found = false → Still earlier → Still events)
      (textNotFound field text) :=
  .after .log fun _ _ quiet _ => .pure fun _ start => (unchanged start).append quiet

theorem forTexts_handles {step : String → Act Bool} (texts : List String)
    (each : ∀ text added, Handles page before (earlier ++ added) false
      (fun found events => found = false → Still (earlier ++ added) → Still events) (step text)) :
    Handles page before earlier false (fun clicks events => clicks.clicked = [] → Still earlier → Still events)
      (forTexts step texts) := by
  induction texts generalizing earlier with
  | nil => exact .pure fun _ start => start
  | cons text texts ih =>
    have here := each text []
    rw [List.append_nil] at here
    refine .bind here fun found first spared => ?_
    have later : ∀ text added, Handles page before (earlier ++ first ++ added) false
        (fun found events => found = false → Still (earlier ++ first ++ added) → Still events) (step text) := by
      intro text added
      rw [List.append_assoc]
      exact each text (first ++ added)
    refine .bind (ih later) fun clicks second clean => .pure fun none start => ?_
    -- A text that was found has been clicked, so nothing clicked means that none was found.
    cases found with
    | true => cases none
    | false =>
      rw [List.append_assoc] at clean ⊢
      exact clean none (spared rfl start)

/-- A text that is not found has changed nothing. -/
theorem clickText_handles (timing : Timing) (field : Field) (scope : Option Handle) (text : String) :
    Handles page before earlier false (fun found events => found = false → Still earlier → Still events)
      (clickText timing field scope text) := by
  unfold clickText
  refine .after (.lookup scope _) fun found first quiet looked => ?_
  refine .after (.count looked) fun number second further counted => ?_
  split
  · exact textNotFound_handles (fun start => (start.append quiet).append further) field text
  · rename_i present
    refine .bind (timing.scrollIntoView_handles found _ _) fun _ third _ => ?_
    exact .bind (.touch ((counted present).append third)) fun _ _ _ => .pure nofun

theorem candidateText_handles (candidate : Handle) :
    Handles page before earlier still (fun _ _ => True) (candidateText? candidate) := by
  apply Handles.catchBrowser
  · exact .bind (.look rfl) fun _ _ _ => .pure trivial
  · intro error added
    exact .pure trivial

theorem findCandidate_handles (wanted : List Char) (handles : List Handle) :
    Handles page before earlier still (fun found _ => ∀ handle ∈ found, handle ∈ handles)
      (findCandidate wanted handles) := by
  induction handles generalizing earlier with
  | nil => exact .pure nofun
  | cons candidate handles ih =>
    have among : ∀ events, Handles page before events still
        (fun found _ => ∀ handle ∈ found, handle ∈ candidate :: handles) (findCandidate wanted handles) :=
      fun _ => ih.weaken fun _ _ member handle same => List.mem_cons_of_mem candidate (member handle same)
    refine .bind (candidateText_handles candidate) fun text added _ => ?_
    cases text with
    | none => exact among _
    | some text =>
      dsimp only
      split
      · refine .pure fun handle same => ?_
        cases same
        exact List.mem_cons_self
      · exact among _

theorem clickNormalized_handles (timing : Timing) (field : Field) {handles : List Handle}
    (obtained : ∀ handle ∈ handles, page.Obtained before earlier handle) (text : String) :
    Handles page before earlier false (fun found events => found = false → Still earlier → Still events)
      (clickNormalized timing field handles text) := by
  unfold clickNormalized
  refine .after (findCandidate_handles _ handles) fun found first quiet member => ?_
  cases found with
  | none => exact textNotFound_handles (fun start => start.append quiet) field text
  | some candidate =>
    have known := (obtained candidate (member candidate rfl)).append first
    refine .bind (timing.scrollIntoView_handles candidate _ _) fun _ second _ => ?_
    exact .bind (.touch (known.append second)) fun _ _ _ => .pure nofun

theorem candidates_handles (settings : EachText) (scope : Handle) :
    Handles page before earlier still (fun handles events => ∀ handle ∈ handles, page.Obtained before events handle)
      (candidates settings scope) := by
  unfold candidates
  refine .bind (.lookup (some scope) _) fun found first looked => ?_
  refine .bind (.look rfl) fun node second listed => .pure fun handle member => ?_
  rw [listed.1] at member
  obtain ⟨name, inside, rfl⟩ := List.mem_map.mp member
  exact .listed (looked.append second) listed.2 inside

theorem clickTexts_handles (timing : Timing) (field : Field) (settings : EachText) (texts : List String) :
    Handles page before earlier false (fun clicks events => clicks.clicked = [] → Still earlier → Still events)
      (clickTexts timing field settings texts) := by
  unfold clickTexts
  split
  · exact forTexts_handles texts fun text _ => clickText_handles timing field none text
  · refine .after (.lookup none _) fun scope first quiet _ => ?_
    split
    · refine .after (candidates_handles settings scope) fun handles second further obtained => ?_
      refine (forTexts_handles texts fun text added => ?_).weaken fun clicks _ spared none start =>
        spared none ((start.append quiet).append further)
      exact clickNormalized_handles timing field (fun handle member => (obtained handle member).append added) text
    · refine (forTexts_handles texts fun text _ => ?_).weaken fun clicks _ spared none start =>
        spared none (start.append quiet)
      exact clickText_handles timing field (some scope) text

theorem runEachText_handles (settings : EachText) (record : Json) :
    Handles page before earlier false (Outcome.Spares earlier) (runEachText timing field settings record) := by
  unfold runEachText
  dsimp only
  split
  · exact skip_handles id field _ _
  · refine .bind (clickTexts_handles timing field settings _) fun clicks added spared => ?_
    split
    · rename_i none
      exact skip_handles (spared none) field _ _
    · exact .pure (Outcome.applied_spares field _)

theorem focus_handles (field : Field) (settings : EachTag) {target : Handle}
    (obtained : page.Obtained before earlier target) :
    Handles page before earlier false (fun _ _ => True) (focus field settings target) := by
  have clicking : ∀ events, page.Obtained before events target →
      Handles page before events false (fun _ _ => True)
        (if settings.focus ≠ Focus.script then do
            let _ ← Act.element target (.click field.force)
            pure ()
          else pure ()) := by
    intro events obtained
    split
    · exact .bind (.touch obtained) fun _ _ _ => .pure trivial
    · exact .pure trivial
  unfold focus
  dsimp only
  split
  · exact .bind (.touch obtained) fun _ added _ => clicking _ (obtained.append added)
  · exact clicking _ obtained

theorem paste_handles (field : Field) (text : String) :
    Handles page before earlier false (fun _ _ => True) (paste field text) := by
  apply Handles.catchBrowser
  · exact .bind (.call nofun) fun _ _ _ => .call nofun
  · intro error added
    exact .bind .log fun _ _ _ => .call nofun

theorem completeTag_handles (timing : Timing) (field : Field) (settings : EachTag) {target : Handle}
    (obtained : page.Obtained before earlier target) (tag : String) :
    Handles page before earlier false (fun _ _ => True) (completeTag timing field settings target tag) := by
  have entering : Handles page before earlier false (fun _ _ => True)
      (enterTag timing field settings target tag) := by
    unfold enterTag
    split
    · refine .bind (timing.keystrokeDelay_handles _) fun delay added _ => ?_
      exact .bind (.touch (obtained.append added)) fun _ _ _ => .pure trivial
    · exact paste_handles field tag
    · exact .call nofun
  unfold completeTag
  refine .bind entering fun _ first _ => ?_
  refine .bind (Timing.pause_handles _) fun _ second _ => ?_
  exact .bind (.touch ((obtained.append first).append second)) fun _ _ _ => .pure trivial

theorem furtherTags_handles (timing : Timing) (field : Field) (settings : EachTag) {target : Handle}
    (obtained : page.Obtained before earlier target) (tags : List String) :
    Handles page before earlier false (fun _ _ => True) (furtherTags timing field settings target tags) := by
  induction tags generalizing earlier with
  | nil => exact .pure trivial
  | cons tag tags ih =>
    have entering : ∀ events, page.Obtained before events target →
        Handles page before events false (fun _ _ => True) (do
          completeTag timing field settings target tag
          furtherTags timing field settings target tags) := fun _ obtained =>
      .bind (completeTag_handles timing field settings obtained tag) fun _ added _ => ih (obtained.append added)
    unfold furtherTags
    dsimp only
    split
    · exact .bind (focus_handles field settings obtained) fun _ added _ => entering _ (obtained.append added)
    · exact entering _ obtained

theorem runEachTag_handles (settings : EachTag) (record : Json) (value : String) :
    Handles page before earlier false (Outcome.Spares earlier)
      (runEachTag timing field settings record value) := by
  unfold runEachTag
  split
  · exact skip_handles id field _ _
  · refine .after (Locating.locateTagInput_handles field settings) fun found first quiet obtained => ?_
    cases found with
    | none => exact skip_handles (fun start => start.append quiet) field _ _
    | some target =>
      have known := obtained target rfl
      refine .bind (timing.scrollIntoView_handles target _ _) fun _ second _ => ?_
      have known := known.append second
      refine .bind (focus_handles field settings known) fun _ third _ => ?_
      have known := known.append third
      refine .bind (completeTag_handles timing field settings known _) fun _ fourth _ => ?_
      have known := known.append fourth
      refine .bind (furtherTags_handles timing field settings known _) fun _ _ _ => ?_
      exact .pure (Outcome.applied_spares field _)

end Action
end FormFill
