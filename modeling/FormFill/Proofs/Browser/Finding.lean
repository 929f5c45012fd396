import FormFill.Proofs.Browser.Handling

namespace FormFill

variable {page : Page} {before earlier : List Event} {still : Bool}

namespace Timing

open Act

theorem keystrokeDelay_handles (timing : Timing) (suppressed : Bool) :
    Handles page before earlier still (fun _ _ => True) (timing.keystrokeDelay suppressed) := by
  unfold keystrokeDelay typingJitter jitter
  split
  · exact .pure trivial
  · split
    · exact .pure trivial
    · exact .draw _ _

theorem pause_handles (milliseconds : Int) :
    Handles page before earlier still (fun _ _ => True) (pause milliseconds) := by
  unfold pause
  split
  · exact .pure trivial
  · split
    · exact (Handles.note rfl).weaken fun _ _ _ => trivial
    · exact .fail

theorem scrollIntoView_handles (timing : Timing) (handle : Handle) (fieldName : String) (skip : Bool) :
    Handles page before earlier still (fun _ _ => True) (timing.scrollIntoView handle fieldName skip) := by
  unfold scrollIntoView
  split
  · exact .pure trivial
  · apply Handles.catchBrowser
    · have harmless : Event.mutates (.element handle.first (.scrollIntoView timing.scrollTimeout)) = false := rfl
      refine .bind (.perform (fun _ => harmless) (.of_still (.singleton harmless))) fun _ _ _ => ?_
      exact .pure trivial
    · intro error added
      exact .bind .log fun _ _ _ => .pure trivial

theorem scrollPageBottom_handles : Handles page before earlier still (fun _ _ => True) scrollPageBottom := by
  unfold scrollPageBottom
  apply Handles.catchBrowser
  · have harmless : Call.mutates (.evaluate bottomScript none) = false := by decide
    refine .bind (.call fun _ => harmless) fun _ _ _ => ?_
    exact .bind (.call fun _ => rfl) fun _ _ _ => .pure trivial
  · intro error added
    exact .bind .log fun _ _ _ => .pure trivial

end Timing

namespace Locating

open Act

theorem locate_handles (field : Field) :
    Handles page before earlier still (fun found events => ∀ handle ∈ found, page.Looked events handle)
      (locate field) := by
  rw [locate_eq]
  split
  · refine .bind (.lookup none _) fun handle added looked => .pure ?_
    intro other same
    cases same
    exact looked
  · exact .pure nofun

theorem editableTarget_handles (field : Field) {container : Handle}
    (obtained : page.Obtained before earlier container) :
    Handles page before earlier still (page.Finds before) (editableTarget field container) := by
  unfold editableTarget
  refine .bind (.lookup (some container) _) fun inner first looked => ?_
  refine .bind (.count looked) fun number second counted => ?_
  split
  · rename_i positive
    exact .pure (.some (counted (by omega)))
  · have harmless : ElementCall.mutates (.evaluate isEditableScript) = false := by decide
    refine .bind (.look harmless) fun node third _ => ?_
    split
    · exact .pure (.some (((obtained.append first).append second).append third))
    · exact .bind .log fun _ _ _ => .pure .none

theorem narrow_handles (field : Field) (settings : EachTag) {container : Handle}
    (obtained : page.Obtained before earlier container) :
    Handles page before earlier still (page.Finds before) (narrow field settings container) := by
  unfold narrow
  split
  · exact editableTarget_handles field obtained
  · exact .pure (.some obtained)

theorem siblingControl_handles (field : Field) (anchor : String) :
    Handles page before earlier still (page.Finds before) (siblingControl field anchor) := by
  unfold siblingControl
  refine .bind (.lookup none _) fun label first labelled => ?_
  refine .bind (.count labelled) fun number second _ => ?_
  split
  · exact .pure .none
  · refine .bind (.lookup (some label.first) _) fun sibling third looked => ?_
    refine .bind (.count looked) fun number fourth counted => ?_
    split
    · exact .pure .none
    · rename_i present
      exact .bind .log fun _ fifth _ => .pure (.some ((counted present).append fifth))

theorem directTagInput_handles (field : Field) (settings : EachTag) :
    Handles page before earlier still (page.Finds before) (directTagInput field settings) := by
  unfold directTagInput
  refine .bind (locate_handles field) fun found first looked => ?_
  cases found with
  | none => exact .pure .none
  | some direct =>
    refine .bind (.count (looked direct rfl)) fun number second counted => ?_
    split
    · rename_i positive
      exact narrow_handles field settings (counted (by omega))
    · exact .pure .none

theorem siblingTagInput_handles (field : Field) (settings : EachTag) :
    Handles page before earlier still (page.Finds before) (siblingTagInput field settings) := by
  unfold siblingTagInput
  split
  · exact .pure .none
  · split
    · refine .bind (siblingControl_handles field _) fun found first obtained => ?_
      cases found with
      | none => exact .pure .none
      | some sibling => exact narrow_handles field settings (obtained sibling rfl)
    · exact .pure .none

theorem locateTagInput_handles (field : Field) (settings : EachTag) :
    Handles page before earlier still (page.Finds before) (locateTagInput field settings) := by
  unfold locateTagInput
  refine .bind (directTagInput_handles field settings) fun direct first obtained => ?_
  cases direct with
  | some target => exact .pure obtained
  | none =>
    refine .bind (siblingTagInput_handles field settings) fun sibling second obtained => ?_
    cases sibling with
    | some target => exact .pure obtained
    | none => exact .bind .log fun _ _ _ => .pure .none

end Locating
end FormFill
