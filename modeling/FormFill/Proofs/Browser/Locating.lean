import FormFill.Browser.Locating
import FormFill.Proofs.Act.Built

namespace FormFill.Locating

open Act

variable {draws waits : Prop}

theorem locate_built (field : Field) {soft : Bool} :
    Built draws waits soft (fun _ => True) (locate field) := by
  rw [locate_eq]
  split
  · exact .andThen (.lookup none _) fun _ => .pure trivial
  · exact .pure trivial

theorem editableTarget_built (field : Field) (container : Handle) :
    Built draws waits false (fun _ => True) (editableTarget field container) := by
  unfold editableTarget
  refine .andThen (.lookup (some container) _) fun inner => ?_
  refine .andThen (.count inner) fun count => ?_
  split
  · exact .pure trivial
  · refine .andThen (.element container (.evaluate isEditableScript)) fun node => ?_
    split
    · exact .pure trivial
    · exact .andThen .log fun _ => .pure trivial

theorem narrow_built (field : Field) (settings : EachTag) (container : Handle) :
    Built draws waits false (fun _ => True) (narrow field settings container) := by
  unfold narrow
  split
  · exact editableTarget_built field container
  · exact .pure trivial

theorem siblingControl_built (field : Field) (anchor : String) :
    Built draws waits false (fun _ => True) (siblingControl field anchor) := by
  unfold siblingControl
  refine .andThen (.lookup none _) fun label => ?_
  refine .andThen (.count label) fun count => ?_
  split
  · exact .pure trivial
  · refine .andThen (.lookup (some label.first) _) fun sibling => ?_
    refine .andThen (.count sibling) fun count => ?_
    split
    · exact .pure trivial
    · exact .andThen .log fun _ => .pure trivial

theorem directTagInput_built (field : Field) (settings : EachTag) :
    Built draws waits false (fun _ => True) (directTagInput field settings) := by
  unfold directTagInput
  refine .andThen (locate_built field) fun found => ?_
  cases found with
  | none => exact .pure trivial
  | some direct =>
    refine .andThen (.count direct) fun count => ?_
    split
    · exact narrow_built field settings direct.first
    · exact .pure trivial

theorem siblingTagInput_built (field : Field) (settings : EachTag) :
    Built draws waits false (fun _ => True) (siblingTagInput field settings) := by
  unfold siblingTagInput
  split
  · exact .pure trivial
  · split
    · refine .andThen (siblingControl_built field _) fun found => ?_
      cases found with
      | none => exact .pure trivial
      | some sibling => exact narrow_built field settings sibling
    · exact .pure trivial

theorem locateTagInput_built (field : Field) (settings : EachTag) :
    Built draws waits false (fun _ => True) (locateTagInput field settings) := by
  unfold locateTagInput
  refine .andThen (directTagInput_built field settings) fun direct => ?_
  cases direct with
  | some target => exact .pure trivial
  | none =>
    refine .andThen (siblingTagInput_built field settings) fun sibling => ?_
    cases sibling with
    | some target => exact .pure trivial
    | none => exact .andThen .log fun _ => .pure trivial

end FormFill.Locating
