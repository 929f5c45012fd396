import FormFill.Proofs.Schema.Checked
import FormFill.Field.Reader
import Mathlib.Logic.Basic

namespace FormFill

namespace Field

open Schema

variable {first second members : Members} {kind : ActionKind} {field : Field}

theorem readShared_congr
    (same : ∀ key ∈ sharedSpellings.flatten, key ≠ "action" → first.lookup key = second.lookup key) :
    readShared first = readShared second := by
  have shared {α : Type} (part : Attribute α) (declared : part.spellings ∈ sharedSpellings)
      (apart : "action" ∉ part.spellings) : part.of first = part.of second :=
    part.of_congr fun key spelled =>
      same key (List.mem_flatten_of_mem declared spelled) fun named => apart (named ▸ spelled)
  unfold readShared
  repeat refine congrArg₂ Checked.apply ?_ (shared _ (by simp [sharedSpellings]) (by decide))
  rfl

theorem read_eq_valid :
    read (.obj members) = .valid field ↔ ∃ kind, actionKind members = .valid kind ∧ readAs kind members = .valid field := by
  cases named : actionKind members <;> simp [read, named, Checked.andThen, Checked.under_eq_valid]

theorem readAs_eq_valid :
    readAs kind members = .valid field ↔ ∃ make action, readShared members = .valid make ∧
      readAction members kind = .valid (.valid action) ∧ make action = field ∧
      refuseUnknown members (sharedSpellings ++ ownSpellings kind) = .valid () := by
  unfold readAs
  cases shared : readShared members <;> cases own : readAction members kind <;>
    cases unknown : refuseUnknown members (sharedSpellings ++ ownSpellings kind) <;>
    simp [Checked.also, Checked.map, Checked.apply, Checked.andThen]
  rename_i make checked _
  cases checked <;> simp

theorem readShared_makes {make : Action → Field} (read : readShared members = .valid make) (first second : Action) :
    make second = { make first with action := second } := by
  simp only [readShared, Checked.apply_eq_valid, Checked.valid.injEq] at read
  obtain ⟨_, _, ⟨_, _, ⟨_, _, ⟨_, _, ⟨_, _, ⟨_, _, ⟨_, _, ⟨_, _, ⟨_, _, ⟨_, _, ⟨_, _, ⟨_, _, rfl, -, rfl⟩,
    -, rfl⟩, -, rfl⟩, -, rfl⟩, -, rfl⟩, -, rfl⟩, -, rfl⟩, -, rfl⟩, -, rfl⟩, -, rfl⟩, -, rfl⟩, -, rfl⟩ := read
  rfl

/-- What a definition has for each attribute of the tags; the way of entry in the settings is another matter. -/
structure TagsRead (members : Members) (named : Option Entry) (settings : EachTag) : Prop where
  focus : focusAttribute.of members = .valid settings.focus
  entry : entryAttribute.of members = .valid named
  useKeyboard : useKeyboardAttribute.of members = .valid settings.useKeyboard
  usePaste : usePasteAttribute.of members = .valid settings.usePaste
  joinTags : joinTagsAttribute.of members = .valid settings.joinTags
  refocusEachTag : refocusEachTagAttribute.of members = .valid settings.refocusEachTag
  settle : settleAttribute.of members = .valid settings.settle
  tagAnchor : tagAnchorAttribute.of members = .valid settings.tagAnchor
  detectTagInput : detectTagInputAttribute.of members = .valid settings.detectTagInput
  detectSiblingTags : detectSiblingTagsAttribute.of members = .valid settings.detectSiblingTags
  noTypingDelay : noTypingDelayAttribute.of members = .valid settings.noTypingDelay

theorem readAction_tags {checked : Checked Action} :
    readAction members .typeEachTag = .valid checked ↔ ∃ named settings, TagsRead members named settings ∧
      (settledEntry named settings.useKeyboard settings.usePaste).map
        (fun entry => .typeEachTag { settings with entry }) = checked := by
  constructor
  · intro read
    simp only [readAction, Checked.apply_eq_valid, Checked.valid.injEq] at read
    obtain ⟨_, noTypingDelay, ⟨_, detectSiblingTags, ⟨_, detectTagInput, ⟨_, tagAnchor, ⟨_, settle, ⟨_, refocusEachTag,
      ⟨_, joinTags, ⟨_, usePaste, ⟨_, useKeyboard, ⟨_, named, ⟨_, focus, rfl, focused, rfl⟩, entered, rfl⟩, keyed, rfl⟩,
      pasted, rfl⟩, joined, rfl⟩, refocused, rfl⟩, settles, rfl⟩, anchored, rfl⟩, detected, rfl⟩, siblings, rfl⟩, typed,
      made⟩ := read
    let settings : EachTag :=
      ⟨focus, .type, useKeyboard, usePaste, joinTags, refocusEachTag, settle, tagAnchor, detectTagInput,
        detectSiblingTags, noTypingDelay⟩
    exact ⟨named, settings,
      ⟨focused, entered, keyed, pasted, joined, refocused, settles, anchored, detected, siblings, typed⟩, made⟩
  · rintro ⟨named, settings, read, rfl⟩
    simp only [readAction, read.focus, read.entry, read.useKeyboard, read.usePaste, read.joinTags, read.refocusEachTag,
      read.settle, read.tagAnchor, read.detectTagInput, read.detectSiblingTags, read.noTypingDelay, Checked.apply,
      eachTagOf]

end Field
end FormFill
