import FormFill.Executor
import FormFill.Proofs.Act
import FormFill.Proofs.Field.Reading
import FormFill.Proofs.Form.Spelling
import FormFill.Proofs.Lookup

namespace FormFill

open Schema

def EachTag.unswitched (settings : EachTag) : EachTag :=
  { settings with useKeyboard := false, usePaste := false }

def Action.unswitched : Action → Action
  | .typeEachTag settings => .typeEachTag settings.unswitched
  | action => action

/-- The field without the switches for the way of entry. -/
def Field.unswitched (field : Field) : Field :=
  { field with action := field.action.unswitched }

/-- Forms with the same fields, but for some that stand in the place of another. -/
def Form.Exchanged (field other : Field) (first second : Form) : Prop :=
  List.Forall₂ (fun one two => one = two ∨ one = field ∧ two = other) first.allFields second.allFields

/-! The switches in a field play no part in what is done with it. -/

theorem Action.furtherTags_unswitched (timing : Timing) (field : Field) (settings : EachTag) (target : Handle)
    (tags : List String) :
    furtherTags timing field.unswitched settings.unswitched target tags =
      furtherTags timing field settings target tags := by
  induction tags with
  | nil => rfl
  | cons tag tags ih =>
    rw [furtherTags, furtherTags, ih]
    rfl

theorem Field.pastes_unswitched (field : Field) : field.unswitched.pastes = field.pastes := by
  unfold pastes unswitched
  cases field.action <;> rfl

namespace Executor

theorem interact_unswitched (timing : Timing) (field : Field) (record : Json) (value : String) :
    interact timing field.unswitched record value = interact timing field record value := by
  have action : field.unswitched.action = field.action.unswitched := rfl
  unfold interact
  rw [action]
  cases kind : field.action with
  | typeEachTag settings =>
    obtain ⟨_, _, _, _, _, _, _, _, _, _, _, _, _⟩ := field
    cases kind
    simp only [Action.unswitched, Action.runEachTag, Action.furtherTags_unswitched]
    rfl
  | _ =>
    obtain ⟨_, _, _, _, _, _, _, _, _, _, _, _, _⟩ := field
    cases kind
    rfl

theorem attempt_unswitched (timing : Timing) (field : Field) (record : Json) (value : String) :
    attempt timing field.unswitched record value = attempt timing field record value := by
  unfold attempt
  rw [interact_unswitched]
  obtain ⟨_, _, _, _, _, _, _, _, _, _, _, _, action⟩ := field
  cases action <;> rfl

theorem execute_unswitched (executor : Executor) (field : Field) (record : Json) :
    executor.execute field.unswitched record = executor.execute field record := by
  unfold execute executeIdentified
  simp only [attempt_unswitched]
  obtain ⟨_, _, _, _, _, _, _, _, _, _, _, _, action⟩ := field
  cases action <;> rfl

end Executor

namespace Field

/-- The two switches, and the ways of entry that they stand for. -/
def switches : List (Attribute Bool × Entry) :=
  [(useKeyboardAttribute, .keyboard), (usePasteAttribute, .paste)]

def switchKeys : List String :=
  switches.flatMap (·.1.spellings)

/-- A definition in which the way of entry is named, and no switch is left. -/
def naming (members : Members) (entry : Entry) : Members :=
  Members.insert (members.filter (·.1 ∉ switchKeys)) "entry" (.str entry.name)

section Naming

variable {members : Members} {entry : Entry}

theorem lookup_naming {key : String} (other : key ∉ "entry" :: switchKeys) :
    (naming members entry).lookup key = members.lookup key := by
  obtain ⟨apart, kept⟩ := not_or.mp (List.mem_cons.not.mp other)
  rw [naming, Members.lookup_insert_of_ne apart, lookup_filter _ (· ∉ switchKeys), if_pos kept]

theorem lookup_naming_switch {key : String} (switched : key ∈ switchKeys) :
    (naming members entry).lookup key = none := by
  have apart : key ≠ "entry" := by
    rintro rfl
    revert switched
    decide
  rw [naming, Members.lookup_insert_of_ne apart, lookup_filter _ (· ∉ switchKeys),
    if_neg (not_not_intro switched)]

theorem of_naming {α : Type} (part : Attribute α) (other : ∀ key ∈ part.spellings, key ∉ "entry" :: switchKeys) :
    part.of (naming members entry) = part.of members :=
  part.of_congr fun key spelled => lookup_naming (other key spelled)

theorem usedKey?_naming_entry : usedKey? (naming members entry) entryAttribute.spellings = some "entry" := by
  simp [usedKey?, entryAttribute, naming, Members.lookup_insert]

theorem entry_of_naming : entryAttribute.of (naming members entry) = .valid (some entry) := by
  rw [Attribute.of_used usedKey?_naming_entry, naming, Members.lookup_insert]
  cases entry <;> rfl

theorem switch_of_naming {switch : Attribute Bool × Entry} (listed : switch ∈ switches) :
    switch.1.of (naming members entry) = .valid false := by
  have unused : usedKey? (naming members entry) switch.1.spellings = none := by
    rw [usedKey?, List.find?_eq_none]
    intro key spelled
    rw [lookup_naming_switch (List.mem_flatMap.mpr ⟨switch, listed, spelled⟩)]
    exact Bool.false_ne_true
  have off : switch.1.fallback = some false := by
    clear unused
    revert switch
    decide
  exact Attribute.of_unused unused off

/-- Where all keys are known, naming the way of entry brings in no other. -/
theorem refuseUnknown_naming (known : refuseUnknown members (sharedSpellings ++ ownSpellings .typeEachTag) = .valid ()) :
    refuseUnknown (naming members entry) (sharedSpellings ++ ownSpellings .typeEachTag) = .valid () := by
  rw [refuseUnknown_eq_valid_iff] at known ⊢
  have named : ∃ spellings ∈ sharedSpellings ++ ownSpellings .typeEachTag,
      usedKey? (naming members entry) spellings = some "entry" :=
    ⟨entryAttribute.spellings, by decide, usedKey?_naming_entry⟩
  -- The keys for one attribute are all touched, or none of them is.
  have apart : ∀ spellings ∈ sharedSpellings ++ ownSpellings .typeEachTag,
      (∀ key ∈ spellings, key ∉ "entry" :: switchKeys) ∨ ∀ key ∈ spellings, key ∈ "entry" :: switchKeys := by
    decide
  intro member present
  rcases Members.mem_insert present with rfl | kept
  · exact named
  · obtain ⟨standing, unswitched⟩ := List.mem_filter.mp kept
    obtain ⟨spellings, listed, used⟩ := known member standing
    rcases apart spellings listed with other | touched
    · exact ⟨spellings, listed, (usedKey?_congr fun key spelled => lookup_naming (other key spelled)).trans used⟩
    · have entered : member.1 = "entry" := by
        simpa [of_decide_eq_true unswitched] using touched _ (List.mem_of_find?_eq_some used)
      rwa [entered]

end Naming

section Reading

variable {members : Members} {kind : ActionKind} {field : Field}

/-- What an accepted definition has for an attribute is what it has under any of the keys for it. -/
theorem of_accepted {α : Type} {part : Attribute α}
    (accepted : refuseUnknown members (sharedSpellings ++ ownSpellings kind) = .valid ())
    (listed : part.spellings ∈ sharedSpellings ++ ownSpellings kind) {key : String} {value : Json}
    (spelled : key ∈ part.spellings) (present : members.lookup key = some value) :
    part.of members = (part.read value).under (.key key) := by
  have standing : (key, value) ∈ members := by
    obtain ⟨before, after, rfl, -⟩ := List.lookup_eq_some_iff.mp present
    exact List.mem_append_right _ List.mem_cons_self
  obtain ⟨other, listedOther, used⟩ := refuseUnknown_eq_valid_iff.mp accepted _ standing
  rw [← keysOf_eq] at listed listedOther
  have same : Known.plain other = .plain part.spellings :=
    (keysOf_apart kind).eq_of_mem (List.mem_map_of_mem listedOther) (List.mem_map_of_mem listed)
      (List.mem_of_find?_eq_some used) spelled
  obtain rfl : other = part.spellings := congrArg Known.spellings same
  rw [Attribute.of_used used, present]
  rfl

/-- An accepted definition of tags: what it has for its attributes, and the way of entry on which it is settled. -/
structure TagsAccepted (members : Members) (field : Field) (named : Option Entry) (settings : EachTag) : Prop where
  kind : actionKind members = .valid .typeEachTag
  shared : readShared members = .valid fun action => { field with action }
  action : field.action = .typeEachTag settings
  read : TagsRead members named settings
  settled : settledEntry named settings.useKeyboard settings.usePaste = .valid settings.entry
  known : refuseUnknown members (sharedSpellings ++ ownSpellings .typeEachTag) = .valid ()

theorem TagsAccepted.of_read {settings : EachTag} (accepted : Field.read (.obj members) = .valid field)
    (tags : field.action = .typeEachTag settings) : ∃ named, TagsAccepted members field named settings := by
  obtain ⟨kind, kinded, readAs⟩ := read_eq_valid.mp accepted
  obtain ⟨make, action, shared, own, rfl, known⟩ := readAs_eq_valid.mp readAs
  have makes := readShared_makes shared
  have shared : readShared members = .valid fun action' => { make action with action := action' } := by
    rw [shared, funext (makes action)]
  obtain rfl : action = .typeEachTag settings := by
    rw [makes action] at tags
    exact tags
  cases kind with
  | select => cases own
  | fill | type | click | check | clickEachText =>
    obtain ⟨_, -, same⟩ := Checked.map_eq_valid.mp own
    cases same
  | typeEachTag =>
    obtain ⟨named, read, said, made⟩ := readAction_tags.mp own
    obtain ⟨entry, settled, same⟩ := Checked.map_eq_valid.mp made
    cases same
    exact ⟨named, kinded, shared, tags, { said with }, settled, known⟩

theorem TagsAccepted.accepts {named : Option Entry} {settings : EachTag}
    (accepted : TagsAccepted members field named settings) : Field.read (.obj members) = .valid field := by
  have own : readAction members .typeEachTag = .valid (.valid (.typeEachTag settings)) :=
    readAction_tags.mpr ⟨named, settings, accepted.read, by rw [accepted.settled]; rfl⟩
  have same : { field with action := .typeEachTag settings } = field := by rw [← accepted.action]
  exact read_eq_valid.mpr ⟨.typeEachTag, accepted.kind, readAs_eq_valid.mpr
    ⟨_, .typeEachTag settings, accepted.shared, own, same, accepted.known⟩⟩

theorem TagsRead.naming {named : Option Entry} {settings : EachTag} (read : TagsRead members named settings) :
    TagsRead (naming members settings.entry) (some settings.entry) settings.unswitched := by
  have other {α : Type} (part : Attribute α) := @of_naming members settings.entry α part
  exact {
    focus := (other _ (by decide)).trans read.focus
    entry := entry_of_naming
    useKeyboard := @switch_of_naming _ _ (useKeyboardAttribute, .keyboard) (by simp [switches])
    usePaste := @switch_of_naming _ _ (usePasteAttribute, .paste) (by simp [switches])
    joinTags := (other _ (by decide)).trans read.joinTags
    refocusEachTag := (other _ (by decide)).trans read.refocusEachTag
    settle := (other _ (by decide)).trans read.settle
    tagAnchor := (other _ (by decide)).trans read.tagAnchor
    detectTagInput := (other _ (by decide)).trans read.detectTagInput
    detectSiblingTags := (other _ (by decide)).trans read.detectSiblingTags
    noTypingDelay := (other _ (by decide)).trans read.noTypingDelay }

/-- Naming the way of entry in place of the switches makes no other field than one without them. -/
theorem TagsAccepted.naming {named : Option Entry} {settings : EachTag}
    (accepted : TagsAccepted members field named settings) :
    TagsAccepted (naming members settings.entry) field.unswitched (some settings.entry) settings.unswitched where
  kind := by
    rw [← accepted.kind, actionKind, actionKind, lookup_naming (by decide)]
  shared := by
    have apart : ∀ key ∈ sharedSpellings.flatten, key ∉ "entry" :: switchKeys := by decide
    rw [readShared_congr fun key spelled _ => lookup_naming (apart key spelled), accepted.shared]
    rfl
  action := by
    rw [Field.unswitched, accepted.action]
    rfl
  read := accepted.read.naming
  settled := rfl
  known := refuseUnknown_naming accepted.known

theorem settledEntry_eq_valid {named : Option Entry} {useKeyboard usePaste : Bool} {entry : Entry}
    (settled : settledEntry named useKeyboard usePaste = .valid entry) :
    entry = named.getD (if useKeyboard then .keyboard else if usePaste then .paste else .type) ∧
      (useKeyboard = true → entry = .keyboard) ∧ (usePaste = true → entry = .paste) := by
  cases useKeyboard <;> cases usePaste <;> rcases named with _ | _ | _ | _ <;> cases settled <;> decide

/-- The way of entry of an accepted definition is the one of each switch that it has on. -/
theorem TagsAccepted.switched {named : Option Entry} {settings : EachTag}
    (accepted : TagsAccepted members field named settings) {switch : Attribute Bool × Entry} (listed : switch ∈ switches)
    {key : String} {value : Json} (spelled : key ∈ switch.1.spellings) (present : members.lookup key = some value)
    (on : readBool value = .valid true) : settings.entry = switch.2 := by
  obtain ⟨-, keyboard, paste⟩ := settledEntry_eq_valid accepted.settled
  have given {part : Attribute Bool} (listed : part.spellings ∈ sharedSpellings ++ ownSpellings .typeEachTag)
      (reads : part.read = readBool) (spelled : key ∈ part.spellings) : part.of members = .valid true := by
    rw [of_accepted accepted.known listed spelled present, reads, on]
    rfl
  simp only [switches, List.mem_cons, List.not_mem_nil, or_false] at listed
  rcases listed with rfl | rfl
  · exact keyboard (Checked.valid.inj (accepted.read.useKeyboard.symm.trans (given (by decide) rfl spelled)))
  · exact paste (Checked.valid.inj (accepted.read.usePaste.symm.trans (given (by decide) rfl spelled)))

end Reading

theorem usesClipboard_exchanged {other : Field} (same : other.pastes = field.pastes) {first second : Form}
    (exchanged : Form.Exchanged field other first second) : first.usesClipboard = second.usesClipboard := by
  unfold Form.Exchanged at exchanged
  unfold Form.usesClipboard
  generalize first.allFields = one at exchanged
  generalize second.allFields = two at exchanged
  induction exchanged with
  | nil => rfl
  | cons exchanged _ ih =>
    rw [List.any_cons, List.any_cons, ih]
    rcases exchanged with rfl | ⟨rfl, rfl⟩
    · rfl
    · rw [same]

/-- A tag field has the way of entry that its definition names, or else the one of the switch that is on, or else typing.
    A switch that is on means the same as naming its way of entry: the definition that does so instead is accepted too, and
    the field goes through the same run, whatever the record and the surroundings, and needs the clipboard alike. -/
theorem read_switched {settings : EachTag} (accepted : read (.obj members) = .valid field)
    (tags : field.action = .typeEachTag settings) :
    (∃ named, entryAttribute.of members = .valid named ∧
      settings.entry = named.getD
        (if settings.useKeyboard then .keyboard else if settings.usePaste then .paste else .type)) ∧
    ∀ switch ∈ switches, ∀ key ∈ switch.1.spellings, ∀ value,
      members.lookup key = some value → readBool value = .valid true →
        read (.obj (naming members switch.2)) = .valid field.unswitched ∧
        (∀ (executor : Executor) (record : Json) (world : World),
          (executor.execute field.unswitched record).runIn world = (executor.execute field record).runIn world) ∧
        ∀ first second, Form.Exchanged field field.unswitched first second →
          first.usesClipboard = second.usesClipboard := by
  obtain ⟨named, accepted⟩ := TagsAccepted.of_read accepted tags
  refine ⟨⟨named, accepted.read.entry, (settledEntry_eq_valid accepted.settled).1⟩, ?_⟩
  intro switch listed key spelled value present on
  refine ⟨?_, ?_, ?_⟩
  · rw [← accepted.switched listed spelled present on]
    exact accepted.naming.accepts
  · intro executor record world
    rw [Executor.execute_unswitched]
  · exact fun _ _ => usesClipboard_exchanged (pastes_unswitched _)

/-- A definition with a switch that is on in a word for true. -/
def switchedTags : Members :=
  [("action", .str "type_each_tag"), ("selector", .str ".tags"), ("usePaste", .str "Yes"), ("value", .str "tags")]

theorem read_switched_pasting :
    ∃ field, read (.obj switchedTags) = .valid field ∧ field.pastes = true ∧
      read (.obj [("action", .str "type_each_tag"), ("selector", .str ".tags"), ("value", .str "tags"),
        ("entry", .str "paste")]) = .valid field.unswitched ∧
      ∀ (executor : Executor) (record : Json) (world : World),
        (executor.execute field.unswitched record).runIn world = (executor.execute field record).runIn world := by
  let settings : EachTag := ⟨.click, .paste, false, true, false, false, 0, none, true, true, false⟩
  let field : Field :=
    ⟨none, some ".tags", none, none, none, false, some "tags", .none, false, false, false, false, .typeEachTag settings⟩
  have accepted : read (.obj switchedTags) = .valid field := rfl
  obtain ⟨-, switched⟩ := read_switched accepted rfl
  have on : readBool (.str "Yes") = .valid true := rfl
  obtain ⟨named, runs, -⟩ :=
    switched (usePasteAttribute, .paste) (by simp [switches]) "usePaste" (by decide) (.str "Yes") rfl on
  exact ⟨field, accepted, rfl, named, runs⟩

end Field
end FormFill
