import FormFill.Form
import FormFill.Proofs.Form.Components
import FormFill.Proofs.Schema.Spelling
import Mathlib.Data.List.Dedup

namespace FormFill

open Schema

/-- A snake_case name in camelCase: the underscores are dropped, the letters after them capitalised. -/
def camelCase (name : String) : String :=
  String.ofList (capitalised name.toList)
where
  capitalised : List Char → List Char
  | '_' :: letter :: rest => letter.toUpper :: capitalised rest
  | letter :: rest => letter :: capitalised rest
  | [] => []

/-- The keys for an attribute of some name: the name in camelCase, and as it is. -/
def spelled (name : String) : List String :=
  [camelCase name, name].dedup

namespace Field

def identifierKeys : List String :=
  ["autoSku", "autoId", "auto_sku", "auto_id"]

/-- The keys for the attributes that every definition may have. -/
def sharedKeys : List (List String) :=
  ["name", "selector", "label", "placeholder", "text", "exact", "value", "transform"].map spelled ++
    identifierKeys :: ["skip_scroll", "scroll_page_bottom", "force", "action"].map spelled

/-- The names of the attributes that only some definitions have. -/
def ownNames : ActionKind → List String
  | .fill => ["clear", "press_enter", "enter_delay_ms", "no_typing_delay"]
  | .type => ["press_enter", "enter_delay_ms", "no_typing_delay"]
  | .click => ["click_element_center"]
  | .check => ["skip_if_checked", "checked_indicator"]
  | .select => []
  | .clickEachText => ["scope", "normalize_comparison", "candidate_selector"]
  | .typeEachTag =>
    ["focus", "entry", "use_keyboard", "use_paste", "join_tags", "refocus_each_tag", "settle_ms", "tag_anchor",
      "detect_tag_input", "detect_sibling_tags", "no_typing_delay"]

def keysOf (kind : ActionKind) : List (List String) :=
  sharedKeys ++ (ownNames kind).map spelled

/-- The attributes of a definition. One whose action is unknown has the shared ones. -/
def known (members : Members) : List Known :=
  match actionKind members with
  | .valid kind => (keysOf kind).map .plain
  | .invalid _ => sharedKeys.map .plain

/-- A definition of a field, with some of its attributes under other keys. -/
abbrev Respelled : Json → Json → Prop :=
  Json.Respelled known

theorem sharedKeys_eq : sharedKeys = sharedSpellings := by
  rfl

/-- The keys by the rule are those that are declared. -/
theorem keysOf_eq (kind : ActionKind) : keysOf kind = sharedSpellings ++ ownSpellings kind := by
  have own : (ownNames kind).map spelled = ownSpellings kind := by
    cases kind <;> rfl
  rw [keysOf, sharedKeys_eq, own]

theorem sharedKeys_apart : Apart (sharedKeys.map .plain) := by
  rw [sharedKeys_eq]
  unfold Apart
  decide

theorem keysOf_apart (kind : ActionKind) : Apart ((keysOf kind).map .plain) := by
  rw [keysOf_eq]
  unfold Apart
  cases kind <;> decide

theorem action_mem_sharedKeys : ["action"] ∈ sharedKeys := by
  rw [sharedKeys_eq]
  decide

section Reading

variable {kind : ActionKind} {first second : Members}

theorem of_respelled (once : Once ((keysOf kind).map .plain) first)
    (members : List.Forall₂ (MemberRespelled ((keysOf kind).map .plain)) first second) {α : Type} (part : Attribute α)
    (declared : part.spellings ∈ sharedSpellings ++ ownSpellings kind) : (part.of first).Alike (part.of second) := by
  have listed : part.spellings ∈ keysOf kind := keysOf_eq kind ▸ declared
  exact part.of_respelled_plain (keysOf_apart kind) (List.mem_map_of_mem listed) once members

theorem readShared_respelled (once : Once ((keysOf kind).map .plain) first)
    (members : List.Forall₂ (MemberRespelled ((keysOf kind).map .plain)) first second) :
    (readShared first).Alike (readShared second) := by
  have shared {α : Type} (part : Attribute α) (declared : part.spellings ∈ sharedSpellings) :=
    of_respelled once members part (List.mem_append_left _ declared)
  unfold readShared
  -- The attributes are applied one after the other; each is one of the declared ones.
  repeat refine .apply ?_ (shared _ (by simp [sharedSpellings]))
  exact .refl _

theorem readAction_respelled (once : Once ((keysOf kind).map .plain) first)
    (members : List.Forall₂ (MemberRespelled ((keysOf kind).map .plain)) first second) :
    (readAction first kind).Alike (readAction second kind) := by
  have own {α : Type} (part : Attribute α) (declared : part.spellings ∈ ownSpellings kind) :=
    of_respelled once members part (List.mem_append_right _ declared)
  unfold readAction
  cases kind with
  | select => exact .refl _
  | click => exact (own centerAttribute (by simp [ownSpellings])).map _
  | typeEachTag =>
    repeat refine .apply ?_ (own _ (by simp [ownSpellings]))
    exact .refl _
  | fill | type | check | clickEachText =>
    refine .map _ ?_
    repeat refine .apply ?_ (own _ (by simp [ownSpellings]))
    exact .refl _

theorem readAs_respelled (once : Once ((keysOf kind).map .plain) first)
    (members : List.Forall₂ (MemberRespelled ((keysOf kind).map .plain)) first second) :
    (readAs kind first).Alike (readAs kind second) := by
  have parts := ((readShared_respelled once members).map fun field (action : Checked Action) => action.map field).apply
    (readAction_respelled once members)
  have declared : sharedSpellings ++ ownSpellings kind = ((keysOf kind).map Known.plain).map (·.spellings) := by
    rw [List.map_map, ← keysOf_eq]
    exact (List.map_id _).symm
  exact (parts.also (refuseUnknown_respelled (keysOf_apart kind) once members declared)).andThen fun _ => .refl _

end Reading

/-- Which action a definition names does not depend on the keys for other attributes. -/
theorem actionKind_respelled {keys : List (List String)} {first second : Members} (apart : Apart (keys.map .plain))
    (listed : ["action"] ∈ keys) (members : List.Forall₂ (MemberRespelled (keys.map .plain)) first second) :
    actionKind first = actionKind second := by
  have same : first.lookup "action" = second.lookup "action" :=
    lookup_respelled apart (List.mem_map_of_mem listed) members
  rw [actionKind, actionKind, same]

theorem read_respelled {first second : Json} (respelled : Respelled first second) :
    (read first).Alike (read second) := by
  cases respelled with
  | kept => exact .refl _
  | @object first second once members =>
    simp only [read]
    unfold known at once members
    cases named : actionKind first with
    | valid kind =>
      -- The key of the action has one spelling, so the other definition has the same attributes.
      rw [named] at once members
      have listed : ["action"] ∈ keysOf kind := List.mem_append_left _ action_mem_sharedKeys
      rw [← actionKind_respelled (keysOf_apart kind) listed members, named]
      exact (readAs_respelled once members).under _ _
    | invalid issues =>
      rw [named] at members
      rw [← actionKind_respelled sharedKeys_apart action_mem_sharedKeys members, named]
      exact .refl _

end Field

/-- Objects of one kind with respelled members are read alike if the members of their attributes are. -/
theorem membersOf_respelled {α : Type} {known : List Known} {kind : String} {readMembers : Members → Checked α}
    (reads : ∀ first second, Once known first → List.Forall₂ (MemberRespelled known) first second →
      (readMembers first).Alike (readMembers second)) {first second : Json}
    (respelled : Json.Respelled (fun _ => known) first second) :
    ((membersOf kind first).andThen readMembers).Alike ((membersOf kind second).andThen readMembers) := by
  cases respelled with
  | kept => exact .refl _
  | object once members => exact reads _ _ once members

namespace JitterWindow

def known : List Known :=
  (["below", "above"].map spelled).map .plain

abbrev Respelled : Json → Json → Prop :=
  Json.Respelled fun _ => known

theorem known_eq : known = [.plain belowAttribute.spellings, .plain aboveAttribute.spellings] := by
  rfl

theorem read_respelled {first second : Json} (respelled : Respelled first second) :
    (read first).Alike (read second) := by
  refine membersOf_respelled (fun first second once members => ?_) respelled
  have apart : Apart known := by
    rw [known_eq]
    unfold Apart
    decide
  have part {α : Type} (part : Attribute α) (listed : .plain part.spellings ∈ known) :=
    part.of_respelled_plain apart listed once members
  refine .also ?_ (refuseUnknown_respelled apart once members (by rw [known_eq]; rfl))
  repeat refine .apply ?_ (part _ (by simp [known_eq]))
  exact .refl _

end JitterWindow

namespace IdentifierOptions

def known : List Known :=
  (["last_sku_file", "start", "record_key"].map spelled).map .plain

abbrev Respelled : Json → Json → Prop :=
  Json.Respelled fun _ => known

theorem known_eq : known =
    [.plain fileAttribute.spellings, .plain startAttribute.spellings, .plain recordKeyAttribute.spellings] := by
  rfl

theorem read_respelled {first second : Json} (respelled : Respelled first second) :
    (read first).Alike (read second) := by
  refine membersOf_respelled (fun first second once members => ?_) respelled
  have apart : Apart known := by
    rw [known_eq]
    unfold Apart
    decide
  have part {α : Type} (part : Attribute α) (listed : .plain part.spellings ∈ known) :=
    part.of_respelled_plain apart listed once members
  refine .also ?_ (refuseUnknown_respelled apart once members (by rw [known_eq]; rfl))
  repeat refine .apply ?_ (part _ (by simp [known_eq]))
  exact .refl _

end IdentifierOptions

namespace RunOptions

def known : List Known :=
  (["wait_until", "slow_mo_ms", "typing_delay_ms", "between_fields_delay_ms"].map spelled).map .plain ++
  [⟨spelled "typing_jitter", JitterWindow.Respelled⟩, ⟨spelled "field_jitter", JitterWindow.Respelled⟩] ++
  (["scroll_timeout_ms", "wait_for_selector", "wait_for_selector_timeout_ms", "pause_for_manual_start",
    "pause_before_fill_ms", "click_draft", "click_save_progress", "pause_after_draft_ms", "pause_for_review",
    "user_data_dir"].map spelled).map .plain ++
  [⟨spelled "sku", IdentifierOptions.Respelled⟩] ++
  (["grant_clipboard", "continue_on_error"].map spelled).map .plain

abbrev Respelled : Json → Json → Prop :=
  Json.Respelled fun _ => known

theorem known_eq : known =
    [.plain waitUntilAttribute.spellings, .plain slowMotionAttribute.spellings, .plain typingDelayAttribute.spellings,
      .plain betweenFieldsDelayAttribute.spellings, ⟨typingJitterAttribute.spellings, JitterWindow.Respelled⟩,
      ⟨fieldJitterAttribute.spellings, JitterWindow.Respelled⟩, .plain scrollTimeoutAttribute.spellings,
      .plain readySelectorAttribute.spellings, .plain readyTimeoutAttribute.spellings,
      .plain pauseForManualStartAttribute.spellings, .plain pauseBeforeFillAttribute.spellings,
      .plain clickDraftAttribute.spellings, .plain clickSaveProgressAttribute.spellings,
      .plain pauseAfterDraftAttribute.spellings, .plain pauseForReviewAttribute.spellings,
      .plain userDataDirAttribute.spellings, ⟨identifiersAttribute.spellings, IdentifierOptions.Respelled⟩,
      .plain grantClipboardAttribute.spellings, .plain continueOnErrorAttribute.spellings] := by
  rfl

theorem read_respelled {first second : Json} (respelled : Respelled first second) :
    (read first).Alike (read second) := by
  refine membersOf_respelled (fun first second once members => ?_) respelled
  have apart : Apart known := by
    rw [known_eq]
    unfold Apart
    decide
  have part {α : Type} (part : Attribute α) {same : Json → Json → Prop} (listed : ⟨part.spellings, same⟩ ∈ known)
      (reads : ∀ one other, same one other → (part.read one).Alike (part.read other)) :=
    part.of_respelled apart listed reads once members
  have plain {α : Type} (part : Attribute α) (listed : .plain part.spellings ∈ known) :=
    part.of_respelled_plain apart listed once members
  have typingJitter := part typingJitterAttribute (by simp [known_eq]) fun _ _ => JitterWindow.read_respelled
  have fieldJitter := part fieldJitterAttribute (by simp [known_eq]) fun _ _ => JitterWindow.read_respelled
  have identifiers := part identifiersAttribute (by simp [known_eq]) fun _ _ => IdentifierOptions.read_respelled
  unfold ofMembers
  refine .also ?_ (refuseUnknown_respelled apart once members (by rw [known_eq]; rfl))
  repeat first
    | refine .apply ?_ ‹_›
    | refine .apply ?_ (plain _ (by simp [known_eq]))
  exact .refl _

end RunOptions

namespace Form

/-- The attributes of a document; `submit` has a target with one attribute of one spelling. -/
def known : List Known :=
  [.plain (spelled "url"), ⟨spelled "fields", Json.EachRespelled Field.Respelled⟩,
    ⟨spelled "draft", Field.Respelled⟩, ⟨spelled "save_progress", Field.Respelled⟩, .plain (spelled "submit"),
    ⟨spelled "options", RunOptions.Respelled⟩]

/-- A document, with some of its attributes, or of the attributes of its parts, under other keys. -/
abbrev Respelled : Json → Json → Prop :=
  Json.Respelled fun _ => known

theorem known_eq : known =
    [.plain urlAttribute.spellings, ⟨fieldsAttribute.spellings, Json.EachRespelled Field.Respelled⟩,
      ⟨draftAttribute.spellings, Field.Respelled⟩, ⟨saveProgressAttribute.spellings, Field.Respelled⟩,
      .plain submitAttribute.spellings, ⟨optionsAttribute.spellings, RunOptions.Respelled⟩] := by
  rfl

theorem readFields_respelled {first second : Json} (respelled : Json.EachRespelled Field.Respelled first second) :
    (readFields first).Alike (readFields second) := by
  cases respelled with
  | kept => exact .refl _
  | list items => exact .each (items.imp fun _ _ => Field.read_respelled)

theorem readOptional_respelled {first second : Json} (respelled : Field.Respelled first second) :
    (readOptional Field.read first).Alike (readOptional Field.read second) := by
  cases respelled with
  | kept => exact .refl _
  | object once members => exact (Field.read_respelled (.object once members)).map some

theorem ofMembers_respelled {first second : Members} (once : Once known first)
    (members : List.Forall₂ (MemberRespelled known) first second) : (ofMembers first).Alike (ofMembers second) := by
  have apart : Apart known := by
    rw [known_eq]
    unfold Apart
    decide
  have part {α : Type} (part : Attribute α) {same : Json → Json → Prop} (listed : ⟨part.spellings, same⟩ ∈ known)
      (reads : ∀ one other, same one other → (part.read one).Alike (part.read other)) :=
    part.of_respelled apart listed reads once members
  have plain {α : Type} (part : Attribute α) (listed : .plain part.spellings ∈ known) :=
    part.of_respelled_plain apart listed once members
  have fields := part fieldsAttribute (by simp [known_eq]) fun _ _ => readFields_respelled
  have draft := part draftAttribute (by simp [known_eq]) fun _ _ => readOptional_respelled
  have saveProgress := part saveProgressAttribute (by simp [known_eq]) fun _ _ => readOptional_respelled
  have options := part optionsAttribute (by simp [known_eq]) fun _ _ => RunOptions.read_respelled
  exact (Checked.Alike.refl _).apply (plain urlAttribute (by simp [known_eq])) |>.apply fields |>.apply draft
    |>.apply saveProgress |>.apply (plain submitAttribute (by simp [known_eq])) |>.apply options

theorem load_respelled {first second : Json} (respelled : Respelled first second) (form : Form) :
    load first = .ok form ↔ load second = .ok form := by
  cases respelled with
  | kept => exact Iff.rfl
  | object once members =>
    rw [load_eq_ok, load_eq_ok]
    exact ofMembers_respelled once members form

/-- The keys in camelCase and in snake_case are interchangeable: a definition of a field, or a whole document, in
    which no attribute appears under two keys is read as the same one, or refused alike, whichever keys are used. -/
theorem keys_interchangeable :
    (∀ first second : Json, Field.Respelled first second →
      ∀ field, Field.read first = .valid field ↔ Field.read second = .valid field) ∧
    ∀ first second : Json, Respelled first second → ∀ form, load first = .ok form ↔ load second = .ok form :=
  ⟨fun _ _ => Field.read_respelled, fun _ _ => load_respelled⟩

/-- A step and a document with it, in camelCase and in snake_case. -/
def camelStep : Members :=
  [("selector", .str "#save"), ("autoSku", .bool true), ("pressEnter", .bool true)]

def snakeStep : Members :=
  [("selector", .str "#save"), ("auto_id", .bool true), ("press_enter", .bool true)]

def camelDocument : Members :=
  [("url", .str "a:b"), ("fields", .arr [.obj camelStep]), ("saveProgress", .obj camelStep),
    ("options", .obj [("slowMoMs", .int 5), ("sku", .obj [("recordKey", .str "id")])])]

def snakeDocument : Members :=
  [("url", .str "a:b"), ("fields", .arr [.obj snakeStep]), ("save_progress", .obj snakeStep),
    ("options", .obj [("slow_mo_ms", .int 5), ("sku", .obj [("record_key", .str "id")])])]

theorem step_respelled : Field.Respelled (.obj camelStep) (.obj snakeStep) := by
  let keys := Field.sharedSpellings ++ Field.ownSpellings .fill
  have named : Field.known camelStep = keys.map .plain := congrArg (List.map Known.plain) (Field.keysOf_eq .fill)
  have once : Once (keys.map .plain) camelStep := by
    unfold Once
    decide
  have other (spellings : List String) (listed : spellings ∈ keys) (key respelled : String) (value : Json)
      (spelled : key ∈ spellings) (accepted : respelled ∈ spellings) :
      MemberRespelled (keys.map .plain) (key, value) (respelled, value) :=
    .respelled (List.mem_map_of_mem listed) spelled accepted rfl
  have flag := other Field.autoIdentifierAttribute.spellings (by decide) "autoSku" "auto_id" (.bool true)
    (by decide) (by decide)
  have pressEnter := other Field.pressEnterAttribute.spellings (by decide) "pressEnter" "press_enter" (.bool true)
    (by decide) (by decide)
  rw [← named] at once flag pressEnter
  exact .object once (.cons (.kept _) (.cons flag (.cons pressEnter .nil)))

theorem options_respelled :
    RunOptions.Respelled (.obj [("slowMoMs", .int 5), ("sku", .obj [("recordKey", .str "id")])])
      (.obj [("slow_mo_ms", .int 5), ("sku", .obj [("record_key", .str "id")])]) := by
  have recordKey : IdentifierOptions.Respelled (.obj [("recordKey", .str "id")]) (.obj [("record_key", .str "id")]) := by
    have listed : .plain IdentifierOptions.recordKeyAttribute.spellings ∈ IdentifierOptions.known := by
      simp [IdentifierOptions.known_eq]
    have once : Once IdentifierOptions.known [("recordKey", .str "id")] := by
      rw [IdentifierOptions.known_eq]
      unfold Once
      decide
    exact .object once (.cons (.respelled listed (by decide) (by decide) rfl) .nil)
  have slowMotion : .plain RunOptions.slowMotionAttribute.spellings ∈ RunOptions.known := by simp [RunOptions.known_eq]
  have sku : ⟨RunOptions.identifiersAttribute.spellings, IdentifierOptions.Respelled⟩ ∈ RunOptions.known := by
    simp [RunOptions.known_eq]
  have once : Once RunOptions.known [("slowMoMs", .int 5), ("sku", .obj [("recordKey", .str "id")])] := by
    rw [RunOptions.known_eq]
    unfold Once
    decide
  exact .object once (.cons (.respelled slowMotion (by decide) (by decide) rfl)
    (.cons (.respelled sku (by decide) (by decide) recordKey) .nil))

theorem document_respelled : Respelled (.obj camelDocument) (.obj snakeDocument) := by
  have fields : ⟨fieldsAttribute.spellings, Json.EachRespelled Field.Respelled⟩ ∈ known := by simp [known_eq]
  have saveProgress : ⟨saveProgressAttribute.spellings, Field.Respelled⟩ ∈ known := by simp [known_eq]
  have options : ⟨optionsAttribute.spellings, RunOptions.Respelled⟩ ∈ known := by simp [known_eq]
  have once : Once known camelDocument := by
    rw [known_eq]
    unfold Once
    decide
  exact .object once (.cons (.kept _)
    (.cons (.respelled fields (by decide) (by decide) (.list (.cons step_respelled .nil)))
      (.cons (.respelled saveProgress (by decide) (by decide) step_respelled)
        (.cons (.respelled options (by decide) (by decide) options_respelled) .nil))))

theorem keys_interchangeable_nested :
    Field.Respelled (.obj camelStep) (.obj snakeStep) ∧ Respelled (.obj camelDocument) (.obj snakeDocument) ∧
      (∀ field, Field.read (.obj camelStep) = .valid field ↔ Field.read (.obj snakeStep) = .valid field) ∧
      (∀ form, load (.obj camelDocument) = .ok form ↔ load (.obj snakeDocument) = .ok form) ∧
      ∃ form, load (.obj camelDocument) = .ok form :=
  ⟨step_respelled, document_respelled, keys_interchangeable.1 _ _ step_respelled,
    keys_interchangeable.2 _ _ document_respelled, _, rfl⟩

end Form
end FormFill
