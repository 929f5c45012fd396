import FormFill.Field
import FormFill.Json.Text
import FormFill.Schema.Attribute

namespace FormFill.Field

open Schema

def transformChoices : List (String × Transform) :=
  [Transform.none, .usSize, .commaJoin].map fun choice => (choice.name, choice)

def focusChoices : List (String × Focus) :=
  [Focus.click, .script, .both].map fun choice => (choice.name, choice)

def entryChoices : List (String × Entry) :=
  [Entry.type, .keyboard, .paste].map fun choice => (choice.name, choice)

/-! The attributes that every definition has. -/

def nameAttribute : Attribute (Option String) := .optional ["name"]
def selectorAttribute : Attribute (Option String) := .optional ["selector"]
def labelAttribute : Attribute (Option String) := .optional ["label"]
def placeholderAttribute : Attribute (Option String) := .optional ["placeholder"]
def textAttribute : Attribute (Option String) := .optional ["text"]
def exactAttribute : Attribute Bool := .flag ["exact"] false
def valueAttribute : Attribute (Option String) := .optional ["value"]
def transformAttribute : Attribute Transform :=
  ⟨["transform"], readAmong false transformChoices, some .none⟩
def autoIdentifierAttribute : Attribute Bool :=
  .flag ["autoSku", "autoId", "auto_sku", "auto_id"] false
def skipScrollAttribute : Attribute Bool := .flag ["skipScroll", "skip_scroll"] false
def scrollPageBottomAttribute : Attribute Bool :=
  .flag ["scrollPageBottom", "scroll_page_bottom"] false
def forceAttribute : Attribute Bool := .flag ["force"] false

/-- The keys that every definition may have. -/
def sharedSpellings : List (List String) :=
  [nameAttribute.spellings, selectorAttribute.spellings, labelAttribute.spellings,
   placeholderAttribute.spellings, textAttribute.spellings, exactAttribute.spellings,
   valueAttribute.spellings, transformAttribute.spellings, autoIdentifierAttribute.spellings,
   skipScrollAttribute.spellings, scrollPageBottomAttribute.spellings, forceAttribute.spellings,
   ["action"]]

def readShared (members : Members) : Checked (Action → Field) :=
  (Checked.valid Field.mk).apply (nameAttribute.of members)
    |>.apply (selectorAttribute.of members)
    |>.apply (labelAttribute.of members)
    |>.apply (placeholderAttribute.of members)
    |>.apply (textAttribute.of members)
    |>.apply (exactAttribute.of members)
    |>.apply (valueAttribute.of members)
    |>.apply (transformAttribute.of members)
    |>.apply (autoIdentifierAttribute.of members)
    |>.apply (skipScrollAttribute.of members)
    |>.apply (scrollPageBottomAttribute.of members)
    |>.apply (forceAttribute.of members)

/-! The attributes of single actions. -/

def clearAttribute : Attribute Bool := .flag ["clear"] false
def pressEnterAttribute : Attribute Bool := .flag ["pressEnter", "press_enter"] false
def enterDelayAttribute : Attribute Nat := .count ["enterDelayMs", "enter_delay_ms"] 0
def noTypingDelayAttribute : Attribute Bool := .flag ["noTypingDelay", "no_typing_delay"] false
def centerAttribute : Attribute Bool :=
  .flag ["clickElementCenter", "click_element_center"] false
def skipIfCheckedAttribute : Attribute Bool := .flag ["skipIfChecked", "skip_if_checked"] false
def indicatorAttribute : Attribute (Option String) :=
  .optional ["checkedIndicator", "checked_indicator"]
def scopeAttribute : Attribute (Option String) := .optional ["scope"]
def normalizeAttribute : Attribute Bool :=
  .flag ["normalizeComparison", "normalize_comparison"] false
def candidatesAttribute : Attribute String :=
  ⟨["candidateSelector", "candidate_selector"], readText, some "span,div,button"⟩
def focusAttribute : Attribute Focus := ⟨["focus"], readAmong false focusChoices, some .click⟩
def entryAttribute : Attribute (Option Entry) :=
  ⟨["entry"], readOptional (readAmong false entryChoices), some none⟩
def useKeyboardAttribute : Attribute Bool := .flag ["useKeyboard", "use_keyboard"] false
def usePasteAttribute : Attribute Bool := .flag ["usePaste", "use_paste"] false
def joinTagsAttribute : Attribute Bool := .flag ["joinTags", "join_tags"] false
def refocusEachTagAttribute : Attribute Bool :=
  .flag ["refocusEachTag", "refocus_each_tag"] false
def settleAttribute : Attribute Nat := .count ["settleMs", "settle_ms"] 0
def tagAnchorAttribute : Attribute (Option String) := .optional ["tagAnchor", "tag_anchor"]
def detectTagInputAttribute : Attribute Bool := .flag ["detectTagInput", "detect_tag_input"] true
def detectSiblingTagsAttribute : Attribute Bool :=
  .flag ["detectSiblingTags", "detect_sibling_tags"] true

/-- The keys that only one kind of action has. -/
def ownSpellings : ActionKind → List (List String)
  | .fill =>
    [clearAttribute.spellings, pressEnterAttribute.spellings, enterDelayAttribute.spellings,
     noTypingDelayAttribute.spellings]
  | .type =>
    [pressEnterAttribute.spellings, enterDelayAttribute.spellings,
     noTypingDelayAttribute.spellings]
  | .click => [centerAttribute.spellings]
  | .check => [skipIfCheckedAttribute.spellings, indicatorAttribute.spellings]
  | .select => []
  | .clickEachText =>
    [scopeAttribute.spellings, normalizeAttribute.spellings, candidatesAttribute.spellings]
  | .typeEachTag =>
    [focusAttribute.spellings, entryAttribute.spellings, useKeyboardAttribute.spellings,
     usePasteAttribute.spellings, joinTagsAttribute.spellings, refocusEachTagAttribute.spellings,
     settleAttribute.spellings, tagAnchorAttribute.spellings, detectTagInputAttribute.spellings,
     detectSiblingTagsAttribute.spellings, noTypingDelayAttribute.spellings]

/-- The way of entry that the two switches ask for. -/
def switchedEntry? (useKeyboard usePaste : Bool) : Option Entry :=
  if useKeyboard then some .keyboard else if usePaste then some .paste else none

/-- The way of entry that a definition means. The switches exclude each other, and neither may
    contradict an entry that is given. -/
def settledEntry (entry : Option Entry) (useKeyboard usePaste : Bool) : Checked Entry :=
  if useKeyboard && usePaste then
    .fail (.rejected "useKeyboard and usePaste are mutually exclusive; set 'entry' instead")
  else
    match entry, switchedEntry? useKeyboard usePaste with
    | none, switched => .valid (switched.getD .type)
    | some entry, none => .valid entry
    | some entry, some switched =>
      if entry = switched then .valid entry
      else
        .fail (.rejected
          s!"entry='{entry.name}' conflicts with legacy flag for '{switched.name}'")

/-- The settings of a tag field, still to be settled about the way of entry. -/
def eachTagOf (focus : Focus) (entry : Option Entry) (useKeyboard usePaste joinTags
    refocusEachTag : Bool) (settle : Nat) (tagAnchor : Option String) (detectTagInput
    detectSiblingTags noTypingDelay : Bool) : Checked Action :=
  (settledEntry entry useKeyboard usePaste).map fun entry =>
    .typeEachTag
      { focus, entry, useKeyboard, usePaste, joinTags, refocusEachTag, settle, tagAnchor,
        detectTagInput, detectSiblingTags, noTypingDelay }

/-- The settings of an action, with a last check that is made once no attribute is at fault. -/
def readAction (members : Members) : ActionKind → Checked (Checked Action)
  | .fill =>
    ((Checked.valid Fill.mk).apply (clearAttribute.of members)
      |>.apply (pressEnterAttribute.of members)
      |>.apply (enterDelayAttribute.of members)
      |>.apply (noTypingDelayAttribute.of members)).map fun settings => .valid (.fill settings)
  | .type =>
    ((Checked.valid TypeKeys.mk).apply (pressEnterAttribute.of members)
      |>.apply (enterDelayAttribute.of members)
      |>.apply (noTypingDelayAttribute.of members)).map fun settings => .valid (.type settings)
  | .click => (centerAttribute.of members).map fun center => .valid (.click ⟨center⟩)
  | .check =>
    ((Checked.valid Check.mk).apply (skipIfCheckedAttribute.of members)
      |>.apply (indicatorAttribute.of members)).map fun settings => .valid (.check settings)
  | .select => .valid (.valid .select)
  | .clickEachText =>
    ((Checked.valid EachText.mk).apply (scopeAttribute.of members)
      |>.apply (normalizeAttribute.of members)
      |>.apply (candidatesAttribute.of members)).map fun settings =>
        .valid (.clickEachText settings)
  | .typeEachTag =>
    (Checked.valid eachTagOf).apply (focusAttribute.of members)
      |>.apply (entryAttribute.of members)
      |>.apply (useKeyboardAttribute.of members)
      |>.apply (usePasteAttribute.of members)
      |>.apply (joinTagsAttribute.of members)
      |>.apply (refocusEachTagAttribute.of members)
      |>.apply (settleAttribute.of members)
      |>.apply (tagAnchorAttribute.of members)
      |>.apply (detectTagInputAttribute.of members)
      |>.apply (detectSiblingTagsAttribute.of members)
      |>.apply (noTypingDelayAttribute.of members)

/-- A definition whose kind of action is known: the shared attributes first, then its own, then
    unknown keys. -/
def readAs (kind : ActionKind) (members : Members) : Checked Field :=
  let parts := ((readShared members).map fun field action => action.map field).apply
    (readAction members kind)
  (parts.also (refuseUnknown members (sharedSpellings ++ ownSpellings kind))).andThen id

def kindOfName? (name : String) : Option ActionKind :=
  ActionKind.all.find? (·.name = name)

/-- The kind of action that a definition names, `fill` if it names none. -/
def actionKind (members : Members) : Checked ActionKind :=
  let tag := (members.lookup "action").getD .null
  let refusal : Checked ActionKind :=
    .fail (.unknownAction (String.ofList tag.plain) (ActionKind.all.map (·.name)))
  if tag.isVoid then .valid .fill
  else
    match tag with
    | .str name =>
      match kindOfName? name with
      | some kind => .valid kind
      | none => refusal
    | _ => refusal

/-- Reads the definition of a field. -/
def read : Json → Checked Field
  | .obj members =>
    (actionKind members).andThen fun kind => (readAs kind members).under (.key kind.name)
  | _ => .fail .notDefinition

end FormFill.Field
