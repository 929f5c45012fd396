import FormFill.Action.Target

namespace FormFill.Action

def pasteShortcut : String := "ControlOrMeta+V"

def focusScript : String := "el => el.focus()"

def clipboardScript : String := "text => navigator.clipboard.writeText(text)"

/-- The tags to enter: the identifier alone, or the entries of the value, in one text if joined. -/
def requestedTags (field : Field) (settings : EachTag) (record : Json) (value : String) :
    List String :=
  let tags :=
    if field.autoIdentifier && value ≠ "" then [value]
    else (Record.entries (field.rawValue record)).map String.ofList
  if settings.joinTags && tags ≠ [] then [", ".intercalate tags] else tags

/-- Gives the focus to a tag input. -/
def focus (field : Field) (settings : EachTag) (target : Handle) : Act Unit := do
  if settings.focus ≠ .click then let _ ← Act.element target (.evaluate focusScript)
  if settings.focus ≠ .script then let _ ← Act.element target (.click field.force)

/-- Puts a text in by way of the clipboard, or directly where that fails. -/
def paste (field : Field) (text : String) : Act Unit :=
  Act.catchBrowser
    (do
      Act.call (.evaluate clipboardScript (some text))
      Act.call (.keyPress pasteShortcut))
    fun error => do
      log .warning "Clipboard paste failed, inserting text instead"
        [("field", .str field.displayName), ("error", .str error.text)]
      Act.call (.insertText text)

/-- Puts the text of a tag into the input that has the focus. -/
def enterTag (timing : Timing) (field : Field) (settings : EachTag) (target : Handle)
    (tag : String) : Act Unit := do
  match settings.entry with
  | .type =>
    let delay ← timing.keystrokeDelay settings.noTypingDelay
    let _ ← Act.element target (.pressSequentially tag delay)
  | .paste => paste field tag
  | .keyboard => Act.call (.insertText tag)

/-- Enters a tag and ends it with the enter key. -/
def completeTag (timing : Timing) (field : Field) (settings : EachTag) (target : Handle)
    (tag : String) : Act Unit := do
  enterTag timing field settings target tag
  Timing.pause settings.settle
  let _ ← Act.element target (.press "Enter")

/-- Enters the tags after the first, each after a new focus where that is asked for. -/
def furtherTags (timing : Timing) (field : Field) (settings : EachTag) (target : Handle) :
    List String → Act Unit
  | [] => return ()
  | tag :: tags => do
    if settings.refocusEachTag then focus field settings target
    completeTag timing field settings target tag
    furtherTags timing field settings target tags

/-- Enters each text of a value as a tag. -/
def runEachTag (timing : Timing) (field : Field) (settings : EachTag) (record : Json)
    (value : String) : Act Outcome := do
  match requestedTags field settings record value with
  | [] => skip field "no tags" .none
  | tag :: tags =>
    match ← Locating.locateTagInput field settings with
    | none => skip field "tag input not found" .none
    | some target =>
      let _ ← timing.scrollIntoView target field.displayName field.skipScroll
      focus field settings target
      completeTag timing field settings target tag
      furtherTags timing field settings target tags
      return .applied field (.tags (tag :: tags) settings.entry)

end FormFill.Action
