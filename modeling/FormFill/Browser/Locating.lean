import FormFill.Browser.World

namespace FormFill.Locating

def editableDescendants : String :=
  "input, textarea, [contenteditable=''], [contenteditable='true'], [role='textbox']"

/-- The first element after another one whose class, label or test name speaks of tags. -/
def tagsControlPath : String :=
  "xpath=following::*[contains(translate(@class, 'TAG', 'tag'), 'tag')" ++
  " or contains(translate(@aria-label, 'TAG', 'tag'), 'tag')" ++
  " or contains(translate(@data-testid, 'TAG', 'tag'), 'tag')][1]"

def isEditableScript : String :=
  "\nel => el.isContentEditable\n    || el.tagName === 'INPUT'\n    || el.tagName === 'TEXTAREA'" ++
  "\n    || el.getAttribute('role') === 'textbox'\n"

def log (level : LogLevel) (event : String) (values : Members) : Act Unit :=
  Act.log level "locator_resolver" event values

/-- Looks for a field in the first way that its definition gives. -/
def locate (field : Field) : Act (Option Handle) := do
  if let some query := given field.selector then
    return some (← Act.lookup none (.selector query))
  if let some query := given field.label then
    return some (← Act.lookup none (.label query field.exact))
  if let some query := given field.placeholder then
    return some (← Act.lookup none (.placeholder query field.exact))
  if let some query := given field.text then
    return some (← Act.lookup none (.text query field.exact))
  return none

/-- The way in which a field is looked for is the one that its definition names. -/
theorem locate_eq (field : Field) :
    locate field =
      match field.strategy with
      | some (kind, query) => do return some (← Act.lookup none (.of kind query field.exact))
      | none => return none := by
  unfold locate Field.strategy
  cases given field.selector with
  | some query => rfl
  | none =>
    cases given field.label with
    | some query => rfl
    | none =>
      cases given field.placeholder with
      | some query => rfl
      | none => cases given field.text <;> rfl

/-- Looks for a field that has to be on the page. -/
def locatePresent (field : Field) : Act (Option Handle) := do
  match ← locate field with
  | none => return none
  | some handle =>
    if (← Act.count handle) = 0 then
      log .info "Target not found" [("field", .str field.displayName)]
      return none
    return some handle

/-- The editable element inside a container, or the container if it is editable itself. -/
def editableTarget (field : Field) (container : Handle) : Act (Option Handle) := do
  let inner ← Act.lookup (some container) (.selector editableDescendants)
  if 0 < (← Act.count inner) then return some inner.first
  if (← Act.element container (.evaluate isEditableScript)).editable then return some container
  log .info "No editable element inside tag control" [("field", .str field.displayName)]
  return none

/-- The element inside a container that takes tags. -/
def narrow (field : Field) (settings : EachTag) (container : Handle) : Act (Option Handle) :=
  if settings.detectTagInput then editableTarget field container else return some container

/-- The tags control that follows the anchor text. -/
def siblingControl (field : Field) (anchor : String) : Act (Option Handle) := do
  let label ← Act.lookup none (.text anchor field.exact)
  if (← Act.count label) = 0 then return none
  let sibling ← Act.lookup (some label.first) (.selector tagsControlPath)
  if (← Act.count sibling) = 0 then return none
  log .debug "Using tags control after anchor text" [("field", .str field.displayName)]
  return some sibling.first

/-- The tag input in what the definition itself finds. -/
def directTagInput (field : Field) (settings : EachTag) : Act (Option Handle) := do
  match ← locate field with
  | none => return none
  | some direct =>
    if 0 < (← Act.count direct) then narrow field settings direct.first else return none

/-- The tag input in the control after the anchor text, which may be looked for if allowed. -/
def siblingTagInput (field : Field) (settings : EachTag) : Act (Option Handle) := do
  match given (field.anchor settings) with
  | none => return none
  | some anchor =>
    if settings.detectSiblingTags then
      match ← siblingControl field anchor with
      | some sibling => narrow field settings sibling
      | none => return none
    else return none

/-- Finds the element that accepts typed tags. A matched label is usually not the control itself, so
    what follows it is looked at as well. -/
def locateTagInput (field : Field) (settings : EachTag) : Act (Option Handle) := do
  if let some target ← directTagInput field settings then return some target
  if let some target ← siblingTagInput field settings then return some target
  log .info "Tag input not found"
    [("field", .str field.displayName),
     ("anchor", match field.anchor settings with
       | some anchor => .str anchor
       | none => .null)]
  return none

end FormFill.Locating
