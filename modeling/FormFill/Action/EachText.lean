import FormFill.Action.Target
import FormFill.Record.Normalized

namespace FormFill.Action

/-- The texts that are to be clicked: with normalized comparison a single text is one of them as a
    whole, else a value is split into its entries. -/
def requestedTexts (settings : EachText) (value : Json) : List String :=
  let texts :=
    match settings.normalize, value with
    | true, .str text =>
      let text := Text.strip text.toList
      if text = [] then [] else [text]
    | _, value => Record.entries value
  texts.map String.ofList

/-- Texts that were clicked and texts that were not found, each in their order. -/
structure Clicks where
  clicked : List String
  missing : List String
deriving DecidableEq, Repr

def Clicks.cons (text : String) (found : Bool) (clicks : Clicks) : Clicks :=
  if found then { clicks with clicked := text :: clicks.clicked }
  else { clicks with missing := text :: clicks.missing }

/-- Does something for each text in turn and sorts the texts by its success. -/
def forTexts (step : String → Act Bool) : List String → Act Clicks
  | [] => return ⟨[], []⟩
  | text :: texts => do
    let found ← step text
    return (← forTexts step texts).cons text found

def textNotFound (field : Field) (text : String) : Act Bool := do
  log .info "Text not found" [("field", .str field.displayName), ("text", .str text)]
  return false

/-- Clicks the first element that shows a text. -/
def clickText (timing : Timing) (field : Field) (scope : Option Handle) (text : String) :
    Act Bool := do
  let found ← Act.lookup scope (.text text field.exact)
  if (← Act.count found) = 0 then textNotFound field text
  else
    let _ ← timing.scrollIntoView found field.displayName field.skipScroll
    let _ ← Act.element found.first (.click field.force)
    return true

/-- The text inside a candidate, unless it cannot be read. -/
def candidateText? (candidate : Handle) : Act (Option String) :=
  Act.catchBrowser (do return some (← Act.element candidate .innerText).text) fun _ => return none

def normalizedString (text : String) : List Char :=
  Record.normalizedValue (.str text)

/-- The first candidate whose text is equal to the wanted one after normalization. -/
def findCandidate (wanted : List Char) : List Handle → Act (Option Handle)
  | [] => return none
  | candidate :: candidates => do
    match ← candidateText? candidate with
    | some text =>
      if normalizedString text = wanted then return some candidate
      else findCandidate wanted candidates
    | none => findCandidate wanted candidates

/-- Clicks the first candidate that shows a text but for case, blanks and signs. -/
def clickNormalized (timing : Timing) (field : Field) (candidates : List Handle) (text : String) :
    Act Bool := do
  match ← findCandidate (normalizedString text) candidates with
  | none => textNotFound field text
  | some candidate =>
    let _ ← timing.scrollIntoView candidate field.displayName field.skipScroll
    let _ ← Act.element candidate (.click field.force)
    return true

/-- The elements in a scope among which a normalized text is looked for. -/
def candidates (settings : EachText) (scope : Handle) : Act (List Handle) := do
  let found ← Act.lookup (some scope) (.selector settings.candidates)
  return (← Act.element found .all).all.map (⟨·, false⟩)

def clickTexts (timing : Timing) (field : Field) (settings : EachText) (texts : List String) :
    Act Clicks := do
  match given settings.scope with
  | none => forTexts (clickText timing field none) texts
  | some query =>
    let scope ← Act.lookup none (.selector query)
    if settings.normalize then
      forTexts (clickNormalized timing field (← candidates settings scope)) texts
    else forTexts (clickText timing field (some scope)) texts

/-- Clicks one element for each text of a value. -/
def runEachText (timing : Timing) (field : Field) (settings : EachText) (record : Json) :
    Act Outcome := do
  let texts := requestedTexts settings (field.rawValue record)
  if texts = [] then skip field "no values" .none
  else
    let clicks ← clickTexts timing field settings texts
    if clicks.clicked = [] then skip field "no matching text" (.missing clicks.missing)
    else return .applied field (.clicked clicks.clicked clicks.missing)

end FormFill.Action
