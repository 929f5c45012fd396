import FormFill.Record.Path

namespace FormFill

/-- What is done to a value before it is used. -/
inductive Transform where
  | none
  | usSize
  | commaJoin
deriving DecidableEq, Repr

def Transform.name : Transform → String
  | .none => "none"
  | .usSize => "us_size"
  | .commaJoin => "comma_join"

/-- How a tag input is given the focus. -/
inductive Focus where
  | click
  | script
  | both
deriving DecidableEq, Repr

def Focus.name : Focus → String
  | .click => "click"
  | .script => "script"
  | .both => "both"

/-- How the text of a tag gets into the input. -/
inductive Entry where
  | type
  | keyboard
  | paste
deriving DecidableEq, Repr

def Entry.name : Entry → String
  | .type => "type"
  | .keyboard => "keyboard"
  | .paste => "paste"

/-- The kinds of interaction. -/
inductive ActionKind where
  | fill
  | type
  | click
  | check
  | select
  | clickEachText
  | typeEachTag
deriving DecidableEq, Repr

def ActionKind.all : List ActionKind :=
  [.fill, .type, .click, .check, .select, .clickEachText, .typeEachTag]

def ActionKind.name : ActionKind → String
  | .fill => "fill"
  | .type => "type"
  | .click => "click"
  | .check => "check"
  | .select => "select"
  | .clickEachText => "click_each_text"
  | .typeEachTag => "type_each_tag"

/-- Sets the value of an input. -/
structure Fill where
  clear : Bool
  pressEnter : Bool
  enterDelay : Nat
  noTypingDelay : Bool
deriving DecidableEq, Repr

/-- Types a value key by key. -/
structure TypeKeys where
  pressEnter : Bool
  enterDelay : Nat
  noTypingDelay : Bool
deriving DecidableEq, Repr

structure Click where
  center : Bool
deriving DecidableEq, Repr

structure Check where
  skipIfChecked : Bool
  indicator : Option String
deriving DecidableEq, Repr

/-- Clicks one element for each text of a value. -/
structure EachText where
  scope : Option String
  normalize : Bool
  candidates : String
deriving DecidableEq, Repr

/-- Enters each text of a value as a tag. -/
structure EachTag where
  focus : Focus
  entry : Entry
  useKeyboard : Bool
  usePaste : Bool
  joinTags : Bool
  refocusEachTag : Bool
  settle : Nat
  tagAnchor : Option String
  detectTagInput : Bool
  detectSiblingTags : Bool
  noTypingDelay : Bool
deriving DecidableEq, Repr

/-- An interaction with the settings that only it has. -/
inductive Action where
  | fill (settings : Fill)
  | type (settings : TypeKeys)
  | click (settings : Click)
  | check (settings : Check)
  | select
  | clickEachText (settings : EachText)
  | typeEachTag (settings : EachTag)
deriving DecidableEq, Repr

def Action.kind : Action → ActionKind
  | .fill _ => .fill
  | .type _ => .type
  | .click _ => .click
  | .check _ => .check
  | .select => .select
  | .clickEachText _ => .clickEachText
  | .typeEachTag _ => .typeEachTag

/-- A definition of one field of a form. -/
structure Field where
  name : Option String
  selector : Option String
  label : Option String
  placeholder : Option String
  text : Option String
  exact : Bool
  value : Option String
  transform : Transform
  autoIdentifier : Bool
  skipScroll : Bool
  scrollPageBottom : Bool
  force : Bool
  action : Action
deriving DecidableEq, Repr

/-- A text that is present and not empty. -/
def given (text : Option String) : Option String :=
  text.filter (· ≠ "")

/-- The attributes by which an element is found. -/
inductive LocatorKind where
  | selector
  | label
  | placeholder
  | text
deriving DecidableEq, Repr

def LocatorKind.name : LocatorKind → String
  | .selector => "selector"
  | .label => "label"
  | .placeholder => "placeholder"
  | .text => "text"

namespace Field

/-- The first way to find the element that the definition gives, with its query. -/
def strategy (field : Field) : Option (LocatorKind × String) :=
  ((given field.selector).map (LocatorKind.selector, ·)).or <|
  ((given field.label).map (LocatorKind.label, ·)).or <|
  ((given field.placeholder).map (LocatorKind.placeholder, ·)).or <|
  (given field.text).map (LocatorKind.text, ·)

def hasLiteralValue (field : Field) : Bool :=
  match Record.Source.ofText? field.value with
  | .literal _ => true
  | _ => false

/-- Whether there is nothing to do: nothing to find and no value of its own. -/
def isInert (field : Field) : Bool :=
  match field.action with
  | .clickEachText _ => (given field.value).isNone
  | .typeEachTag settings => field.strategy.isNone && (given settings.tagAnchor).isNone
  | _ => field.strategy.isNone && !field.hasLiteralValue

def displayName (field : Field) : String :=
  ((given field.name).or (field.strategy.map (·.2))).getD "field"

/-- The text next to which a tag input stands. -/
def anchor (field : Field) (settings : EachTag) : Option String :=
  (given settings.tagAnchor).or field.text

/-- Whether the texts of the field go through the clipboard. -/
def pastes (field : Field) : Bool :=
  match field.action with
  | .typeEachTag settings => settings.entry = .paste
  | _ => false

end Field
end FormFill
