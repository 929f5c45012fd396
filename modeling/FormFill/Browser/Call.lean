import FormFill.Field
import FormFill.Number.Double
import FormFill.Options

namespace FormFill

/-- An element of a page as a lookup gives it: all that match, or the first of them. -/
structure Handle where
  node : String
  isFirst : Bool
deriving DecidableEq, Repr

def Handle.name (handle : Handle) : String :=
  if handle.isFirst then handle.node ++ ".first" else handle.node

def Handle.first (handle : Handle) : Handle :=
  { handle with isFirst := true }

/-- A way to look for elements. -/
inductive Lookup where
  | selector (query : String)
  | label (query : String) (exact : Bool)
  | placeholder (query : String) (exact : Bool)
  | text (query : String) (exact : Bool)
deriving DecidableEq, Repr

/-- The lookup of a kind; selectors are always exact. -/
def Lookup.of (kind : LocatorKind) (query : String) (exact : Bool) : Lookup :=
  match kind with
  | .selector => .selector query
  | .label => .label query exact
  | .placeholder => .placeholder query exact
  | .text => .text query exact

/-- What can be asked of an element or done to it. -/
inductive ElementCall where
  | count
  | all
  | boundingBox
  | isChecked
  | innerText
  | evaluate (script : String)
  | scrollIntoView (timeout : Int)
  | click (force : Bool)
  | fill (text : String)
  | press (key : String)
  | pressSequentially (text : String) (delay : Int)
  | check (force : Bool)
  | selectOption (value : String)
deriving DecidableEq, Repr

/-- The calls on elements that are told apart when errors are planned. -/
inductive ElementCallKind where
  | count
  | all
  | boundingBox
  | isChecked
  | innerText
  | evaluate
  | scrollIntoView
  | click
  | fill
  | press
  | pressSequentially
  | check
  | selectOption
deriving DecidableEq, Repr

def ElementCall.kind : ElementCall → ElementCallKind
  | .count => .count
  | .all => .all
  | .boundingBox => .boundingBox
  | .isChecked => .isChecked
  | .innerText => .innerText
  | .evaluate _ => .evaluate
  | .scrollIntoView _ => .scrollIntoView
  | .click _ => .click
  | .fill _ => .fill
  | .press _ => .press
  | .pressSequentially .. => .pressSequentially
  | .check _ => .check
  | .selectOption _ => .selectOption

/-- How a browser is started. -/
structure LaunchOptions where
  headless : Bool
  slowMotion : Option Int
  channel : Option String
deriving DecidableEq, Repr

/-- What can be asked of the page as a whole, of its input devices and of the browser. -/
inductive Call where
  | goto (url : String) (waitUntil : WaitUntil)
  | waitForSelector (selector : String) (timeout : Nat)
  | waitForTimeout (milliseconds : Nat)
  | evaluate (script : String) (argument : Option String)
  | click (selector : String)
  | waitForClose
  | mouseClick (x y : Double)
  | keyPress (key : String)
  | insertText (text : String)
  | grantPermissions (permissions : List String) (origin : String)
  | startDriver
  | launch (options : LaunchOptions)
  | launchPersistent (folder : String) (options : LaunchOptions)
  | newContext
  | newPage
  | closeBrowser
  | closeContext
  | stopDriver
deriving DecidableEq, Repr

/-- The other calls that are told apart when errors are planned. -/
inductive CallKind where
  | goto
  | waitForSelector
  | waitForTimeout
  | evaluate
  | click
  | waitForClose
  | mouseClick
  | keyPress
  | insertText
  | grantPermissions
  | startDriver
  | launch
  | launchPersistent
  | newContext
  | newPage
  | closeBrowser
  | closeContext
  | stopDriver
deriving DecidableEq, Repr

def Call.kind : Call → CallKind
  | .goto .. => .goto
  | .waitForSelector .. => .waitForSelector
  | .waitForTimeout _ => .waitForTimeout
  | .evaluate .. => .evaluate
  | .click _ => .click
  | .waitForClose => .waitForClose
  | .mouseClick .. => .mouseClick
  | .keyPress _ => .keyPress
  | .insertText _ => .insertText
  | .grantPermissions .. => .grantPermissions
  | .startDriver => .startDriver
  | .launch _ => .launch
  | .launchPersistent .. => .launchPersistent
  | .newContext => .newContext
  | .newPage => .newPage
  | .closeBrowser => .closeBrowser
  | .closeContext => .closeContext
  | .stopDriver => .stopDriver

/-- One step of the dealings with the world outside. -/
inductive Event where
  | lookup (owner : Option Handle) (lookup : Lookup)
  | element (handle : Handle) (call : ElementCall)
  | call (call : Call)
  | isClosed
  | sleep (milliseconds : Int)
  | draw (low high : Int)
  | ask (message : String)
  | askConsole (message : String)
  | configureLogging (level : Option String)
deriving DecidableEq, Repr

end FormFill
