import FormFill.Browser.World

namespace FormFill

/-- How the browser of a run is started. -/
structure Session where
  headless : Bool
  slowMotion : Int
  userDataDir : Option String
  channel : Option String
deriving DecidableEq, Repr

namespace Session

def log (event : String) (values : Members) : Act Unit :=
  Act.log .info "browser_session" event values

def open_ (change : Opened → Opened) : Act Unit :=
  modify fun world => { world with opened := change world.opened }

def launchOptions (session : Session) : LaunchOptions :=
  { headless := session.headless,
    slowMotion := if session.slowMotion = 0 then none else some session.slowMotion,
    channel := given session.channel }

/-- Starts the browser and opens a page. With a user data folder the profile in it is used, and the
    page it has open. -/
def start (session : Session) : Act Unit := do
  Act.call .startDriver
  open_ fun opened => { opened with driver := true }
  match given session.userDataDir with
  | some folder =>
    Act.call (.launchPersistent folder session.launchOptions)
    open_ fun opened => { opened with context := true }
    if (← get).page.openPages = 0 then Act.call .newPage
  | none =>
    Act.call (.launch session.launchOptions)
    open_ fun opened => { opened with browser := true }
    Act.call .newContext
    open_ fun opened => { opened with context := true }
    Act.call .newPage
  open_ fun opened => { opened with page := true }
  log "Browser started"
    [("headless", .bool session.headless), ("slow_mo_ms", .int session.slowMotion),
     ("persistent", .bool (given session.userDataDir).isSome)]

/-- Waits until a person closes the page. -/
def waitUntilClosed : Act Unit := do
  if (← get).opened.page then
    Act.note .isClosed
    if !(← get).page.closed then Act.call .waitForClose

/-- Closes what is open: the browser, or else its context, and then the driver. -/
def close : Act Unit := do
  let opened := (← get).opened
  if opened.browser then Act.call .closeBrowser
  else if opened.context then Act.call .closeContext
  if opened.driver then Act.call .stopDriver
  open_ fun _ => .nothing
  log "Browser closed" []

/-- Does something and closes the browser afterwards, whatever becomes of it. -/
def closingAfter {α : Type} (action : Act α) : Act α := do
  let result ← Act.attempt action
  close
  match result with
  | .ok value => return value
  | .error failure => throw failure

/-- Does something while the browser is started for it. -/
def during {α : Type} (session : Session) (action : Act α) : Act α := do
  session.start
  closingAfter action

end Session
end FormFill
