import FormFill.Browser.Call

namespace FormFill

/-- An error that a browser reports. -/
structure BrowserError where
  timedOut : Bool
  text : String
deriving DecidableEq, Repr

/-- The errors with which calls of one kind end: every call alike, or each by its number. -/
inductive FaultPlan where
  | always (error : BrowserError)
  | each (errors : List (Option BrowserError))
deriving DecidableEq, Repr

/-- The error of a call after `earlier` calls of its kind. -/
def FaultPlan.error? (plan : FaultPlan) (earlier : Nat) : Option BrowserError :=
  match plan with
  | .always error => some error
  | .each errors => (errors[earlier]?).join

structure Box where
  x : Double
  y : Double
  width : Double
  height : Double
deriving DecidableEq, Repr

def Box.center (box : Box) : Double × Double :=
  (box.x.add box.width.half, box.y.add box.height.half)

/-- Elements of a page that one lookup finds together. -/
structure Node where
  count : Int
  box : Option Box
  checked : Bool
  text : String
  editable : Bool
  lookups : List (Lookup × String)
  all : List String
  faults : List (ElementCallKind × FaultPlan)
deriving DecidableEq, Repr

/-- What a lookup gives that finds nothing. -/
def Node.absent : Node :=
  { count := 0, box := none, checked := false, text := "", editable := false, lookups := [],
    all := [], faults := [] }

def absentName : String := "-"

/-- A page: what lookups find on it, how its elements answer, and which calls fail. -/
structure Page where
  lookups : List (Lookup × String)
  nodes : List (String × Node)
  faults : List (CallKind × FaultPlan)
  openPages : Nat
  closed : Bool
deriving DecidableEq, Repr

namespace Page

def node (page : Page) (name : String) : Node :=
  (page.nodes.lookup name).getD .absent

/-- The name of what a lookup finds on the page or inside an element. -/
def find (page : Page) (owner : Option Handle) (lookup : Lookup) : String :=
  let table :=
    match owner with
    | some handle => (page.node handle.node).lookups
    | none => page.lookups
  (table.lookup lookup).getD absentName

/-- Whether two events are calls of the same kind on the same element or part of the browser. -/
def sameKind : Event → Event → Bool
  | .element h c, .element k d => h.node = k.node && c.kind = d.kind
  | .call c, .call d => c.kind = d.kind
  | _, _ => false

def plan? (page : Page) : Event → Option FaultPlan
  | .element handle call => (page.node handle.node).faults.lookup call.kind
  | .call call => page.faults.lookup call.kind
  | _ => none

/-- The error that an event ends with after the events before it. -/
def error? (page : Page) (before : List Event) (event : Event) : Option BrowserError :=
  (page.plan? event).bind fun plan => plan.error? (before.countP (sameKind event))

end Page
end FormFill
