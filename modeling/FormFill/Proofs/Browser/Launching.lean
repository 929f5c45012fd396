import FormFill.Browser.Session
import FormFill.Proofs.Act.Calls

namespace FormFill.Session

open Act

/-- What the session has open once it is started. -/
def opened (session : Session) : Opened :=
  ⟨true, (given session.userDataDir).isNone, true, true⟩

/-- The calls of a start that none of them fails. -/
def launching (session : Session) (openPages : Nat) : List Call :=
  .startDriver ::
    match given session.userDataDir with
    | some folder =>
      .launchPersistent folder session.launchOptions :: if openPages = 0 then [.newPage] else []
    | none => [.launch session.launchOptions, .newContext, .newPage]

theorem start_makes (session : Session) (page : Page) (before : Opened) :
    Makes page (session.launching page.openPages) before
      { session.opened with browser := session.opened.browser || before.browser } session.start := by
  have marks (opened : Opened) (change : Opened → Opened) : Makes page [] opened (change opened) (open_ change) :=
    .modify (fun _ => rfl) (fun _ => rfl) (fun _ => rfl) fun _ here => congrArg change here
  have logs (opened : Opened) (event : String) (values : Members) : Makes page [] opened opened (log event values) :=
    .modify (fun _ => rfl) (fun _ => rfl) (fun _ => rfl) fun _ here => here
  have opens (opened : Opened) (values : Members) : Makes page [] opened { opened with page := true } (do
      open_ fun opened => { opened with page := true }
      log "Browser started" values) :=
    .bind (marks _ _) fun _ => logs _ _ _
  have opensLast (opened : Opened) (values : Members) :
      Makes page (if page.openPages = 0 then [.newPage] else []) opened { opened with page := true } (do
        if (← get).page.openPages = 0 then Act.call .newPage
        open_ fun opened => { opened with page := true }
        log "Browser started" values) := by
    refine .read fun world here => ?_
    rw [here]
    split
    · exact .bind (.call .newPage) fun _ => opens _ values
    · exact opens _ values
  unfold start launching opened
  -- Over a profile no browser is opened, so one that was open before stays so.
  refine .bind (.call .startDriver) fun _ => ?_
  refine .bind (marks _ _) fun _ => ?_
  cases given session.userDataDir with
  | some folder =>
    refine .bind (.call _) fun _ => ?_
    refine .bind (marks _ _) fun _ => ?_
    exact opensLast _ _
  | none =>
    refine .bind (.call _) fun _ => ?_
    refine .bind (marks _ _) fun _ => ?_
    refine .bind (.call .newContext) fun _ => ?_
    refine .bind (marks _ _) fun _ => ?_
    exact .bind (.call .newPage) fun _ => opens _ _

end FormFill.Session
