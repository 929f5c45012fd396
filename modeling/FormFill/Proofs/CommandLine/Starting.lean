import FormFill.Proofs.Browser.Resources
import FormFill.Proofs.CommandLine.Closing

namespace FormFill

open Act

theorem Session.start_failed {session : Session} {world after : World} {failure : Failure}
    (fails : session.start.runIn world = (.error failure, after)) :
    ∃ earlier failed error, failure = .browser error ∧
      world.page.BreaksOff world.trace (session.launching world.page.openPages) earlier failed error ∧
      after.trace = world.trace ++ (earlier ++ [failed]).map .call := by
  obtain ⟨-, -, ended⟩ := session.start_makes world.page world.opened world rfl rfl
  rw [fails] at ended
  exact ended

theorem Session.holds_iff_driver {session : Session} {page : Page} {before : List Event} {openPages : Nat}
    {earlier : List Call} {failed : Call} {error : BrowserError}
    (breaks : page.BreaksOff before (session.launching openPages) earlier failed error) :
    (∃ resource, page.Holds before ((earlier ++ [failed]).map .call) resource) ↔
      page.error? before (.call .startDriver) = none := by
  simp only [breaks.holds_iff (session.launching_keepsOpen openPages)]
  have begins : earlier ++ [failed] <+: .startDriver :: (session.launching openPages).tail := breaks.planned
  cases earlier with
  | nil =>
    have first : failed = .startDriver := (List.cons_prefix_cons.mp begins).1
    have raised : page.error? before (.call .startDriver) = some error := by simpa [first] using breaks.raised
    simp [raised]
  | cons made rest =>
    obtain rfl : made = .startDriver := (List.cons_prefix_cons.mp begins).1
    have driver : ∃ resource call, call ∈ Call.startDriver :: rest ∧ call.obtained? = some resource :=
      ⟨.driver, .startDriver, by simp, rfl⟩
    simp only [driver, breaks.passes.1]

namespace CommandLine

/-- A browser that fails to start leaves all held that the start has obtained, in whichever of the two ways it is
    started. That is something unless it is the driver that fails. -/
theorem failed_start_holds {session : Session} {world after : World} {failure : Failure}
    (fails : session.start.runIn world = (.error failure, after)) :
    (∀ {α : Type} (action : Act α), (session.during action).runIn world = (.error failure, after)) ∧
    (∀ settings request form record, RunRequest.session settings request form = session →
      (fill settings request form record).runIn world = (.error failure, after)) ∧
    ∃ earlier failed error added, failure = .browser error ∧ added = (earlier ++ [failed]).map Event.call ∧
      world.page.BreaksOff world.trace (session.launching world.page.openPages) earlier failed error ∧
      after.trace = world.trace ++ added ∧
      (∀ resource, world.page.Holds world.trace added resource ↔ ∃ call ∈ earlier, call.obtained? = some resource) ∧
      ((∃ resource, world.page.Holds world.trace added resource) ↔
        world.page.error? world.trace (.call .startDriver) = none) := by
  obtain ⟨earlier, failed, error, same, breaks, trace⟩ := session.start_failed fails
  have holds (resource : Resource) :
      world.page.Holds world.trace ((earlier ++ [failed]).map .call) resource ↔
        ∃ call ∈ earlier, call.obtained? = some resource :=
    breaks.holds_iff (session.launching_keepsOpen world.page.openPages)
  refine ⟨fun action => runIn_bind_error fails, ?_, ?_⟩
  · rintro settings request form record rfl
    rw [fill_eq]
    exact runIn_bind_error fails
  · exact ⟨earlier, failed, error, _, same, rfl, breaks, trace, holds, Session.holds_iff_driver breaks⟩

theorem failed_start_holds_profile :
    let session : Session := ⟨true, 0, some "profile", none⟩
    let page : Page := { Page.blank with openPages := 0, faults := [(.newPage, .always ⟨false, "no page"⟩)] }
    let world : World := .untouched page .empty
    session.start.runIn world = (.error (.browser ⟨false, "no page"⟩), (session.start.runIn world).2) ∧
      ∃ resource, page.Holds [] (session.start.runIn world).2.trace resource := by
  intro session page world
  have fails : session.start.runIn world =
      (.error (.browser ⟨false, "no page"⟩), (session.start.runIn world).2) := rfl
  obtain ⟨-, -, earlier, failed, error, added, -, -, -, trace, -, held⟩ := failed_start_holds fails
  rw [trace]
  exact ⟨fails, held.mpr rfl⟩

/-- Neither the driver nor the browser is given back where no context can be opened in the browser. -/
theorem failed_start_leaks :
    let session : Session := ⟨true, 0, none, none⟩
    let page : Page := { Page.blank with faults := [(.newContext, .always ⟨false, "no context"⟩)] }
    let ended := (session.during (pure ())).runIn (.untouched page .empty)
    ended.1 = .error (.browser ⟨false, "no context"⟩) ∧ page.error? [] (.call .startDriver) = none ∧
      page.Holds [] ended.2.trace .driver ∧ page.Holds [] ended.2.trace .browser := by
  intro session page ended
  refine ⟨rfl, rfl, ?_, ?_⟩
  · refine ⟨[], .startDriver, [.call (.launch session.launchOptions), .call .newContext], rfl, rfl, rfl, ?_⟩
    simp [Event.released?]
  · refine ⟨[.call .startDriver], .launch session.launchOptions, [.call .newContext], rfl, rfl, rfl, ?_⟩
    simp [Event.released?]

end CommandLine
end FormFill
