import FormFill.Action.Target
import FormFill.Proofs.Act.Growing
import FormFill.Proofs.Act.Returning
import FormFill.Proofs.Action.Handling

namespace FormFill

open Act

namespace Timing

theorem scrollIntoView_runIn (timing : Timing) (handle : Handle) (fieldName : String) (skip : Bool) (world : World) :
    ∃ value after added, (timing.scrollIntoView handle fieldName skip).runIn world = (.ok value, after) ∧
      world.Grown after added ∧ Still added := by
  unfold scrollIntoView
  split
  · exact ⟨false, world, [], rfl, .refl world, .nil⟩
  · rw [runIn_catchBrowser, runIn_bind, runIn_perform]
    cases world.page.error? world.trace (.element handle.first (.scrollIntoView timing.scrollTimeout)) with
    | none => exact ⟨true, _, _, rfl, .note world _, .singleton rfl⟩
    | some error => exact ⟨false, _, _, rfl, World.Grown.trans (.note world _) (.write _ _), .singleton rfl⟩

theorem scrollIntoView_returns (timing : Timing) (handle : Handle) (fieldName : String) (skip : Bool) :
    Returns (fun _ _ _ added => Still added) (timing.scrollIntoView handle fieldName skip) := by
  intro world value after returned
  obtain ⟨_, _, added, scrolled, grown, still⟩ := timing.scrollIntoView_runIn handle fieldName skip world
  rw [returned] at scrolled
  cases scrolled
  exact ⟨added, grown.page, grown.trace, still⟩

/-- The calls that scroll the page to its bottom. -/
def bottomScroll : List Event :=
  [.call (.evaluate bottomScript none), .call (.waitForTimeout settleTime)]

theorem calls_of_bottomScroll {added : List Event} (scrolls : added <+: bottomScroll) :
    ∀ event ∈ added, ∃ made, event = .call made ∧ made.mutates = false := by
  have harmless : Call.mutates (.evaluate bottomScript none) = false := by decide
  intro event member
  have among := scrolls.subset member
  simp only [bottomScroll, List.mem_cons, List.not_mem_nil, or_false] at among
  rcases among with rfl | rfl
  · exact ⟨_, rfl, harmless⟩
  · exact ⟨_, rfl, rfl⟩

theorem scrollPageBottom_runIn (world : World) :
    ∃ value after added, scrollPageBottom.runIn world = (.ok value, after) ∧ world.Grown after added ∧
      added <+: bottomScroll := by
  have scrolled := World.Grown.note world (.call (.evaluate bottomScript none))
  unfold scrollPageBottom
  rw [runIn_catchBrowser, runIn_bind]
  cases scrolls : world.page.error? world.trace (.call (.evaluate bottomScript none)) with
  | some error =>
    rw [runIn_call_error scrolls]
    exact ⟨false, _, _, rfl, scrolled.trans (.write _ _), List.prefix_append _ _⟩
  | none =>
    rw [runIn_call scrolls]
    dsimp only
    rw [runIn_bind]
    have settled := scrolled.trans (.note _ (.call (.waitForTimeout settleTime)))
    cases settles : Page.error? _ _ (.call (.waitForTimeout settleTime)) with
    | some error =>
      rw [runIn_call_error settles]
      exact ⟨false, _, _, rfl, settled.trans (.write _ _), List.prefix_append _ _⟩
    | none =>
      rw [runIn_call settles]
      exact ⟨true, _, _, rfl, settled, List.prefix_append _ _⟩

end Timing

/-- What a page gives for the first way that a definition has to find its element. -/
def Field.handle? (field : Field) (page : Page) : Option Handle :=
  field.strategy.map fun (kind, query) => ⟨page.find none (.of kind query field.exact), false⟩

/-- The lookup that the first way of a definition to find its element comes to. -/
def Field.lookup? (field : Field) : Option Lookup :=
  field.strategy.map fun (kind, query) => .of kind query field.exact

/-- The target of a field is found behind a handle after some events. -/
structure Field.Found (field : Field) (page : Page) (before : List Event) (handle : Handle) : Prop where
  located : field.handle? page = some handle
  counted : page.error? before (.element handle .count) = none
  present : (page.node handle.node).count ≠ 0

namespace Field.Found

variable {field : Field} {page : Page} {before : List Event} {handle : Handle}

theorem active (found : field.Found page before handle) {settings : Fill} (filling : field.action = .fill settings) :
    field.isInert = false := by
  have located := found.located
  unfold handle? at located
  cases strategy : field.strategy with
  | none => simp [strategy] at located
  | some way => simp [isInert, filling, strategy]

/-- What has not counted the elements has not changed whether the target is found. -/
theorem later (found : field.Found page before handle) {added : List Event}
    (apart : ∀ event ∈ added, Page.sameKind (.element handle .count) event = false) :
    field.Found page (before ++ added) handle :=
  ⟨found.located, (Page.error?_append apart).trans found.counted, found.present⟩

end Field.Found

theorem Act.count_runIn {handle : Handle} {world : World}
    (passes : world.page.error? world.trace (.element handle .count) = none) :
    (Act.count handle).runIn world =
      (.ok (world.page.node handle.node).count, world.note (.element handle .count)) := by
  unfold Act.count Act.element
  rw [runIn_bind, runIn_bind, runIn_perform, passes]
  rfl

theorem Locating.locate_runIn {field : Field} {world : World} {handle : Handle}
    (located : field.handle? world.page = some handle) :
    ∃ lookup, (locate field).runIn world = (.ok (some handle), world.note (.lookup none lookup)) := by
  unfold Field.handle? at located
  rw [locate_eq]
  cases strategy : field.strategy with
  | none => simp [strategy] at located
  | some way =>
    obtain ⟨kind, query⟩ := way
    rw [strategy, Option.map_some, Option.some_inj] at located
    subst located
    exact ⟨.of kind query field.exact, rfl⟩

theorem Action.target_runIn (timing : Timing) {field : Field} {handle : Handle} {world : World}
    (found : field.Found world.page world.trace handle) :
    ∃ after added, (target timing field).runIn world = (.ok (some handle.first), after) ∧
      world.Grown after added ∧ Still added := by
  obtain ⟨lookup, finds⟩ := Locating.locate_runIn found.located
  have apart : ∀ event ∈ [Event.lookup none lookup], Page.sameKind (.element handle .count) event = false := by
    simp [Page.sameKind]
  let looked := world.note (.lookup none lookup)
  have standing : field.Found looked.page looked.trace handle := found.later apart
  have counts := count_runIn standing.counted
  obtain ⟨_, after, added, scrolled, grown, still⟩ := timing.scrollIntoView_runIn handle field.displayName
    field.skipScroll (looked.note (.element handle .count))
  have counted : world.Grown (looked.note (.element handle .count)) _ := World.Grown.trans (.note world _) (.note _ _)
  have quiet : Still [.lookup none lookup, .element handle .count] := by
    simp [Still, Event.mutates, ElementCall.mutates]
  refine ⟨after, _, ?_, counted.trans grown, quiet.append still⟩
  unfold target
  rw [runIn_bind_ok finds]
  dsimp only
  rw [runIn_bind_ok counts, if_neg standing.present, runIn_bind_ok scrolled, runIn_pure]

theorem Locating.locate_returns (field : Field) :
    Returns (fun page _ found added => found = field.handle? page ∧
      added = (field.lookup?.map (Event.lookup none)).toList) (locate field) := by
  rw [locate_eq]
  unfold Field.handle? Field.lookup?
  cases field.strategy with
  | none => exact .pure fun _ _ => ⟨rfl, rfl⟩
  | some way =>
    obtain ⟨kind, query⟩ := way
    have told (handle : Handle) : Returns (fun _ _ found added => found = some handle ∧ added = [])
        (pure (some handle) : Act (Option Handle)) := .pure fun _ _ => ⟨rfl, rfl⟩
    refine ((Returns.lookup none (.of kind query field.exact)).bind told).imp ?_
    rintro _ _ _ _ ⟨_, _, _, rfl, ⟨rfl, rfl⟩, rfl, rfl⟩
    exact ⟨rfl, rfl⟩

/-- Some element is behind the handle that a page gives for a definition. -/
structure Field.Matches (field : Field) (page : Page) (handle : Handle) : Prop where
  located : field.handle? page = some handle
  present : (page.node handle.node).count ≠ 0

namespace Action

variable {timing : Timing} {field : Field} {world after : World}

theorem target_ended {found : Handle} (ended : (target timing field).runIn world = (.ok (some found), after)) :
    ∃ handle, field.Matches world.page handle ∧ found = handle.first := by
  obtain ⟨located, looked, locates, ended⟩ := ok_of_bind ended
  obtain ⟨_, page, -, rfl, -⟩ := Locating.locate_returns field world located looked locates
  cases located : field.handle? world.page with
  | none =>
    rw [located] at ended
    cases ended
  | some handle =>
    rw [located] at ended
    obtain ⟨count, counted, counts, ended⟩ := ok_of_bind ended
    obtain ⟨_, -, -, -, -, rfl⟩ := Returns.count handle looked count counted counts
    split at ended
    · cases ended
    · rename_i present
      obtain ⟨_, _, -, ended⟩ := ok_of_bind ended
      cases ended
      rw [page] at present
      exact ⟨handle, ⟨located, present⟩, rfl⟩

/-- An applied interaction with a target has gone on with the first match of the definition, and changed nothing
    before. -/
theorem onTarget_ended {next : Handle → Act Outcome} {outcome : Outcome}
    (ended : (onTarget timing field next).runIn world = (.ok outcome, after)) (applied : outcome.status = .applied) :
    ∃ handle middle opening, field.Matches world.page handle ∧ middle.page = world.page ∧
      middle.trace = world.trace ++ opening ∧ Still opening ∧
      (next handle.first).runIn middle = (.ok outcome, after) := by
  obtain ⟨found, middle, targets, ended⟩ := ok_of_bind ended
  have handles : Handles world.page world.trace [] true (world.page.Finds world.trace) (target timing field) :=
    target_handles timing field
  obtain ⟨opening, worked, -⟩ := handles world rfl (List.append_nil _).symm
  rw [targets] at worked
  cases found with
  | none =>
    cases ended
    cases applied
  | some found =>
    obtain ⟨handle, matching, rfl⟩ := target_ended targets
    exact ⟨handle, middle, opening, matching, worked.kept, worked.trace, worked.still rfl, ended⟩

end Action
end FormFill
