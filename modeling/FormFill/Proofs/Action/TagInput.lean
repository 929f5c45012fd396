import FormFill.Proofs.Action.Clicking
import FormFill.Proofs.Browser.Locating

namespace FormFill

open Act Locating

namespace Page

/-- No call fails on the page. -/
def Faultless (page : Page) : Prop :=
  ∀ before event, page.error? before event = none

theorem Faultless.returns {α : Type} {soft : Bool} {returns : α → Prop} {action : Act α} {world : World}
    (faultless : world.page.Faultless) (interacts : Interacts False soft returns action) :
    ∃ value after, action.runIn world = (.ok value, after) := by
  obtain ⟨added, -, ended⟩ := interacts world
  rcases result : action.runIn world with ⟨failure | value, after⟩
  · rw [result] at ended
    cases failure with
    | browser error =>
      obtain ⟨earlier, event, -, -, -, raised⟩ := ended
      rw [faultless] at raised
      cases raised
    | overlongPause => exact ended.1.elim
    | _ => exact ended.elim
  · exact ⟨value, after, rfl⟩

theorem Faultless.of_unplanned {page : Page} (calls : page.faults = [])
    (elements : ∀ entry ∈ page.nodes, entry.2.faults = []) : page.Faultless := by
  intro before event
  have unplanned : page.plan? event = none := by
    cases event with
    | call made => simp [plan?, calls]
    | element handle made =>
      have none : (page.node handle.node).faults = [] := by
        unfold Page.node
        cases found : page.nodes.lookup handle.node with
        | none => rfl
        | some node =>
          obtain ⟨_, _, split, -⟩ := List.lookup_eq_some_iff.mp found
          exact elements (handle.node, node) (by simp [split])
      simp [plan?, none]
    | _ => rfl
  simp [error?, unplanned]

/-- The editable elements inside a container. -/
def editables (page : Page) (container : Handle) : Handle :=
  page.handle (some container) (.selector editableDescendants)

/-- The tags controls after the first match of a label. -/
def controls (page : Page) (label : Lookup) : Handle :=
  page.handle (some (page.handle none label).first) (.selector tagsControlPath)

/-- An editable element is at hand in a container: the first one inside it, or the container where there is none inside
    and it answers that it is editable itself. -/
inductive Offers (page : Page) (container : Handle) : Handle → Prop where
  | inside (present : 0 < (page.node (page.editables container).node).count) :
      Offers page container (page.editables container).first
  | itself (absent : ¬ 0 < (page.node (page.editables container).node).count)
      (editable : (page.node container.node).editable = true) : Offers page container container

/-- An element takes the tags for a container, which does so as a whole where editable elements are not looked for. -/
def Takes (page : Page) (settings : EachTag) (container target : Handle) : Prop :=
  if settings.detectTagInput then page.Offers container target else target = container

/-- A container is the first tags control after a label. -/
structure Follows (page : Page) (label : Lookup) (container : Handle) : Prop where
  labelled : (page.node (page.handle none label).node).count ≠ 0
  present : (page.node (page.controls label).node).count ≠ 0
  first : container = (page.controls label).first

end Page

/-- Where an event looks for a container: on the page as a whole, or after a label. -/
def Event.place? : Event → Option Lookup
  | .lookup none looked => some looked
  | .lookup (some _) looked => if looked = .selector tagsControlPath then some looked else none
  | _ => none

/-- The places where events look for containers, in their order. -/
def places (events : List Event) : List Lookup :=
  events.filterMap Event.place?

theorem places_append (first second : List Event) : places (first ++ second) = places first ++ places second :=
  List.filterMap_append

namespace Field

/-- An element takes the tags for the first match of the definition. -/
def DirectInput (field : Field) (settings : EachTag) (page : Page) (target : Handle) : Prop :=
  ∃ handle, field.handle? page = some handle ∧ 0 < (page.node handle.node).count ∧
    page.Takes settings handle.first target

/-- The label after which a control may be looked for. -/
def label? (field : Field) (settings : EachTag) : Option Lookup :=
  if settings.detectSiblingTags then (given (field.anchor settings)).map (.text · field.exact) else none

/-- An element takes the tags for the control after the label, if that may be looked for. -/
def SiblingInput (field : Field) (settings : EachTag) (page : Page) (target : Handle) : Prop :=
  ∃ label container, field.label? settings = some label ∧ page.Follows label container ∧
    page.Takes settings container target

/-- No element takes the tags. -/
def WithoutInput (field : Field) (settings : EachTag) (page : Page) : Prop :=
  ∀ target, ¬ field.DirectInput settings page target ∧ ¬ field.SiblingInput settings page target

/-- The places to look at besides the match of the definition. -/
def siblingPlaces (field : Field) (settings : EachTag) (page : Page) : List Lookup :=
  match field.label? settings with
  | none => []
  | some label =>
    label :: if (page.node (page.handle none label).node).count = 0 then [] else [.selector tagsControlPath]

/-- What a search for the tag input of a field has found, and where it has looked for it. -/
structure Located (field : Field) (settings : EachTag) (page : Page) (found : Option Handle) (added : List Event) :
    Prop where
  found : ∀ target, found = some target ↔ field.DirectInput settings page target ∨
    (∀ other, ¬ field.DirectInput settings page other) ∧ field.SiblingInput settings page target
  direct : ∀ target, field.DirectInput settings page target → places added = field.lookup?.toList
  further : (∀ target, ¬ field.DirectInput settings page target) →
    places added = field.lookup?.toList ++ field.siblingPlaces settings page

/-- The search finds nothing just where there is no tag input to find. -/
theorem Located.none_iff {field : Field} {settings : EachTag} {page : Page} {found : Option Handle} {added : List Event}
    (located : field.Located settings page found added) :
    found = none ↔ field.WithoutInput settings page := by
  constructor
  · rintro rfl target
    have direct : ∀ other, ¬ field.DirectInput settings page other :=
      fun other direct => nomatch (located.found other).mpr (.inl direct)
    exact ⟨direct target, fun sibling => nomatch (located.found target).mpr (.inr ⟨direct, sibling⟩)⟩
  · intro nowhere
    refine Option.eq_none_iff_forall_ne_some.mpr fun target found => ?_
    rcases (located.found target).mp found with direct | ⟨-, sibling⟩
    · exact (nowhere target).1 direct
    · exact (nowhere target).2 sibling

end Field

namespace Locating

variable {field : Field} {settings : EachTag}

/-- What a part of the search gives is what it should, and so are the places that it has looked at. -/
def Searches (should : Page → Handle → Prop) (looked : Page → List Lookup) (action : Act (Option Handle)) : Prop :=
  Returns (fun page _ found added =>
    (∀ target, found = some target ↔ should page target) ∧ places added = looked page) action

namespace Searches

variable {should other : Page → Handle → Prop} {looked further : Page → List Lookup}
  {action first second : Act (Option Handle)}

theorem imp (searches : Searches should looked action) (same : ∀ page target, should page target ↔ other page target)
    (placed : ∀ page, looked page = further page) : Searches other further action :=
  Returns.imp searches fun page _ _ _ told => ⟨fun target => (told.1 target).trans (same page target),
    told.2.trans (placed page)⟩

theorem nothing : Searches (fun _ _ => False) (fun _ => []) (pure none) :=
  .pure fun _ _ => ⟨fun target => by simp, rfl⟩

theorem found (target : Handle) : Searches (fun _ same => same = target) (fun _ => []) (pure (some target)) :=
  .pure fun _ _ => ⟨fun same => by simpa using eq_comm, rfl⟩

theorem afterLog {level : LogLevel} {event : String} {values : Members} (searches : Searches should looked action) :
    Searches should looked (do
      log level event values
      action) :=
  .silently (.log _ _ _ _) fun _ => searches

theorem ite {decided : Prop} [Decidable decided] (yes : Searches should looked first)
    (no : Searches other further second) :
    Searches (fun page target => if decided then should page target else other page target)
      (fun page => if decided then looked page else further page) (if decided then first else second) := by
  by_cases holds : decided
  · simpa only [holds, if_true] using yes
  · simpa only [holds, if_false] using no

theorem afterLookup {should : Handle → Page → Handle → Prop} {looked : Handle → Page → List Lookup}
    {owner : Option Handle} {lookup : Lookup} {next : Handle → Act (Option Handle)}
    (searches : ∀ handle, Searches (should handle) (looked handle) (next handle)) :
    Searches (fun page => should (page.handle owner lookup) page)
      (fun page => (Event.lookup owner lookup).place?.toList ++ looked (page.handle owner lookup) page)
      (Act.lookup owner lookup >>= next) := by
  refine ((Returns.lookup owner lookup).bind searches).imp ?_
  rintro page _ _ _ ⟨_, _, _, rfl, ⟨rfl, rfl⟩, given, placed⟩
  refine ⟨given, ?_⟩
  rw [places_append, placed, places, List.filterMap_cons]
  cases (Event.lookup owner lookup).place? <;> rfl

theorem afterElement {should : Node → Page → Handle → Prop} {looked : Node → Page → List Lookup} {handle : Handle}
    {made : ElementCall} {next : Node → Act (Option Handle)}
    (searches : ∀ node, Searches (should node) (looked node) (next node)) :
    Searches (fun page => should (page.node handle.node) page) (fun page => looked (page.node handle.node) page)
      (Act.element handle made >>= next) := by
  refine ((Returns.element handle made).bind searches).imp ?_
  rintro page _ _ _ ⟨_, _, _, rfl, ⟨rfl, -, rfl⟩, given, placed⟩
  exact ⟨given, (places_append _ _).trans placed⟩

theorem afterCount {should : Int → Page → Handle → Prop} {looked : Int → Page → List Lookup} {handle : Handle}
    {next : Int → Act (Option Handle)} (searches : ∀ count, Searches (should count) (looked count) (next count)) :
    Searches (fun page => should (page.node handle.node).count page)
      (fun page => looked (page.node handle.node).count page) (Act.count handle >>= next) := by
  refine ((Returns.count handle).bind searches).imp ?_
  rintro page _ _ _ ⟨_, _, _, rfl, ⟨rfl, -, rfl⟩, given, placed⟩
  exact ⟨given, (places_append _ _).trans placed⟩

/-- Where a search finds something, another one goes on from there. -/
theorem goingOn {should : Page → Handle → Prop} {looked : Page → List Lookup} {action : Act (Option Handle)}
    {next : Option Handle → Act (Option Handle)} {other : Handle → Page → Handle → Prop}
    (searches : Searches should looked action) (nothing : next none = pure none)
    (going : ∀ container, Searches (other container) (fun _ => []) (next (some container))) :
    Searches (fun page target => ∃ container, should page container ∧ other container page target) looked
      (action >>= next) := by
  have goes (found : Option Handle) : Returns (fun page _ final added =>
      (∀ target, final = some target ↔ ∃ container, found = some container ∧ other container page target) ∧
        places added = []) (next found) := by
    cases found with
    | none =>
      rw [nothing]
      exact .pure fun _ _ => ⟨fun target => by simp, rfl⟩
    | some container =>
      exact Returns.imp (going container) fun _ _ _ _ told => ⟨fun target => by simp [told.1], told.2⟩
  refine (Returns.bind searches goes).imp ?_
  rintro page _ _ _ ⟨container, _, _, rfl, ⟨found, placed⟩, narrowed, unplaced⟩
  refine ⟨fun target => by simp [narrowed, found], ?_⟩
  rw [places_append, placed, unplaced, List.append_nil]

end Searches

theorem editableTarget_searches (field : Field) (container : Handle) :
    Searches (fun page => page.Offers container) (fun _ => []) (editableTarget field container) := by
  refine Searches.imp (.afterLookup fun inner => .afterCount fun count => .ite (.found inner.first) <|
    .afterElement fun node => .ite (.found container) (.afterLog .nothing)) (fun page target => ?_) fun page => ?_
  · constructor
    · intro takes
      split at takes
      · rename_i present
        obtain rfl := takes
        exact .inside present
      · rename_i absent
        split at takes
        · rename_i editable
          obtain rfl := takes
          exact .itself absent editable
        · exact takes.elim
    · rintro (present | ⟨absent, editable⟩)
      · exact (if_pos present).mpr rfl
      · exact (if_neg absent).mpr ((if_pos editable).mpr rfl)
  · have unplaced : (Event.lookup (some container) (.selector editableDescendants)).place? = none := rfl
    simp [unplaced]

theorem narrow_searches (field : Field) (settings : EachTag) (container : Handle) :
    Searches (fun page => page.Takes settings container) (fun _ => []) (narrow field settings container) := by
  unfold narrow Page.Takes
  split
  · exact editableTarget_searches field container
  · exact .found container

theorem siblingControl_searches (field : Field) (anchor : String) :
    Searches (fun page => page.Follows (.text anchor field.exact))
      (fun page => .text anchor field.exact ::
        if (page.node (page.handle none (.text anchor field.exact)).node).count = 0 then []
        else [.selector tagsControlPath])
      (siblingControl field anchor) := by
  refine Searches.imp (.afterLookup fun label => .afterCount fun _ => .ite .nothing <| .afterLookup fun sibling =>
    .afterCount fun _ => .ite .nothing <| .afterLog (.found sibling.first)) (fun page target => ?_) fun page => ?_
  · constructor
    · intro follows
      split at follows
      · exact follows.elim
      · rename_i labelled
        split at follows
        · exact follows.elim
        · rename_i present
          exact ⟨labelled, present, follows⟩
    · rintro ⟨labelled, present, first⟩
      exact (if_neg labelled).mpr ((if_neg present).mpr first)
  · simp [Event.place?]

theorem locate_searches (field : Field) :
    Searches (fun page handle => field.handle? page = some handle) (fun _ => field.lookup?.toList) (locate field) := by
  refine (locate_returns field).imp ?_
  rintro page _ _ _ ⟨rfl, rfl⟩
  refine ⟨fun _ => Iff.rfl, ?_⟩
  cases field.lookup? <;> rfl

theorem directTagInput_searches (field : Field) (settings : EachTag) :
    Searches (field.DirectInput settings) (fun _ => field.lookup?.toList) (directTagInput field settings) := by
  refine (locate_searches field).goingOn rfl fun direct => ?_
  refine Searches.imp (.afterCount fun _ => .ite (narrow_searches field settings direct.first) .nothing)
    (fun page target => ?_) fun page => ?_
  · simp
  · simp

theorem siblingTagInput_searches (field : Field) (settings : EachTag) :
    Searches (field.SiblingInput settings) (field.siblingPlaces settings) (siblingTagInput field settings) := by
  have idle (unlabelled : field.label? settings = none) :
      Searches (field.SiblingInput settings) (field.siblingPlaces settings) (pure none) := by
    refine Searches.nothing.imp (fun page target => ?_) fun page => ?_
    · simp [Field.SiblingInput, unlabelled]
    · simp [Field.siblingPlaces, unlabelled]
  unfold siblingTagInput
  cases anchored : given (field.anchor settings) with
  | none => exact idle (by simp [Field.label?, anchored])
  | some anchor =>
    dsimp only
    split
    · rename_i allowed
      have labelled : field.label? settings = some (.text anchor field.exact) := by
        simp [Field.label?, allowed, anchored]
      refine Searches.imp (Searches.goingOn (siblingControl_searches field anchor) rfl fun sibling =>
        narrow_searches field settings sibling) (fun page target => ?_) fun page => ?_
      · simp [Field.SiblingInput, labelled]
      · rw [Field.siblingPlaces, labelled]
    · rename_i forbidden
      exact idle (by simp [Field.label?, forbidden])

/-- What one search finds or, where it finds nothing, another one. -/
def orElse (first second : Act (Option Handle)) : Act (Option Handle) := do
  if let some target ← first then return some target
  second

theorem Searches.orElse {should other : Page → Handle → Prop} {looked further : Page → List Lookup}
    {first second : Act (Option Handle)} (begins : Searches should looked first)
    (goes : Searches other further second) :
    Returns (fun page _ found added =>
      (∃ target, (∀ same, should page same ↔ target = same) ∧ found = some target ∧ places added = looked page) ∨
        (∀ target, ¬ should page target) ∧ (∀ target, found = some target ↔ other page target) ∧
          places added = looked page ++ further page) (Locating.orElse first second) := by
  have going (found : Option Handle) : Returns (fun page _ final added =>
      (∃ target, found = some target ∧ final = some target ∧ added = []) ∨
        found = none ∧ (∀ target, final = some target ↔ other page target) ∧ places added = further page)
      (match found with
        | some target => return some target
        | _ => second) := by
    cases found with
    | some target => exact .pure fun _ _ => .inl ⟨target, rfl, rfl, rfl⟩
    | none => exact Returns.imp goes fun _ _ _ _ told => .inr ⟨rfl, told⟩
  refine (Returns.bind begins going).imp ?_
  rintro page _ _ _ ⟨_, _, _, rfl, ⟨found, placed⟩, ⟨target, rfl, rfl, rfl⟩ | ⟨rfl, later, siblings⟩⟩
  · rw [List.append_nil]
    exact .inl ⟨target, fun same => by simp [← found], rfl, placed⟩
  · have nothing (target : Handle) : ¬ should page target := fun holds => nomatch (found target).mpr holds
    exact .inr ⟨nothing, later, by rw [places_append, placed, siblings]⟩

theorem locateTagInput_eq (field : Field) (settings : EachTag) :
    locateTagInput field settings =
      orElse (directTagInput field settings) (orElse (siblingTagInput field settings) do
        log .info "Tag input not found"
          [("field", .str field.displayName),
           ("anchor", match field.anchor settings with
             | some anchor => .str anchor
             | none => .null)]
        return none) :=
  rfl

theorem locateTagInput_returns (field : Field) (settings : EachTag) :
    Returns (fun page _ => field.Located settings page) (locateTagInput field settings) := by
  have siblings (values : Members) : Searches (field.SiblingInput settings) (field.siblingPlaces settings)
      (orElse (siblingTagInput field settings) do
        log .info "Tag input not found" values
        return none) := by
    refine ((siblingTagInput_searches field settings).orElse (.afterLog .nothing)).imp ?_
    rintro page _ _ _ (⟨target, only, rfl, placed⟩ | ⟨none, nothing, placed⟩)
    · exact ⟨fun same => by simp [only], placed⟩
    · exact ⟨fun target => by simp [none, nothing], by simpa using placed⟩
  rw [locateTagInput_eq]
  refine ((directTagInput_searches field settings).orElse (siblings _)).imp ?_
  rintro page _ _ _ (⟨target, only, rfl, placed⟩ | ⟨none, sibling, placed⟩)
  · exact ⟨fun same => by simp [only], fun _ _ => placed, fun none => absurd ((only target).mpr rfl) (none target)⟩
  · exact ⟨fun target => by simp [none, sibling], fun target direct => absurd direct (none target), fun _ => placed⟩

/-- The search comes to its end where no call fails, and has changed nothing. -/
theorem locateTagInput_runIn (field : Field) (settings : EachTag) {world : World}
    (faultless : world.page.Faultless) :
    ∃ found after added, (locateTagInput field settings).runIn world = (.ok found, after) ∧
      after.trace = world.trace ++ added ∧ Still added ∧ field.Located settings world.page found added := by
  have built : Built True False false (fun _ => True) (locateTagInput field settings) :=
    locateTagInput_built field settings
  obtain ⟨found, after, ended⟩ := faultless.returns built.interacts
  obtain ⟨added, -, trace, located⟩ := locateTagInput_returns field settings world found after ended
  have handles : Handles world.page world.trace [] true (world.page.Finds world.trace)
    (locateTagInput field settings) := locateTagInput_handles field settings
  obtain ⟨same, worked, -⟩ := handles world rfl (List.append_nil _).symm
  rw [ended] at worked
  obtain rfl : same = added := List.append_cancel_left (worked.trace.symm.trans trace)
  exact ⟨found, after, same, ended, trace, worked.still rfl, located⟩

end Locating

namespace Action

variable {timing : Timing} {field : Field} {settings : EachTag}

/-- Without a tag input, a field is skipped for that or, before, for the want of tags. -/
theorem runEachTag_runIn {world : World} (faultless : world.page.Faultless)
    (without : field.WithoutInput settings world.page) (record : Json) (value : String) :
    ∃ outcome after added, (runEachTag timing field settings record value).runIn world = (.ok outcome, after) ∧
      after.trace = world.trace ++ added ∧ Still added ∧ outcome.status = .skipped ∧
      (requestedTags field settings record value ≠ [] → outcome.reason = some "tag input not found") := by
  unfold runEachTag
  cases requested : requestedTags field settings record value with
  | nil => exact ⟨_, _, [], rfl, (List.append_nil _).symm, .nil, rfl, fun some => absurd rfl some⟩
  | cons tag tags =>
    obtain ⟨found, after, added, ended, trace, still, located⟩ := locateTagInput_runIn field settings faultless
    obtain rfl := located.none_iff.mpr without
    dsimp only
    rw [runIn_bind_ok ended]
    exact ⟨_, _, added, rfl, trace, still, rfl, fun _ => rfl⟩

end Action

namespace Executor

/-- The search for a tag input comes to its end where no call fails. What it gives is what takes the tags for the first
    match of the definition or, if nothing does, for the control after the label, which is not looked for before. It
    gives nothing just where nothing takes the tags. The field is then left without any text, for the want of an input
    or, before one is looked for, of something to do, of an identifier or of tags. -/
theorem execute_locates (executor : Executor) {field : Field} {settings : EachTag}
    (tagging : field.action = .typeEachTag settings) {world : World} (faultless : world.page.Faultless)
    (record : Json) :
    (∃ found after added, (locateTagInput field settings).runIn world = (.ok found, after) ∧
      after.trace = world.trace ++ added ∧ field.Located settings world.page found added ∧
      (found = none ↔ field.WithoutInput settings world.page)) ∧
    (field.WithoutInput settings world.page →
      ∃ result after added, (executor.execute field record).runIn world = (result, after) ∧
        after.trace = world.trace ++ added ∧ Still added ∧
        (∀ outcome, result = .ok outcome → outcome.status = .skipped) ∧
        ∀ value, field.isInert = false → executor.value? field record world.files = some value →
          Action.requestedTags field settings record value ≠ [] →
            ∃ outcome, result = .ok outcome ∧ outcome.reason = some "tag input not found") := by
  refine ⟨?_, fun without => ?_⟩
  · obtain ⟨found, after, added, ended, trace, -, located⟩ := locateTagInput_runIn field settings faultless
    exact ⟨found, after, added, ended, trace, located, located.none_iff⟩
  · rcases executor.untried_or_tried field record world.files with untried | ⟨active, value, valued⟩
    · obtain ⟨result, after, ended, trace, skipped⟩ := executor.execute_untried field record world untried
      refine ⟨result, after, [], ended, by rw [trace, List.append_nil], .nil, ?_, fun value active valued => ?_⟩
      · intro outcome returned
        obtain ⟨_, rfl, -⟩ := skipped outcome returned
        rfl
      · simp [active, valued] at untried
    · obtain ⟨begun, opening, begins, runs, -⟩ := execute_tries active valued
      rw [← begins.page] at faultless without
      obtain ⟨given, after, added, ended, trace, still, skipped, reason⟩ :=
        Action.runEachTag_runIn faultless without record value
      have interacted : (interact executor.timing field record value).runIn begun = (.ok given, after) := by
        rw [interact, tagging]
        exact ended
      obtain ⟨patch, executed⟩ := runs given after interacted
      refine ⟨_, after, opening ++ added, executed, ?_, begins.still.append still, ?_, fun other _ same requested => ?_⟩
      · rw [trace, begins.trace, List.append_assoc]
      · intro outcome returned
        cases returned
        exact skipped
      · obtain rfl := Option.some.inj (valued.symm.trans same)
        exact ⟨_, rfl, reason requested⟩

theorem execute_locates_uneditable :
    let settings : EachTag := ⟨.click, .keyboard, false, false, false, false, 0, none, true, true, false⟩
    let field : Field :=
      ⟨none, some "#a", none, none, none, false, some "=x", .none, false, false, false, false, .typeEachTag settings⟩
    let page : Page :=
      { Page.blank with
        lookups := [(.selector "#a", "a")],
        nodes := [("a", { Node.absent with count := 1, editable := false })] }
    let executor : Executor := ⟨.default, none⟩
    page.Faultless ∧ field.WithoutInput settings page ∧ ∃ outcome after,
      (executor.execute field (.obj [])).runIn (.untouched page .empty) = (.ok outcome, after) ∧
      outcome.status = .skipped ∧ outcome.reason = some "tag input not found" ∧
      ∀ event ∈ after.trace, event.mutates = false := by
  intro settings field page executor
  have faultless : page.Faultless := .of_unplanned rfl (by simp [page, Node.absent])
  let world : World := .untouched page .empty
  have tagging : field.action = .typeEachTag settings := rfl
  have passing : world.page.Faultless := faultless
  obtain ⟨⟨found, after, added, ended, -, -, nothing⟩, skips⟩ :=
    execute_locates executor tagging passing (.obj [])
  have unfound : ((locateTagInput field settings).runIn world).1 = .ok none := rfl
  rw [ended] at unfound
  have without := nothing.mp (Except.ok.inj unfound)
  obtain ⟨result, final, added, executed, trace, still, skipped, reasoned⟩ := skips without
  obtain ⟨outcome, rfl, reason⟩ := reasoned "x" rfl rfl (by decide)
  refine ⟨faultless, without, outcome, final, executed, skipped outcome rfl, reason, ?_⟩
  rw [trace]
  exact still

/-- A field without tags is skipped for the want of them, although there is no tag input either. -/
theorem execute_skips_untagged :
    Page.blank.Faultless ∧ ∃ field settings outcome after,
      Field.read (.obj [("action", .str "type_each_tag"), ("selector", .str ".tags"), ("value", .str "tags")]) =
        .valid field ∧
      field.action = .typeEachTag settings ∧
      ((locateTagInput field settings).runIn (.untouched .blank .empty)).1 = .ok none ∧
      ((⟨.default, none⟩ : Executor).execute field (.obj [])).runIn (.untouched .blank .empty) = (.ok outcome, after) ∧
      outcome.status = .skipped ∧ outcome.reason = some "no tags" :=
  ⟨.of_unplanned rfl (by simp [Page.blank]), ⟨_, _, _, _, rfl, rfl, rfl, rfl, rfl, rfl⟩⟩

end Executor
end FormFill
