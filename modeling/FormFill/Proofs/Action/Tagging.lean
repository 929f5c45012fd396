import FormFill.Proofs.Act.Returning
import FormFill.Proofs.Browser.Finding
import FormFill.Proofs.Executor.Reaching

namespace FormFill

def Event.isDraw : Event → Bool
  | .draw .. => true
  | _ => false

namespace Action

open Act

/-- The text of a tag is put into the clipboard. -/
abbrev writing (tag : String) : Event :=
  .call (.evaluate clipboardScript (some tag))

abbrev pasting : Event :=
  .call (.keyPress pasteShortcut)

abbrev inserting (tag : String) : Event :=
  .call (.insertText tag)

abbrev entering (target : Handle) : Event :=
  .element target (.press "Enter")

/-- The calls that give the focus to a target. -/
def focusing (field : Field) (settings : EachTag) (target : Handle) : List Event :=
  (if settings.focus ≠ .click then [.element target (.evaluate focusScript)] else []) ++
  if settings.focus ≠ .script then [.element target (.click field.force)] else []

/-- How a tag is ended: with the enter key, once the page has had the time to take it. -/
def completing (settings : EachTag) (target : Handle) : List Event :=
  (if 0 < settings.settle then [.sleep settings.settle] else []) ++ [entering target]

/-- The text of one tag has been put into the input that has the focus. It is inserted in place of being pasted if
    the clipboard cannot be written or the shortcut fails. -/
inductive Delivered (page : Page) (target : Handle) (tag : String) (before : List Event) :
    Entry → List Event → Prop where
  | typed {drawn : List Event} {delay : Int} (draws : ∀ event ∈ drawn, event.isDraw = true)
      (types : page.error? (before ++ drawn) (.element target (.pressSequentially tag delay)) = none) :
      Delivered page target tag before .type (drawn ++ [.element target (.pressSequentially tag delay)])
  | inserted (inserts : page.error? before (inserting tag) = none) :
      Delivered page target tag before .keyboard [inserting tag]
  | pasted (writes : page.error? before (writing tag) = none)
      (pastes : page.error? (before ++ [writing tag]) pasting = none) :
      Delivered page target tag before .paste [writing tag, pasting]
  | unwritten {error : BrowserError} (raised : page.error? before (writing tag) = some error)
      (inserts : page.error? (before ++ [writing tag]) (inserting tag) = none) :
      Delivered page target tag before .paste [writing tag, inserting tag]
  | unpasted {error : BrowserError} (writes : page.error? before (writing tag) = none)
      (raised : page.error? (before ++ [writing tag]) pasting = some error)
      (inserts : page.error? (before ++ [writing tag, pasting]) (inserting tag) = none) :
      Delivered page target tag before .paste [writing tag, pasting, inserting tag]

/-- Tags have been entered one after the other: each is delivered and then ended. The first of them comes after a new
    focus if `focused` says so, the others if that is asked for. -/
inductive Tagged (page : Page) (field : Field) (settings : EachTag) (target : Handle) :
    Bool → List Event → List String → List Event → Prop where
  | nil {focused : Bool} {before : List Event} : Tagged page field settings target focused before [] []
  | cons {focused : Bool} {before start delivery more : List Event} {tag : String} {tags : List String}
      (starts : start = if focused then focusing field settings target else [])
      (delivered : Delivered page target tag (before ++ start) settings.entry delivery)
      (rest : Tagged page field settings target settings.refocusEachTag
        (before ++ start ++ (delivery ++ completing settings target)) tags more) :
      Tagged page field settings target focused before (tag :: tags)
        (start ++ (delivery ++ completing settings target ++ more))

variable {timing : Timing} {field : Field} {settings : EachTag} {target : Handle}

theorem element_returns (target : Handle) (made : ElementCall) :
    Returns (fun page before _ added => added = [.element target made] ∧
        page.error? before (.element target made) = none) (do
        let _ ← Act.element target made
        return ()) := by
  have nothing : Returns (fun _ _ _ added => added = []) (pure () : Act Unit) := .pure fun _ _ => rfl
  refine ((Returns.element target made).bind fun _ => nothing).imp ?_
  rintro _ _ _ _ ⟨_, _, _, rfl, ⟨rfl, passes, -⟩, rfl⟩
  exact ⟨rfl, passes⟩

theorem paste_delivers (field : Field) (target : Handle) (tag : String) :
    Returns (fun page before _ added => Delivered page target tag before .paste added) (paste field tag) := by
  have inserted (error : BrowserError) : Returns (fun page before _ added =>
      added = [inserting tag] ∧ page.error? before (inserting tag) = none) (do
        log .warning "Clipboard paste failed, inserting text instead"
          [("field", .str field.displayName), ("error", .str error.text)]
        Act.call (.insertText tag)) :=
    .silently (.log _ _ _ _) fun _ => .call _
  -- Both calls are under one handler, so it is the page that tells which of them the insertion stands in for.
  intro world value after returned
  unfold paste at returned
  rw [runIn_catchBrowser, runIn_bind] at returned
  let written := world.note (writing tag)
  cases writes : world.page.error? world.trace (writing tag) with
  | some error =>
    rw [runIn_call_error writes] at returned
    obtain ⟨added, page, trace, rfl, inserts⟩ := inserted error written _ _ returned
    exact ⟨_, page, trace.trans (List.append_assoc _ _ _), .unwritten writes inserts⟩
  | none =>
    rw [runIn_call writes] at returned
    dsimp only at returned
    cases pastes : written.page.error? written.trace pasting with
    | none =>
      rw [runIn_call pastes] at returned
      cases returned
      exact ⟨_, rfl, List.append_assoc _ _ _, .pasted writes pastes⟩
    | some error =>
      rw [runIn_call_error pastes] at returned
      obtain ⟨added, page, trace, rfl, inserts⟩ := inserted error (written.note pasting) _ _ returned
      have both : (written.note pasting).trace = world.trace ++ [writing tag, pasting] := List.append_assoc _ _ _
      rw [both] at trace inserts
      exact ⟨_, page, trace.trans (List.append_assoc _ _ _), .unpasted writes pastes inserts⟩

theorem enterTag_delivers (timing : Timing) (field : Field) (settings : EachTag) (target : Handle) (tag : String) :
    Returns (fun page before _ added => Delivered page target tag before settings.entry added)
      (enterTag timing field settings target tag) := by
  unfold enterTag
  cases settings.entry with
  | type =>
    have draws : Confined Event.isDraw (timing.keystrokeDelay settings.noTypingDelay) := by
      unfold Timing.keystrokeDelay Timing.typingJitter Timing.jitter
      split
      · exact .pure 0
      · split
        · exact .pure 0
        · exact .draw rfl
    refine ((Returns.of_confined draws).bind fun delay => element_returns target (.pressSequentially tag delay)).imp ?_
    rintro page before _ _ ⟨delay, drawn, _, rfl, draws, rfl, types⟩
    exact .typed draws types
  | paste => exact paste_delivers field target tag
  | keyboard =>
    refine (Returns.call (.insertText tag)).imp ?_
    rintro page before _ _ ⟨rfl, inserts⟩
    exact .inserted inserts

theorem focus_returns (field : Field) (settings : EachTag) (target : Handle) :
    Returns (fun _ _ _ added => added = focusing field settings target) (focus field settings target) := by
  have one (made : ElementCall) {next : Node → Act Unit} {rest : List Event}
      (goes : ∀ node, Returns (fun _ _ _ added => added = rest) (next node)) :
      Returns (fun _ _ _ added => added = .element target made :: rest) (Act.element target made >>= next) := by
    refine ((Returns.element target made).bind goes).imp ?_
    rintro _ _ _ _ ⟨_, _, _, rfl, ⟨rfl, -⟩, rfl⟩
    rfl
  have nothing : Returns (fun _ _ _ added => added = []) (pure () : Act Unit) := .pure fun _ _ => rfl
  unfold focus focusing
  cases settings.focus with
  | click => exact one _ fun _ => nothing
  | script => exact one _ fun _ => nothing
  | both => exact one _ fun _ => one _ fun _ => nothing

theorem completeTag_delivers (timing : Timing) (field : Field) (settings : EachTag) (target : Handle) (tag : String) :
    Returns (fun page before _ added => ∃ delivery, added = delivery ++ completing settings target ∧
      Delivered page target tag before settings.entry delivery) (completeTag timing field settings target tag) := by
  have settles : Returns (fun _ _ _ added => added = if 0 < settings.settle then [.sleep settings.settle] else [])
      (Timing.pause settings.settle) := by
    unfold Timing.pause
    by_cases immediate : (settings.settle : Int) ≤ 0
    · rw [if_pos immediate, if_neg (by omega)]
      exact .pure fun _ _ => rfl
    · rw [if_neg immediate, if_pos (by omega)]
      split
      · intro world _ after returned
        cases returned
        exact ⟨_, rfl, rfl, rfl⟩
      · intro world _ after returned
        cases returned
  unfold completeTag
  refine ((enterTag_delivers timing field settings target tag).bind fun _ =>
    settles.bind fun _ => element_returns target (.press "Enter")).imp ?_
  rintro page before _ _ ⟨_, delivery, _, rfl, delivered, _, _, _, rfl, rfl, rfl, -⟩
  exact ⟨delivery, rfl, delivered⟩

theorem furtherTags_cons (timing : Timing) (field : Field) (settings : EachTag) (target : Handle) (tag : String)
    (tags : List String) : furtherTags timing field settings target (tag :: tags) =
      (if settings.refocusEachTag then focus field settings target else pure ()) >>= fun _ => (do
        completeTag timing field settings target tag
        furtherTags timing field settings target tags) := by
  rw [furtherTags]
  cases settings.refocusEachTag <;> rfl

theorem completeTag_tags {focusing? : Act Unit} {focused : Bool} (timing : Timing) (tag : String) {tags : List String}
    {rest : Act Unit}
    (starts : Returns (fun _ _ _ added => added = if focused then focusing field settings target else []) focusing?)
    (others : Returns (fun page before _ added =>
      Tagged page field settings target settings.refocusEachTag before tags added) rest) :
    Returns (fun page before _ added => Tagged page field settings target focused before (tag :: tags) added) (do
      focusing?
      completeTag timing field settings target tag
      rest) := by
  refine (starts.bind fun _ => (completeTag_delivers timing field settings target tag).bind fun _ => others).imp ?_
  rintro page before _ _ ⟨_, start, _, rfl, starts, _, _, more, rfl, ⟨delivery, rfl, delivered⟩, rest⟩
  exact .cons starts delivered rest

theorem furtherTags_tags (timing : Timing) (field : Field) (settings : EachTag) (target : Handle) (tags : List String) :
    Returns (fun page before _ added => Tagged page field settings target settings.refocusEachTag before tags added)
      (furtherTags timing field settings target tags) := by
  induction tags with
  | nil => exact .pure fun _ _ => .nil
  | cons tag tags ih =>
    rw [furtherTags_cons]
    refine completeTag_tags timing tag ?_ ih
    split
    · exact focus_returns field settings target
    · exact .pure fun _ _ => rfl

/-- The element that takes the tags of a field is found on the page after some events. -/
def Resolved (page : Page) (field : Field) (settings : EachTag) (before : List Event) (target : Handle) : Prop :=
  ∃ world : World, world.page = page ∧ world.trace = before ∧
    ((Locating.locateTagInput field settings).runIn world).1 = .ok (some target)

theorem enterTags_returns (timing : Timing) (field : Field) (settings : EachTag) (target : Handle) (tag : String)
    (tags : List String) (outcome : Outcome) :
    Returns (fun page before result added => result = outcome ∧ ∃ scrolled events, added = scrolled ++ events ∧
        Still scrolled ∧ Tagged page field settings target true (before ++ scrolled) (tag :: tags) events) (do
      let _ ← timing.scrollIntoView target field.displayName field.skipScroll
      focus field settings target
      completeTag timing field settings target tag
      furtherTags timing field settings target tags
      return outcome) := by
  have starts : Returns (fun _ _ _ added => added = if true then focusing field settings target else [])
      (focus field settings target) := focus_returns field settings target
  have tagged := completeTag_tags timing tag starts (furtherTags_tags timing field settings target tags)
  have tells : Returns (fun _ _ result added => result = outcome ∧ added = []) (pure outcome : Act Outcome) :=
    .pure fun _ _ => ⟨rfl, rfl⟩
  have ended := tagged.bind fun _ => tells
  simp only [bind_assoc] at ended
  refine ((timing.scrollIntoView_returns target field.displayName field.skipScroll).bind fun _ => ended).imp ?_
  rintro _ _ _ _ ⟨_, scrolled, _, rfl, still, _, events, _, rfl, tagged, rfl, rfl⟩
  exact ⟨rfl, scrolled, events, by rw [List.append_nil], still, tagged⟩

theorem runEachTag_tags {record : Json} {value : String} {world after : World} {outcome : Outcome}
    (ended : (runEachTag timing field settings record value).runIn world = (.ok outcome, after))
    (applied : outcome.status = .applied) :
    ∃ target front events, Resolved world.page field settings world.trace target ∧ Still front ∧
      after.trace = world.trace ++ front ++ events ∧ requestedTags field settings record value ≠ [] ∧
      outcome.detail = .tags (requestedTags field settings record value) settings.entry ∧
      Tagged world.page field settings target true (world.trace ++ front) (requestedTags field settings record value)
        events := by
  unfold runEachTag at ended
  cases requested : requestedTags field settings record value with
  | nil =>
    rw [requested] at ended
    cases ended
    cases applied
  | cons tag tags =>
    rw [requested] at ended
    obtain ⟨found, middle, located, ended⟩ := ok_of_bind ended
    have handles : Handles world.page world.trace [] true (world.page.Finds world.trace)
        (Locating.locateTagInput field settings) := Locating.locateTagInput_handles field settings
    obtain ⟨looked, worked, -⟩ := handles world rfl (List.append_nil _).symm
    rw [located] at worked
    cases found with
    | none =>
      cases ended
      cases applied
    | some target =>
      obtain ⟨_, -, trace, rfl, scrolled, events, rfl, still, tagged⟩ :=
        enterTags_returns timing field settings target tag tags _ middle outcome after ended
      have page : middle.page = world.page := worked.kept
      have reached : middle.trace = world.trace ++ looked := worked.trace
      rw [page, reached, List.append_assoc] at tagged
      have added : after.trace = world.trace ++ (looked ++ scrolled) ++ events := by simp [trace, reached]
      exact ⟨target, looked ++ scrolled, events, ⟨world, rfl, rfl, by rw [located]⟩, (worked.still rfl).append still,
        added, List.cons_ne_nil tag tags, rfl, tagged⟩

theorem Delivered.unentered {page : Page} {tag : String} {before delivery : List Event} {entry : Entry}
    (delivered : Delivered page target tag before entry delivery) : entering target ∉ delivery := by
  cases delivered with
  | typed draws =>
    intro member
    rcases List.mem_append.mp member with member | member
    · cases draws _ member
    · cases List.mem_singleton.mp member
  | _ => simp

/-- Each tag is ended by the enter key, which is not pressed otherwise. -/
theorem Tagged.count_entering {page : Page} {focused : Bool} {before events : List Event} {tags : List String}
    (tagged : Tagged page field settings target focused before tags events) :
    events.count (entering target) = tags.length := by
  have unfocused : (focusing field settings target).count (entering target) = 0 := by
    unfold focusing
    cases settings.focus <;> simp
  have ended : (completing settings target).count (entering target) = 1 := by
    unfold completing
    split <;> simp
  -- Neither a focus nor a delivery presses the key; what ends a tag presses it once.
  induction tagged with
  | nil => rfl
  | @cons focused _ start _ _ _ _ starts delivered _ ih =>
    have unstarted : start.count (entering target) = 0 := by
      rw [starts]
      cases focused with
      | true => exact unfocused
      | false => rfl
    simp only [List.count_append, unstarted, List.count_eq_zero_of_not_mem delivered.unentered, ended, ih,
      List.length_cons]
    omega

end Action

/-- Tags as they are entered: one text, if they are to be joined. -/
def EachTag.joined (settings : EachTag) (tags : List String) : List String :=
  if settings.joinTags then [", ".intercalate tags] else tags

/-- The tags of a field before they are joined: an identifier alone, or the entries of the value. -/
def Field.tags (field : Field) (record : Json) (value : String) : List String :=
  if field.autoIdentifier then [value] else (Record.entries (field.rawValue record)).map String.ofList

theorem Action.requestedTags_eq {field : Field} {settings : EachTag} {record : Json} {value : String}
    (valued : field.autoIdentifier = true → value ≠ "") (requested : requestedTags field settings record value ≠ []) :
    requestedTags field settings record value = settings.joined (field.tags record value) := by
  have same : (if field.autoIdentifier && value ≠ "" then [value]
      else (Record.entries (field.rawValue record)).map String.ofList) = field.tags record value := by
    unfold Field.tags
    cases identified : field.autoIdentifier with
    | true => simp [valued identified]
    | false => simp
  unfold requestedTags at requested ⊢
  unfold EachTag.joined
  dsimp only at requested ⊢
  rw [same] at requested ⊢
  by_cases none : field.tags record value = []
  · simp [none] at requested
  · simp [none]

namespace Executor

open Act FormFill.Action

/-- Tags that are entered: once a target is found and nothing has been changed yet, each tag is delivered to it in turn
    and ended with the enter key, and the outcome tells of these tags. -/
theorem execute_delivers (executor : Executor) {field : Field} {settings : EachTag}
    (tagging : field.action = .typeEachTag settings) (record : Json) (world : World) {outcome : Outcome} {after : World}
    (ended : (executor.execute field record).runIn world = (.ok outcome, after)) (applied : outcome.status = .applied) :
    ∃ value target opening looking events, executor.value? field record world.files = some value ∧
      outcome.detail = .tags (settings.joined (field.tags record value)) settings.entry ∧
      settings.joined (field.tags record value) ≠ [] ∧
      after.trace = world.trace ++ opening ++ looking ++ events ∧ Still (opening ++ looking) ∧
      Resolved world.page field settings (world.trace ++ opening) target ∧
      Tagged world.page field settings target true (world.trace ++ opening ++ looking)
        (settings.joined (field.tags record value)) events ∧
      events.count (entering target) = (settings.joined (field.tags record value)).length := by
  cases execute_reaches ended with
  | inert => cases applied
  | unidentified => cases applied
  | failed failed =>
    rw [failed] at applied
    cases applied
  | @interacted value opening given _ active valued interacted patch =>
    obtain ⟨reached, page, trace, ended⟩ := interacted.reached
    rw [interact, tagging] at ended
    obtain ⟨target, looking, events, resolved, still, added, requested, detail, tagged⟩ := runEachTag_tags ended applied
    have same := requestedTags_eq (value?_ne_empty · valued) requested
    rw [page, trace] at resolved tagged
    rw [trace] at added
    rw [same] at detail requested tagged
    exact ⟨value, target, opening, looking, events, valued, detail, requested, added, interacted.still.append still,
      resolved, tagged, tagged.count_entering⟩

theorem execute_delivers_pasting :
    let settings : EachTag := ⟨.click, .paste, false, true, false, true, 0, none, false, false, false⟩
    let field : Field :=
      ⟨none, some "#a", none, none, none, false, some "=a,b", .none, false, false, false, false, .typeEachTag settings⟩
    let page : Page :=
      { Page.blank with
        lookups := [(.selector "#a", "a")]
        nodes := [("a", { Node.absent with count := 1 })]
        faults := [(.keyPress, .each [some ⟨false, "no clipboard"⟩])] }
    let executor : Executor := ⟨.default, none⟩
    ∃ outcome after, (executor.execute field (.obj [])).runIn (.untouched page .empty) = (.ok outcome, after) ∧
      outcome.status = .applied ∧ outcome.detail = .tags ["a", "b"] .paste ∧
      ∃ target before events, Tagged page field settings target true before ["a", "b"] events ∧
        events.count (entering target) = 2 := by
  intro settings field page executor
  let outcome : Outcome := .applied field (.tags ["a", "b"] .paste)
  have returned : ((executor.execute field (.obj [])).runIn (.untouched page .empty)).1 = .ok outcome := by
    subst outcome executor page field settings
    rfl
  rcases ended : (executor.execute field (.obj [])).runIn (.untouched page .empty) with ⟨result, after⟩
  rw [ended] at returned
  obtain rfl : result = .ok outcome := returned
  obtain ⟨value, target, opening, looking, events, -, detail, -, -, -, -, tagged, entered⟩ :=
    execute_delivers executor rfl (.obj []) (.untouched page .empty) ended rfl
  have tags : settings.joined (field.tags (.obj []) value) = ["a", "b"] := by
    subst outcome executor page field settings
    rfl
  rw [tags] at detail tagged entered
  exact ⟨outcome, after, rfl, rfl, detail, target, _, events, tagged, entered⟩

end Executor
end FormFill
