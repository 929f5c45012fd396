import FormFill.Proofs.Act.Adding
import FormFill.Proofs.Action.Entering
import FormFill.Proofs.Action.Quiet
import Mathlib.Data.List.Forall2

namespace FormFill

/-- The texts that events put into elements or choose, in their order. -/
def entered (events : List Event) : List String :=
  events.filterMap Event.text?

def Event.searched? : Event → Option String
  | .lookup _ (.text query _) => some query
  | _ => none

/-- The texts that events look for, in their order. -/
def searched (events : List Event) : List String :=
  events.filterMap Event.searched?

def Event.clicked? : Event → Option Handle
  | .element handle (.click _) => some handle
  | _ => none

/-- The elements that events click, in their order. -/
def clickedHandles (events : List Event) : List Handle :=
  events.filterMap Event.clicked?

/-- An element shows a text but for case, blanks and signs. -/
def Page.ShowsText (page : Page) (text : String) (handle : Handle) : Prop :=
  Action.normalizedString (page.node handle.node).text = Action.normalizedString text

/-- Whether the candidates in a scope are compared with the texts, in place of a search for each text. -/
def EachText.compares (settings : EachText) : Bool :=
  settings.normalize && (given settings.scope).isSome

/-- The entries of tags, in their order. A tag that cannot be pasted is in the clipboard before it is inserted. -/
inductive TagsEntered (entry : Entry) : List String → List String → Prop where
  | nil : TagsEntered entry [] []
  | once {tag : String} {tags texts : List String} (rest : TagsEntered entry tags texts) :
      TagsEntered entry (tag :: tags) (tag :: texts)
  | retried {tag : String} {tags texts : List String} (pasting : entry = .paste) (rest : TagsEntered entry tags texts) :
      TagsEntered entry (tag :: tags) (tag :: tag :: texts)

theorem TagsEntered.append {entry : Entry} {first second texts more : List String} (left : TagsEntered entry first texts)
    (right : TagsEntered entry second more) : TagsEntered entry (first ++ second) (texts ++ more) := by
  induction left with
  | nil => exact right
  | once _ ih => exact .once ih
  | retried pasting _ ih => exact .retried pasting ih

namespace Field

/-- What an applied interaction with a field has done with some texts: entered them, perhaps after clearing the
    input, chosen them, or looked for each of them. Where candidates are compared, it has clicked one that shows the
    text for each text that is reported as clicked. -/
def ActsOn (field : Field) (page : Page) (texts : List String) (detail : Detail) (added : List Event) : Prop :=
  match field.action with
  | .fill _ => entered added = texts ∨ entered added = "" :: texts
  | .typeEachTag settings => TagsEntered settings.entry texts (entered added)
  | .clickEachText settings =>
    entered added = [] ∧ ∃ clicks : Action.Clicks, detail = .clicked clicks.clicked clicks.missing ∧
      (clicks.clicked ++ clicks.missing).Perm texts ∧
      if settings.compares then List.Forall₂ page.ShowsText clicks.clicked (clickedHandles added)
      else searched added = texts
  | _ => entered added = texts

/-- The selected value if it is to be split as it is, or its text after the transform. -/
def transformed (field : Field) (record : Json) (value : String) : Json :=
  if field.transform = .none then field.rawValue record else .str value

/-- The texts that a field is to act on, given its value: an identifier alone, or what the transform makes of the
    value in the record. -/
def effectiveTexts (field : Field) (record : Json) (value : String) : List String :=
  match field.action with
  | .fill _ | .type _ | .select => [value]
  | .click _ | .check _ => []
  | .clickEachText settings =>
    if field.autoIdentifier then [value] else Action.requestedTexts settings (field.transformed record value)
  | .typeEachTag settings =>
    let tags :=
      if field.autoIdentifier then [value]
      else (Record.entries (field.transformed record value)).map String.ofList
    if settings.joinTags && tags ≠ [] then [", ".intercalate tags] else tags

/-- A field with only the switches that its handler looks at. Clicking each text asks neither for an identifier nor for
    a transform, and entering each tag not for a transform. -/
def heeded (field : Field) : Field :=
  match field.action with
  | .clickEachText _ => { field with autoIdentifier := false, transform := .none }
  | .typeEachTag _ => { field with transform := .none }
  | _ => field

/-- Whether the handler of a field looks at each of the two switches that are used. -/
def heeds (field : Field) : Bool :=
  match field.action with
  | .clickEachText _ => !field.autoIdentifier && field.transform = .none
  | .typeEachTag _ => field.transform = .none
  | _ => true

theorem heeded_of_heeds {field : Field} (heeds : field.heeds = true) : field.heeded = field := by
  obtain ⟨_, _, _, _, _, _, _, transform, identified, _, _, _, action⟩ := field
  cases action with
  | clickEachText settings =>
    obtain ⟨rfl, rfl⟩ : identified = false ∧ transform = .none := by simpa [Field.heeds] using heeds
    rfl
  | typeEachTag settings =>
    obtain rfl : transform = .none := by simpa [Field.heeds] using heeds
    rfl
  | _ => rfl

end Field

namespace Act

variable {α β γ : Type} {shown : Event → Option γ}

/-- What is shown by the events of an action, if it returns, is as told of the page and of its value. -/
def Shows (shown : Event → Option γ) (told : Page → α → List γ → Prop) (action : Act α) : Prop :=
  Adds (fun page result added => ∀ value, result = .ok value → told page value (added.filterMap shown)) action

namespace Shows

variable {told weaker : Page → α → List γ → Prop} {action : Act α}

theorem imp (shows : Shows shown told action)
    (implies : ∀ page value all, told page value all → weaker page value all) : Shows shown weaker action :=
  Adds.imp shows fun _ _ _ holds value returned => implies _ value _ (holds value returned)

theorem pure {value : α} (holds : ∀ page, told page value []) : Shows shown told (pure value) := by
  refine Adds.pure fun page other returned => ?_
  cases returned
  exact holds page

theorem bind {next : α → Act β} {later : α → Page → β → List γ → Prop} (first : Shows shown told action)
    (second : ∀ value, Shows shown (later value) (next value)) :
    Shows shown (fun page result all =>
      ∃ value one more, all = one ++ more ∧ told page value one ∧ later value page result more)
      (action >>= next) := by
  refine (Adds.bind first second).imp fun page result added ends value returned => ?_
  subst returned
  rcases ends with ⟨failure, failed, -⟩ | ⟨given, made, more, rfl, holds, further⟩
  · cases failed
  · exact ⟨given, _, _, List.filterMap_append, holds given rfl, further value rfl⟩

theorem nothing (silent : Confined (fun event => (shown event).isNone) action) :
    Shows shown (fun _ _ all => all = []) action :=
  (Adds.of_silent silent).imp fun _ _ _ none _ _ => none

theorem after {next : α → Act β} {later : Page → β → List γ → Prop}
    (silent : Confined (fun event => (shown event).isNone) action) (goes : ∀ value, Shows shown later (next value)) :
    Shows shown later (action >>= next) := by
  refine ((nothing silent).bind goes).imp fun page result all ends => ?_
  obtain ⟨_, _, more, rfl, rfl, holds⟩ := ends
  exact holds

theorem element {handle : Handle} {made : ElementCall} {one : γ} (shows : shown (.element handle made) = some one) :
    Shows shown (fun _ _ all => all = [one]) (Act.element handle made) := by
  refine (Adds.element handle made).imp fun _ result added told _ _ => ?_
  rw [told.1, List.filterMap_cons_some shows, List.filterMap_nil]

theorem andThen {handle : Handle} {made : ElementCall} {one : γ} {next : Node → Act β}
    {later : Page → β → List γ → Prop} (shows : shown (.element handle made) = some one)
    (goes : ∀ node, Shows shown (fun page value all => later page value (one :: all)) (next node)) :
    Shows shown later (Act.element handle made >>= next) := by
  refine ((Shows.element shows).bind goes).imp fun page result all ends => ?_
  obtain ⟨_, _, more, rfl, rfl, holds⟩ := ends
  exact holds

end Shows
end Act

open Act

/-- Whether an event enters no text, looks for none and clicks nothing. -/
def Event.isAside (event : Event) : Bool :=
  event.text?.isNone && event.searched?.isNone && event.clicked?.isNone

abbrev Event.isTextless (event : Event) : Bool :=
  event.text?.isNone

theorem Event.isTextless_of_isQuiet {event : Event} (quiet : event.isQuiet = true) : event.isTextless = true := by
  cases event with
  | draw low high => cases quiet
  | sleep milliseconds => rfl
  | _ => exact quiet

theorem Act.Confined.textless {α : Type} {action : Act α} (quiet : Confined Event.isQuiet action) :
    Confined Event.isTextless action :=
  quiet.weaken fun _ => Event.isTextless_of_isQuiet

theorem Timing.keystrokeDelay_textless (timing : Timing) (suppressed : Bool) :
    Confined Event.isTextless (timing.keystrokeDelay suppressed) := by
  unfold keystrokeDelay typingJitter jitter
  split
  · exact .pure _
  · split
    · exact .pure _
    · exact .draw rfl

namespace Action

variable {timing : Timing} {field : Field}

/-- What an outcome tells if it is an applied one. -/
abbrev Applied {γ : Type} (told : Page → Outcome → List γ → Prop) (page : Page) (outcome : Outcome) (all : List γ) :
    Prop :=
  outcome.status = .applied → told page outcome all

theorem skip_shows {γ : Type} {told : Page → Outcome → List γ → Prop} {shown : Event → Option γ} (field : Field)
    (reason : String) (detail : Detail) : Shows shown (Applied told) (skip field reason detail) := by
  intro world
  refine ⟨[], rfl, (List.append_nil _).symm, fun outcome returned applied => ?_⟩
  cases returned
  cases applied

theorem onTarget_shows {told : Page → Outcome → List String → Prop} {next : Handle → Act Outcome}
    (continues : ∀ handle, Shows Event.text? (Applied told) (next handle)) :
    Shows Event.text? (Applied told) (onTarget timing field next) := by
  unfold onTarget
  refine .after (target_quiet timing field).textless fun found => ?_
  split
  · exact continues _
  · exact skip_shows _ _ _

theorem ending_shows {told : Page → Outcome → List String → Prop} {pressing : Bool} (target : Handle) (delay : Nat)
    {outcome : Outcome} (holds : ∀ page, told page outcome []) :
    Shows Event.text? told (if pressing then do
        pressEnter target delay
        pure outcome
      else pure outcome) := by
  split
  · exact .after (pressEnter_quiet target delay).textless fun _ => .pure holds
  · exact .pure holds

theorem runFill_shows (settings : Fill) (value : String) :
    Shows Event.text? (Applied fun _ _ texts => texts = [value] ∨ texts = "" :: [value])
      (runFill timing field settings value) := by
  refine onTarget_shows fun target => ?_
  refine .after (timing.keystrokeDelay_textless _) fun delay => ?_
  dsimp only
  split
  · exact .andThen rfl fun _ => .andThen rfl fun _ => ending_shows target _ fun _ _ => .inr rfl
  · split
    · exact .andThen rfl fun _ => .andThen rfl fun _ => ending_shows target _ fun _ _ => .inr rfl
    · exact .andThen rfl fun _ => ending_shows target _ fun _ _ => .inl rfl

theorem runType_shows (settings : TypeKeys) (value : String) :
    Shows Event.text? (Applied fun _ _ texts => texts = [value]) (runType timing field settings value) := by
  refine onTarget_shows fun target => ?_
  refine .after (timing.keystrokeDelay_textless _) fun delay => ?_
  exact .andThen rfl fun _ => ending_shows target _ fun _ _ => rfl

theorem runSelect_shows (value : String) :
    Shows Event.text? (Applied fun _ _ texts => texts = [value]) (runSelect timing field value) := by
  refine onTarget_shows fun target => ?_
  exact .andThen rfl fun _ => .pure fun _ _ => rfl

/-! Tags are entered one after the other. -/

theorem paste_shows (field : Field) (text : String) :
    Shows Event.text? (fun _ _ texts => TagsEntered .paste [text] texts) (paste field text) := by
  have tried : Adds (fun _ _ added => entered added = [text]) (do
      Act.call (.evaluate clipboardScript (some text))
      Act.call (.keyPress pasteShortcut)) := by
    refine (Adds.bind (.call _) fun _ => .call _).imp fun _ result added ends => ?_
    rcases ends with ⟨failure, -, rfl⟩ | ⟨_, _, _, rfl, rfl, rfl⟩
    · rfl
    · rfl
  have answered (error : BrowserError) : Adds (fun _ _ added => added = [.call (.insertText text)]) (do
      Action.log .warning "Clipboard paste failed, inserting text instead"
        [("field", .str field.displayName), ("error", .str error.text)]
      Act.call (.insertText text)) := by
    intro world
    rw [Action.log, runIn_bind_ok (runIn_log _ _ _ _ _)]
    exact Adds.call (.insertText text) (world.write _)
  unfold paste
  refine (Adds.catchBrowser tried answered).imp fun _ result added ends _ _ => ?_
  change TagsEntered .paste [text] (entered added)
  rcases ends with once | ⟨error, made, _, rfl, once, rfl⟩
  · rw [once]
    exact .once .nil
  · have twice : entered (made ++ [.call (.insertText text)]) = [text, text] := by
      rw [entered, List.filterMap_append]
      exact congrArg (· ++ [text]) once
    rw [twice]
    exact .retried rfl .nil

theorem enterTag_shows (settings : EachTag) (target : Handle) (tag : String) :
    Shows Event.text? (fun _ _ texts => TagsEntered settings.entry [tag] texts)
      (enterTag timing field settings target tag) := by
  unfold enterTag
  cases entry : settings.entry with
  | type =>
    refine .after (timing.keystrokeDelay_textless _) fun delay => ?_
    exact .andThen rfl fun _ => .pure fun _ => .once .nil
  | paste => exact paste_shows field tag
  | keyboard =>
    refine (Adds.call (.insertText tag)).imp fun _ result added all _ _ => ?_
    rw [all]
    exact .once .nil

theorem completeTag_shows (timing : Timing) (field : Field) (settings : EachTag) (target : Handle) (tag : String) :
    Shows Event.text? (fun _ _ texts => TagsEntered settings.entry [tag] texts)
      (completeTag timing field settings target tag) := by
  have pressed : Shows Event.text? (fun _ _ texts => texts = []) (do
      Timing.pause settings.settle
      let _ ← Act.element target (.press "Enter")
      return ()) := by
    refine .after (Timing.pause_quiet _).textless fun _ => ?_
    exact .after (.element rfl) fun _ => .pure fun _ => rfl
  unfold completeTag
  refine ((enterTag_shows settings target tag).bind fun _ => pressed).imp fun _ _ texts ends => ?_
  obtain ⟨_, once, _, rfl, holds, rfl⟩ := ends
  rwa [List.append_nil]

theorem furtherTags_shows (settings : EachTag) (target : Handle) (tags : List String) :
    Shows Event.text? (fun _ _ texts => TagsEntered settings.entry tags texts)
      (furtherTags timing field settings target tags) := by
  induction tags with
  | nil => exact .pure fun _ => .nil
  | cons tag tags ih =>
    have entering : Shows Event.text? (fun _ _ texts => TagsEntered settings.entry (tag :: tags) texts) (do
        completeTag timing field settings target tag
        furtherTags timing field settings target tags) := by
      refine ((completeTag_shows timing field settings target tag).bind fun _ => ih).imp ?_
      rintro _ _ _ ⟨_, _, _, rfl, one, others⟩
      exact one.append others
    unfold furtherTags
    dsimp only
    split
    · exact .after (focus_quiet field settings target).textless fun _ => entering
    · exact entering

theorem runEachTag_shows (settings : EachTag) (record : Json) (value : String) :
    Shows Event.text?
      (Applied fun _ _ texts => TagsEntered settings.entry (requestedTags field settings record value) texts)
      (runEachTag timing field settings record value) := by
  unfold runEachTag
  cases requested : requestedTags field settings record value with
  | nil => exact skip_shows _ _ _
  | cons tag tags =>
    refine .after (Locating.locateTagInput_quiet field settings).textless fun found => ?_
    cases found with
    | none => exact skip_shows _ _ _
    | some target =>
      have returned (outcome : Outcome) : Shows Event.text? (fun _ _ texts => texts = []) (pure outcome) :=
        .pure fun _ => rfl
      refine .after (timing.scrollIntoView_quiet _ _ _).textless fun _ => ?_
      refine .after (focus_quiet field settings target).textless fun _ => ?_
      refine ((completeTag_shows timing field settings target tag).bind fun _ =>
        (furtherTags_shows settings target tags).bind fun _ => returned _).imp ?_
      rintro page outcome texts ⟨_, _, _, rfl, one, _, _, _, rfl, others, rfl⟩ -
      rw [List.append_nil]
      exact one.append others

/-! Texts are looked for one after the other. -/

/-- What is shown for each of some texts, with the clicks that are reported of them. -/
inductive Sorted {γ : Type} (each : String → Bool → List γ → Prop) : List String → Clicks → List γ → Prop where
  | nil : Sorted each [] ⟨[], []⟩ []
  | cons {text : String} {texts : List String} {found : Bool} {clicks : Clicks} {one more : List γ}
      (here : each text found one) (rest : Sorted each texts clicks more) :
      Sorted each (text :: texts) (clicks.cons text found) (one ++ more)

namespace Sorted

variable {γ : Type} {each : String → Bool → List γ → Prop} {texts : List String} {clicks : Clicks} {all : List γ}

theorem perm (sorted : Sorted each texts clicks all) : (clicks.clicked ++ clicks.missing).Perm texts := by
  induction sorted with
  | nil => exact .nil
  | @cons text _ found _ _ _ _ _ ih =>
    cases found with
    | true => exact ih.cons text
    | false => exact List.perm_middle.trans (ih.cons text)

/-- Where the text itself is shown for each text, all of them are shown. -/
theorem eq_texts {texts shown : List String} (sorted : Sorted (fun text _ one => one = [text]) texts clicks shown) :
    shown = texts := by
  induction sorted with
  | nil => rfl
  | cons here _ ih => rw [here, ih, List.singleton_append]

/-- Where one thing is shown for each text that is found, they are those for the clicked texts. -/
theorem forall₂ {related : String → γ → Prop}
    (sorted : Sorted (fun text found all => if found then ∃ one, all = [one] ∧ related text one else all = []) texts
      clicks all) : List.Forall₂ related clicks.clicked all := by
  induction sorted with
  | nil => exact .nil
  | @cons text _ found _ _ _ here _ ih =>
    cases found with
    | true =>
      obtain ⟨one, rfl, holds⟩ := here
      exact .cons holds ih
    | false =>
      obtain rfl := here
      exact ih

end Sorted

theorem forTexts_shows {γ : Type} {shown : Event → Option γ} {each : Page → String → Bool → List γ → Prop}
    {step : String → Act Bool} (steps : ∀ text, Shows shown (each · text) (step text)) (texts : List String) :
    Shows shown (fun page => Sorted (each page) texts) (forTexts step texts) := by
  induction texts with
  | nil => exact .pure fun _ => .nil
  | cons text texts ih =>
    have sorted (found : Bool) (clicks : Clicks) :
        Shows shown (fun _ sorted all => all = [] ∧ sorted = clicks.cons text found) (pure (clicks.cons text found)) :=
      .pure fun _ => ⟨rfl, rfl⟩
    refine ((steps text).bind fun found => ih.bind (sorted found)).imp ?_
    rintro _ _ _ ⟨found, _, _, rfl, here, clicks, _, _, rfl, rest, rfl, rfl⟩
    rw [List.append_nil]
    exact .cons here rest

theorem clickText_shows (timing : Timing) (field : Field) (scope : Option Handle) (text : String) :
    Shows Event.searched? (fun _ _ texts => texts = [text]) (clickText timing field scope text) := by
  have silent (found : Handle) : Shows Event.searched? (fun _ _ texts => texts = []) (do
      if (← Act.count found) = 0 then textNotFound field text
      else
        let _ ← timing.scrollIntoView found field.displayName field.skipScroll
        let _ ← Act.element found.first (.click field.force)
        return true) := by
    refine .nothing (.bind (.count rfl) fun count => ?_)
    split
    · exact .bind (.log _ _ _ _) fun _ => .pure _
    · refine .bind (Timing.scrollIntoView_confined (fun _ _ => rfl) timing _ _ _) fun _ => ?_
      exact .bind (.element rfl) fun _ => .pure _
  have looked : Shows Event.searched? (fun _ _ texts => texts = [text]) (Act.lookup scope (.text text field.exact)) := by
    intro world
    exact ⟨[.lookup scope (.text text field.exact)], rfl, rfl, fun _ _ => rfl⟩
  refine (looked.bind silent).imp ?_
  rintro _ _ _ ⟨_, _, _, rfl, rfl, rfl⟩
  rfl

theorem candidateText_answers (candidate : Handle) :
    Adds (fun page result _ => ∀ text, result = .ok (some text) → text = (page.node candidate.node).text)
      (candidateText? candidate) := by
  have unread (error : BrowserError) :
      Adds (fun _ result _ => result = .ok none) (pure none : Act (Option String)) := .pure fun _ => rfl
  have read : Adds (fun page result _ => ∀ text, result = .ok (some text) → text = (page.node candidate.node).text) (do
      return some (← Act.element candidate .innerText).text) := by
    have returned (node : Node) : Adds (fun _ result _ => result = .ok (some node.text))
        (pure (some node.text) : Act (Option String)) := .pure fun _ => rfl
    refine (Adds.bind (.element candidate .innerText) returned).imp fun page result added ends text answered => ?_
    rcases ends with ⟨failure, rfl, -⟩ | ⟨node, _, _, -, ⟨-, answers⟩, rfl⟩
    · cases answered
    · cases answered
      rw [answers node rfl]
  refine (Adds.catchBrowser read unread).imp fun page result added ends text answered => ?_
  rcases ends with answers | ⟨_, _, _, -, -, rfl⟩
  · exact answers text answered
  · cases answered

theorem findCandidate_shows {wanted : List Char} {handles : List Handle} {world after : World} {candidate : Handle}
    (found : (findCandidate wanted handles).runIn world = (.ok (some candidate), after)) :
    normalizedString (world.page.node candidate.node).text = wanted := by
  -- What is read of a candidate is what its node says on the page, and that stays while the others are read.
  induction handles generalizing world with
  | nil => cases found
  | cons first handles ih =>
    unfold findCandidate at found
    obtain ⟨shown, middle, read, rest⟩ := ok_of_bind found
    obtain ⟨added, page, -, answers⟩ := candidateText_answers first world
    rw [read] at page answers
    cases shown with
    | none => exact page ▸ ih rest
    | some text =>
      dsimp only at rest
      split at rest
      · rename_i equal
        cases rest
        rw [← answers text rfl, equal]
      · exact page ▸ ih rest

/-- Clicks the candidate that is found for a text, if there is one. -/
def clickCandidate (timing : Timing) (field : Field) (text : String) : Option Handle → Act Bool
  | none => textNotFound field text
  | some candidate => do
    let _ ← timing.scrollIntoView candidate field.displayName field.skipScroll
    let _ ← Act.element candidate (.click field.force)
    return true

theorem clickCandidate_shows (timing : Timing) (field : Field) (text : String) (found : Option Handle) :
    Shows Event.clicked? (fun _ clicked all => clicked = found.isSome ∧ all = found.toList)
      (clickCandidate timing field text found) := by
  cases found with
  | none => exact .after (.log _ _ _ _) fun _ => .pure fun _ => ⟨rfl, rfl⟩
  | some candidate =>
    refine .after (Timing.scrollIntoView_confined (fun _ _ => rfl) timing _ _ _) fun _ => ?_
    exact .andThen rfl fun _ => .pure fun _ => ⟨rfl, rfl⟩

theorem clickNormalized_shows (timing : Timing) (field : Field) (handles : List Handle) (text : String) :
    Shows Event.clicked? (fun page found all => if found then ∃ handle, all = [handle] ∧ page.ShowsText text handle
      else all = []) (clickNormalized timing field handles text) := by
  have parts : clickNormalized timing field handles text =
      findCandidate (normalizedString text) handles >>= clickCandidate timing field text := rfl
  have finding : Shows Event.clicked? (fun page found all =>
      all = [] ∧ ∀ candidate, found = some candidate → page.ShowsText text candidate)
      (findCandidate (normalizedString text) handles) := by
    have silent : Shows Event.clicked? (fun _ _ all => all = []) (findCandidate (normalizedString text) handles) :=
      .nothing (findCandidate_confined (fun _ => rfl) _ handles)
    intro world
    obtain ⟨added, page, trace, unclicked⟩ := silent world
    refine ⟨added, page, trace, fun found returned => ⟨unclicked found returned, fun candidate same => ?_⟩⟩
    exact findCandidate_shows (Prod.ext (same ▸ returned) rfl)
  rw [parts]
  refine (finding.bind (clickCandidate_shows timing field text)).imp ?_
  rintro page _ _ ⟨found, _, _, rfl, ⟨rfl, shows⟩, rfl, rfl⟩
  cases found with
  | none => rfl
  | some candidate => exact ⟨candidate, rfl, shows candidate rfl⟩

theorem clickTexts_searches (timing : Timing) (field : Field) {settings : EachText}
    (direct : settings.compares = false) (texts : List String) :
    Shows Event.searched? (fun _ => Sorted (fun text _ one => one = [text]) texts)
      (clickTexts timing field settings texts) := by
  have searching (scope : Option Handle) := forTexts_shows (clickText_shows timing field scope) texts
  unfold clickTexts
  cases restricted : given settings.scope with
  | none => exact searching none
  | some query =>
    have unnormalized : settings.normalize = false := by simpa [EachText.compares, restricted] using direct
    refine .after (.lookup rfl) fun scope => ?_
    rw [unnormalized]
    exact searching (some scope)

theorem clickTexts_compares (timing : Timing) (field : Field) {settings : EachText}
    (compares : settings.compares = true) (texts : List String) :
    Shows Event.clicked? (fun page => Sorted (fun text found all =>
      if found then ∃ handle, all = [handle] ∧ page.ShowsText text handle else all = []) texts)
      (clickTexts timing field settings texts) := by
  unfold clickTexts
  cases restricted : given settings.scope with
  | none => simp [EachText.compares, restricted] at compares
  | some query =>
    have normalized : settings.normalize = true := by simpa [EachText.compares, restricted] using compares
    refine .after (.lookup rfl) fun scope => ?_
    rw [if_pos normalized]
    unfold candidates
    refine .after (.bind (.lookup rfl) fun _ => .bind (.element rfl) fun _ => .pure _) fun handles => ?_
    exact forTexts_shows (clickNormalized_shows timing field handles) texts

theorem runEachText_shows {γ : Type} {shown : Event → Option γ} {each : Page → String → Bool → List γ → Prop}
    {settings : EachText} (record : Json)
    (sorts : ∀ texts, Shows shown (fun page => Sorted (each page) texts) (clickTexts timing field settings texts)) :
    Shows shown (Applied fun page outcome all => ∃ clicks : Clicks,
      outcome.detail = .clicked clicks.clicked clicks.missing ∧
        Sorted (each page) (requestedTexts settings (field.rawValue record)) clicks all)
      (runEachText timing field settings record) := by
  unfold runEachText
  dsimp only
  split
  · exact skip_shows _ _ _
  · have returned (clicks : Clicks) : Shows shown (fun _ outcome all => all = [] ∧
        (outcome.status = .applied → outcome.detail = .clicked clicks.clicked clicks.missing))
        (if clicks.clicked = [] then skip field "no matching text" (.missing clicks.missing)
          else return .applied field (.clicked clicks.clicked clicks.missing)) := by
      split
      · exact .after (.log _ _ _ _) fun _ => .pure fun _ => ⟨rfl, nofun⟩
      · exact .pure fun _ => ⟨rfl, fun _ => rfl⟩
    refine ((sorts _).bind returned).imp ?_
    rintro page outcome _ ⟨clicks, _, _, rfl, sorted, rfl, told⟩ applied
    rw [List.append_nil]
    exact ⟨clicks, told applied, sorted⟩

end Action

namespace Field

variable {field : Field} {page : Page} {texts : List String} {detail : Detail} {made more : List Event}

theorem ActsOn.after (aside : ∀ event ∈ made, event.isAside = true) (acts : field.ActsOn page texts detail more) :
    field.ActsOn page texts detail (made ++ more) := by
  have nothing : entered made = [] ∧ searched made = [] ∧ clickedHandles made = [] := by
    simp only [entered, searched, clickedHandles, List.filterMap_eq_nil_iff, ← forall_and, ← Option.isNone_iff_eq_none]
    intro event
    have none := aside event
    simp only [Event.isAside, Bool.and_eq_true] at none
    tauto
  obtain ⟨unentered, unsearched, unclicked⟩ := nothing
  have enters : entered (made ++ more) = entered more := by
    rw [entered, List.filterMap_append]
    exact congrArg (· ++ entered more) unentered
  have searches : searched (made ++ more) = searched more := by
    rw [searched, List.filterMap_append]
    exact congrArg (· ++ searched more) unsearched
  have clicks : clickedHandles (made ++ more) = clickedHandles more := by
    rw [clickedHandles, List.filterMap_append]
    exact congrArg (· ++ clickedHandles more) unclicked
  unfold ActsOn at acts ⊢
  rwa [enters, searches, clicks]

/-- Without an empty identifier, the tags that are asked for are those of the switches that are looked at. -/
theorem heeded_tags {settings : EachTag} (tagging : field.action = .typeEachTag settings) {record : Json}
    {value : String} (valued : field.autoIdentifier = true → value ≠ "") :
    field.heeded.effectiveTexts record value = Action.requestedTags field settings record value := by
  obtain ⟨_, _, _, _, _, _, _, _, identified, _, _, _, action⟩ := field
  obtain rfl : action = .typeEachTag settings := tagging
  cases identified with
  | false => rfl
  | true =>
    have nonempty : value ≠ "" := valued rfl
    simp [heeded, effectiveTexts, Action.requestedTags, nonempty]

theorem heeded_texts {settings : EachText} (clicking : field.action = .clickEachText settings) (record : Json)
    (value : String) :
    field.heeded.effectiveTexts record value = Action.requestedTexts settings (field.rawValue record) := by
  obtain ⟨_, _, _, _, _, _, _, _, _, _, _, _, action⟩ := field
  obtain rfl : action = .clickEachText settings := clicking
  rfl

end Field

namespace Executor

abbrev Acts (field : Field) (texts : List String) (page : Page) (result : Except Failure Outcome)
    (added : List Event) : Prop :=
  ∀ outcome, result = .ok outcome → outcome.status = .applied → field.ActsOn page texts outcome.detail added

theorem interact_acts (timing : Timing) (field : Field) (record : Json) {value : String}
    (valued : field.autoIdentifier = true → value ≠ "") :
    Adds (Acts field (field.heeded.effectiveTexts record value)) (interact timing field record value) := by
  have entersNone {action : Act Outcome} (quiet : Confined Event.isQuiet action) :
      Adds (fun _ _ added => entered added = []) action :=
    Adds.of_silent quiet.textless
  unfold interact Acts Field.ActsOn
  cases acting : field.action with
  | fill settings =>
    have texts : field.heeded.effectiveTexts record value = [value] := by
      simp [Field.heeded, Field.effectiveTexts, acting]
    rw [texts]
    exact Action.runFill_shows settings value
  | type settings =>
    have texts : field.heeded.effectiveTexts record value = [value] := by
      simp [Field.heeded, Field.effectiveTexts, acting]
    rw [texts]
    exact Action.runType_shows settings value
  | select =>
    have texts : field.heeded.effectiveTexts record value = [value] := by
      simp [Field.heeded, Field.effectiveTexts, acting]
    rw [texts]
    exact Action.runSelect_shows value
  | click settings =>
    have texts : field.heeded.effectiveTexts record value = [] := by
      simp [Field.heeded, Field.effectiveTexts, acting]
    rw [texts]
    exact (entersNone (Action.runClick_quiet timing field settings)).imp fun _ _ _ none _ _ _ => none
  | check settings =>
    have texts : field.heeded.effectiveTexts record value = [] := by
      simp [Field.heeded, Field.effectiveTexts, acting]
    rw [texts]
    exact (entersNone (Action.runCheck_quiet timing field settings)).imp fun _ _ _ none _ _ _ => none
  | clickEachText settings =>
    rw [Field.heeded_texts acting]
    have silent := entersNone (Action.runEachText_quiet timing field settings record)
    cases compares : settings.compares with
    | false =>
      have searches := Action.runEachText_shows record (Action.clickTexts_searches timing field compares)
      refine (silent.and searches).imp fun _ _ added told outcome ended applied => ?_
      obtain ⟨clicks, detail, sorted⟩ := told.2 outcome ended applied
      refine ⟨told.1, clicks, detail, sorted.perm, ?_⟩
      rw [if_neg (Bool.eq_false_iff.mp compares)]
      exact sorted.eq_texts
    | true =>
      have clicks := Action.runEachText_shows record (Action.clickTexts_compares timing field compares)
      refine (silent.and clicks).imp fun _ _ added told outcome ended applied => ?_
      obtain ⟨clicks, detail, sorted⟩ := told.2 outcome ended applied
      refine ⟨told.1, clicks, detail, sorted.perm, ?_⟩
      rw [if_pos compares]
      exact sorted.forall₂
  | typeEachTag settings =>
    rw [Field.heeded_tags acting valued]
    exact Action.runEachTag_shows settings record value

theorem attempt_acts (timing : Timing) (field : Field) (record : Json) {value : String}
    (valued : field.autoIdentifier = true → value ≠ "") :
    Adds (Acts field (field.heeded.effectiveTexts record value)) (attempt timing field record value) := by
  have failing (error : BrowserError) :
      Adds (fun _ result _ => ∀ outcome : Outcome, result = .ok outcome → outcome.status ≠ .applied) (do
        Action.log .error "Field action failed"
          (fieldContext field.displayName field.action.kind.name [("error", .str error.text)])
        return .failed field error.text) := by
    intro world
    refine ⟨[], rfl, (List.append_nil _).symm, fun outcome returned applied => ?_⟩
    cases returned
    cases applied
  have caught : Adds (Acts field (field.heeded.effectiveTexts record value)) (catchBrowser
      (interact timing field record value) fun error => do
        Action.log .error "Field action failed"
          (fieldContext field.displayName field.action.kind.name [("error", .str error.text)])
        return .failed field error.text) := by
    refine (Adds.catchBrowser (interact_acts timing field record valued) failing).imp fun _ result added ends => ?_
    rcases ends with acts | ⟨error, made, more, rfl, -, failed⟩
    · exact acts
    · exact fun outcome returned applied => absurd applied (failed outcome returned)
  have scrolls : Confined Event.isAside Timing.scrollPageBottom := Timing.scrollPageBottom_confined rfl rfl
  unfold attempt
  dsimp only
  split
  · refine (Adds.bind (.of_confined scrolls) fun _ => caught).imp ?_
    intro page result added ends outcome returned applied
    rcases ends with ⟨failure, failed, -⟩ | ⟨_, made, more, rfl, aside, acts⟩
    · rw [failed] at returned
      cases returned
    · exact (acts outcome returned applied).after aside
  · exact caught

theorem execute_heeds (executor : Executor) (field : Field) (record : Json) (world : World) {outcome : Outcome}
    {after : World} (ended : (executor.execute field record).runIn world = (.ok outcome, after))
    (applied : outcome.status = .applied) :
    ∃ value added, executor.value? field record world.files = some value ∧ after.trace = world.trace ++ added ∧
      field.ActsOn world.page (field.heeded.effectiveTexts record value) outcome.detail added := by
  rcases executor.untried_or_tried field record world.files with untried | ⟨active, value, valued⟩
  · obtain ⟨_, _, left, -, skipped⟩ := executor.execute_untried field record world untried
    rw [ended] at left
    cases left
    obtain ⟨_, rfl, -⟩ := skipped outcome rfl
    cases applied
  · obtain ⟨files, log, patch, ran⟩ := execute_valued active valued
    rw [ran] at ended
    obtain ⟨given, middle, attempted, returned⟩ := ok_of_bind ended
    cases returned
    obtain ⟨added, -, trace, acts⟩ := attempt_acts executor.timing field record (value?_ne_empty · valued) _
    rw [attempted] at trace acts
    exact ⟨value, added, valued, trace, acts given rfl applied⟩

/-- A field whose interaction is applied has acted on its value: on an identifier alone, or on what the transform
    makes of the value in the record. This holds as far as its handler looks at the switches for that; clicking each
    text looks at neither, and entering each tag not at the transform. -/
theorem execute_acts (executor : Executor) (field : Field) (record : Json) (world : World) (outcome : Outcome)
    (after : World) (ended : (executor.execute field record).runIn world = (.ok outcome, after))
    (applied : outcome.status = .applied) :
    ∃ value added, executor.value? field record world.files = some value ∧ after.trace = world.trace ++ added ∧
      field.ActsOn world.page (field.heeded.effectiveTexts record value) outcome.detail added ∧
      (field.heeds = true → field.ActsOn world.page (field.effectiveTexts record value) outcome.detail added) := by
  obtain ⟨value, added, valued, trace, acts⟩ := executor.execute_heeds field record world ended applied
  refine ⟨value, added, valued, trace, acts, fun heeds => ?_⟩
  rwa [Field.heeded_of_heeds heeds] at acts

theorem execute_acts_on_tag :
    let settings : EachTag :=
      ⟨.click, .keyboard, false, false, false, false, 0, none, false, false, false⟩
    let field : Field :=
      ⟨none, some "#a", none, none, none, false, some "=a", .none, false, false, false, false, .typeEachTag settings⟩
    let page : Page :=
      { Page.blank with lookups := [(.selector "#a", "a")], nodes := [("a", { Node.absent with count := 1 })] }
    let executor : Executor := ⟨.default, none⟩
    ∃ outcome after,
      (executor.execute field (.obj [])).runIn (.untouched page .empty) = (.ok outcome, after) ∧
      outcome.status = .applied ∧ ∃ value added, executor.value? field (.obj []) .empty = some value ∧
        after.trace = [] ++ added ∧ field.ActsOn page (field.effectiveTexts (.obj []) value) outcome.detail added := by
  intro settings field page executor
  have runs : ∃ outcome after, (executor.execute field (.obj [])).runIn (.untouched page .empty) = (.ok outcome, after) ∧
      outcome.status = .applied := ⟨_, _, rfl, rfl⟩
  obtain ⟨outcome, after, ended, applied⟩ := runs
  obtain ⟨value, added, valued, trace, -, acts⟩ :=
    execute_acts executor field (.obj []) (.untouched page .empty) outcome after ended applied
  exact ⟨outcome, after, ended, applied, value, added, valued, trace, acts rfl⟩

/-- An identifier is drawn for a field and put into the record, and yet the text of the definition is clicked. -/
theorem execute_clicks_entry :
    let page : Page :=
      { Page.blank with
        lookups := [(.text "x" false, "a"), (.text "7" false, "b")]
        nodes := [("a", { Node.absent with count := 1 }), ("b", { Node.absent with count := 1 })] }
    let executor : Executor := ⟨.default, some ⟨⟨.ofText ".last-sku"⟩, some "7", "sku"⟩⟩
    ∃ field outcome after,
      Field.read (.obj [("action", .str "click_each_text"), ("value", .str "=x"), ("autoSku", .bool true)]) =
        .valid field ∧
      (executor.execute field (.obj [])).runIn (.untouched page .empty) = (.ok outcome, after) ∧
      outcome.status = .applied ∧ outcome.patch = some ⟨"sku", "7"⟩ ∧
      executor.value? field (.obj []) .empty = some "7" ∧ searched after.trace = ["x"] ∧
      ¬ field.ActsOn page (field.effectiveTexts (.obj []) "7") outcome.detail after.trace := by
  refine ⟨_, _, _, rfl, rfl, rfl, rfl, rfl, rfl, ?_⟩
  rintro ⟨-, clicks, -, -, searches⟩
  have other : ["x"] = ["7"] := searches
  exact absurd other (by decide)

end Executor
end FormFill
