import FormFill.Proofs.Action.Clicking
import FormFill.Proofs.Record.Normalized

namespace FormFill

open Act

/-- A text of which normalization leaves nothing: in lower case it has neither an ASCII letter nor a digit. -/
def Unmarked (text : String) : Prop :=
  ∀ c ∈ Text.lower text.toList, Record.isPlainLetterOrDigit c = false

theorem unmarked_iff (text : String) : Unmarked text ↔ Action.normalizedString text = [] := by
  simp [Unmarked, Action.normalizedString, Record.normalizedValue, Record.normalized, Record.scalarText,
    Json.plain, List.filter_eq_nil_iff]

/-- What separates the parts of a text may be left out for the comparison just if it is unmarked. -/
theorem normalizedString_separated_iff (first separator second : String) :
    Action.normalizedString (first ++ separator ++ second) = Action.normalizedString (first ++ second) ↔
      Unmarked separator := by
  simp only [unmarked_iff, Action.normalizedString, Record.normalizedValue_append]
  rw [List.append_assoc, List.append_cancel_left_eq, List.append_left_eq_self]

namespace Page

instance (page : Page) (text : String) (handle : Handle) : Decidable (page.ShowsText text handle) :=
  inferInstanceAs (Decidable (_ = _))

theorem ShowsText.unmarked_iff {page : Page} {text : String} {handle : Handle} (shows : page.ShowsText text handle) :
    Unmarked (page.node handle.node).text ↔ Unmarked text := by
  rw [FormFill.unmarked_iff, FormFill.unmarked_iff]
  exact Eq.congr shows rfl

/-- The candidates that can be read, if they are read in turn after some events. -/
def legible (page : Page) : List Event → List Handle → List Handle
  | _, [] => []
  | before, candidate :: candidates =>
    let others := page.legible (before ++ [Action.reading candidate]) candidates
    if page.error? before (Action.reading candidate) = none then candidate :: others else others

/-- The element for a text is the first that shows it among the candidates that can be read. It is as unmarked as the
    text, and an unmarked text has one just where some candidate is unmarked. -/
structure Picks (page : Page) (candidates : List Handle) (before : List Event) (text : String)
    (found : Option Handle) : Prop where
  first : found = (page.legible before candidates).find? (page.ShowsText text ·)
  alike : ∀ handle, found = some handle → (Unmarked (page.node handle.node).text ↔ Unmarked text)
  missing : Unmarked text →
    (found = none ↔ ∀ handle ∈ page.legible before candidates, ¬ Unmarked (page.node handle.node).text)

variable {page : Page} {candidates : List Handle} {before : List Event} {text : String} {found : Option Handle}

theorem Picks.of_first (first : found = (page.legible before candidates).find? (page.ShowsText text ·)) :
    page.Picks candidates before text found := by
  refine ⟨first, fun handle same => ?_, fun unmarked => ?_⟩
  · subst same
    have shows : page.ShowsText text handle := by simpa using List.find?_some first.symm
    exact shows.unmarked_iff
  · have shown (handle : Handle) : page.ShowsText text handle ↔ Unmarked (page.node handle.node).text := by
      rw [unmarked_iff, ShowsText, (FormFill.unmarked_iff text).mp unmarked]
    simp [first, shown]

end Page

namespace Action

variable {timing : Timing} {field : Field} {settings : EachText} {page : Page}

theorem Sought.eq_find? {text : String} {before reads : List Event} {candidates : List Handle} {found : Option Handle}
    (sought : Sought page (normalizedString text) before candidates found reads) :
    found = (page.legible before candidates).find? (page.ShowsText text ·) := by
  generalize wanted : normalizedString text = normal at sought
  induction sought with
  | nil => rfl
  | found reads shows =>
    have showing : page.ShowsText text _ := shows.trans wanted.symm
    rw [Page.legible, if_pos reads, List.find?_cons_of_pos (by simpa using showing)]
  | @passed before _ candidate candidates _ unfit _ ih =>
    rw [Page.legible]
    split
    · rename_i reads
      have other : ¬ page.ShowsText text candidate :=
        fun shows => unfit.elim (fun fails => fails reads) fun other => other (shows.trans wanted)
      rw [List.find?_cons_of_neg (by simpa using other), ih]
    · exact ih

theorem Compared.picks {text : String} {before events : List Event} {candidates : List Handle} {found : Option Handle}
    (compared : Compared page field candidates before text found events) : page.Picks candidates before text found := by
  cases compared with
  | clicked sought => exact .of_first sought.eq_find?
  | missing sought => exact .of_first sought.eq_find?

/-- Each text has been dealt with after some of the events. -/
theorem InTurn.each {each : List Event → String → Option Handle → List Event → Prop} {before events : List Event}
    {results : List (String × Option Handle)} (inTurn : InTurn each before results events) {text : String}
    {found : Option Handle} (member : (text, found) ∈ results) :
    ∃ earlier one later, events = earlier ++ one ++ later ∧ each (before ++ earlier) text found one := by
  induction inTurn with
  | nil => cases member
  | @cons before one more _ _ results here rest ih =>
    rcases List.mem_cons.mp member with same | member
    · cases same
      exact ⟨[], one, more, rfl, by rwa [List.append_nil]⟩
    · obtain ⟨earlier, other, later, rfl, there⟩ := ih member
      refine ⟨one ++ earlier, other, later, by simp, ?_⟩
      rwa [← List.append_assoc]

/-- Whatever comes of the action, each element that it clicks is as told of the page. -/
def ClicksOnly (told : Page → Handle → Prop) {α : Type} (action : Act α) : Prop :=
  Adds (fun page _ added => ∀ handle ∈ clickedHandles added, told page handle) action

namespace ClicksOnly

variable {α β : Type} {told weaker : Page → Handle → Prop} {action : Act α}

theorem imp (clicks : ClicksOnly told action) (implies : ∀ page handle, told page handle → weaker page handle) :
    ClicksOnly weaker action :=
  Adds.imp clicks fun page _ _ shown handle member => implies page handle (shown handle member)

theorem of_confined (confined : Confined (fun event => event.clicked?.isNone) action) : ClicksOnly told action := by
  refine (Adds.of_silent confined).imp fun page _ added none handle member => ?_
  rw [clickedHandles, none] at member
  cases member

theorem bind {next : α → Act β} (first : ClicksOnly told action) (second : ∀ value, ClicksOnly told (next value)) :
    ClicksOnly told (action >>= next) := by
  refine (Adds.bind first second).imp fun page result added ends => ?_
  rcases ends with ⟨_, _, shown⟩ | ⟨_, made, more, rfl, shown, further⟩
  · exact shown
  · rw [handles_append]
    exact List.forall_mem_append.mpr ⟨shown, further⟩

theorem click {handle : Handle} (force : Bool) (holds : ∀ page, told page handle) :
    ClicksOnly told (Act.element handle (.click force)) := by
  refine (Adds.element handle (.click force)).imp fun page _ added ends => ?_
  simpa [ends.1, clickedHandles, Event.clicked?] using holds page

end ClicksOnly

/-- An element shows one of the texts. -/
def ShowsOne (texts : List String) (page : Page) (handle : Handle) : Prop :=
  ∃ text ∈ texts, page.ShowsText text handle

theorem ShowsOne.mono {texts more : List String} (subset : texts ⊆ more) (page : Page) (handle : Handle)
    (shows : ShowsOne texts page handle) : ShowsOne more page handle := by
  obtain ⟨text, among, shown⟩ := shows
  exact ⟨text, subset among, shown⟩

theorem clickNormalized_clicks (timing : Timing) (field : Field) (candidates : List Handle) (text : String) :
    ClicksOnly (ShowsOne [text]) (clickNormalized timing field candidates text) := by
  have parts : clickNormalized timing field candidates text =
      findCandidate (normalizedString text) candidates >>= clickCandidate timing field text := rfl
  have silent : Confined (fun event => event.clicked?.isNone) (findCandidate (normalizedString text) candidates) :=
    findCandidate_confined (fun _ => rfl) _ _
  have finding : Adds (fun page result added => clickedHandles added = [] ∧
      ∀ handle, result = .ok (some handle) → page.ShowsText text handle)
      (findCandidate (normalizedString text) candidates) := by
    intro world
    obtain ⟨added, page, trace, none⟩ := Adds.of_silent silent world
    exact ⟨added, page, trace, none, fun handle returned => findCandidate_shows (Prod.ext returned rfl)⟩
  have clicking (found : Option Handle) : ClicksOnly (fun _ handle => found = some handle)
      (clickCandidate timing field text found) := by
    cases found with
    | none => exact .of_confined (.bind (.log _ _ _ _) fun _ => .pure _)
    | some candidate =>
      refine .bind (.of_confined (timing.scrollIntoView_confined (fun _ _ => rfl) _ _ _)) fun _ => ?_
      exact .bind (.click field.force fun _ => rfl) fun _ => .of_confined (.pure _)
  rw [parts]
  refine (Adds.bind finding clicking).imp fun page _ added ends handle member => ?_
  rcases ends with ⟨_, -, none, -⟩ | ⟨found, made, more, rfl, ⟨none, shows⟩, only⟩
  · rw [none] at member
    cases member
  · rw [handles_append, none, List.nil_append] at member
    exact ⟨text, List.mem_singleton_self text, shows handle (congrArg _ (only handle member))⟩

theorem forTexts_clicks {step : String → Act Bool} (steps : ∀ text, ClicksOnly (ShowsOne [text]) (step text))
    (texts : List String) : ClicksOnly (ShowsOne texts) (forTexts step texts) := by
  induction texts with
  | nil => exact .of_confined (.pure _)
  | cons text texts ih =>
    refine .bind ((steps text).imp (.mono (by simp))) fun found => ?_
    exact .bind (ih.imp (.mono (List.subset_cons_self text texts))) fun _ => .of_confined (.pure _)

theorem runEachText_clicks (timing : Timing) (field : Field) (compares : settings.compares = true) (record : Json) :
    ClicksOnly (ShowsOne (requestedTexts settings (field.rawValue record)))
      (runEachText timing field settings record) := by
  have skipping (reason : String) (detail : Detail) :
      ClicksOnly (ShowsOne (requestedTexts settings (field.rawValue record))) (skip field reason detail) :=
    .of_confined (.bind (.log _ _ _ _) fun _ => .pure _)
  have clicking : ClicksOnly (ShowsOne (requestedTexts settings (field.rawValue record)))
      (clickTexts timing field settings (requestedTexts settings (field.rawValue record))) := by
    unfold clickTexts
    cases restricted : given settings.scope with
    | none => simp [EachText.compares, restricted] at compares
    | some query =>
      have normalized : settings.normalize = true := by simpa [EachText.compares, restricted] using compares
      refine .bind (.of_confined (.lookup rfl)) fun scope => ?_
      rw [if_pos normalized]
      unfold candidates
      refine .bind (.of_confined (.bind (.lookup rfl) fun _ => .bind (.element rfl) fun _ => .pure _)) fun handles => ?_
      exact forTexts_clicks (clickNormalized_clicks timing field handles) _
  unfold runEachText
  dsimp only
  split
  · exact skipping _ _
  · refine .bind clicking fun clicks => ?_
    split
    · exact skipping _ _
    · exact .of_confined (.pure _)

end Action

namespace Executor

open FormFill.Action

theorem execute_clicks_shown (executor : Executor) {field : Field} {settings : EachText}
    (clicking : field.action = .clickEachText settings) (compares : settings.compares = true) (record : Json)
    (world : World) :
    ∃ added, ((executor.execute field record).runIn world).2.trace = world.trace ++ added ∧
      ∀ handle ∈ clickedHandles added,
        ShowsOne (requestedTexts settings (field.rawValue record)) world.page handle := by
  have adds (value : String) :
      ClicksOnly (ShowsOne (requestedTexts settings (field.rawValue record)))
        (interact executor.timing field record value) := by
    rw [interact, clicking]
    exact runEachText_clicks executor.timing field compares record
  obtain ⟨opening, added, trace, calls, shown⟩ := executor.execute_adds adds world
  have unclicked : clickedHandles opening = [] := filterMap_calls calls fun _ => rfl
  refine ⟨opening ++ added, trace, fun handle member => ?_⟩
  rw [handles_append, unclicked, List.nil_append] at member
  rcases shown with shown | ⟨rfl, -⟩
  · exact shown handle member
  · cases member

theorem execute_picks {executor : Executor} {field : Field} {settings : EachText}
    (clicking : field.action = .clickEachText settings) {query : String}
    (restricted : given settings.scope = some query) (normalized : settings.normalize = true) {record : Json}
    {world after : World} (valued : field.isInert = true ∨ executor.value? field record world.files ≠ none)
    {outcome : Outcome} (ended : (executor.execute field record).runIn world = (.ok outcome, after))
    (unfailed : outcome.status ≠ .failed) :
    ∃ added results, after.trace = world.trace ++ added ∧ clickedHandles added = results.filterMap Prod.snd ∧
      results.map Prod.fst = requestedTexts settings (field.rawValue record) ∧
      outcome.detail.clicks = Clicks.of results ∧ ∀ text found, (text, found) ∈ results →
        ∃ before, world.trace <+: before ∧ before <+: after.trace ∧ world.page.Picks
          (candidatesIn world.page settings (world.page.handle none (.selector query))) before text found := by
  cases execute_reaches ended with
  | inert inert trace =>
    exact ⟨[], [], by rw [trace, List.append_nil], rfl, (requestedTexts_inert clicking inert record).symm, rfl, nofun⟩
  | unidentified active unvalued => exact absurd unvalued (valued.resolve_left (by simp [active]))
  | failed failed => exact absurd failed unfailed
  | @interacted _ first given _ _ _ interacted patch =>
    obtain ⟨begun, page, trace, ended⟩ := interacted.reached
    rw [interact, clicking] at ended
    obtain ⟨_, -, further, opening, events, results, rfl, sorting, -⟩ :=
      runEachText_returns executor.timing field settings record begun given after ended
    rw [page, trace] at sorting
    have whole := sorting.after interacted.still
    have added : after.trace = world.trace ++ (first ++ opening ++ events) := by
      rw [further, trace]
      simp
    refine ⟨_, results, added, whole.handles, whole.texts, whole.clicks, fun text found member => ?_⟩
    have inTurn := whole.inTurn
    rw [clickedBy_compared restricted normalized] at inTurn
    obtain ⟨earlier, one, later, rfl, compared⟩ := inTurn.each member
    refine ⟨_, ?_, ?_, compared.picks⟩
    · exact ⟨first ++ opening ++ earlier, by simp⟩
    · exact ⟨one ++ later, by rw [added]; simp⟩

/-- An element is clicked for a text only if the two are equal once they are normalized. So an element of which nothing
    is left is clicked for the texts of which nothing is left either, however little they have in common; such a text is
    reported as missing just where no candidate that can be read is of that kind. -/
theorem execute_compares (executor : Executor) {field : Field} {settings : EachText}
    (clicking : field.action = .clickEachText settings) {query : String}
    (restricted : given settings.scope = some query) (normalized : settings.normalize = true) (record : Json)
    (world : World) :
    (∃ added, ((executor.execute field record).runIn world).2.trace = world.trace ++ added ∧
      ∀ handle ∈ clickedHandles added, ∃ text ∈ requestedTexts settings (field.rawValue record),
        world.page.ShowsText text handle ∧ (Unmarked (world.page.node handle.node).text ↔ Unmarked text)) ∧
    ∀ outcome after, (executor.execute field record).runIn world = (.ok outcome, after) → outcome.status ≠ .failed →
      field.isInert = true ∨ executor.value? field record world.files ≠ none →
      ∃ added results, after.trace = world.trace ++ added ∧ clickedHandles added = results.filterMap Prod.snd ∧
        results.map Prod.fst = requestedTexts settings (field.rawValue record) ∧
        outcome.detail.clicks = Clicks.of results ∧ ∀ text found, (text, found) ∈ results →
          ∃ before, world.trace <+: before ∧ before <+: after.trace ∧ world.page.Picks
            (candidatesIn world.page settings (world.page.handle none (.selector query))) before text found := by
  have compares : settings.compares = true := by simp [EachText.compares, restricted, normalized]
  refine ⟨?_, fun outcome after ended unfailed valued => ?_⟩
  · obtain ⟨added, trace, shown⟩ := executor.execute_clicks_shown clicking compares record world
    refine ⟨added, trace, fun handle member => ?_⟩
    obtain ⟨text, among, shows⟩ := shown handle member
    exact ⟨text, among, shows, shows.unmarked_iff⟩
  · exact execute_picks clicking restricted normalized valued ended unfailed

theorem execute_compares_two :
    let settings : EachText := ⟨some "#box", true, "button"⟩
    let field : Field :=
      ⟨none, none, none, none, none, true, some "sizes", .none, false, false, false, false, .clickEachText settings⟩
    let page : Page :=
      { Page.blank with
        lookups := [(.selector "#box", "box")]
        nodes :=
          [("box", { Node.absent with lookups := [(.selector "button", "buttons")] }),
            ("buttons", { Node.absent with all := ["a", "b"] }), ("a", { Node.absent with text := " 1" })] }
    let executor : Executor := ⟨.default, none⟩
    let record : Json := .obj [("sizes", .arr [.str "?", .str "1"])]
    let outcome : Outcome := .applied field (.clicked ["?", "1"] [])
    ∃ after added results, (executor.execute field record).runIn (.untouched page .empty) = (.ok outcome, after) ∧
      (∀ handle ∈ clickedHandles added, ∃ text ∈ requestedTexts settings (field.rawValue record),
        page.ShowsText text handle ∧ (Unmarked (page.node handle.node).text ↔ Unmarked text)) ∧
      clickedHandles added = results.filterMap Prod.snd ∧ ⟨["?", "1"], []⟩ = Clicks.of results := by
  intro settings field page executor record outcome
  have valued : executor.value? field record .empty ≠ none := nofun
  have unfailed : outcome.status ≠ .failed := nofun
  have returned : ((executor.execute field record).runIn (.untouched page .empty)).1 = .ok outcome := by
    subst outcome record executor page field settings
    rfl
  rcases ended : (executor.execute field record).runIn (.untouched page .empty) with ⟨result, after⟩
  rw [ended] at returned
  obtain rfl : result = .ok outcome := returned
  have clicking : field.action = .clickEachText settings := rfl
  have restricted : given settings.scope = some "#box" := rfl
  obtain ⟨⟨added, trace, shown⟩, sorts⟩ :=
    execute_compares executor clicking restricted rfl record (.untouched page .empty)
  obtain ⟨same, results, again, clicks, -, sorted, -⟩ := sorts outcome after ended unfailed (.inr valued)
  rw [ended] at trace
  obtain rfl : same = added := List.append_cancel_left (again.symm.trans trace)
  exact ⟨after, same, results, rfl, shown, clicks, sorted⟩

/-- The colour red is asked for, and the sign that closes a dialog is clicked. -/
theorem execute_clicks_unrelated :
    let page : Page :=
      { Page.blank with
        lookups := [(.selector "#s", "s")]
        nodes :=
          [("s", { Node.absent with lookups := [(.selector "span,div,button", "c")] }),
            ("c", { Node.absent with all := ["b"] }), ("b", { Node.absent with count := 1, text := "×" })] }
    ∃ field settings outcome after,
      Field.read
          (.obj [("action", .str "click_each_text"), ("scope", .str "#s"), ("value", .str "=赤"),
            ("normalizeComparison", .bool true)]) =
        .valid field ∧
      field.action = .clickEachText settings ∧ requestedTexts settings (field.rawValue (.obj [])) = ["赤"] ∧
      Unmarked "赤" ∧
      ((⟨.default, none⟩ : Executor).execute field (.obj [])).runIn (.untouched page .empty) = (.ok outcome, after) ∧
      outcome.status = .applied ∧ outcome.detail.clicks = ⟨["赤"], []⟩ ∧
      clickedHandles after.trace = [⟨"b", false⟩] := by
  have unmarked : Unmarked "赤" := (unmarked_iff "赤").mpr rfl
  exact ⟨_, _, _, _, rfl, rfl, rfl, unmarked, rfl, rfl, rfl, rfl⟩

end Executor
end FormFill
