import FormFill.Proofs.Act.Returning
import FormFill.Proofs.Action.Texts
import FormFill.Proofs.Executor.Reaching

namespace FormFill

/-- What a lookup gives on a page. -/
def Page.handle (page : Page) (owner : Option Handle) (lookup : Lookup) : Handle :=
  ⟨page.find owner lookup, false⟩

theorem Still.unclicked {events : List Event} (still : Still events) : clickedHandles events = [] := by
  refine List.filterMap_eq_nil_iff.mpr fun event member => ?_
  have harmless := still event member
  cases event with
  | element handle made => cases made <;> first | rfl | cases harmless
  | _ => rfl

namespace Action

open Act

abbrev reading (candidate : Handle) : Event :=
  .element candidate .innerText

/-- Candidates have been read in turn up to the first that shows the wanted text. Those that cannot be read are passed
    over. -/
inductive Sought (page : Page) (wanted : List Char) :
    List Event → List Handle → Option Handle → List Event → Prop where
  | nil {before : List Event} : Sought page wanted before [] none []
  | found {before : List Event} {candidate : Handle} {candidates : List Handle}
      (reads : page.error? before (reading candidate) = none)
      (shows : normalizedString (page.node candidate.node).text = wanted) :
      Sought page wanted before (candidate :: candidates) (some candidate) [reading candidate]
  | passed {before more : List Event} {candidate : Handle} {candidates : List Handle} {found : Option Handle}
      (unfit : page.error? before (reading candidate) ≠ none ∨
        normalizedString (page.node candidate.node).text ≠ wanted)
      (rest : Sought page wanted (before ++ [reading candidate]) candidates found more) :
      Sought page wanted before (candidate :: candidates) found (reading candidate :: more)

/-- A text has been looked for on the page or in a scope, and its first match clicked if there is one. -/
inductive Searched (page : Page) (field : Field) (scope : Option Handle) (text : String) :
    Option Handle → List Event → Prop where
  | clicked {matching : Handle} {scrolled : List Event} (looked : matching = page.handle scope (.text text field.exact))
      (present : (page.node matching.node).count ≠ 0) (still : Still scrolled) :
      Searched page field scope text (some matching.first)
        ([.lookup scope (.text text field.exact), .element matching .count] ++
          (scrolled ++ [.element matching.first (.click field.force)]))
  | missing {matching : Handle} (looked : matching = page.handle scope (.text text field.exact))
      (absent : (page.node matching.node).count = 0) :
      Searched page field scope text none [.lookup scope (.text text field.exact), .element matching .count]

/-- A text has been compared with candidates, and the first that shows it clicked if there is one. -/
inductive Compared (page : Page) (field : Field) (candidates : List Handle) (before : List Event) (text : String) :
    Option Handle → List Event → Prop where
  | clicked {candidate : Handle} {reads scrolled : List Event}
      (sought : Sought page (normalizedString text) before candidates (some candidate) reads) (still : Still scrolled) :
      Compared page field candidates before text (some candidate)
        (reads ++ (scrolled ++ [.element candidate (.click field.force)]))
  | missing {reads : List Event} (sought : Sought page (normalizedString text) before candidates none reads) :
      Compared page field candidates before text none reads

/-- Texts have been dealt with in turn, each with the element that was clicked for it or with none. -/
inductive InTurn (each : List Event → String → Option Handle → List Event → Prop) :
    List Event → List (String × Option Handle) → List Event → Prop where
  | nil {before : List Event} : InTurn each before [] []
  | cons {before one more : List Event} {text : String} {found : Option Handle}
      {results : List (String × Option Handle)}
      (here : each before text found one) (rest : InTurn each (before ++ one) results more) :
      InTurn each before ((text, found) :: results) (one ++ more)

/-- The texts for which an element was clicked and the others, both in their order. -/
def Clicks.of (results : List (String × Option Handle)) : Clicks :=
  ⟨(results.filter (·.2.isSome)).map (·.1), (results.filter (·.2.isNone)).map (·.1)⟩

theorem Clicks.of_cons (text : String) (found : Option Handle) (results : List (String × Option Handle)) :
    Clicks.of ((text, found) :: results) = (Clicks.of results).cons text found.isSome := by
  cases found <;> rfl

variable {timing : Timing} {field : Field}

theorem clicking_returns (timing : Timing) (field : Field) (shown handle : Handle) :
    Returns (fun _ _ found added => found = true ∧
      ∃ scrolled, Still scrolled ∧ added = scrolled ++ [.element handle (.click field.force)]) (do
        let _ ← timing.scrollIntoView shown field.displayName field.skipScroll
        let _ ← Act.element handle (.click field.force)
        return true) := by
  have succeeds : Returns (fun _ _ found added => found = true ∧ added = []) (pure true : Act Bool) :=
    .pure fun _ _ => ⟨rfl, rfl⟩
  refine ((timing.scrollIntoView_returns shown field.displayName field.skipScroll).bind fun _ =>
    (Returns.element handle (.click field.force)).bind fun _ => succeeds).imp ?_
  rintro _ _ _ _ ⟨_, scrolled, _, rfl, still, _, _, _, rfl, ⟨rfl, -⟩, rfl, rfl⟩
  exact ⟨rfl, scrolled, still, rfl⟩

theorem textNotFound_returns (field : Field) (text : String) :
    Returns (fun _ _ found added => found = false ∧ added = []) (textNotFound field text) :=
  .silently (.log _ _ _ _) fun _ => .pure fun _ _ => ⟨rfl, rfl⟩

theorem clickText_returns (timing : Timing) (field : Field) (scope : Option Handle) (text : String) :
    Returns (fun page _ found added => ∃ handle, found = handle.isSome ∧ Searched page field scope text handle added)
      (clickText timing field scope text) := by
  have ending (matching : Handle) (count : Int) :
      Returns (fun _ _ found added => (count = 0 ∧ found = false ∧ added = []) ∨ (count ≠ 0 ∧ found = true ∧
          ∃ scrolled, Still scrolled ∧ added = scrolled ++ [.element matching.first (.click field.force)]))
        (if count = 0 then textNotFound field text
          else do
            let _ ← timing.scrollIntoView matching field.displayName field.skipScroll
            let _ ← Act.element matching.first (.click field.force)
            return true) := by
    split
    · rename_i absent
      exact (textNotFound_returns field text).imp fun _ _ _ _ ends => .inl ⟨absent, ends⟩
    · rename_i present
      exact (clicking_returns timing field matching matching.first).imp fun _ _ _ _ ends => .inr ⟨present, ends⟩
  refine ((Returns.lookup scope (.text text field.exact)).bind fun matching =>
    (Returns.count matching).bind (ending matching)).imp ?_
  rintro page before _ _ ⟨matching, _, _, rfl, ⟨rfl, looked⟩, _, _, _, rfl, ⟨rfl, -, rfl⟩,
    ⟨absent, rfl, rfl⟩ | ⟨present, rfl, scrolled, still, rfl⟩⟩
  · exact ⟨none, rfl, .missing looked absent⟩
  · exact ⟨some matching.first, rfl, .clicked looked present still⟩

theorem candidateText_returns (candidate : Handle) :
    Returns (fun page before text added => added = [reading candidate] ∧
      (text = if page.error? before (reading candidate) = none then some (page.node candidate.node).text else none))
      (candidateText? candidate) := by
  intro world text after returned
  unfold candidateText? at returned
  rw [runIn_catchBrowser] at returned
  unfold Act.element at returned
  rw [runIn_bind, runIn_bind, runIn_perform] at returned
  cases raised : world.page.error? world.trace (reading candidate) with
  | none =>
    rw [raised] at returned
    cases returned
    exact ⟨_, rfl, rfl, rfl, (if_pos raised).symm⟩
  | some error =>
    have fails : world.page.error? world.trace (reading candidate) ≠ none := by simp [raised]
    rw [raised] at returned
    cases returned
    exact ⟨_, rfl, rfl, rfl, (if_neg fails).symm⟩

/-- Goes on from the text of a candidate, if it could be read: the candidate is found, or the others are looked at. -/
def judge (wanted : List Char) (candidate : Handle) (others : Act (Option Handle)) : Option String → Act (Option Handle)
  | some text => if normalizedString text = wanted then return some candidate else others
  | none => others

theorem findCandidate_cons (wanted : List Char) (candidate : Handle) (candidates : List Handle) :
    findCandidate wanted (candidate :: candidates) =
      candidateText? candidate >>= judge wanted candidate (findCandidate wanted candidates) :=
  rfl

theorem judge_returns {wanted : List Char} {others : Act (Option Handle)}
    {told : Page → List Event → Option Handle → List Event → Prop} (candidate : Handle) (returns : Returns told others)
    (text : Option String) :
    Returns (fun page before found added =>
      (text.map normalizedString = some wanted ∧ found = some candidate ∧ added = []) ∨
        (text.map normalizedString ≠ some wanted ∧ told page before found added))
      (judge wanted candidate others text) := by
  cases text with
  | none => exact returns.imp fun _ _ _ _ holds => .inr ⟨nofun, holds⟩
  | some shown =>
    rw [judge]
    split
    · rename_i same
      exact .pure fun _ _ => .inl ⟨congrArg some same, rfl, rfl⟩
    · rename_i other
      exact returns.imp fun _ _ _ _ holds => .inr ⟨fun same => other (Option.some.inj same), holds⟩

theorem findCandidate_returns (wanted : List Char) (candidates : List Handle) :
    Returns (fun page before found added => Sought page wanted before candidates found added)
      (findCandidate wanted candidates) := by
  induction candidates with
  | nil => exact .pure fun _ _ => .nil
  | cons candidate candidates ih =>
    rw [findCandidate_cons]
    refine ((candidateText_returns candidate).bind (judge_returns candidate ih)).imp ?_
    rintro page before _ _ ⟨text, _, _, rfl, ⟨rfl, rfl⟩, ⟨same, rfl, rfl⟩ | ⟨other, sought⟩⟩
    · split at same
      · rename_i reads
        exact .found reads (Option.some.inj same)
      · cases same
    · refine .passed ?_ sought
      split at other
      · exact .inr fun same => other (congrArg some same)
      · rename_i fails
        exact .inl fails

theorem clickCandidate_returns (timing : Timing) (field : Field) (text : String) (handle : Option Handle) :
    Returns (fun _ _ found added => found = handle.isSome ∧ ((handle = none ∧ added = []) ∨
        ∃ candidate scrolled, handle = some candidate ∧ Still scrolled ∧
          added = scrolled ++ [.element candidate (.click field.force)]))
      (clickCandidate timing field text handle) := by
  cases handle with
  | none => exact (textNotFound_returns field text).imp fun _ _ _ _ ⟨found, added⟩ => ⟨found, .inl ⟨rfl, added⟩⟩
  | some candidate =>
    refine (clicking_returns timing field candidate candidate).imp ?_
    rintro _ _ _ _ ⟨found, scrolled, still, added⟩
    exact ⟨found, .inr ⟨candidate, scrolled, rfl, still, added⟩⟩

theorem clickNormalized_returns (timing : Timing) (field : Field) (candidates : List Handle) (text : String) :
    Returns (fun page before found added => ∃ handle, found = handle.isSome ∧
      Compared page field candidates before text handle added) (clickNormalized timing field candidates text) := by
  have parts : clickNormalized timing field candidates text =
      findCandidate (normalizedString text) candidates >>= clickCandidate timing field text := rfl
  rw [parts]
  refine ((findCandidate_returns _ candidates).bind (clickCandidate_returns timing field text)).imp ?_
  rintro page before _ _ ⟨handle, reads, _, rfl, sought, rfl, ⟨rfl, rfl⟩ | ⟨candidate, scrolled, rfl, still, rfl⟩⟩
  · rw [List.append_nil]
    exact ⟨none, rfl, .missing sought⟩
  · exact ⟨some candidate, rfl, .clicked sought still⟩

theorem forTexts_returns {step : String → Act Bool}
    {each : Page → List Event → String → Option Handle → List Event → Prop}
    (steps : ∀ text, Returns (fun page before found added => ∃ handle, found = handle.isSome ∧
      each page before text handle added) (step text)) (texts : List String) :
    Returns (fun page before clicks added => ∃ results, results.map Prod.fst = texts ∧ clicks = Clicks.of results ∧
      InTurn (each page) before results added) (forTexts step texts) := by
  induction texts with
  | nil => exact .pure fun _ _ => ⟨[], rfl, rfl, .nil⟩
  | cons text texts ih =>
    have sorted (found : Bool) (clicks : Clicks) : Returns (fun _ _ sorted added =>
        sorted = clicks.cons text found ∧ added = []) (pure (clicks.cons text found)) :=
      .pure fun _ _ => ⟨rfl, rfl⟩
    refine ((steps text).bind fun found => ih.bind (sorted found)).imp ?_
    rintro page before _ _ ⟨_, one, _, rfl, ⟨handle, rfl, here⟩, _, _, _, rfl, ⟨results, rfl, rfl, rest⟩, rfl, rfl⟩
    rw [List.append_nil]
    exact ⟨(text, handle) :: results, rfl, (Clicks.of_cons text handle results).symm, .cons here rest⟩

/-- The candidates on a page that a scope has for a text. -/
def candidatesIn (page : Page) (settings : EachText) (scope : Handle) : List Handle :=
  (page.node (page.handle (some scope) (.selector settings.candidates)).node).all.map (⟨·, false⟩)

/-- How a text is dealt with: it is compared with the candidates in a scope if that is asked for and there is a scope,
    and looked for otherwise. -/
def clickedBy (settings : EachText) (field : Field) (page : Page) :
    List Event → String → Option Handle → List Event → Prop :=
  match given settings.scope with
  | none => fun _ => Searched page field none
  | some query =>
    let scope := page.handle none (.selector query)
    if settings.normalize then Compared page field (candidatesIn page settings scope)
    else fun _ => Searched page field (some scope)

section

variable {settings : EachText} {page : Page} {query : String}

theorem clickedBy_unscoped (unrestricted : given settings.scope = none) :
    clickedBy settings field page = fun _ => Searched page field none := by
  rw [clickedBy, unrestricted]

theorem clickedBy_scoped (restricted : given settings.scope = some query) (plain : settings.normalize = false) :
    clickedBy settings field page = fun _ => Searched page field (some (page.handle none (.selector query))) := by
  simp [clickedBy, restricted, plain]

theorem clickedBy_compared (restricted : given settings.scope = some query) (normalized : settings.normalize = true) :
    clickedBy settings field page =
      Compared page field (candidatesIn page settings (page.handle none (.selector query))) := by
  simp [clickedBy, restricted, normalized]

end

/-- Texts have been dealt with in turn, after events that change nothing. -/
structure Sorting (settings : EachText) (field : Field) (page : Page) (before : List Event) (texts : List String)
    (clicks : Clicks) (opening events : List Event) (results : List (String × Option Handle)) : Prop where
  still : Still opening
  texts : results.map Prod.fst = texts
  clicks : clicks = Clicks.of results
  inTurn : InTurn (clickedBy settings field page) (before ++ opening) results events

theorem candidates_returns (settings : EachText) (scope : Handle) :
    Returns (fun page _ found added => found = candidatesIn page settings scope ∧ Still added)
      (candidates settings scope) := by
  have listed (node : Node) : Returns (fun _ _ found added => found = node.all.map (⟨·, false⟩) ∧ added = [])
      (pure (node.all.map (⟨·, false⟩)) : Act (List Handle)) := .pure fun _ _ => ⟨rfl, rfl⟩
  refine ((Returns.lookup (some scope) (.selector settings.candidates)).bind fun found =>
    (Returns.element found .all).bind listed).imp ?_
  rintro page _ _ _ ⟨_, _, _, rfl, ⟨rfl, rfl⟩, _, _, _, rfl, ⟨rfl, -, rfl⟩, rfl, rfl⟩
  exact ⟨rfl, Still.append (.singleton rfl) (.singleton rfl)⟩

theorem clickTexts_returns (timing : Timing) (field : Field) (settings : EachText) (texts : List String) :
    Returns (fun page before clicks added => ∃ opening events results, added = opening ++ events ∧
      Sorting settings field page before texts clicks opening events results)
      (clickTexts timing field settings texts) := by
  unfold clickTexts
  cases restricted : given settings.scope with
  | none =>
    refine (forTexts_returns (clickText_returns timing field none) texts).imp ?_
    rintro page before _ added ⟨results, same, rfl, inTurn⟩
    refine ⟨[], added, results, rfl, .nil, same, rfl, ?_⟩
    rwa [clickedBy_unscoped restricted, List.append_nil]
  | some query =>
    cases normalized : settings.normalize with
    | false =>
      refine ((Returns.lookup none (.selector query)).bind fun scope =>
        forTexts_returns (clickText_returns timing field (some scope)) texts).imp ?_
      rintro page before _ _ ⟨_, _, events, rfl, ⟨rfl, rfl⟩, results, same, rfl, inTurn⟩
      refine ⟨_, events, results, rfl, .singleton rfl, same, rfl, ?_⟩
      rwa [clickedBy_scoped restricted normalized]
    | true =>
      refine ((Returns.lookup none (.selector query)).bind fun scope => (candidates_returns settings scope).bind
        fun handles => forTexts_returns (clickNormalized_returns timing field handles) texts).imp ?_
      rintro page before _ _
        ⟨_, _, _, rfl, ⟨rfl, rfl⟩, _, listing, events, rfl, ⟨rfl, still⟩, results, same, rfl, inTurn⟩
      refine ⟨_, events, results, (List.append_assoc _ _ _).symm, Still.append (.singleton rfl) still, same, rfl, ?_⟩
      rw [clickedBy_compared restricted normalized, ← List.append_assoc]
      exact inTurn

end Action

/-- The texts that an outcome tells of. -/
def Detail.clicks : Detail → Action.Clicks
  | .clicked texts others => ⟨texts, others⟩
  | .missing texts => ⟨[], texts⟩
  | _ => ⟨[], []⟩

namespace Action

open Act

variable {timing : Timing} {field : Field} {settings : EachText}

theorem runEachText_returns (timing : Timing) (field : Field) (settings : EachText) (record : Json) :
    Returns (fun page before outcome added => ∃ opening events results, added = opening ++ events ∧
      Sorting settings field page before (requestedTexts settings (field.rawValue record)) outcome.detail.clicks opening
        events results ∧
      (outcome.status = .applied ↔ outcome.detail.clicks.clicked ≠ [])) (runEachText timing field settings record) := by
  unfold runEachText
  dsimp only
  split
  · rename_i none
    refine .silently (.log _ _ _ _) fun _ => .pure fun page before => ?_
    exact ⟨[], [], [], rfl, ⟨.nil, none.symm, rfl, .nil⟩, iff_of_false nofun fun clicked => clicked rfl⟩
  · have told (clicks : Clicks) : Returns (fun _ _ outcome added => added = [] ∧ outcome.detail.clicks = clicks ∧
        (outcome.status = .applied ↔ outcome.detail.clicks.clicked ≠ []))
        (if clicks.clicked = [] then skip field "no matching text" (.missing clicks.missing)
          else return .applied field (.clicked clicks.clicked clicks.missing)) := by
      split
      · rename_i none
        refine .silently (.log _ _ _ _) fun _ => .pure fun _ _ => ?_
        have same : clicks = ⟨[], clicks.missing⟩ := by rw [← none]
        exact ⟨rfl, same.symm, iff_of_false nofun fun clicked => clicked rfl⟩
      · rename_i some
        exact .pure fun _ _ => ⟨rfl, rfl, iff_of_true rfl some⟩
    refine ((clickTexts_returns timing field settings _).bind told).imp ?_
    rintro page before outcome _ ⟨_, _, _, rfl, ⟨opening, events, results, rfl, sorting⟩, rfl, rfl, applied⟩
    exact ⟨opening, events, results, List.append_nil _, sorting, applied⟩

theorem handles_append (first second : List Event) :
    clickedHandles (first ++ second) = clickedHandles first ++ clickedHandles second :=
  List.filterMap_append

theorem handles_clicking {scrolled : List Event} (still : Still scrolled) (handle : Handle) (force : Bool) :
    clickedHandles (scrolled ++ [.element handle (.click force)]) = [handle] := by
  rw [handles_append, still.unclicked]
  rfl

theorem Sought.still {page : Page} {wanted : List Char} {before reads : List Event} {candidates : List Handle}
    {found : Option Handle} (sought : Sought page wanted before candidates found reads) : Still reads := by
  induction sought with
  | nil => exact .nil
  | found => exact .singleton rfl
  | passed _ _ ih => exact Still.append (.singleton rfl) ih

theorem Searched.handles {page : Page} {scope : Option Handle} {text : String} {found : Option Handle}
    {events : List Event} (searched : Searched page field scope text found events) :
    clickedHandles events = found.toList := by
  cases searched with
  | clicked looked present still => exact handles_clicking still _ _
  | missing => rfl

theorem Compared.handles {page : Page} {candidates : List Handle} {before events : List Event} {text : String}
    {found : Option Handle} (compared : Compared page field candidates before text found events) :
    clickedHandles events = found.toList := by
  cases compared with
  | clicked sought still =>
    rw [handles_append, sought.still.unclicked, handles_clicking still]
    rfl
  | missing sought => exact sought.still.unclicked

theorem clickedBy_handles {page : Page} {before events : List Event} {text : String} {found : Option Handle}
    (clicked : clickedBy settings field page before text found events) : clickedHandles events = found.toList := by
  cases restricted : given settings.scope with
  | none =>
    rw [clickedBy_unscoped restricted] at clicked
    exact clicked.handles
  | some query =>
    cases normalized : settings.normalize with
    | false =>
      rw [clickedBy_scoped restricted normalized] at clicked
      exact clicked.handles
    | true =>
      rw [clickedBy_compared restricted normalized] at clicked
      exact clicked.handles

theorem InTurn.handles {each : List Event → String → Option Handle → List Event → Prop} {before events : List Event}
    {results : List (String × Option Handle)} (inTurn : InTurn each before results events)
    (clicks : ∀ before text found events, each before text found events → clickedHandles events = found.toList) :
    clickedHandles events = results.filterMap Prod.snd := by
  induction inTurn with
  | nil => rfl
  | @cons _ _ _ _ found _ here _ ih =>
    rw [handles_append, clicks _ _ _ _ here, ih]
    cases found <;> rfl

theorem Sorting.handles {page : Page} {before opening events : List Event} {texts : List String} {clicks : Clicks}
    {results : List (String × Option Handle)}
    (sorting : Sorting settings field page before texts clicks opening events results) :
    clickedHandles (opening ++ events) = results.filterMap Prod.snd := by
  rw [handles_append, sorting.still.unclicked, List.nil_append]
  exact sorting.inTurn.handles fun _ _ _ _ => clickedBy_handles

/-- What is done before texts are dealt with may begin earlier. -/
theorem Sorting.after {page : Page} {before first opening events : List Event} {texts : List String} {clicks : Clicks}
    {results : List (String × Option Handle)} (still : Still first)
    (sorting : Sorting settings field page (before ++ first) texts clicks opening events results) :
    Sorting settings field page before texts clicks (first ++ opening) events results where
  still := still.append sorting.still
  texts := sorting.texts
  clicks := sorting.clicks
  inTurn := by
    rw [← List.append_assoc]
    exact sorting.inTurn

/-- A field without a source for its texts requests none. -/
theorem requestedTexts_inert (clicking : field.action = .clickEachText settings) (inert : field.isInert = true)
    (record : Json) : requestedTexts settings (field.rawValue record) = [] := by
  have unvalued : given field.value = none := by simpa [Field.isInert, clicking] using inert
  have null : field.rawValue record = .null := by
    unfold Field.rawValue
    cases sourced : field.value with
    | none => rfl
    | some text =>
      obtain rfl : text = "" := by simpa [given, sourced] using unvalued
      rfl
  rw [null]
  unfold requestedTexts
  split
  · contradiction
  · rfl

end Action

namespace Executor

open Act FormFill.Action

/-- The requested texts are dealt with in turn. They are sorted by whether an element was clicked for them, each text
    where it stands; the clicks are those of the elements in their order; and the field is an applied one exactly if
    there is one. This takes an identifier if the field asks for one, although that is not clicked. -/
theorem execute_sorts (executor : Executor) {field : Field} {settings : EachText}
    (clicking : field.action = .clickEachText settings) (record : Json) (world : World)
    (valued : field.isInert = true ∨ executor.value? field record world.files ≠ none) {outcome : Outcome}
    {after : World} (ended : (executor.execute field record).runIn world = (.ok outcome, after))
    (unfailed : outcome.status ≠ .failed) :
    ∃ opening events results, after.trace = world.trace ++ (opening ++ events) ∧
      Sorting settings field world.page world.trace (requestedTexts settings (field.rawValue record))
        outcome.detail.clicks opening events results ∧
      clickedHandles (opening ++ events) = results.filterMap Prod.snd ∧
      (outcome.status = .applied ↔ outcome.detail.clicks.clicked ≠ []) := by
  cases execute_reaches ended with
  | inert inert trace =>
    -- There is nothing to act on, and no source that texts could be requested from.
    have none := requestedTexts_inert clicking inert record
    refine ⟨[], [], [], by simp [trace], ⟨.nil, none.symm, rfl, .nil⟩, rfl, ?_⟩
    exact iff_of_false nofun fun clicked => clicked rfl
  | unidentified active unvalued trace =>
    rcases valued with inert | valued
    · rw [active] at inert
      cases inert
    · exact absurd unvalued valued
  | failed failed => exact absurd failed unfailed
  | @interacted value first given _ active _ interacted patch =>
    obtain ⟨reached, page, trace, ended⟩ := interacted.reached
    rw [interact, clicking] at ended
    obtain ⟨added, -, further, opening, events, results, rfl, sorting, applied⟩ :=
      runEachText_returns executor.timing field settings record reached given after ended
    rw [page, trace] at sorting
    have whole := sorting.after interacted.still
    refine ⟨first ++ opening, events, results, ?_, whole, whole.handles, applied⟩
    rw [further, trace]
    simp

theorem execute_sorts_one_of_two :
    let settings : EachText := ⟨some "#box", true, "button"⟩
    let field : Field :=
      ⟨none, none, none, none, none, true, some "sizes", .none, false, false, false, false, .clickEachText settings⟩
    let page : Page :=
      { Page.blank with
        lookups := [(.selector "#box", "box")]
        nodes :=
          [("box", { Node.absent with lookups := [(.selector "button", "buttons")] }),
            ("buttons", { Node.absent with all := ["a", "b"] }), ("b", { Node.absent with text := " 1" })] }
    let executor : Executor := ⟨.default, none⟩
    let record : Json := .obj [("sizes", .arr [.str "2", .str "1"])]
    let outcome : Outcome := .applied field (.clicked ["1"] ["2"])
    executor.value? field record .empty ≠ none ∧ outcome.status ≠ .failed ∧ ∃ after opening events results,
      (executor.execute field record).runIn (.untouched page .empty) = (.ok outcome, after) ∧
      Sorting settings field page [] (requestedTexts settings (field.rawValue record)) outcome.detail.clicks opening
        events results ∧
      clickedHandles (opening ++ events) = results.filterMap Prod.snd ∧
      (outcome.status = .applied ↔ outcome.detail.clicks.clicked ≠ []) := by
  intro settings field page executor record outcome
  have valued : executor.value? field record .empty ≠ none := nofun
  have unfailed : outcome.status ≠ .failed := nofun
  have returned : ((executor.execute field record).runIn (.untouched page .empty)).1 = .ok outcome := by
    subst outcome record executor page field settings
    rfl
  rcases ended : (executor.execute field record).runIn (.untouched page .empty) with ⟨result, after⟩
  rw [ended] at returned
  obtain rfl : result = .ok outcome := returned
  obtain ⟨opening, events, results, -, sorted⟩ :=
    execute_sorts executor rfl record (.untouched page .empty) (.inr valued) ended unfailed
  exact ⟨valued, unfailed, after, opening, events, results, rfl, sorted⟩

/-- Texts are neither clicked nor missing where there is no identifier for a field that asks for one, and a blank text
    is none. -/
theorem execute_sorts_nothing :
    let page : Page :=
      { Page.blank with
        lookups := [(.text "x" false, "a")]
        nodes := [("a", { Node.absent with count := 1 })] }
    let executor : Executor := ⟨.default, none⟩
    (∃ field settings outcome after,
      Field.read (.obj [("action", .str "click_each_text"), ("value", .str "=x"), ("autoSku", .bool true)]) =
        .valid field ∧
      field.action = .clickEachText settings ∧ requestedTexts settings (field.rawValue (.obj [])) = ["x"] ∧
      (executor.execute field (.obj [])).runIn (.untouched page .empty) = (.ok outcome, after) ∧
      outcome.status = .skipped ∧ outcome.detail.clicks = ⟨[], []⟩) ∧
    ∃ field settings outcome after,
      Field.read
          (.obj [("action", .str "click_each_text"), ("value", .str "= "), ("normalizeComparison", .bool true)]) =
        .valid field ∧
      field.action = .clickEachText settings ∧ settings.normalize = true ∧ field.rawValue (.obj []) = .str " " ∧
      (executor.execute field (.obj [])).runIn (.untouched page .empty) = (.ok outcome, after) ∧
      outcome.status = .skipped ∧ outcome.detail.clicks = ⟨[], []⟩ :=
  ⟨⟨_, _, _, _, rfl, rfl, rfl, rfl, rfl, rfl⟩, ⟨_, _, _, _, rfl, rfl, rfl, rfl, rfl, rfl, rfl⟩⟩

end Executor
end FormFill
