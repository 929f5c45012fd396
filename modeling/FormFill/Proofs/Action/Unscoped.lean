import FormFill.Proofs.Action.Clicking
import FormFill.Proofs.Record.Splitting

namespace FormFill

open Act

theorem searched_append (first second : List Event) : searched (first ++ second) = searched first ++ searched second :=
  List.filterMap_append

namespace Action

/-- A value is no text, or one that has no separator but among the blanks around it. -/
def Unseparated (value : Json) : Prop :=
  ∀ text, value = .str text → ∀ c ∈ Text.strip text.toList, Record.isSeparator c = false

variable {settings : EachText} {value : Json}

theorem requestedTexts_on (settings : EachText) (text : String) :
    requestedTexts { settings with normalize := true } (.str text) =
      (if Text.strip text.toList = [] then [] else [Text.strip text.toList]).map String.ofList :=
  rfl

theorem requestedTexts_off (settings : EachText) (value : Json) :
    requestedTexts { settings with normalize := false } value = (Record.entries value).map String.ofList :=
  rfl

theorem requestedTexts_alike (settings : EachText) (unseparated : Unseparated value) :
    requestedTexts { settings with normalize := true } value =
      requestedTexts { settings with normalize := false } value := by
  cases value with
  | str text =>
    rw [requestedTexts_on, requestedTexts_off, Record.entries_str,
      Record.pieces_of_unseparated (unseparated text rfl)]
  | _ => rfl

/-- Where there is a separator, it is in the first text with the comparison, and in none without it. -/
theorem requestedTexts_apart (settings : EachText) (separated : ¬ Unseparated value) :
    (requestedTexts { settings with normalize := true } value).head? ≠
      (requestedTexts { settings with normalize := false } value).head? := by
  simp only [Unseparated, not_forall] at separated
  obtain ⟨text, rfl, c, member, separates⟩ := separated
  have some : Text.strip text.toList ≠ [] := List.ne_nil_of_mem member
  rw [requestedTexts_on, requestedTexts_off, if_neg some, List.head?_map, List.head?_map, List.head?_cons,
    Option.map_some]
  intro same
  obtain ⟨entry, found, equal⟩ := Option.map_eq_some_iff.mp same.symm
  obtain rfl : entry = Text.strip text.toList := String.ofList_inj.mp equal
  exact separates (Record.not_isSeparator_of_mem_entries (List.mem_of_mem_head? found) member)

/-- Whatever comes of the action, it looks for the texts in their order as far as it comes, and for the first of them in
    any case. -/
def SearchesFor (texts : List String) {α : Type} (action : Act α) : Prop :=
  Adds (fun _ _ added => searched added <+: texts ∧ (searched added).head? = texts.head?) action

namespace SearchesFor

variable {α β : Type} {texts : List String} {action : Act α}

theorem nothing (silent : Confined (fun event => event.searched?.isNone) action) : SearchesFor [] action := by
  refine (Adds.of_silent silent).imp fun _ _ added none => ?_
  rw [searched, none]
  exact ⟨List.nil_prefix, rfl⟩

theorem before {next : α → Act β} (first : SearchesFor texts action)
    (silent : ∀ value, Confined (fun event => event.searched?.isNone) (next value)) :
    SearchesFor texts (action >>= next) := by
  refine (Adds.bind first fun value => nothing (silent value)).imp fun _ _ added ends => ?_
  rcases ends with ⟨_, -, told⟩ | ⟨_, made, more, rfl, told, none, -⟩
  · exact told
  · rwa [searched_append, List.prefix_nil.mp none, List.append_nil]

theorem cons {text : String} {next : α → Act β} (first : SearchesFor [text] action)
    (rest : ∀ value, SearchesFor texts (next value)) : SearchesFor (text :: texts) (action >>= next) := by
  have found {added : List Event} (told : searched added <+: [text] ∧ (searched added).head? = [text].head?) :
      searched added = [text] := by
    rcases List.prefix_cons_iff.mp told.1 with none | ⟨_, one, none⟩
    · rw [none] at told
      cases told.2
    · rw [one, List.prefix_nil.mp none]
  refine (Adds.bind first rest).imp fun _ _ added ends => ?_
  rcases ends with ⟨_, -, told⟩ | ⟨_, made, more, rfl, told, further, -⟩
  · rw [found told]
    exact ⟨by simp, rfl⟩
  · rw [searched_append, found told]
    exact ⟨by simpa using further, rfl⟩

theorem lookup (owner : Option Handle) (text : String) (exact : Bool) :
    SearchesFor [text] (Act.lookup owner (.text text exact)) :=
  fun _ => ⟨[.lookup owner (.text text exact)], rfl, rfl, List.prefix_rfl, rfl⟩

end SearchesFor

variable {timing : Timing} {field : Field}

theorem clickText_searchesFor (timing : Timing) (field : Field) (scope : Option Handle) (text : String) :
    SearchesFor [text] (clickText timing field scope text) := by
  refine .before (.lookup scope text field.exact) fun found => ?_
  refine .bind (.bind (.element rfl) fun _ => .pure _) fun count => ?_
  split
  · exact .bind (.log _ _ _ _) fun _ => .pure _
  · refine .bind (timing.scrollIntoView_confined (fun _ _ => rfl) _ _ _) fun _ => ?_
    exact .bind (.element rfl) fun _ => .pure _

theorem forTexts_searchesFor {step : String → Act Bool} (steps : ∀ text, SearchesFor [text] (step text))
    (texts : List String) : SearchesFor texts (forTexts step texts) := by
  induction texts with
  | nil => exact .nothing (.pure _)
  | cons text texts ih => exact .cons (steps text) fun found => ih.before fun _ => .pure _

/-- Looks for each text on the whole page and clicks what is found. -/
def searchPage (timing : Timing) (field : Field) (texts : List String) : Act Outcome :=
  if texts = [] then skip field "no values" .none
  else do
    let clicks ← forTexts (clickText timing field none) texts
    if clicks.clicked = [] then skip field "no matching text" (.missing clicks.missing)
    else return .applied field (.clicked clicks.clicked clicks.missing)

theorem runEachText_unscoped (timing : Timing) (field : Field) (unscoped : given settings.scope = none)
    (record : Json) :
    runEachText timing field settings record =
      searchPage timing field (requestedTexts settings (field.rawValue record)) := by
  unfold runEachText clickTexts searchPage
  rw [unscoped]

theorem searchPage_searchesFor (timing : Timing) (field : Field) (texts : List String) :
    SearchesFor texts (searchPage timing field texts) := by
  have skipping (reason : String) (detail : Detail) :
      Confined (fun event => event.searched?.isNone) (skip field reason detail) :=
    .bind (.log _ _ _ _) fun _ => .pure _
  unfold searchPage
  split
  · rename_i none
    rw [none]
    exact .nothing (skipping _ _)
  · refine (forTexts_searchesFor (clickText_searchesFor timing field none) texts).before fun clicks => ?_
    split
    · exact skipping _ _
    · exact .pure _

end Action

/-- The field that clicks each text, with the comparison of normalized texts on or off. -/
def Field.comparing (field : Field) (settings : EachText) (normalize : Bool) : Field :=
  { field with action := .clickEachText { settings with normalize } }

namespace Executor

open FormFill.Action

variable {settings : EachText}

theorem execute_searchesFor (executor : Executor) {field : Field} (clicking : field.action = .clickEachText settings)
    (unscoped : given settings.scope = none) (record : Json) (world : World) :
    ∃ added, ((executor.execute field record).runIn world).2.trace = world.trace ++ added ∧
      searched added <+: requestedTexts settings (field.rawValue record) ∧
      (executor.value? field record world.files ≠ none →
        (searched added).head? = (requestedTexts settings (field.rawValue record)).head?) := by
  have adds (value : String) :
      SearchesFor (requestedTexts settings (field.rawValue record)) (interact executor.timing field record value) := by
    have runs : interact executor.timing field record value = runEachText executor.timing field settings record := by
      rw [interact, clicking]
    rw [runs, runEachText_unscoped executor.timing field unscoped]
    exact searchPage_searchesFor executor.timing field _
  obtain ⟨opening, added, trace, calls, told⟩ := executor.execute_adds adds world
  have unsearched : searched opening = [] := filterMap_calls calls fun _ => rfl
  refine ⟨opening ++ added, trace, ?_⟩
  rw [searched_append, unsearched, List.nil_append]
  rcases told with ⟨begun, first⟩ | ⟨rfl, untried⟩
  · exact ⟨begun, fun _ => first⟩
  · refine ⟨List.nil_prefix, fun valued => ?_⟩
    rw [requestedTexts_inert clicking (untried.resolve_right valued)]
    rfl

theorem executeIdentified_alike {executor : Executor} {field : Field} {record : Json} {world : World}
    (settings : EachText) (readable : field.overlong? record = none) (identified : field.autoIdentifier = true)
    (unvalued : executor.value? field record world.files = none) :
    (executor.executeIdentified (field.comparing settings true) record).runIn world =
      (executor.executeIdentified (field.comparing settings false) record).runIn world := by
  rw [value?_of_identified readable identified] at unvalued
  unfold executeIdentified
  cases sources : executor.identifiers with
  | none => rfl
  | some source =>
    obtain ⟨log, ran⟩ := source.next_runIn record world
    dsimp only
    rw [runIn_bind, runIn_bind, ran]
    cases assigns : source.assigned record world.files with
    | error failure => rfl
    | ok assigned =>
      have empty : assigned.value = "" := by
        simpa [sources, assigns, FormFill.given] using unvalued
      dsimp only
      rw [if_pos empty, if_pos empty]
      rfl

theorem attempt_alike (timing : Timing) {field : Field} (unscoped : given settings.scope = none) {record : Json}
    (unseparated : Unseparated (field.rawValue record)) (value : String) :
    attempt timing (field.comparing settings true) record value =
      attempt timing (field.comparing settings false) record value := by
  have restricted (normalize : Bool) : given ({ settings with normalize } : EachText).scope = none := unscoped
  have interacts : interact timing (field.comparing settings true) record value =
      interact timing (field.comparing settings false) record value := by
    refine (runEachText_unscoped timing _ (restricted true) record).trans ?_
    refine Eq.trans ?_ (runEachText_unscoped timing _ (restricted false) record).symm
    exact congrArg (searchPage timing (field.comparing settings true)) (requestedTexts_alike settings unseparated)
  unfold attempt
  rw [interacts]
  rfl

theorem execute_alike (executor : Executor) (field : Field) (unscoped : given settings.scope = none) (record : Json)
    (world : World) (alike : executor.value? field record world.files = none ∨ Unseparated (field.rawValue record)) :
    (executor.execute (field.comparing settings true) record).runIn world =
      (executor.execute (field.comparing settings false) record).runIn world := by
  have inert (normalize : Bool) : (field.comparing settings normalize).isInert = (given field.value).isNone := rfl
  have overlong (normalize : Bool) : (field.comparing settings normalize).overlong? record = field.overlong? record := rfl
  rcases alike with unvalued | unseparated
  · -- What the texts would be is not looked at where the value cannot be had.
    have asks (normalize : Bool) : (field.comparing settings normalize).autoIdentifier = field.autoIdentifier := rfl
    unfold execute
    rw [inert, inert, overlong, overlong, asks, asks]
    cases (given field.value).isNone with
    | true => rfl
    | false =>
      cases readable : field.overlong? record with
      | some fault => rfl
      | none =>
        cases identified : field.autoIdentifier with
        | true => exact executeIdentified_alike settings readable identified unvalued
        | false =>
          rw [value?_of_plain readable identified] at unvalued
          cases unvalued
  · have attempts := attempt_alike executor.timing unscoped unseparated
    unfold execute executeIdentified
    simp only [attempts]
    rfl

/-- Without a scope, texts are looked for on the page in the same way with and without the comparison, but they are not
    always the same: with it, a value that is a text is not split. So the comparison has no effect just where there is
    nothing to split or no identifier for a field that asks for one. -/
theorem execute_unscoped (executor : Executor) (field : Field) {settings : EachText}
    (unscoped : given settings.scope = none) (record : Json) (world : World) :
    (∀ normalize, ∃ added,
      ((executor.execute (field.comparing settings normalize) record).runIn world).2.trace = world.trace ++ added ∧
      searched added <+: requestedTexts { settings with normalize } (field.rawValue record) ∧
      (executor.value? field record world.files ≠ none → (searched added).head? =
        (requestedTexts { settings with normalize } (field.rawValue record)).head?)) ∧
    ((executor.execute (field.comparing settings true) record).runIn world =
        (executor.execute (field.comparing settings false) record).runIn world ↔
      executor.value? field record world.files = none ∨ Unseparated (field.rawValue record)) ∧
    (((executor.execute (field.comparing settings true) record).runIn world).2.trace =
        ((executor.execute (field.comparing settings false) record).runIn world).2.trace ↔
      executor.value? field record world.files = none ∨ Unseparated (field.rawValue record)) := by
  have clicking (normalize : Bool) :
      (field.comparing settings normalize).action = .clickEachText { settings with normalize } := rfl
  have searches (normalize : Bool) := execute_searchesFor executor (clicking normalize) unscoped record world
  have alike := executor.execute_alike field unscoped record world
  have apart : ((executor.execute (field.comparing settings true) record).runIn world).2.trace =
        ((executor.execute (field.comparing settings false) record).runIn world).2.trace →
      executor.value? field record world.files = none ∨ Unseparated (field.rawValue record) := by
    intro same
    refine or_iff_not_imp_left.mpr fun valued => Classical.byContradiction fun separated => ?_
    obtain ⟨on, traceOn, -, firstOn⟩ := searches true
    obtain ⟨off, traceOff, -, firstOff⟩ := searches false
    rw [traceOn, traceOff, List.append_cancel_left_eq] at same
    subst same
    exact requestedTexts_apart settings separated ((firstOn valued).symm.trans (firstOff valued))
  exact ⟨searches, ⟨fun same => apart (by rw [same]), alike⟩, ⟨apart, fun same => by rw [alike same]⟩⟩

theorem execute_unscoped_list :
    let settings : EachText := ⟨none, false, "button"⟩
    let field : Field :=
      ⟨none, none, none, none, none, true, some "sizes", .none, false, false, false, false, .clickEachText settings⟩
    let executor : Executor := ⟨.default, none⟩
    let record : Json := .obj [("sizes", .arr [.str "a,b", .str "c"])]
    given settings.scope = none ∧
      (executor.execute (field.comparing settings true) record).runIn (.untouched .blank .empty) =
        (executor.execute (field.comparing settings false) record).runIn (.untouched .blank .empty) := by
  intro settings field executor record
  have unscoped : given settings.scope = none := rfl
  have unseparated : Unseparated (field.rawValue record) := nofun
  obtain ⟨-, alike, -⟩ := execute_unscoped executor field unscoped record (.untouched .blank .empty)
  exact ⟨unscoped, alike.mpr (.inr unseparated)⟩

/-- Two texts are on the page and would be clicked, but with the comparison their list is looked for as one text. -/
theorem execute_keeps_list_whole :
    let page : Page :=
      { Page.blank with
        lookups := [(.text "a" false, "a"), (.text "b" false, "b")]
        nodes := [("a", { Node.absent with count := 1 }), ("b", { Node.absent with count := 1 })] }
    let settings : EachText := ⟨none, true, "span,div,button"⟩
    let field : Field :=
      ⟨none, none, none, none, none, false, some "=a,b", .none, false, false, false, false, .clickEachText settings⟩
    let executor : Executor := ⟨.default, none⟩
    let run (normalize : Bool) :=
      (executor.execute (field.comparing settings normalize) (.obj [])).runIn (.untouched page .empty)
    Field.read
        (.obj [("action", .str "click_each_text"), ("value", .str "=a,b"), ("normalizeComparison", .bool true)]) =
      .valid (field.comparing settings true) ∧
    Field.read (.obj [("action", .str "click_each_text"), ("value", .str "=a,b")]) =
      .valid (field.comparing settings false) ∧
    given settings.scope = none ∧
    (run true).1.toOption.map (·.detail.clicks) = some ⟨[], ["a,b"]⟩ ∧ searched (run true).2.trace = ["a,b"] ∧
    (run false).1.toOption.map (·.detail.clicks) = some ⟨["a", "b"], []⟩ ∧
      searched (run false).2.trace = ["a", "b"] := by
  intro page settings field executor run
  exact ⟨rfl, rfl, rfl, by decide +kernel, by decide +kernel, by decide +kernel, by decide +kernel⟩

end Executor
end FormFill
