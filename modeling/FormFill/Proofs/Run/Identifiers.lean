import FormFill.Proofs.Run.Steps

namespace FormFill

theorem Report.add_record (report : Report) (outcome : Outcome) :
    (report.add outcome).record = report.record.patched outcome.patch := by
  unfold add
  cases outcome.patch <;> rfl

open Act

namespace Executor

/-- Deals with a field that has been given its identifier. -/
def proceed (executor : Executor) (field : Field) (record : Json) (given : Assigned) : Act Outcome :=
  if given.value = "" then Action.skip field "no identifier available" .none
  else do
    let outcome ← attempt executor.timing field record given.value
    return { outcome with patch := given.patch }

/-- Dealing with a field that asks for an identifier begins with the call for it. -/
theorem execute_eq_next (executor : Executor) {field : Field} {record : Json} {source : IdentifierSource}
    (asks : field.asks = true) (readable : field.overlong? record = none) (named : executor.identifiers = some source) :
    executor.execute field record = source.next record >>= executor.proceed field record := by
  obtain ⟨active, identified⟩ : field.isInert = false ∧ field.autoIdentifier = true := by simpa [Field.asks] using asks
  rw [execute_active active readable, identified, if_pos rfl, executeIdentified, named]
  rfl

end Executor

namespace Run

/-- A run comes to a step that asks for an identifier. -/
structure Asks (run : Run) (record : Members) (world : World) (index : Nat) (field : Field) (report : Report)
    (before : World) : Prop where
  found : run.steps[index]? = some field
  asks : field.asks = true
  readable : field.overlong? (.obj report.record) = none
  reached : (run.upTo record index).runIn world = (.ok report, before)

/-- A run has asked for an identifier before a step. -/
def AskedBefore (run : Run) (record : Members) (world : World) (index : Nat) : Prop :=
  ∃ earlier field report before, earlier < index ∧ run.Asks record world earlier field report before

/-- What a run does after the call for the identifier of a step. -/
def resume (run : Run) (index : Nat) (field : Field) (report : Report) (given : Assigned) : Act Report := do
  let outcome ← run.executor.proceed field (.obj report.record) given
  let report ← run.judge report outcome
  if index < run.form.fields.length then let _ ← run.timing.betweenFields
  run.onward (index + 1) report

/-- The store holds an identifier, and a record carries it where the run looks for it. -/
structure Tallies (run : Run) (value : String) (record : Members) (files : Files) : Prop where
  held : run.identifiers.store.Holds files value
  carried : ∃ carried, record.lookup run.identifiers.recordKey = some carried ∧
    String.ofList (Record.textOf carried) = value

/-- The report that a run ends with: it returns it, or a failed field brings it along. -/
def reported? : Except Failure Report → Option Report
  | .ok report => some report
  | .error (.fieldFailed _ report) => some report
  | .error _ => none

/-- The state before a step, given what the first call for an identifier gives: it has not been made yet, or any
    further one gives the same and changes nothing. -/
structure Kept (run : Run) (record : Members) (world : World) (value : String) (index : Nat) (members : Members)
    (files : Files) : Prop where
  readable : run.identifiers.store.Readable files
  writable : run.identifiers.store.Writable world.files → run.identifiers.store.Writable files
  settled : (¬run.AskedBefore record world index ∧ members = record ∧ files = world.files) ∨
    run.identifiers.assigned (.obj members) files = .ok ⟨value, none⟩ ∧
      (value ≠ "" → run.identifiers.store.Writable world.files → run.Tallies value members files)

variable {run : Run} {record members : Members} {world before after : World} {index : Nat} {report : Report}
  {field : Field} {given : Assigned} {files : Files}

theorem not_askedBefore_succ (unasked : ¬run.AskedBefore record world index)
    (idle : ∀ field, run.steps[index]? = some field → field.asks = false) :
    ¬run.AskedBefore record world (index + 1) := by
  rintro ⟨earlier, field, _, _, within, asked⟩
  by_cases sooner : earlier < index
  · exact unasked ⟨earlier, field, _, _, sooner, asked⟩
  · obtain rfl : earlier = index := by omega
    have silent := idle field asked.found
    rw [asked.asks] at silent
    cases silent

theorem Kept.gives (kept : run.Kept record world given.value index members files)
    (first : run.identifiers.assigned (.obj record) world.files = .ok given) :
    ∃ next, run.identifiers.assigned (.obj members) files = .ok next ∧ next.value = given.value ∧
      (run.AskedBefore record world index → next.patch = none) := by
  obtain ⟨unasked, rfl, rfl⟩ | ⟨settled, -⟩ := kept.settled
  · exact ⟨given, first, rfl, fun asked => absurd asked unasked⟩
  · exact ⟨_, settled, rfl, fun _ => rfl⟩

/-- Once the identifier of a field has been stored, store and record keep it. -/
theorem Kept.supplied {patch : Option Patch} (kept : run.Kept record world given.value index report.record before.files)
    (first : run.identifiers.assigned (.obj record) world.files = .ok given)
    (found : run.steps[index]? = some field) (supplied : run.Supplied field report before patch after) :
    run.Kept record world given.value (index + 1) (report.record.patched patch) after.files := by
  cases asks : field.asks with
  | false =>
    obtain ⟨rfl, files⟩ := supplied.unasked asks
    rw [files, Members.patched]
    refine ⟨kept.readable, kept.writable, kept.settled.imp_left fun fresh => ?_⟩
    exact ⟨not_askedBefore_succ fresh.1 (by simpa [found] using asks), fresh.2⟩
  | true =>
    obtain ⟨next, assigns, rfl, files⟩ := supplied.asked asks
    obtain ⟨same, again, value, -⟩ := kept.gives first
    rw [assigns] at again
    cases again
    rw [files]
    refine ⟨IdentifierSource.readable_filesAfter _ kept.readable,
      fun writable => IdentifierSource.writable_filesAfter _ (kept.writable writable), .inr ⟨?_, ?_⟩⟩
    · rw [← value]
      exact IdentifierSource.assigned_again assigns
    · rw [← value]
      intro nonempty writable
      have dues := (IdentifierSource.assigned_eq_ok_iff.mp assigns).1
      exact ⟨IdentifierSource.holds_filesAfter (kept.writable writable) assigns nonempty,
        IdentifierSource.carried_patched dues nonempty⟩

theorem upTo_kept (readable : run.identifiers.store.Readable world.files)
    (first : run.identifiers.assigned (.obj record) world.files = .ok given)
    (reached : (run.upTo record index).runIn world = (.ok report, before)) :
    run.Kept record world given.value index report.record before.files := by
  refine upTo_rule (fun index report before => run.Kept record world given.value index report.record before.files)
    ?_ ?_ ?_ index report before reached
  · intro started prepared
    have files := (run.preparePage_aside world).1
    rw [prepared] at files
    refine ⟨files ▸ readable, fun writable => files ▸ writable, .inl ⟨?_, rfl, files⟩⟩
    rintro ⟨earlier, _, _, _, within, -⟩
    omega
  · intro index field report middle outcome after found kept done _
    rw [Report.add_record]
    exact kept.supplied first found done.toSupplied
  · intro index report middle found kept
    refine ⟨kept.readable, kept.writable, kept.settled.imp_left fun fresh => ?_⟩
    exact ⟨not_askedBefore_succ fresh.1 (by simp [found]), fresh.2⟩

/-- As long as the first call for an identifier would fail, none has been made. -/
theorem upTo_fresh {failure : Failure} (first : run.identifiers.assigned (.obj record) world.files = .error failure)
    (reached : (run.upTo record index).runIn world = (.ok report, before)) :
    ¬run.AskedBefore record world index ∧ report.record = record ∧ before.files = world.files := by
  refine upTo_rule (fun index report before =>
    ¬run.AskedBefore record world index ∧ report.record = record ∧ before.files = world.files)
    ?_ ?_ ?_ index report before reached
  · intro started prepared
    have files := (run.preparePage_aside world).1
    rw [prepared] at files
    refine ⟨?_, rfl, files⟩
    rintro ⟨earlier, _, _, _, within, -⟩
    omega
  · rintro index field report middle outcome after found ⟨unasked, rfl, files⟩ done -
    have silent : field.asks = false := by
      cases asks : field.asks with
      | false => rfl
      | true =>
        obtain ⟨given, assigns, -⟩ := done.asked asks
        rw [files, first] at assigns
        cases assigns
    obtain ⟨unpatched, kept⟩ := done.unasked silent
    refine ⟨not_askedBefore_succ unasked (by simpa [found] using silent), ?_, kept.trans files⟩
    rw [Report.add_record, unpatched, Members.patched]
  · rintro index report middle found ⟨unasked, kept⟩
    exact ⟨not_askedBefore_succ unasked (by simp [found]), kept⟩

theorem upTo_unasked (idle : ∀ index field report before, ¬run.Asks record world index field report before)
    (index : Nat) : ((run.upTo record index).runIn world).2.files = world.files := by
  refine upTo_ends (fun _ ended => ended.2.files = world.files) ?_ (fun _ _ _ _ same => same) ?_ index
  · rw [upTo_zero]
    exact (Aside.bind run.preparePage_aside (fun _ => .pure _) world).1
  · intro index field report before ended found reached same came
    have silent : field.overlong? (.obj report.record) = none → field.asks = false := by
      intro readable
      simpa using fun asks => idle index field report before ⟨found, asks, readable, reached⟩
    have unsupplied {patch : Option Patch} {after : World}
        (supplied : run.Supplied field report before patch after) : after.files = world.files := by
      refine (supplied.unasked ?_).2.trans same
      cases asks : field.asks with
      | false => rfl
      | true => exact asks.symm.trans (silent (supplied.readable asks))
    cases came with
    | unreadable => exact same
    | unusable asks readable =>
      rw [silent readable] at asks
      cases asks
    | lingers supplied => exact unsupplied supplied
    | stops done => exact unsupplied done.toSupplied
    | goes done => exact unsupplied done.toSupplied

theorem perform_unasked (idle : ∀ index field report before, ¬run.Asks record world index field report before) :
    ((run.perform record).runIn world).2.files = world.files := by
  have still := upTo_unasked idle run.steps.length
  rw [perform_eq, runIn_bind]
  rcases ended : (run.upTo record run.steps.length).runIn world with ⟨failure | report, middle⟩
  · rw [ended] at still
    exact still
  · rw [ended] at still
    exact (run.conclude_aside report middle).1.trans still

theorem askedBefore_succ (asked : run.AskedBefore record world (index + 1)) :
    run.AskedBefore record world index ∨ ∃ field report before, run.Asks record world index field report before := by
  obtain ⟨earlier, field, report, before, within, asked⟩ := asked
  by_cases sooner : earlier < index
  · exact .inl ⟨earlier, field, report, before, sooner, asked⟩
  · obtain rfl : earlier = index := by omega
    exact .inr ⟨field, report, before, asked⟩

theorem Kept.tallies {value : String} (kept : run.Kept record world value index members files)
    (asked : run.AskedBefore record world index) (nonempty : value ≠ "")
    (writable : run.identifiers.store.Writable world.files) : run.Tallies value members files := by
  obtain ⟨unasked, -⟩ | ⟨-, tallies⟩ := kept.settled
  · exact absurd asked unasked
  · exact tallies nonempty writable

/-- What is left once an identifier has been asked for: the store holds it, and so does the record of any report. -/
structure Holding (run : Run) (value : String) (result : Except Failure Report) (after : World) : Prop where
  held : run.identifiers.store.Holds after.files value
  reported : ∀ later, reported? result = some later → run.Tallies value later.record after.files

theorem Holding.of_silent {value : String} {failure : Failure} (held : run.identifiers.store.Holds after.files value)
    (silent : reported? (.error failure) = none) : run.Holding value (.error failure) after := by
  refine ⟨held, fun later told => ?_⟩
  rw [silent] at told
  cases told

theorem Holding.of_tallies {value : String} {result : Except Failure Report} (told : reported? result = some report)
    (tallies : run.Tallies value report.record after.files) : run.Holding value result after := by
  refine ⟨tallies.held, fun later same => ?_⟩
  rw [told] at same
  cases same
  exact tallies

theorem Kept.holding {slow : Prop} {ended : Except Failure Report × World}
    (kept : run.Kept record world given.value index report.record before.files)
    (first : run.identifiers.assigned (.obj record) world.files = .ok given)
    (nonempty : given.value ≠ "") (writable : run.identifiers.store.Writable world.files)
    (found : run.steps[index]? = some field)
    (asked : run.AskedBefore record world (index + 1))
    (sooner : field.overlong? (.obj report.record) ≠ none → run.AskedBefore record world index)
    (came : run.Ended slow field report before ended) : run.Holding given.value ended.1 ended.2 := by
  have later {patch : Option Patch} {after : World} (supplied : run.Supplied field report before patch after) :
      run.Tallies given.value (report.record.patched patch) after.files :=
    (kept.supplied first found supplied).tallies asked nonempty writable
  cases came with
  | unreadable overlong =>
    exact .of_silent (kept.tallies (sooner (by simp [overlong])) nonempty writable).held rfl
  | unusable _ _ failed =>
    obtain ⟨next, gives, -⟩ := kept.gives first
    rw [failed] at gives
    cases gives
  | lingers supplied => exact .of_silent (later supplied).held rfl
  | stops done => exact .of_tallies rfl (Report.add_record _ _ ▸ later done.toSupplied)
  | goes done => exact .of_tallies rfl (Report.add_record _ _ ▸ later done.toSupplied)

theorem upTo_holding (readable : run.identifiers.store.Readable world.files)
    (first : run.identifiers.assigned (.obj record) world.files = .ok given)
    (nonempty : given.value ≠ "") (writable : run.identifiers.store.Writable world.files) (index : Nat) :
    run.AskedBefore record world index →
      run.Holding given.value ((run.upTo record index).runIn world).1 ((run.upTo record index).runIn world).2 := by
  refine upTo_ends (fun index ended => run.AskedBefore record world index →
    run.Holding given.value ended.1 ended.2) ?_ ?_ ?_ index
  · rintro ⟨earlier, _, _, _, within, -⟩
    omega
  · rintro index ended reached idle holding asked
    refine holding ((askedBefore_succ asked).resolve_right ?_)
    rintro ⟨field, report, before, asks⟩
    rcases idle with none | ⟨failure, after, rfl⟩
    · rw [asks.found] at none
      cases none
    · rw [asks.reached] at reached
      cases reached
  · intro index field report before ended found reached _ came asked
    refine (upTo_kept readable first reached).holding first nonempty writable found asked ?_ came
    intro overlong
    refine (askedBefore_succ asked).resolve_right ?_
    rintro ⟨_, _, _, asks⟩
    have same := reached.symm.trans asks.reached
    cases same
    rw [asks.found] at found
    cases found
    exact overlong asks.readable

theorem Asks.askedBefore (asked : run.Asks record world index field report before) :
    run.AskedBefore record world run.steps.length :=
  ⟨index, field, report, before, (List.getElem?_eq_some_iff.mp asked.found).1, asked⟩

theorem perform_holding (readable : run.identifiers.store.Readable world.files)
    (first : run.identifiers.assigned (.obj record) world.files = .ok given)
    (nonempty : given.value ≠ "") (writable : run.identifiers.store.Writable world.files)
    (asked : run.Asks record world index field report before) :
    run.Holding given.value ((run.perform record).runIn world).1 ((run.perform record).runIn world).2 := by
  have holding := upTo_holding readable first nonempty writable run.steps.length asked.askedBefore
  rw [perform_eq, runIn_bind]
  rcases ended : (run.upTo record run.steps.length).runIn world with ⟨failure | report, middle⟩
  · rw [ended] at holding
    exact holding
  · rw [ended] at holding
    obtain ⟨files, unfailed⟩ := run.conclude_aside report middle
    have tallies := holding.reported report rfl
    dsimp only at files tallies ⊢
    rw [← files] at tallies
    rcases concluded : (run.conclude report).runIn middle with ⟨failure | final, after⟩
    · rw [concluded] at tallies unfailed
      refine .of_silent tallies.held ?_
      cases failure with
      | fieldFailed outcome report => exact absurd rfl (unfailed outcome report)
      | _ => rfl
    · rw [concluded] at tallies
      refine .of_tallies rfl ?_
      rw [conclude_report concluded]
      exact tallies

theorem Asks.performed (asked : run.Asks record world index field report before) :
    (run.perform record).runIn world =
      (run.identifiers.next (.obj report.record) >>= run.resume index field report).runIn before := by
  have calls := run.executor.execute_eq_next asked.asks asked.readable rfl
  rw [run.perform_upTo record index, runIn_bind_ok asked.reached, onward_step asked.found, stepAt, runField_eq, calls]
  unfold resume
  split <;> simp only [bind_assoc, pure_bind]

/-- What comes of a call for an identifier in a run whose first such call comes to `first`. If that fails, it ends the run,
    so it is the only one. Else all give the same, and none but the first puts it into the record; after that the store
    and the record of any report hold it, whatever the outcome. -/
inductive Called (run : Run) (record : Members) (world : World) (index : Nat) (field : Field) (report : Report)
    (before : World) : Except Failure Assigned → Prop where
  | fails {failure : Failure} (foremost : ¬run.AskedBefore record world index)
      (fails : ((run.identifiers.next (.obj report.record)).runIn before).1 = .error failure)
      (ends : ((run.perform record).runIn world).1 = .error failure) :
      Called run record world index field report before (.error failure)
  | gives {first given : Assigned} (gives : ((run.identifiers.next (.obj report.record)).runIn before).1 = .ok given)
      (same : given.value = first.value) (unpatched : run.AskedBefore record world index → given.patch = none)
      (holding : first.value ≠ "" → run.identifiers.store.Writable world.files →
        run.Holding first.value ((run.runField field report).runIn before).1 ((run.runField field report).runIn before).2)
      (reports : (reported? ((run.runField field report).runIn before).1).isSome ∨
        field.Lingers ∧ ((run.runField field report).runIn before).1 = .error .overlongPause) :
      Called run record world index field report before (.ok first)

theorem Asks.reports (asked : run.Asks record world index field report before)
    (assigns : run.identifiers.assigned (.obj report.record) before.files = .ok given) :
    (reported? ((run.runField field report).runIn before).1).isSome ∨
      field.Lingers ∧ ((run.runField field report).runIn before).1 = .error .overlongPause := by
  have ended := run.runField_ended field report before
  generalize (run.runField field report).runIn before = result at ended ⊢
  cases ended with
  | unreadable overlong =>
    rw [asked.readable] at overlong
    cases overlong
  | unusable _ _ failed =>
    rw [assigns] at failed
    cases failed
  | lingers _ lingers => exact .inr ⟨lingers, rfl⟩
  | stops => exact .inl rfl
  | goes => exact .inl rfl

theorem Asks.called (readable : run.identifiers.store.Readable world.files)
    (asked : run.Asks record world index field report before) :
    run.Called record world index field report before ((run.identifiers.next (.obj record)).runIn world).1 := by
  rw [IdentifierSource.next_result]
  cases first : run.identifiers.assigned (.obj record) world.files with
  | error failure =>
    obtain ⟨unasked, records, files⟩ := upTo_fresh first asked.reached
    have fails : ((run.identifiers.next (.obj report.record)).runIn before).1 = .error failure := by
      rw [IdentifierSource.next_result, records, files, first]
    refine .fails unasked fails ?_
    rcases ran : (run.identifiers.next (.obj report.record)).runIn before with ⟨result, after⟩
    rw [ran] at fails
    obtain rfl : result = .error failure := fails
    rw [asked.performed, runIn_bind_error ran]
  | ok given =>
    have kept := upTo_kept readable first asked.reached
    obtain ⟨next, assigns, same, unpatched⟩ := kept.gives first
    have later : run.AskedBefore record world (index + 1) :=
      ⟨index, field, report, before, Nat.lt_succ_self index, asked⟩
    refine .gives (by rw [IdentifierSource.next_result, assigns]) same unpatched ?_ (asked.reports assigns)
    exact fun nonempty writable => kept.holding first nonempty writable asked.found later
      (fun overlong => absurd asked.readable overlong) (run.runField_ended field report before)

/-- A run whose store can be read asks for an identifier wherever it comes to a field that is to get one. The first call
    may fail, but for no other reason than a number that is too long or an identifier without UTF-8 form. All others give
    what the first has given, and once that has been done, store and record hold it to the end of the run. -/
theorem perform_identifiers (run : Run) (record : Members) (world : World)
    (readable : run.identifiers.store.Readable world.files) :
    ∃ first, ((run.identifiers.next (.obj record)).runIn world).1 = first ∧
      (∀ failure, first = .error failure →
        (∃ fault, failure = .numeral fault) ∨ ∃ fault, failure = .unencodable fault) ∧
      (∀ index field report before, run.Asks record world index field report before →
        (run.perform record).runIn world =
            (run.identifiers.next (.obj report.record) >>= run.resume index field report).runIn before ∧
          run.Called record world index field report before first ∧
          ∀ given, first = .ok given → given.value ≠ "" → run.identifiers.store.Writable world.files →
            run.Holding given.value ((run.perform record).runIn world).1 ((run.perform record).runIn world).2) ∧
      ((∀ index field report before, ¬run.Asks record world index field report before) →
        ((run.perform record).runIn world).2.files = world.files) := by
  refine ⟨_, rfl, fun failure failed => ?_, fun index field report before asked => ?_, perform_unasked⟩
  · rw [IdentifierSource.next_result] at failed
    exact IdentifierSource.assigned_error_of_readable readable failed
  · refine ⟨asked.performed, asked.called readable, fun given first nonempty writable => ?_⟩
    rw [IdentifierSource.next_result] at first
    exact perform_holding readable first nonempty writable asked

theorem perform_identifiers_counting :
    let store : IdentifierStore := ⟨.below ["last.txt"]⟩
    let field : Field :=
      ⟨some "number", some "#number", none, none, none, false, none, .none, true, false, false, false, .select⟩
    let run : Run :=
      ⟨⟨"https://form.test", [field, field], none, none, none, .default⟩, ⟨store, none, "number"⟩, .present, false⟩
    let world : World := .untouched .blank { occupants := [(["last.txt"], .file "41".toUTF8)] }
    ∃ report before given, run.Asks [] world 1 field report before ∧ run.AskedBefore [] world 1 ∧
      ((run.identifiers.next (.obj report.record)).runIn before).1 = .ok given ∧ given = ⟨"42", none⟩ ∧
      ∃ final after, (run.perform []).runIn world = (.ok final, after) ∧ run.Tallies "42" final.record after.files := by
  intro store field run world
  have holds : store.Holds world.files "41" := rfl
  have stored : (store.put [] world.files).2 = .ok none := by subst world store; rfl
  have refused : world.files.refusal? store.path = none := by subst world store; rfl
  have given : ((run.identifiers.next (.obj [])).runIn world).1 = .ok ⟨"42", some ⟨"number", "42"⟩⟩ := by
    subst world run field store
    rfl
  obtain ⟨first, came, -, each, -⟩ := perform_identifiers run [] world (holds.readable refused)
  obtain rfl : .ok ⟨"42", some ⟨"number", "42"⟩⟩ = first := given.symm.trans came
  have asks : ∃ report before, run.Asks [] world 1 field report before := by
    subst world run field store
    exact ⟨_, _, rfl, rfl, rfl, rfl⟩
  have opened : run.Asks [] world 0 field (run.blankReport []) (run.preparePage.runIn world).2 := by
    subst world run field store
    exact ⟨rfl, rfl, rfl, rfl⟩
  obtain ⟨report, before, asked⟩ := asks
  obtain ⟨-, called, holding⟩ := each 1 field report before asked
  have twice : run.AskedBefore [] world 1 := ⟨0, field, _, _, Nat.zero_lt_one, opened⟩
  cases called with
  | @gives _ given gives same unpatched =>
    have ended : ((run.perform []).runIn world).1.toOption.isSome = true := by
      subst world run field store
      decide +kernel
    obtain ⟨-, reported⟩ := holding _ rfl (by decide) (.of_stored [] stored)
    rcases performed : (run.perform []).runIn world with ⟨failure | final, after⟩
    · rw [performed] at ended
      cases ended
    · rw [performed] at reported
      obtain ⟨value, patch⟩ := given
      obtain rfl : value = "42" := same
      obtain rfl : patch = none := unpatched twice
      exact ⟨report, before, _, asked, twice, gives, rfl, final, after, rfl, reported final rfl⟩

/-- A record that brings along an identifier without UTF-8 form ends its run at the first call, with an empty store. -/
theorem perform_breaks_off_half :
    let store : IdentifierStore := ⟨.below ["last.txt"]⟩
    let field : Field :=
      ⟨some "number", some "#number", none, none, none, false, none, .none, true, false, false, false, .select⟩
    let run : Run :=
      ⟨⟨"https://form.test", [field], none, none, none, .default⟩, ⟨store, none, "number"⟩, .present, false⟩
    let record : Members := [("number", .str (String.singleton (Text.Halves.usual.stand 0xD800)))]
    let world : World := .untouched .blank { occupants := [(["last.txt"], .file "41".toUTF8)] }
    store.Readable world.files ∧ store.Writable world.files ∧
      (∃ report before, run.Asks record world 0 field report before ∧
        ((run.identifiers.next (.obj report.record)).runIn before).1 = .error (.unencodable ⟨[0xD800], 0⟩)) ∧
      ((run.perform record).runIn world).1 = .error (.unencodable ⟨[0xD800], 0⟩) ∧
      store.Holds ((run.perform record).runIn world).2.files "" := by
  intro store field run record world
  have holds : store.Holds world.files "41" := rfl
  have stored : (store.put [] world.files).2 = .ok none := by subst world store; rfl
  have refused : world.files.refusal? store.path = none := by subst world store; rfl
  refine ⟨holds.readable refused, .of_stored [] stored, ?_⟩
  subst world record run field store
  exact ⟨⟨_, _, ⟨rfl, rfl, rfl, rfl⟩, rfl⟩, rfl, rfl⟩

end Run
end FormFill
