import FormFill.Proofs.Action.Interaction
import FormFill.Proofs.Identifier.Next

namespace FormFill

/-- An outcome says of a stretch of a trace whether it broke off: it is failed, for the reason that
    the last call gives, or no call ended with an error that fails a field. -/
inductive Outcome.Settled (outcome : Outcome) (page : Page) (before added : List Event) : Prop where
  | calm (unfailed : outcome.status ≠ .failed) (calm : page.Calm before added)
  | broken (error : BrowserError) (failed : outcome.status = .failed)
    (reason : outcome.reason = some error.text) (broken : page.Broken false error before added)

theorem Outcome.Settled.failed_iff {outcome : Outcome} {page : Page} {before added : List Event}
    (settled : outcome.Settled page before added) :
    outcome.status = .failed ↔
      ∃ event error, page.lastCall? before added = some (event, some error) ∧ event.isSoft = false := by
  constructor
  · intro failed
    cases settled with
    | calm unfailed _ => exact absurd failed unfailed
    | broken error _ _ broken =>
      obtain ⟨event, last, hard⟩ := broken.lastCall
      exact ⟨event, error, last, hard⟩
  · rintro ⟨event, error, last, hard⟩
    cases settled with
    | calm _ calm =>
      rw [calm.lastCall last] at hard
      cases hard
    | broken _ failed => exact failed

theorem Outcome.Settled.failed_iff_not_calm {outcome : Outcome} {page : Page} {before added : List Event}
    (settled : outcome.Settled page before added) : outcome.status = .failed ↔ ¬ page.Calm before added := by
  cases settled with
  | calm unfailed calm => simp [unfailed, calm]
  | broken error failed _ broken =>
    obtain ⟨event, last, hard⟩ := broken.lastCall
    have uncalm : ¬ page.Calm before added := by
      intro calm
      rw [calm.lastCall last] at hard
      cases hard
    simp [failed, uncalm]

theorem Outcome.Settled.reason {outcome : Outcome} {page : Page} {before added : List Event}
    (settled : outcome.Settled page before added) {event : Event} {error : BrowserError}
    (last : page.lastCall? before added = some (event, some error)) (hard : event.isSoft = false) :
    outcome.reason = some error.text := by
  cases settled with
  | calm _ calm =>
    rw [calm.lastCall last] at hard
    cases hard
  | broken raised _ reason broken =>
    obtain ⟨other, same, -⟩ := broken.lastCall
    rw [last] at same
    cases same
    exact reason

theorem Outcome.Settled.after {outcome : Outcome} {page : Page} {before first second : List Event}
    (calm : page.Calm before first) (settled : outcome.Settled page (before ++ first) second) :
    outcome.Settled page before (first ++ second) := by
  cases settled with
  | calm unfailed later => exact .calm unfailed (calm.append later)
  | broken error failed reason broken => exact .broken error failed reason (broken.after calm)

theorem Outcome.Settled.patched {outcome : Outcome} {page : Page} {before added : List Event}
    (settled : outcome.Settled page before added) (patch : Option Patch) :
    ({ outcome with patch } : Outcome).Settled page before added := by
  cases settled with
  | calm unfailed calm => exact .calm unfailed calm
  | broken error failed reason broken => exact .broken error failed reason broken

/-- Whether dealing with the field begins with asking for an identifier. -/
def Field.asks (field : Field) : Bool :=
  !field.isInert && field.autoIdentifier

namespace Executor

open Act

/-- A field has been dealt with: an outcome about it came at the end of some events. -/
structure Dealt (field : Field) (patch : Option Patch) (before : World) (outcome : Outcome) (after : World)
    (added : List Event) : Prop extends outcome.About field where
  onward : before.Onward after added
  patched : outcome.patch = patch
  settled : outcome.Settled before.page before.trace added

theorem Dealt.after {field : Field} {patch : Option Patch} {before middle after : World} {outcome : Outcome}
    {first second : List Event} (onward : before.Onward middle first)
    (calm : before.page.Calm before.trace first) (dealt : Dealt field patch middle outcome after second) :
    Dealt field patch before outcome after (first ++ second) := by
  have settled := dealt.settled
  rw [onward.page, onward.trace] at settled
  exact ⟨dealt.toAbout, onward.trans dealt.onward, dealt.patched, settled.after calm⟩

theorem Dealt.ignore_log {field : Field} {patch : Option Patch} {before after : World} {outcome : Outcome}
    {added : List Event} {log : List LogEntry}
    (dealt : Dealt field patch { before with log } outcome after added) :
    Dealt field patch before outcome after added :=
  ⟨dealt.toAbout, dealt.onward.ignore_log, dealt.patched, dealt.settled⟩

/-- How an interaction with a field ends: with an outcome, or with a pause that is too long. -/
inductive Deals (field : Field) (patch : Option Patch) (before : World) : Except Failure Outcome × World → Prop where
  | dealt {outcome : Outcome} {after : World} {added : List Event}
      (dealt : Dealt field patch before outcome after added) : Deals field patch before (.ok outcome, after)
  | overlong {after : World} {added : List Event} (lingers : field.Lingers) (onward : before.Onward after added)
      (calm : before.page.Calm before.trace added) : Deals field patch before (.error .overlongPause, after)

theorem Deals.after {field : Field} {patch : Option Patch} {before middle : World} {first : List Event}
    {ended : Except Failure Outcome × World} (onward : before.Onward middle first)
    (calm : before.page.Calm before.trace first) (deals : Deals field patch middle ended) :
    Deals field patch before ended := by
  cases deals with
  | dealt dealt => exact .dealt (dealt.after onward calm)
  | overlong lingers further later =>
    rw [onward.page, onward.trace] at later
    exact .overlong lingers (onward.trans further) (calm.append later)

theorem Deals.ignore_log {field : Field} {patch : Option Patch} {before : World} {log : List LogEntry}
    {ended : Except Failure Outcome × World} (deals : Deals field patch { before with log } ended) :
    Deals field patch before ended := by
  cases deals with
  | dealt dealt => exact .dealt dealt.ignore_log
  | overlong lingers onward calm => exact .overlong lingers onward.ignore_log calm

theorem Deals.patched {field : Field} {before world : World} {action : Act Outcome}
    (deals : Deals field none before (action.runIn world)) (patch : Option Patch) :
    Deals field patch before ((do
      let outcome ← action
      return { outcome with patch }).runIn world) := by
  rw [runIn_bind]
  generalize action.runIn world = ended at deals
  cases deals with
  | dealt dealt => exact .dealt ⟨⟨dealt.name, dealt.action⟩, dealt.onward, rfl, dealt.settled.patched patch⟩
  | overlong lingers onward calm => exact .overlong lingers onward calm

variable {timing : Timing}

theorem caught_deals {field : Field} {action : Act Outcome}
    (interacts : Interacts field.Lingers false (·.Plain field) action) (world : World) :
    Deals field none world ((catchBrowser action fun error => do
      Action.log .error "Field action failed"
        (fieldContext field.displayName field.action.kind.name [("error", .str error.text)])
      return .failed field error.text).runIn world) := by
  obtain ⟨added, onward, ended⟩ := interacts world
  rw [runIn_catchBrowser]
  rcases result : action.runIn world with ⟨failure | outcome, middle⟩
  · rw [result] at onward ended
    cases failure with
    | browser error =>
      exact .dealt ⟨⟨rfl, rfl⟩, onward.write _, rfl, .broken error rfl rfl ended⟩
    | overlongPause => exact .overlong ended.1 onward ended.2
    | _ => exact ended.elim
  · rw [result] at onward ended
    exact .dealt ⟨ended.1.toAbout, onward, ended.1.unpatched, .calm ended.1.unfailed ended.2⟩

theorem attempt_deals (proper : timing.Proper) (field : Field) (record : Json) (value : String) (world : World) :
    Deals field none world ((attempt timing field record value).runIn world) := by
  have interacts := interact_interacts proper field record value
  unfold attempt
  dsimp only
  split
  · obtain ⟨_, middle, first, scrolled, -, onward, calm⟩ :=
      Interacts.ok (fun _ => Timing.scrollPageBottom_interacts) world
    rw [runIn_bind_ok scrolled]
    exact (caught_deals interacts middle).after onward calm
  · exact caught_deals interacts world

theorem skip_deals (field : Field) (reason : String) (detail : Detail) (world : World) :
    ∃ outcome after added, (Action.skip field reason detail).runIn world = (.ok outcome, after) ∧
      Dealt field none world outcome after added := by
  obtain ⟨outcome, after, added, skipped, plain, onward, calm⟩ :=
    Interacts.ok (fun _ => Action.skip_interacts field reason detail) world
  exact ⟨outcome, after, added, skipped, plain.toAbout, onward, plain.unpatched, .calm plain.unfailed calm⟩

/-- Where the identifier of a field comes from, if the field asks for one. -/
def asked? (executor : Executor) (field : Field) : Option IdentifierSource :=
  if field.asks then executor.identifiers else none

variable {executor : Executor} {field : Field}

theorem identifiers_of_asked {source : IdentifierSource} (asked : executor.asked? field = some source) :
    executor.identifiers = some source := by
  unfold asked? at asked
  split at asked
  · exact asked
  · cases asked

/-- What dealing with a field comes to. It breaks off before anything is done where its value cannot be had, or where
    the identifier that it asks for cannot. Whatever becomes of it after that, the identifier has been stored and belongs
    into the record. -/
inductive Comes (executor : Executor) (field : Field) (record : Json) (world : World) :
    Except Failure Outcome × World → Prop where
  | unreadable {fault : NumeralFault} (active : field.isInert = false) (overlong : field.overlong? record = some fault) :
      Comes executor field record world (.error (.numeral fault), world)
  | unasked {ended : Except Failure Outcome × World} (readable : field.isInert = true ∨ field.overlong? record = none)
      (unasked : executor.asked? field = none) (deals : Deals field none world ended) :
      Comes executor field record world ended
  | unassigned {source : IdentifierSource} {failure : Failure} {log : List LogEntry}
      (readable : field.overlong? record = none) (asked : executor.asked? field = some source)
      (unassigned : source.assigned record world.files = .error failure) :
      Comes executor field record world
        (.error failure, { world with files := source.filesAfter record world.files, log })
  | assigned {source : IdentifierSource} {given : Assigned} {ended : Except Failure Outcome × World}
      (readable : field.overlong? record = none) (asked : executor.asked? field = some source)
      (assigns : source.assigned record world.files = .ok given)
      (deals : Deals field given.patch { world with files := source.filesAfter record world.files } ended) :
      Comes executor field record world ended

theorem identified_comes (proper : executor.timing.Proper) (record : Json) (world : World)
    (readable : field.overlong? record = none) (asks : field.asks = true) :
    Comes executor field record world ((executor.executeIdentified field record).runIn world) := by
  unfold executeIdentified
  cases sources : executor.identifiers with
  | none =>
    have unasked : executor.asked? field = none := by rw [asked?, if_pos asks, sources]
    obtain ⟨outcome, after, added, skipped, dealt⟩ := skip_deals field "no identifier source configured" .none world
    dsimp only
    rw [skipped]
    exact .unasked (.inr readable) unasked (.dealt dealt)
  | some source =>
    have asked : executor.asked? field = some source := by rw [asked?, if_pos asks, sources]
    obtain ⟨log, ran⟩ := source.next_runIn record world
    cases assigns : source.assigned record world.files with
    | error failure =>
      rw [assigns] at ran
      dsimp only
      rw [runIn_bind_error ran]
      exact .unassigned readable asked assigns
    | ok given =>
      rw [assigns] at ran
      dsimp only
      rw [runIn_bind_ok ran]
      refine .assigned readable asked assigns ?_
      by_cases empty : given.value = ""
      · rw [if_pos empty]
        obtain ⟨outcome, after, added, skipped, dealt⟩ := skip_deals field "no identifier available" .none
          { world with files := source.filesAfter record world.files, log }
        have dues := (IdentifierSource.assigned_eq_ok_iff.mp assigns).1
        rw [skipped, IdentifierSource.patch_of_empty dues empty]
        exact .dealt dealt.ignore_log
      · rw [if_neg empty]
        have deals := attempt_deals proper field record given.value
          { world with files := source.filesAfter record world.files, log }
        exact (deals.patched given.patch).ignore_log

theorem execute_inert (executor : Executor) (inert : field.isInert = true) (record : Json) (world : World) :
    ∃ entry, (executor.execute field record).runIn world =
      (.ok (.skipped field Action.noLocator .none), world.write entry) := by
  unfold execute
  rw [if_pos inert]
  exact ⟨_, rfl⟩

theorem execute_unreadable {record : Json} {fault : NumeralFault} (active : field.isInert = false)
    (overlong : field.overlong? record = some fault) (world : World) :
    (executor.execute field record).runIn world = (.error (.numeral fault), world) := by
  unfold execute
  rw [active, if_neg Bool.false_ne_true, overlong]
  rfl

theorem execute_active {record : Json} (active : field.isInert = false) (readable : field.overlong? record = none) :
    executor.execute field record =
      if field.autoIdentifier then executor.executeIdentified field record
      else attempt executor.timing field record (field.valueText record) := by
  unfold execute
  rw [active, if_neg Bool.false_ne_true, readable]
  rfl

theorem execute_comes (proper : executor.timing.Proper) (field : Field) (record : Json) (world : World) :
    Comes executor field record world ((executor.execute field record).runIn world) := by
  cases inert : field.isInert with
  | true =>
    have unasked : executor.asked? field = none := by simp [asked?, Field.asks, inert]
    obtain ⟨entry, skipped⟩ := executor.execute_inert inert record world
    rw [skipped]
    exact .unasked (.inl inert) unasked (.dealt ⟨⟨rfl, rfl⟩, (World.Onward.refl world).write _, rfl, .calm nofun .nil⟩)
  | false =>
    cases readable : field.overlong? record with
    | some fault =>
      rw [execute_unreadable inert readable]
      exact .unreadable inert readable
    | none =>
      rw [execute_active inert readable]
      cases identified : field.autoIdentifier with
      | true => exact identified_comes proper record world readable (by simp [Field.asks, inert, identified])
      | false =>
        have unasked : executor.asked? field = none := by simp [asked?, Field.asks, identified]
        exact .unasked (.inr readable) unasked (attempt_deals proper field record _ world)

/-- What dealing with a field breaks off with before anything is done: its value cannot be selected or shown, or the
    call for the identifier that it asks for fails. -/
inductive Obstacle (executor : Executor) (field : Field) (record : Json) (world : World) : Failure → Prop where
  | unreadable {fault : NumeralFault} (active : field.isInert = false) (overlong : field.overlong? record = some fault) :
      Obstacle executor field record world (.numeral fault)
  | unassigned {source : IdentifierSource} {failure : Failure} (readable : field.overlong? record = none)
      (asked : executor.asked? field = some source)
      (fails : ((source.next record).runIn world).1 = .error failure) : Obstacle executor field record world failure

/-- How dealing with a field ends, with what happens in it: with what is in its way, with a pause that is too long, or
    with an outcome, which is failed just where the last call ended with an error that is not one of a soft call, and
    then tells that error. -/
inductive Ends (executor : Executor) (field : Field) (record : Json) (world : World) (added : List Event) :
    Except Failure Outcome → Prop where
  | obstructed {failure : Failure} (obstacle : executor.Obstacle field record world failure) (nothing : added = []) :
      Ends executor field record world added (.error failure)
  | overlong (free : ∀ failure, ¬executor.Obstacle field record world failure) (lingers : field.Lingers)
      (calm : world.page.Calm world.trace added) : Ends executor field record world added (.error .overlongPause)
  | judged {outcome : Outcome} (free : ∀ failure, ¬executor.Obstacle field record world failure)
      (failed_iff : outcome.status = .failed ↔
        ∃ event error, world.page.lastCall? world.trace added = some (event, some error) ∧ event.isSoft = false)
      (reason : ∀ event error, world.page.lastCall? world.trace added = some (event, some error) →
        event.isSoft = false → outcome.reason = some error.text)
      (unfailed : world.page.Calm world.trace added → outcome.status ≠ .failed) :
      Ends executor field record world added (.ok outcome)

theorem Obstacle.of_inert {failure : Failure} (inert : field.isInert = true) (record : Json) (world : World) :
    ¬executor.Obstacle field record world failure := by
  rintro (⟨active, -⟩ | ⟨-, asked, -⟩)
  · rw [inert] at active
    cases active
  · simp [asked?, Field.asks, inert] at asked

theorem Obstacle.of_readable {failure : Failure} {record : Json} {world : World}
    (readable : field.overlong? record = none) (obstacle : executor.Obstacle field record world failure) :
    ∃ source, executor.asked? field = some source ∧ source.assigned record world.files = .error failure := by
  cases obstacle with
  | unreadable _ overlong =>
    rw [readable] at overlong
    cases overlong
  | unassigned _ asked fails => exact ⟨_, asked, by rwa [IdentifierSource.next_result] at fails⟩

theorem Deals.ends {patch : Option Patch} {record : Json} {world before : World}
    {ended : Except Failure Outcome × World} (deals : Deals field patch before ended) (page : before.page = world.page)
    (trace : before.trace = world.trace) (free : ∀ failure, ¬executor.Obstacle field record world failure) :
    ∃ added, ended.2.trace = world.trace ++ added ∧ executor.Ends field record world added ended.1 := by
  cases deals with
  | @dealt outcome after added dealt =>
    have settled := dealt.settled
    rw [page, trace] at settled
    refine ⟨added, by rw [dealt.onward.trace, trace], .judged free settled.failed_iff (fun _ _ => settled.reason) ?_⟩
    exact fun calm failed => settled.failed_iff_not_calm.mp failed calm
  | @overlong after added lingers onward calm =>
    rw [page, trace] at calm
    exact ⟨added, by rw [onward.trace, trace], .overlong free lingers calm⟩

theorem execute_ends (executor : Executor) (proper : executor.timing.Proper) (field : Field) (record : Json)
    (world : World) :
    ∃ added, ((executor.execute field record).runIn world).2.trace = world.trace ++ added ∧
      executor.Ends field record world added ((executor.execute field record).runIn world).1 := by
  have comes := execute_comes proper field record world
  generalize (executor.execute field record).runIn world = ended at comes ⊢
  cases comes with
  | unreadable active overlong =>
    exact ⟨[], (List.append_nil _).symm, .obstructed (.unreadable active overlong) rfl⟩
  | unassigned readable asked unassigned =>
    refine ⟨[], (List.append_nil _).symm, .obstructed (.unassigned readable asked ?_) rfl⟩
    rw [IdentifierSource.next_result, unassigned]
  | unasked readable unasked deals =>
    refine deals.ends rfl rfl fun failure obstacle => ?_
    rcases readable with inert | readable
    · exact Obstacle.of_inert inert record world obstacle
    · obtain ⟨source, asked, -⟩ := obstacle.of_readable readable
      rw [unasked] at asked
      cases asked
  | assigned readable asked assigns deals =>
    refine deals.ends rfl rfl fun failure obstacle => ?_
    obtain ⟨source, same, fails⟩ := obstacle.of_readable readable
    rw [asked] at same
    cases same
    rw [assigns] at fails
    cases fails

/-- Where the stored identifiers can be read, dealing with a field breaks off for no other reason than a number that is
    too long, an identifier that has no UTF-8 form, or a pause that is too long. Else it gives an outcome, which is failed
    just where the last call ended with an error that is not one of a soft call. -/
theorem execute_failed_iff (options : RunOptions) (identifiers : Option IdentifierSource) (field : Field)
    (record : Json) (world : World)
    (readable : ∀ source, identifiers = some source → source.store.Readable world.files) :
    (∃ result after added,
      ((⟨.ofOptions options, identifiers⟩ : Executor).execute field record).runIn world = (result, after) ∧
      after.trace = world.trace ++ added ∧
      (⟨.ofOptions options, identifiers⟩ : Executor).Ends field record world added result) ∧
    ∀ failure, (⟨.ofOptions options, identifiers⟩ : Executor).Obstacle field record world failure →
      (∃ fault, failure = .numeral fault) ∨ ∃ fault, failure = .unencodable fault := by
  constructor
  · obtain ⟨added, trace, ends⟩ :=
      execute_ends ⟨.ofOptions options, identifiers⟩ (Timing.ofOptions_proper options) field record world
    exact ⟨_, _, added, rfl, trace, ends⟩
  · rintro failure (⟨-, -⟩ | ⟨-, asked, fails⟩)
    · exact .inl ⟨_, rfl⟩
    · rw [IdentifierSource.next_result] at fails
      exact IdentifierSource.assigned_error_of_readable (readable _ (identifiers_of_asked asked)) fails

/-- An element that cannot be scrolled to is dealt with all the same; one whose option cannot be chosen is not. -/
theorem execute_failed_iff_scrolling :
    let identifiers : IdentifierSource := ⟨⟨.below ["last.txt"]⟩, some "1", "id"⟩
    let field : Field := ⟨some "id", some "#id", none, none, none, false, none, .none, true, false, false, false, .select⟩
    let page (kind : ElementCallKind) : Page :=
      { Page.blank with
        lookups := [(.selector "#id", "a")]
        nodes := [("a", { Node.absent with count := 1, faults := [(kind, .always ⟨false, "gone"⟩)] })] }
    let finding : List Event := [.lookup none (.selector "#id"), .element ⟨"a", false⟩ .count]
    let scrolling : Event := .element ⟨"a", true⟩ (.scrollIntoView 2000)
    let choosing : Event := .element ⟨"a", true⟩ (.selectOption "1")
    (∃ outcome after,
      ((⟨.ofOptions .default, some identifiers⟩ : Executor).execute field (.obj [])).runIn
        (.untouched (page .scrollIntoView) .empty) = (.ok outcome, after) ∧
      after.trace = finding ++ [scrolling, choosing] ∧
      (page .scrollIntoView).error? finding scrolling = some ⟨false, "gone"⟩ ∧ outcome.status ≠ .failed) ∧
    ∃ outcome after,
      ((⟨.ofOptions .default, some identifiers⟩ : Executor).execute field (.obj [])).runIn
        (.untouched (page .selectOption) .empty) = (.ok outcome, after) ∧
      after.trace = finding ++ [scrolling, choosing] ∧ outcome.status = .failed ∧ outcome.reason = some "gone" := by
  intro identifiers field page finding scrolling choosing
  have readable : ∀ source, some identifiers = some source → source.store.Readable Files.empty := by
    intro source same
    cases same
    subst identifiers
    exact .of_read_error rfl rfl
  have came (kind : ElementCallKind)
      (tried : ∃ outcome after,
        ((⟨.ofOptions .default, some identifiers⟩ : Executor).execute field (.obj [])).runIn
          (.untouched (page kind) .empty) = (.ok outcome, after) ∧ after.trace = finding ++ [scrolling, choosing]) :
      ∃ outcome after,
        ((⟨.ofOptions .default, some identifiers⟩ : Executor).execute field (.obj [])).runIn
          (.untouched (page kind) .empty) = (.ok outcome, after) ∧ after.trace = finding ++ [scrolling, choosing] ∧
        (⟨.ofOptions .default, some identifiers⟩ : Executor).Ends field (.obj []) (.untouched (page kind) .empty)
          (finding ++ [scrolling, choosing]) (.ok outcome) := by
    obtain ⟨outcome, after, ran, events⟩ := tried
    obtain ⟨result, later, added, same, trace, ends⟩ :=
      (execute_failed_iff .default (some identifiers) field (.obj []) (.untouched (page kind) .empty) readable).1
    rw [ran] at same
    cases same
    obtain rfl : after.trace = added := trace
    exact ⟨outcome, after, ran, events, events ▸ ends⟩
  constructor
  · obtain ⟨outcome, after, ran, events, ends⟩ := came .scrollIntoView (by
      subst identifiers field page finding scrolling choosing
      exact ⟨_, _, rfl, rfl⟩)
    cases ends with
    | judged _ failed_iff =>
      refine ⟨outcome, after, ran, events, rfl, fun failed => ?_⟩
      obtain ⟨event, error, last, -⟩ := failed_iff.mp failed
      cases last
  · obtain ⟨outcome, after, ran, events, ends⟩ := came .selectOption (by
      subst identifiers field page finding scrolling choosing
      exact ⟨_, _, rfl, rfl⟩)
    have last : (page .selectOption).lastCall? [] (finding ++ [scrolling, choosing]) =
        some (choosing, some ⟨false, "gone"⟩) := rfl
    cases ends with
    | judged _ failed_iff reason =>
      exact ⟨outcome, after, ran, events, failed_iff.mpr ⟨choosing, _, last, rfl⟩, reason choosing _ last rfl⟩

/-- An identifier without UTF-8 form gives no outcome, though its store can be read and written. -/
theorem execute_breaks_off_half :
    let source : IdentifierSource := ⟨⟨.below ["last.txt"]⟩, none, "id"⟩
    let field : Field :=
      ⟨none, some "#a", none, none, none, false, none, .none, true, false, false, false, .fill ⟨true, false, 0, false⟩⟩
    let record : Json := .obj [("id", .str (String.singleton (Text.Halves.usual.stand 0xD800)))]
    source.store.Readable .empty ∧ source.store.Writable .empty ∧ field.isInert = false ∧
      ((⟨.ofOptions .default, some source⟩ : Executor).execute field record).runIn (.untouched .blank .empty) =
        (.error (.unencodable ⟨[0xD800], 0⟩),
          .untouched .blank { occupants := [(["last.txt"], .file .empty)] }) := by
  intro source field record
  subst source field record
  exact ⟨.of_read_error rfl rfl, .of_stored [] rfl, rfl, rfl⟩

end Executor
end FormFill
