import FormFill.Proofs.Executor.Reaching
import FormFill.Proofs.Identifier.Persistence

namespace FormFill

open Act

/-- A field with a single target that is to get a value of its own, but names no way to find the target. -/
structure Field.Unlocated (field : Field) : Prop where
  single : field.action.kind ∈ [ActionKind.fill, .type, .click, .check, .select]
  literal : field.hasLiteralValue = true
  nowhere : field.strategy = none

/-- Looking for a field is the one lookup that its definition names, or none at all. -/
theorem Locating.locate_looks (field : Field) (world : World) :
    (locate field).runIn world =
      match field.strategy with
      | some (kind, query) =>
        (.ok (some ⟨world.page.find none (.of kind query field.exact), false⟩),
          world.note (.lookup none (.of kind query field.exact)))
      | none => (.ok none, world) := by
  rw [locate_eq]
  cases field.strategy with
  | none => rfl
  | some way => rfl

namespace Field.Unlocated

variable {field : Field}

theorem active (unlocated : field.Unlocated) : field.isInert = false := by
  obtain ⟨single, literal, nowhere⟩ := unlocated
  unfold isInert
  cases kind : field.action with
  | clickEachText settings => simp [kind, Action.kind] at single
  | typeEachTag settings => simp [kind, Action.kind] at single
  | _ => simp [nowhere, literal]

/-- A value of its own is a text, so it can be shown whatever the record is. -/
theorem readable (unlocated : field.Unlocated) (record : Json) : field.overlong? record = none := by
  have literal := unlocated.literal
  unfold hasLiteralValue at literal
  unfold overlong? Record.select
  cases named : Record.Source.ofText? field.value with
  | literal text => rfl
  | absent => simp [named] at literal
  | path segments => simp [named] at literal

/-- Without a way to find the target, an interaction comes to nothing at once. -/
theorem interact_eq (unlocated : field.Unlocated) (timing : Timing) (record : Json) (value : String) :
    Executor.interact timing field record value = Action.skip field Action.noLocator .none := by
  have skips (next : Handle → Act Outcome) :
      Action.onTarget timing field next = Action.skip field Action.noLocator .none := by
    unfold Action.onTarget Action.target
    rw [Locating.locate_eq, unlocated.nowhere]
    rfl
  have single := unlocated.single
  unfold Executor.interact
  cases kind : field.action with
  | fill settings => exact skips _
  | type settings => exact skips _
  | click settings => exact skips _
  | check settings => exact skips _
  | select => exact skips _
  | clickEachText settings => simp [kind, Action.kind] at single
  | typeEachTag settings => simp [kind, Action.kind] at single

end Field.Unlocated

namespace Executor

variable {executor : Executor} {field : Field}

theorem attempt_unlocated (unlocated : field.Unlocated) (timing : Timing) (record : Json) (value : String)
    (world : World) :
    ∃ outcome after added, (attempt timing field record value).runIn world = (.ok outcome, after) ∧
      outcome.status = .skipped ∧ world.Grown after added ∧
      added <+: if field.scrollPageBottom then Timing.bottomScroll else [] := by
  unfold attempt
  rw [unlocated.interact_eq]
  dsimp only
  cases field.scrollPageBottom with
  | false => exact ⟨_, _, [], rfl, rfl, .write world _, List.nil_prefix⟩
  | true =>
    obtain ⟨_, begun, added, scrolled, grown, scrolls⟩ := Timing.scrollPageBottom_runIn world
    have onward (entry : LogEntry) := grown.trans (.write begun entry)
    rw [List.append_nil] at onward
    rw [if_pos rfl, runIn_bind_ok scrolled]
    exact ⟨_, _, added, rfl, rfl, onward _, scrolls⟩

/-- A field is left alone after no more than a scroll to the bottom of the page, unless the identifier that it is to get
    cannot be had. -/
structure LeavesAlone (executor : Executor) (field : Field) (record : Json) (before : World)
    (result : Except Failure Outcome) (after : World) (added : List Event) : Prop where
  page : after.page = before.page
  draws : after.draws = before.draws
  trace : after.trace = before.trace ++ added
  scrolls : added <+: if field.scrollPageBottom then Timing.bottomScroll else []
  stored : field.autoIdentifier = false → after.files = before.files
  skipped : ∀ outcome, result = .ok outcome → outcome.status = .skipped
  broken : ∀ failure, result = .error failure → added = [] ∧ ∃ source, executor.identifiers = some source ∧
    ((source.next record).runIn before).1 = .error failure
  returns : (∃ outcome, result = .ok outcome) ↔
    (field.autoIdentifier = true → ∀ source ∈ executor.identifiers, source.Usable record before.files)

theorem LeavesAlone.of_grown {record : Json} {world after : World} {outcome : Outcome} {added : List Event}
    {log : List LogEntry} {files : Files} (skipped : outcome.status = .skipped)
    (grown : { world with files, log }.Grown after added)
    (scrolls : added <+: if field.scrollPageBottom then Timing.bottomScroll else [])
    (stored : field.autoIdentifier = false → files = world.files)
    (usable : field.autoIdentifier = true → ∀ source ∈ executor.identifiers, source.Usable record world.files) :
    LeavesAlone executor field record world (.ok outcome) after added where
  page := grown.page
  draws := grown.draws
  trace := grown.trace
  scrolls := scrolls
  stored := fun unidentified => grown.files.trans (stored unidentified)
  skipped := by
    rintro _ ⟨⟩
    exact skipped
  broken := by
    rintro _ ⟨⟩
  returns := iff_of_true ⟨outcome, rfl⟩ usable

theorem execute_leaves (unlocated : field.Unlocated) (executor : Executor) (record : Json) (world : World) :
    ∃ result after added, (executor.execute field record).runIn world = (result, after) ∧
      LeavesAlone executor field record world result after added := by
  rw [execute_active unlocated.active (unlocated.readable record)]
  cases identified : field.autoIdentifier with
  | false =>
    obtain ⟨outcome, after, added, ended, skipped, grown, scrolls⟩ :=
      attempt_unlocated unlocated executor.timing record (field.valueText record) world
    rw [if_neg Bool.false_ne_true]
    exact ⟨_, after, added, ended, .of_grown skipped grown scrolls (fun _ => rfl) (by simp [identified])⟩
  | true =>
    rw [if_pos rfl]
    unfold executeIdentified
    cases sources : executor.identifiers with
    | none =>
      exact ⟨_, _, [], rfl, .of_grown rfl (.write world _) List.nil_prefix (fun _ => rfl) (by simp [sources])⟩
    | some source =>
      obtain ⟨log, ran⟩ := source.next_runIn record world
      have given := source.assigned_ok_iff record world.files
      dsimp only
      cases assigns : source.assigned record world.files with
      | error failure =>
        have unusable : ¬source.Usable record world.files := by
          intro usable
          obtain ⟨_, assigned⟩ := given.mpr usable
          rw [assigns] at assigned
          cases assigned
        rw [assigns] at ran
        rw [runIn_bind_error ran]
        refine ⟨_, _, [], rfl, rfl, rfl, (List.append_nil _).symm, List.nil_prefix, by simp [identified],
          by rintro _ ⟨⟩, ?_, ?_⟩
        · rintro _ ⟨⟩
          exact ⟨rfl, source, sources, by rw [ran]⟩
        · simpa [identified, sources] using unusable
      | ok assigned =>
        have usable : field.autoIdentifier = true →
            ∀ source ∈ executor.identifiers, source.Usable record world.files := by
          have usable : source.Usable record world.files := given.mp ⟨assigned, assigns⟩
          simpa [identified, sources] using usable
        rw [assigns] at ran
        rw [runIn_bind_ok ran]
        split
        · exact ⟨_, _, [], rfl, .of_grown rfl (.write _ _) List.nil_prefix (by simp [identified]) usable⟩
        · obtain ⟨outcome, after, added, ended, skipped, grown, scrolls⟩ :=
            attempt_unlocated unlocated executor.timing record assigned.value
              { world with files := source.filesAfter record world.files, log }
          rw [runIn_bind_ok ended]
          exact ⟨_, after, added, rfl, .of_grown skipped grown scrolls (by simp [identified]) usable⟩

/-- A field is looked for in the one way that its definition names, if it names any. One with nothing to do is left alone
    without any dealings with the page, with chance or with the files. One with a single target that it names no way to
    find is left alone too, after no more than a scroll of the page, and fails in no case; but where it is to get an
    identifier, nothing may be in the way of that. -/
theorem execute_unlocated (field : Field) :
    (∀ world, (Locating.locate field).runIn world =
      match field.strategy with
      | some (kind, query) =>
        (.ok (some ⟨world.page.find none (.of kind query field.exact), false⟩),
          world.note (.lookup none (.of kind query field.exact)))
      | none => (.ok none, world)) ∧
    (field.isInert = true → ∃ entry, ∀ (executor : Executor) (record : Json) (world : World),
      (executor.execute field record).runIn world = (.ok (.skipped field Action.noLocator .none), world.write entry)) ∧
    (field.Unlocated → ∀ (executor : Executor) (record : Json) (world : World), ∃ result after added,
      (executor.execute field record).runIn world = (result, after) ∧
        LeavesAlone executor field record world result after added) := by
  have idle (inert : field.isInert = true) : ∃ entry, ∀ (executor : Executor) (record : Json) (world : World),
      (executor.execute field record).runIn world = (.ok (.skipped field Action.noLocator .none), world.write entry) := by
    simp only [execute, inert, ↓reduceIte]
    exact ⟨_, fun _ _ _ => rfl⟩
  exact ⟨Locating.locate_looks field, idle, execute_leaves⟩

/-- A value of its own without a way to find its target, in a field that is to get an identifier instead. -/
def adrift : Field :=
  ⟨none, none, none, none, none, false, some "=x", .none, true, false, true, false, .fill ⟨false, false, 0, false⟩⟩

theorem adrift_unlocated : adrift.Unlocated :=
  ⟨by decide, by decide, rfl⟩

theorem execute_unlocated_adrift :
    adrift.Unlocated ∧ { adrift with value := none }.isInert = true ∧
      let source : IdentifierSource := ⟨⟨.below ["last.txt"]⟩, some "5", "id"⟩
      let executor : Executor := ⟨.default, some source⟩
      let blank : World := .untouched .blank .empty
      let spoilt : World := .untouched .blank { occupants := [(["last.txt"], .file ⟨#[0xff]⟩)] }
      (∃ outcome after, (executor.execute adrift (.obj [])).runIn blank = (.ok outcome, after) ∧
        outcome.status = .skipped) ∧
      (∃ after, (executor.execute { adrift with value := none } (.obj [])).runIn spoilt =
        (.ok (.skipped { adrift with value := none } Action.noLocator .none), after) ∧ after.files = spoilt.files) := by
  refine ⟨adrift_unlocated, by decide, ?_⟩
  intro source executor blank spoilt
  obtain ⟨result, after, added, ended, leaves⟩ := (execute_unlocated adrift).2.2 adrift_unlocated executor (.obj []) blank
  obtain ⟨entry, idle⟩ := (execute_unlocated { adrift with value := none }).2.1 (by decide)
  have usable : ∀ source ∈ executor.identifiers, source.Usable (.obj []) blank.files := by
    rintro _ ⟨⟩
    subst source
    exact (IdentifierSource.assigned_ok_iff _ _ _).mp ⟨⟨"5", some ⟨"id", "5"⟩⟩, rfl⟩
  obtain ⟨outcome, rfl⟩ := leaves.returns.mpr fun _ => usable
  exact ⟨⟨outcome, after, ended, leaves.skipped outcome rfl⟩, _, idle executor (.obj []) spoilt, rfl⟩

/-- A stored byte that is not text breaks off a field that there is nothing to do for but to be skipped. -/
theorem execute_adrift_breaks_off :
    let source : IdentifierSource := ⟨⟨.below ["last.txt"]⟩, some "5", "id"⟩
    let spoilt : World := .untouched .blank { occupants := [(["last.txt"], .file ⟨#[0xff]⟩)] }
    adrift.Unlocated ∧
      ((⟨.default, some source⟩ : Executor).execute adrift (.obj [])).runIn spoilt = (.error .undecodable, spoilt) := by
  intro source spoilt
  have breaks : (source.next (.obj [])).runIn spoilt = (.error .undecodable, spoilt) := by
    subst source spoilt
    rfl
  refine ⟨adrift_unlocated, ?_⟩
  rw [execute_active adrift_unlocated.active (adrift_unlocated.readable _)]
  exact runIn_bind_error breaks

end Executor
end FormFill
