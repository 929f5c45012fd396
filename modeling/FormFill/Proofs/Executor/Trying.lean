import FormFill.Proofs.Executor

namespace FormFill.Executor

open Act

/-- The value that a field is dealt with for, if there is one. -/
def value? (executor : Executor) (field : Field) (record : Json) (files : Files) : Option String :=
  if (field.overlong? record).isSome then none
  else if field.autoIdentifier then
    executor.identifiers.bind fun source =>
      match source.assigned record files with
      | .ok assigned => given (some assigned.value)
      | .error _ => none
  else some (field.valueText record)

variable {executor : Executor} {field : Field} {record : Json} {files : Files} {value : String} {world : World}

theorem readable_of_value? (valued : executor.value? field record files = some value) :
    field.overlong? record = none := by
  unfold value? at valued
  split at valued
  · cases valued
  · rename_i readable
    simpa using readable

theorem value?_of_identified (readable : field.overlong? record = none) (identified : field.autoIdentifier = true)
    (files : Files) :
    executor.value? field record files =
      executor.identifiers.bind fun source =>
        match source.assigned record files with
        | .ok assigned => given (some assigned.value)
        | .error _ => none := by
  rw [value?, readable, Option.isSome_none, if_neg Bool.false_ne_true, if_pos identified]

theorem value?_of_plain (readable : field.overlong? record = none) (plain : field.autoIdentifier = false)
    (files : Files) : executor.value? field record files = some (field.valueText record) := by
  rw [value?, readable, Option.isSome_none, if_neg Bool.false_ne_true, plain, if_neg Bool.false_ne_true]

theorem value?_identified (identified : field.autoIdentifier = true)
    (valued : executor.value? field record files = some value) :
    ∃ source patch, executor.identifiers = some source ∧ source.assigned record files = .ok ⟨value, patch⟩ ∧
      value ≠ "" := by
  rw [value?_of_identified (readable_of_value? valued) identified, Option.bind_eq_some_iff] at valued
  obtain ⟨source, identifiers, valued⟩ := valued
  cases assigns : source.assigned record files with
  | error failure => simp [assigns] at valued
  | ok assigned =>
    rw [assigns] at valued
    obtain ⟨rfl, nonempty⟩ : assigned.value = value ∧ value ≠ "" := by simpa [given] using valued
    exact ⟨source, assigned.patch, identifiers, assigns, nonempty⟩

theorem value?_ne_empty (identified : field.autoIdentifier = true)
    (valued : executor.value? field record files = some value) : value ≠ "" := by
  obtain ⟨source, patch, -, -, nonempty⟩ := value?_identified identified valued
  exact nonempty

theorem value?_plain (plain : field.autoIdentifier = false)
    (valued : executor.value? field record files = some value) : value = field.valueText record := by
  rw [value?_of_plain (readable_of_value? valued) plain] at valued
  exact (Option.some.inj valued).symm

theorem untried_or_tried (executor : Executor) (field : Field) (record : Json) (files : Files) :
    (field.isInert = true ∨ executor.value? field record files = none) ∨
      field.isInert = false ∧ ∃ value, executor.value? field record files = some value := by
  cases field.isInert with
  | true => exact .inl (.inl rfl)
  | false =>
    cases executor.value? field record files with
    | none => exact .inl (.inr rfl)
    | some value => exact .inr ⟨rfl, value, rfl⟩

/-- A field that has something to do, and a value to do it with, is attempted once the files have been seen to. What
    comes of that is what comes of the field, but for the patch. -/
theorem execute_valued (active : field.isInert = false)
    (valued : executor.value? field record world.files = some value) :
    ∃ (files : Files) (log : List LogEntry) (patch : Outcome → Option Patch),
      (executor.execute field record).runIn world =
        (attempt executor.timing field record value >>= fun outcome =>
          return { outcome with patch := patch outcome }).runIn { world with files, log } := by
  rw [execute_active active (readable_of_value? valued)]
  cases identified : field.autoIdentifier with
  | false =>
    obtain rfl := value?_plain identified valued
    exact ⟨world.files, world.log, (·.patch), by rw [if_neg Bool.false_ne_true, bind_pure]⟩
  | true =>
    obtain ⟨source, patch, identifiers, assigns, nonempty⟩ := value?_identified identified valued
    obtain ⟨log, ran⟩ := source.next_runIn record world
    rw [assigns] at ran
    refine ⟨source.filesAfter record world.files, log, fun _ => patch, ?_⟩
    rw [if_pos rfl, executeIdentified, identifiers]
    dsimp only
    rw [runIn_bind_ok ran, if_neg nonempty]

/-- A field that has nothing to do, no value that can be shown, or no identifier is left alone. -/
theorem execute_untried (executor : Executor) (field : Field) (record : Json) (world : World)
    (none : field.isInert = true ∨ executor.value? field record world.files = none) :
    ∃ result after, (executor.execute field record).runIn world = (result, after) ∧ after.trace = world.trace ∧
      ∀ outcome, result = .ok outcome → ∃ reason, outcome = .skipped field reason .none ∧
        (field.isInert = true → reason = Action.noLocator) := by
  cases inert : field.isInert with
  | true =>
    obtain ⟨entry, skipped⟩ := executor.execute_inert inert record world
    refine ⟨_, _, skipped, rfl, ?_⟩
    rintro _ ⟨⟩
    exact ⟨_, rfl, fun _ => rfl⟩
  | false =>
    have unvalued := none.resolve_left (by simp [inert])
    cases readable : field.overlong? record with
    | some fault => exact ⟨_, _, execute_unreadable inert readable world, rfl, nofun⟩
    | none =>
      rw [execute_active inert readable]
      cases identified : field.autoIdentifier with
      | false => simp [value?_of_plain readable identified] at unvalued
      | true =>
        rw [value?_of_identified readable identified] at unvalued
        rw [if_pos rfl, executeIdentified]
        cases sources : executor.identifiers with
        | none =>
          refine ⟨_, _, rfl, rfl, ?_⟩
          rintro _ ⟨⟩
          exact ⟨_, rfl, nofun⟩
        | some source =>
          obtain ⟨log, ran⟩ := source.next_runIn record world
          dsimp only
          rw [runIn_bind, ran]
          cases assigns : source.assigned record world.files with
          | error failure => exact ⟨_, _, rfl, rfl, nofun⟩
          | ok assigned =>
            have empty : assigned.value = "" := by simpa [sources, assigns, given] using unvalued
            dsimp only
            rw [if_pos empty]
            refine ⟨_, _, rfl, rfl, ?_⟩
            rintro _ ⟨⟩
            exact ⟨_, rfl, nofun⟩

end FormFill.Executor
