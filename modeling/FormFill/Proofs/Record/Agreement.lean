import FormFill.Executor
import FormFill.Proofs.Identifier.Next

namespace FormFill

/-- Records from which a source selects the same still agree on it when a member is set alike in both. -/
theorem Record.select_insert {first second : Members} {source : Option String}
    (same : select (.obj first) source = select (.obj second) source) (key : String) (value : Json) :
    select (.obj (Members.insert first key value)) source =
      select (.obj (Members.insert second key value)) source := by
  unfold select at same ⊢
  cases read : Source.ofText? source with
  | absent => rfl
  | literal text => rfl
  | path segments =>
    rw [read] at same
    cases segments with
    | nil =>
      cases same
      rfl
    | cons segment rest =>
      simp only [Source.value, descend, List.foldlM_cons, child] at same ⊢
      by_cases found : String.ofList segment = key
      · rw [found, Members.lookup_insert, Members.lookup_insert]
      · rwa [Members.lookup_insert_of_ne found, Members.lookup_insert_of_ne found]

/-- Two records agree on all that is read from them: on the values of some fields, and on the identifier that
    stands under a key. -/
structure Members.Agree (fields : List Field) (key : String) (first second : Members) : Prop where
  values : ∀ field ∈ fields, Record.select (.obj first) field.value = Record.select (.obj second) field.value
  identifier : (first.lookup key).getD .null = (second.lookup key).getD .null

theorem Members.Agree.patched {fields : List Field} {key : String} {first second : Members}
    (agree : Members.Agree fields key first second) {patch : Option Patch}
    (placed : ∀ given ∈ patch, given.key = key) :
    Members.Agree fields key (first.patched patch) (second.patched patch) := by
  cases patch with
  | none => exact agree
  | some given =>
    obtain rfl := placed given rfl
    have values := fun field member =>
      Record.select_insert (agree.values field member) given.key (.str given.identifier)
    exact ⟨values, by simp only [Members.patched, Members.lookup_insert]⟩

theorem IdentifierSource.existing?_congr {source : IdentifierSource} {first second : Members}
    (same : (first.lookup source.recordKey).getD .null = (second.lookup source.recordKey).getD .null) :
    source.existing? (.obj first) = source.existing? (.obj second) := by
  have carried (members : Members) (value : Json) : source.existing? (.obj members) = some value ↔
      (members.lookup source.recordKey).getD .null = value ∧ value ≠ .null ∧ value ≠ .str "" := by
    rw [existing?_eq_some_iff]
    cases found : members.lookup source.recordKey with
    | none =>
      simp only [Json.get?, found, reduceCtorEq, false_and, Option.getD_none, false_iff]
      exact fun carried => carried.2.1 carried.1.symm
    | some value => simp [Json.get?, found]
  refine Option.ext fun value => ?_
  rw [carried, carried, same]

namespace Executor

variable {executor : Executor} {timing : Timing} {field : Field} {first second : Json}

theorem rawValue_congr (value : Record.select first field.value = Record.select second field.value) :
    field.rawValue first = field.rawValue second := by
  unfold Field.rawValue
  rw [value]

theorem attempt_congr (value : Record.select first field.value = Record.select second field.value) (text : String) :
    attempt timing field first text = attempt timing field second text := by
  have interacts : interact timing field first text = interact timing field second text := by
    unfold interact
    split
    · rfl
    · rfl
    · rfl
    · rfl
    · rfl
    · simp only [Action.runEachText, rawValue_congr value]
    · simp only [Action.runEachTag, Action.requestedTags, rawValue_congr value]
  simp only [attempt, interacts]

/-- Dealing with a field reads no more of a record than the value of the field and the identifier. -/
theorem execute_congr (value : Record.select first field.value = Record.select second field.value)
    (identifier : ∀ source ∈ executor.identifiers, source.existing? first = source.existing? second) :
    executor.execute field first = executor.execute field second := by
  have text : field.valueText first = field.valueText second := by
    simp only [Field.valueText, rawValue_congr value]
  have overlong : field.overlong? first = field.overlong? second := by
    simp only [Field.overlong?, value]
  have attempts (text : String) : attempt executor.timing field first text =
      attempt executor.timing field second text := attempt_congr value text
  unfold execute executeIdentified
  cases found : executor.identifiers with
  | none => simp only [text, attempts, overlong]
  | some source =>
    have next : source.next first = source.next second := by
      simp only [IdentifierSource.next, identifier source found]
    simp only [text, attempts, next, overlong]

end Executor
end FormFill
