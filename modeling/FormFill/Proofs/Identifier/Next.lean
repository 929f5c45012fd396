import FormFill.Proofs.Identifier.LeadingInt
import FormFill.Proofs.Identifier.Store
import FormFill.Proofs.Lookup

namespace FormFill

/-- Members after an identifier has been put where it belongs, if there is one. -/
def Members.patched (members : Members) : Option Patch → Members
  | some patch => Members.insert members patch.key (.str patch.identifier)
  | none => members

namespace IdentifierSource

open Act

/-- A new identifier, which a record without one is to carry unless it is empty. -/
def fresh (source : IdentifierSource) (value : String) : Assigned :=
  ⟨value, if value = "" then none else some ⟨source.recordKey, value⟩⟩

/-- The identifier that is due, as the record and the stored text determine it. -/
def due (source : IdentifierSource) (record : Json) (files : Files) : Except Failure Assigned :=
  match source.existing? record with
  | some existing =>
    match Record.overlong? existing with
    | some fault => .error (.numeral fault)
    | none => .ok ⟨String.ofList (Record.textOf existing), none⟩
  | none =>
    match source.store.loaded files with
    | .error failure => .error failure
    | .ok last =>
      match source.successor last with
      | .error fault => .error (.numeral fault)
      | .ok value => .ok (source.fresh value)

/-- Whether an identifier is stored. One that a record brings along is, even if it is shown as nothing. -/
def stores (source : IdentifierSource) (record : Json) (given : Assigned) : Bool :=
  (source.existing? record).isSome || given.value ≠ ""

/-- The identifier of a record: the one that is due, unless it is to be stored and that fails. -/
def assigned (source : IdentifierSource) (record : Json) (files : Files) : Except Failure Assigned :=
  match source.due record files with
  | .error failure => .error failure
  | .ok given =>
    if source.stores record given then
      match (source.store.put given.value.toList files).2 with
      | .error failure => .error failure
      | .ok _ => .ok given
    else .ok given

/-- The files once the identifier of a record has been stored. Where there is no identifier, nothing is. -/
def filesAfter (source : IdentifierSource) (record : Json) (files : Files) : Files :=
  match source.due record files with
  | .error _ => files
  | .ok given => if source.stores record given then (source.store.put given.value.toList files).1 else files

variable {source : IdentifierSource} {record : Json} {files : Files} {given : Assigned}

theorem due_of_existing {existing : Json} (carried : source.existing? record = some existing) :
    source.due record files = .ok given ↔
      Record.overlong? existing = none ∧ given = ⟨String.ofList (Record.textOf existing), none⟩ := by
  simp only [due, carried]
  cases Record.overlong? existing with
  | some fault => simp
  | none => simp [eq_comm]

@[simp] theorem fresh_value (source : IdentifierSource) (value : String) : (source.fresh value).value = value := rfl

theorem fresh_empty (source : IdentifierSource) : source.fresh "" = ⟨"", none⟩ := rfl

theorem fresh_of_ne {value : String} (nonempty : value ≠ "") :
    source.fresh value = ⟨value, some ⟨source.recordKey, value⟩⟩ := by
  rw [fresh, if_neg nonempty]

theorem stores_of_existing {existing : Json} (carried : source.existing? record = some existing) (given : Assigned) :
    source.stores record given = true := by
  simp [stores, carried]

theorem stores_of_value (record : Json) (value : given.value ≠ "") : source.stores record given = true := by
  simp [stores, value]

theorem stores_iff_of_free (free : source.existing? record = none) :
    source.stores record given = true ↔ given.value ≠ "" := by
  rw [stores, free, Option.isSome_none, Bool.false_or, decide_eq_true_iff]

theorem not_stores (free : source.existing? record = none) (empty : given.value = "") :
    source.stores record given = false := by
  simp [stores, free, empty]

theorem not_stores_fresh (free : source.existing? record = none) : source.stores record (source.fresh "") = false :=
  not_stores free rfl

/-- What saving an identifier does to the end of a call that gives it. -/
theorem saved_runIn (store : IdentifierStore) (value : String) (given : Assigned) (level : LogLevel) (event : String)
    (values : Members) (world : World) :
    ∃ log, (do
        let _ ← store.save (.str value)
        IdentifierSource.log level event values
        return given : Act Assigned).runIn world =
      (match (store.put value.toList world.files).2 with
        | .error failure => .error failure
        | .ok _ => .ok given,
        { world with files := (store.put value.toList world.files).1, log }) := by
  obtain ⟨log, ran⟩ := store.save_runIn value world
  rw [runIn_bind, ran]
  cases (store.put value.toList world.files).2 with
  | error failure => exact ⟨log, rfl⟩
  | ok fault => exact ⟨_, rfl⟩

theorem next_runIn (source : IdentifierSource) (record : Json) (world : World) :
    ∃ log, (source.next record).runIn world =
      (source.assigned record world.files,
        { world with files := source.filesAfter record world.files, log }) := by
  unfold next filesAfter assigned due
  cases carried : source.existing? record with
  | some existing =>
    dsimp only
    cases Record.overlong? existing with
    | some fault => exact ⟨world.log, rfl⟩
    | none =>
      rw [Option.map_none, runIn_bind_ok (runIn_failOn_none world)]
      simp only [stores_of_existing carried, ↓reduceIte]
      exact saved_runIn source.store _ _ _ _ _ world
  | none =>
    dsimp only
    obtain ⟨log, loads⟩ := source.store.load_runIn world
    rw [runIn_bind, loads]
    cases source.store.loaded world.files with
    | error failure => exact ⟨log, rfl⟩
    | ok last =>
      dsimp only
      rw [runIn_bind, runIn_ofResult]
      cases source.successor last with
      | error fault => exact ⟨log, rfl⟩
      | ok value =>
        dsimp only [Except.mapError]
        by_cases empty : value = ""
        · subst empty
          simp only [↓reduceIte, not_stores_fresh carried]
          exact ⟨_, rfl⟩
        · have stored : source.stores record ⟨value, some ⟨source.recordKey, value⟩⟩ = true :=
            stores_of_value record empty
          simp only [empty, ↓reduceIte, fresh_of_ne empty, stored]
          exact saved_runIn source.store value _ _ _ _ { world with log }

theorem next_result (source : IdentifierSource) (record : Json) (world : World) :
    ((source.next record).runIn world).1 = source.assigned record world.files := by
  obtain ⟨log, ran⟩ := source.next_runIn record world
  rw [ran]

theorem next_files (source : IdentifierSource) (record : Json) (world : World) :
    ((source.next record).runIn world).2.files = source.filesAfter record world.files := by
  obtain ⟨log, ran⟩ := source.next_runIn record world
  rw [ran]

theorem due_cases (dues : source.due record files = .ok given) :
    (∃ existing, source.existing? record = some existing ∧ Record.overlong? existing = none ∧
        given = ⟨String.ofList (Record.textOf existing), none⟩) ∨
      (source.existing? record = none ∧ given = ⟨"", none⟩) ∨
      (source.existing? record = none ∧ given.value ≠ "" ∧
        given.patch = some ⟨source.recordKey, given.value⟩) := by
  unfold due at dues
  split at dues
  · rename_i existing carried
    split at dues
    · cases dues
    · rename_i shown
      cases dues
      exact .inl ⟨existing, carried, shown, rfl⟩
  · rename_i free
    split at dues
    · cases dues
    · split at dues
      · cases dues
      · rename_i value _
        cases dues
        by_cases empty : value = ""
        · subst empty
          exact .inr (.inl ⟨free, source.fresh_empty⟩)
        · exact .inr (.inr ⟨free, empty, if_neg empty⟩)

theorem assigned_eq_ok_iff :
    source.assigned record files = .ok given ↔
      source.due record files = .ok given ∧
        (source.stores record given = true → source.store.Takes files given.value.toList) := by
  rw [IdentifierStore.takes_iff]
  unfold assigned
  cases source.due record files with
  | error failure => simp
  | ok value =>
    dsimp only
    by_cases stored : source.stores record value = true
    · rw [if_pos stored]
      cases put : (source.store.put value.value.toList files).2 with
      | error failure =>
        refine iff_of_false nofun ?_
        rintro ⟨same, taken⟩
        cases same
        obtain ⟨fault, taken⟩ := taken stored
        rw [put] at taken
        cases taken
      | ok fault =>
        refine ⟨fun same => ?_, fun same => same.1⟩
        cases same
        exact ⟨rfl, fun _ => ⟨fault, put⟩⟩
    · rw [if_neg stored]
      refine ⟨fun same => ?_, fun same => same.1⟩
      cases same
      exact ⟨rfl, fun storing => absurd storing stored⟩

theorem patch_of_empty (dues : source.due record files = .ok given) (empty : given.value = "") :
    given.patch = none := by
  obtain ⟨existing, -, -, rfl⟩ | ⟨-, rfl⟩ | ⟨-, value, -⟩ := due_cases dues
  · rfl
  · rfl
  · exact absurd empty value

/-- The identifier after a stored text, as long as no number is too long. -/
def following (source : IdentifierSource) (last : String) : String :=
  match leadingInt? last.toList with
  | some n => String.ofList (intText (n + 1))
  | none => source.start.getD ""

theorem following_of_counted {last : String} {n : Int} (counted : leadingInt? last.toList = some n) :
    source.following last = String.ofList (intText (n + 1)) := by
  rw [following, counted]

theorem following_of_uncounted {last : String} (uncounted : leadingInt? last.toList = none) :
    source.following last = source.start.getD "" := by
  rw [following, uncounted]

theorem successor_eq_ok_iff {last value : String} :
    source.successor last = .ok value ↔ Countable last.toList ∧ source.following last = value := by
  unfold successor following
  rw [readLeadingInt_eq]
  by_cases short : (leadingDigits last.toList).2.length ≤ longestNumeral
  · rw [if_neg (by omega)]
    cases counted : leadingInt? last.toList with
    | none =>
      have countable : Countable last.toList := ⟨short, by simp [counted]⟩
      simp [countable, Bind.bind, Except.bind, pure, Except.pure]
    | some n =>
      by_cases showable : isShowableInt (n + 1) = true
      · have countable : Countable last.toList := ⟨short, by simpa [counted] using showable⟩
        simp [countable, showInt, showable, Bind.bind, Except.bind, pure, Except.pure]
      · have uncountable : ¬Countable last.toList := fun countable => showable (countable.showable n counted)
        simp [uncountable, showInt, showable, Bind.bind, Except.bind]
  · have uncountable : ¬Countable last.toList := fun countable => short countable.short
    rw [if_pos (by omega)]
    simp [uncountable, Bind.bind, Except.bind]

theorem due_of_readable (readable : source.store.Readable files) (free : source.existing? record = none) :
    source.due record files =
      match source.successor (source.store.textIn files) with
      | .error fault => .error (.numeral fault)
      | .ok value => .ok (source.fresh value) := by
  simp only [due, free, IdentifierStore.loaded_eq_ok_iff.mpr ⟨readable, rfl⟩]

theorem due_of_free (free : source.existing? record = none) :
    source.due record files = .ok given ↔
      source.store.Readable files ∧ Countable (source.store.textIn files).toList ∧
        given = source.fresh (source.following (source.store.textIn files)) := by
  constructor
  · intro dues
    have readable : source.store.Readable files := by
      unfold due at dues
      simp only [free] at dues
      split at dues
      · cases dues
      · rename_i last loaded
        exact (IdentifierStore.loaded_eq_ok_iff.mp loaded).1
    rw [due_of_readable readable free] at dues
    split at dues
    · cases dues
    · rename_i value follows
      obtain ⟨countable, same⟩ := successor_eq_ok_iff.mp follows
      cases dues
      exact ⟨readable, countable, by rw [same]⟩
  · rintro ⟨readable, countable, rfl⟩
    rw [due_of_readable readable free, successor_eq_ok_iff.mpr ⟨countable, rfl⟩]

/-- The next identifier depends on the digits of the last one only. -/
theorem successor_congr {last other : String} (same : leadingDigits other.toList = leadingDigits last.toList) :
    source.successor other = source.successor last := by
  unfold successor readLeadingInt
  rw [same]

theorem filesAfter_of_stores (dues : source.due record files = .ok given)
    (stored : source.stores record given = true) :
    source.filesAfter record files = (source.store.put given.value.toList files).1 := by
  simp only [filesAfter, dues, stored, ↓reduceIte]

theorem filesAfter_of_none (dues : source.due record files = .ok given) (free : source.existing? record = none)
    (empty : given.value = "") : source.filesAfter record files = files := by
  simp [filesAfter, dues, not_stores free empty]

theorem filesAfter_cases (source : IdentifierSource) (record : Json) (files : Files) :
    source.filesAfter record files = files ∨
      ∃ text, source.filesAfter record files = (source.store.put text files).1 := by
  unfold filesAfter
  split
  · exact .inl rfl
  · split
    · exact .inr ⟨_, rfl⟩
    · exact .inl rfl

theorem readable_filesAfter (record : Json) (readable : source.store.Readable files) :
    source.store.Readable (source.filesAfter record files) := by
  obtain same | ⟨text, same⟩ := source.filesAfter_cases record files
  · rwa [same]
  · rw [same]
    exact readable.put text

theorem writable_filesAfter (record : Json) (writable : source.store.Writable files) :
    source.store.Writable (source.filesAfter record files) := by
  obtain same | ⟨text, same⟩ := source.filesAfter_cases record files
  · rwa [same]
  · rw [same]
    exact writable.put text

theorem holds_filesAfter (writable : source.store.Writable files) (assigns : source.assigned record files = .ok given)
    (value : given.value ≠ "") : source.store.Holds (source.filesAfter record files) given.value := by
  obtain ⟨dues, taken⟩ := assigned_eq_ok_iff.mp assigns
  have stored : source.stores record given = true := stores_of_value record value
  have encodable : files.halves.fault? given.value.toList = none := by
    rcases (IdentifierStore.takes_iff_of_path writable.1).mp (taken stored) with encodable | unwritable
    · exact encodable
    · exact absurd writable unwritable
  rw [filesAfter_of_stores dues stored]
  exact writable.holds given.value encodable

theorem existing?_eq_some_iff {existing : Json} :
    source.existing? record = some existing ↔
      record.get? source.recordKey = some existing ∧ existing ≠ .null ∧ existing ≠ .str "" := by
  unfold existing?
  split
  · rename_i absent
    simp [absent]
  · rename_i null
    simp only [null, reduceCtorEq, Option.some.injEq, false_iff]
    exact fun found => found.2.1 found.1.symm
  · rename_i empty
    simp only [empty, reduceCtorEq, Option.some.injEq, false_iff]
    exact fun found => found.2.2 found.1.symm
  · rename_i value notNull notEmpty found
    rw [found, Option.some.injEq]
    constructor
    · rintro rfl
      exact ⟨rfl, notNull, notEmpty⟩
    · exact fun same => same.1

theorem existing?_insert (source : IdentifierSource) (members : Members) {value : String} (nonempty : value ≠ "") :
    source.existing? (.obj (Members.insert members source.recordKey (.str value))) = some (.str value) :=
  existing?_eq_some_iff.mpr ⟨Members.lookup_insert _ _ _, nofun, by simpa using nonempty⟩

theorem due_error {failure : Failure} (failed : source.due record files = .error failure) :
    (∃ fault, failure = .numeral fault) ∨ source.store.loaded files = .error failure := by
  unfold due at failed
  split at failed
  · split at failed
    · rename_i fault _
      cases failed
      exact .inl ⟨fault, rfl⟩
    · cases failed
  · split at failed
    · rename_i unloaded
      cases failed
      exact .inr unloaded
    · split at failed
      · rename_i fault _
        cases failed
        exact .inl ⟨fault, rfl⟩
      · cases failed

theorem assigned_error {failure : Failure} (failed : source.assigned record files = .error failure) :
    source.due record files = .error failure ∨ ∃ text, (source.store.put text files).2 = .error failure := by
  unfold assigned at failed
  split at failed
  · rename_i undue
    cases failed
    exact .inl undue
  · split at failed
    · split at failed
      · rename_i unstored
        cases failed
        exact .inr ⟨_, unstored⟩
      · cases failed
    · cases failed

/-- All that a call can fail with where the store can be read. -/
theorem assigned_error_of_readable (readable : source.store.Readable files) {failure : Failure}
    (failed : source.assigned record files = .error failure) :
    (∃ fault, failure = .numeral fault) ∨ ∃ fault, failure = .unencodable fault := by
  rcases assigned_error failed with undue | ⟨text, unstored⟩
  · rcases due_error undue with numeral | unloaded
    · exact .inl numeral
    · rw [IdentifierStore.loaded_eq_ok_iff.mpr ⟨readable, rfl⟩] at unloaded
      cases unloaded
  · rcases (source.store.puts_put text files).error unstored with (misplaced | refused) | unencodable
    · rw [Files.refusal?_parent readable.1] at misplaced
      cases misplaced
    · rw [readable.1] at refused
      cases refused
    · exact .inr unencodable

theorem assigned_failure {failure : Failure} (failed : source.assigned record files = .error failure) :
    failure = .nulInPath ∨ failure = .undecodable ∨ (∃ fault, failure = .unencodable fault) ∨
      ∃ fault, failure = .numeral fault := by
  have refuses : ∀ path, files.refusal? path = some failure →
      failure = .nulInPath ∨ failure = .undecodable ∨ (∃ fault, failure = .unencodable fault) ∨
        ∃ fault, failure = .numeral fault := by
    intro path refused
    rcases Files.refusal?_eq_some refused with nul | unencodable
    · exact .inl nul
    · exact .inr (.inr (.inl unencodable))
  rcases assigned_error failed with undue | ⟨text, unstored⟩
  · rcases due_error undue with numeral | unloaded
    · exact .inr (.inr (.inr numeral))
    · rcases IdentifierStore.loaded_error unloaded with refused | undecodable
      · exact refuses _ refused
      · exact .inr (.inl undecodable)
  · rcases (source.store.puts_put text files).error unstored with (misplaced | refused) | unencodable
    · exact refuses _ misplaced
    · exact refuses _ refused
    · exact .inr (.inr (.inl unencodable))

/-- Once a record has been given its identifier, that is the one due. -/
theorem due_again {members : Members} (dues : source.due (.obj members) files = .ok given) :
    source.due (.obj (members.patched given.patch)) (source.filesAfter (.obj members) files) =
      .ok ⟨given.value, none⟩ := by
  obtain ⟨existing, carried, shown, rfl⟩ | ⟨free, rfl⟩ | ⟨-, value, patch⟩ := due_cases dues
  · exact (due_of_existing carried).mpr ⟨shown, rfl⟩
  · rw [Members.patched, filesAfter_of_none dues free rfl, dues]
  · rw [patch, Members.patched]
    refine (due_of_existing (existing?_insert source members value)).mpr ⟨rfl, ?_⟩
    simp [Record.textOf, Record.scalarText, Json.plain]

/-- Once a record has been given its identifier, a further call gives that again. -/
theorem assigned_again {members : Members} (assigns : source.assigned (.obj members) files = .ok given) :
    source.assigned (.obj (members.patched given.patch)) (source.filesAfter (.obj members) files) =
      .ok ⟨given.value, none⟩ := by
  obtain ⟨dues, taken⟩ := assigned_eq_ok_iff.mp assigns
  refine assigned_eq_ok_iff.mpr ⟨due_again dues, fun stored => ?_⟩
  cases storing : source.stores (.obj members) given with
  | true =>
    rw [filesAfter_of_stores dues storing]
    exact (taken storing).again
  | false =>
    have unstored : (source.existing? (.obj members)).isSome = false ∧ given.value = "" := by
      simpa [stores] using storing
    have unpatched := patch_of_empty dues unstored.2
    simp [unpatched, Members.patched, stores, unstored.1, unstored.2] at stored

/-- A record and the identifier that it has been given are in step. -/
theorem carried_patched {members : Members} (dues : source.due (.obj members) files = .ok given)
    (value : given.value ≠ "") :
    ∃ carried, (members.patched given.patch).lookup source.recordKey = some carried ∧
      String.ofList (Record.textOf carried) = given.value := by
  obtain ⟨existing, carried, -, rfl⟩ | ⟨-, rfl⟩ | ⟨-, -, patch⟩ := due_cases dues
  · exact ⟨existing, (existing?_eq_some_iff.mp carried).1, rfl⟩
  · exact absurd rfl value
  · rw [patch]
    exact ⟨.str given.value, Members.lookup_insert _ _ _,
      by simp [Record.textOf, Record.scalarText, Json.plain]⟩

end IdentifierSource
end FormFill
