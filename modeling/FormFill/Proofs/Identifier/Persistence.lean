import FormFill.Proofs.Identifier.Next
import FormFill.Proofs.Record.Rendering

namespace FormFill

namespace IdentifierStore

variable {store : IdentifierStore} {files : Files}

/-- The bytes of the file of the store, if there is one. -/
def content? (store : IdentifierStore) (files : Files) : Option ByteArray :=
  (files.read store.path).toOption

theorem content?_eq_some_iff {content : ByteArray} :
    store.content? files = some content ↔ files.read store.path = .ok content := by
  unfold content?
  cases files.read store.path <;> simp [Except.toOption]

/-- Where a text cannot be stored, and that is not raised, what stands there stays as it is. -/
theorem content?_put_of_not_writable (unwritable : ¬store.Writable files) {text : List Char} {fault : Option FileFault}
    (taken : (store.put text files).2 = .ok fault) :
    store.content? (store.put text files).1 = store.content? files := by
  have puts := store.puts_put text files
  cases fault with
  | none => exact absurd (.of_stored text taken) unwritable
  | some fault =>
    cases fixed : files.readOnly with
    | true => rw [puts.unchanged fixed]
    | false =>
      obtain ⟨cause, missing⟩ := puts.unread fixed taken
      obtain ⟨earlier, unread⟩ := puts.unread_before fixed taken
      rw [content?, content?, missing, unread]
      rfl

end IdentifierStore

namespace IdentifierSource

open Act

variable {source : IdentifierSource} {record : Json} {files : Files} {world after : World} {given : Assigned}

/-- What a record may bring along that is shown as nothing: a list of at most one item. -/
theorem list_of_existing {existing : Json} (carried : source.existing? record = some existing)
    (nothing : Record.textOf existing = []) :
    ∃ items, existing = .arr items ∧ (items = [] ∨ ∃ item, items = [item] ∧ Record.itemText item = []) := by
  obtain ⟨-, notNull, notEmpty⟩ := existing?_eq_some_iff.mp carried
  rcases (Record.textOf_eq_nil_iff existing).mp nothing with null | empty | list
  · exact absurd null notNull
  · exact absurd empty notEmpty
  · exact list

theorem content?_filesAfter_iff (assigns : source.assigned record files = .ok given) (empty : given.value = "") :
    source.store.content? (source.filesAfter record files) = source.store.content? files ↔
      source.existing? record = none ∨ ¬source.store.Writable files ∨ source.store.Holds files "" := by
  obtain ⟨dues, taken⟩ := assigned_eq_ok_iff.mp assigns
  cases carried : source.existing? record with
  | none =>
    rw [filesAfter_of_none dues carried empty]
    simp
  | some existing =>
    have stored := stores_of_existing carried given
    rw [filesAfter_of_stores dues stored, empty]
    by_cases writable : source.store.Writable files
    · have holds : source.store.Holds (source.store.put [] files).1 "" := writable.holds "" rfl
      have emptied := IdentifierStore.content?_eq_some_iff.mpr holds
      rw [String.toList_empty, emptied, eq_comm, IdentifierStore.content?_eq_some_iff]
      simp [writable, IdentifierStore.Holds]
    · obtain ⟨fault, told⟩ := IdentifierStore.takes_iff.mp (taken stored)
      rw [empty] at told
      rw [IdentifierStore.content?_put_of_not_writable writable told]
      simp [writable]

/-- A call that gives out nothing leaves all files as they are if the record brings nothing along. A list
    that is shown as nothing empties the store. -/
theorem next_keeps_iff (ran : (source.next record).runIn world = (.ok given, after)) (empty : given.value = "") :
    (source.existing? record = none → after.files = world.files) ∧
    (∀ existing, source.existing? record = some existing →
      (∃ items, existing = .arr items ∧ (items = [] ∨ ∃ item, items = [item] ∧ Record.itemText item = [])) ∧
        (source.store.Writable world.files → source.store.Holds after.files "")) ∧
    (source.store.content? after.files = source.store.content? world.files ↔
      source.existing? record = none ∨ ¬source.store.Writable world.files ∨
        source.store.Holds world.files "") := by
  have assigns : source.assigned record world.files = .ok given := by
    rw [← next_result, ran]
  have files : after.files = source.filesAfter record world.files := by
    rw [← next_files, ran]
  obtain ⟨dues, -⟩ := assigned_eq_ok_iff.mp assigns
  rw [files]
  refine ⟨fun free => filesAfter_of_none dues free empty, ?_, content?_filesAfter_iff assigns empty⟩
  intro existing carried
  have nothing : Record.textOf existing = [] := by
    obtain ⟨-, same⟩ := (due_of_existing carried).mp dues
    rw [same] at empty
    simpa using empty
  refine ⟨list_of_existing carried nothing, fun writable => ?_⟩
  rw [filesAfter_of_stores dues (stores_of_existing carried given), empty]
  exact writable.holds "" rfl

theorem next_keeps_iff_null :
    let source : IdentifierSource := ⟨⟨.below ["last.txt"]⟩, some "", "id"⟩
    let world : World := .untouched .blank { occupants := [(["last.txt"], .file "none yet".toUTF8)] }
    ∃ after, (source.next (.obj [("id", .null)])).runIn world = (.ok ⟨"", none⟩, after) ∧
      after.files = world.files := by
  intro source world
  obtain ⟨after, ran⟩ : ∃ after, (source.next (.obj [("id", .null)])).runIn world = (.ok ⟨"", none⟩, after) := by
    subst source world
    exact ⟨_, rfl⟩
  exact ⟨after, ran, (next_keeps_iff ran rfl).1 rfl⟩

/-- An empty list is given out as nothing, yet it takes the place of the stored number. -/
theorem next_empties_store :
    let source : IdentifierSource := ⟨⟨.below ["last.txt"]⟩, none, "id"⟩
    let world : World := .untouched .blank { occupants := [(["last.txt"], .file "7".toUTF8)] }
    ∃ after, (source.next (.obj [("id", .arr [])])).runIn world = (.ok ⟨"", none⟩, after) ∧
      source.store.Holds world.files "7" ∧ source.store.Holds after.files "" ∧
      source.store.content? after.files ≠ source.store.content? world.files := by
  intro source world
  subst source world
  refine ⟨_, rfl, rfl, rfl, ?_⟩
  decide

theorem assigned_ok_iff_of_existing {existing : Json} (carried : source.existing? record = some existing) :
    (∃ given, source.assigned record files = .ok given) ↔
      Record.overlong? existing = none ∧ source.store.Takes files (Record.textOf existing) := by
  simp only [assigned_eq_ok_iff, due_of_existing carried, stores_of_existing carried, forall_const]
  constructor
  · rintro ⟨given, ⟨shown, rfl⟩, taken⟩
    exact ⟨shown, by simpa using taken⟩
  · rintro ⟨shown, taken⟩
    exact ⟨_, ⟨shown, rfl⟩, by simpa using taken⟩

theorem assigned_ok_iff_of_free (free : source.existing? record = none) :
    (∃ given, source.assigned record files = .ok given) ↔
      source.store.Readable files ∧ Countable (source.store.textIn files).toList ∧
        (leadingInt? (source.store.textIn files).toList = none →
          source.start.getD "" = "" ∨ source.store.Takes files (source.start.getD "").toList) := by
  constructor
  · rintro ⟨given, assigns⟩
    obtain ⟨dues, taken⟩ := assigned_eq_ok_iff.mp assigns
    obtain ⟨readable, countable, rfl⟩ := (due_of_free free).mp dues
    refine ⟨readable, countable, fun uncounted => or_iff_not_imp_left.mpr fun seeded => ?_⟩
    rw [following_of_uncounted uncounted] at taken
    exact taken (stores_of_value record seeded)
  · rintro ⟨readable, countable, seed⟩
    have dues := (due_of_free free).mpr ⟨readable, countable, rfl⟩
    refine ⟨_, assigned_eq_ok_iff.mpr ⟨dues, fun stored => ?_⟩⟩
    have value : source.following (source.store.textIn files) ≠ "" := (stores_iff_of_free free).mp stored
    rw [fresh_value]
    cases counted : leadingInt? (source.store.textIn files).toList with
    | some n =>
      rw [following_of_counted counted, String.toList_ofList]
      exact .encodable readable.1 (fault?_intText _ (n + 1))
    | none =>
      rw [following_of_uncounted counted] at value ⊢
      exact (seed counted).resolve_left value

/-- Nothing is in the way of an identifier for a record. One that the record brings along can be shown and is taken by
    the store; for any other, the store can be read, no number is too long, and the start value, where that is due, is
    empty or taken. -/
def Usable (source : IdentifierSource) (record : Json) (files : Files) : Prop :=
  match source.existing? record with
  | some existing => Record.overlong? existing = none ∧ source.store.Takes files (Record.textOf existing)
  | none =>
    source.store.Readable files ∧ Countable (source.store.textIn files).toList ∧
      (leadingInt? (source.store.textIn files).toList = none →
        source.start.getD "" = "" ∨ source.store.Takes files (source.start.getD "").toList)

theorem assigned_ok_iff (source : IdentifierSource) (record : Json) (files : Files) :
    (∃ given, source.assigned record files = .ok given) ↔ source.Usable record files := by
  unfold Usable
  cases carried : source.existing? record with
  | some existing => exact assigned_ok_iff_of_existing carried
  | none => exact assigned_ok_iff_of_free carried

/-- What is given out depends on nothing but the record and the stored text. -/
theorem assigned_determined {other : Files} {later : Assigned}
    (same : source.store.textIn other = source.store.textIn files)
    (assigns : source.assigned record files = .ok given) (again : source.assigned record other = .ok later) :
    later = given := by
  have dues := (assigned_eq_ok_iff.mp assigns).1
  have duesAgain := (assigned_eq_ok_iff.mp again).1
  cases carried : source.existing? record with
  | some existing =>
    rw [((due_of_existing carried).mp dues).2, ((due_of_existing carried).mp duesAgain).2]
  | none =>
    rw [((due_of_free carried).mp dues).2.2, ((due_of_free carried).mp duesAgain).2.2, same]

/-- A call gives a result for a record that brings its identifier along exactly if that can be shown and is taken
    by the store, and for any other exactly if the store can be read, no number is too long, and the start value,
    where that is due, is empty or taken. The result depends on nothing but the record and the stored text, which is
    empty where none can be read. A store that cannot be written takes everything. -/
theorem next_returns_iff (source : IdentifierSource) (record : Json) (world : World) :
    (∀ existing, source.existing? record = some existing →
      ((∃ given, ((source.next record).runIn world).1 = .ok given) ↔
        Record.overlong? existing = none ∧ source.store.Takes world.files (Record.textOf existing))) ∧
    (source.existing? record = none →
      ((∃ given, ((source.next record).runIn world).1 = .ok given) ↔
        source.store.Readable world.files ∧ Countable (source.store.textIn world.files).toList ∧
          (leadingInt? (source.store.textIn world.files).toList = none →
            source.start.getD "" = "" ∨ source.store.Takes world.files (source.start.getD "").toList))) ∧
    (∀ failure, ((source.next record).runIn world).1 = .error failure →
      failure = .nulInPath ∨ failure = .undecodable ∨ (∃ fault, failure = .unencodable fault) ∨
        ∃ fault, failure = .numeral fault) ∧
    (∀ other : World, source.store.textIn other.files = source.store.textIn world.files → ∀ given later,
      ((source.next record).runIn world).1 = .ok given → ((source.next record).runIn other).1 = .ok later →
        later = given) ∧
    (world.files.refusal? source.store.path = none → ∀ text,
      (source.store.Takes world.files text ↔
        world.files.halves.fault? text = none ∨ ¬source.store.Writable world.files)) := by
  simp only [next_result]
  exact ⟨fun existing carried => assigned_ok_iff_of_existing carried, assigned_ok_iff_of_free,
    fun failure => assigned_failure, fun other same given later => assigned_determined same,
    fun path text => IdentifierStore.takes_iff_of_path path⟩

/-- A stored byte that is not text breaks the call off, though there is a start value to fall back on. -/
theorem next_breaks_off :
    let source : IdentifierSource := ⟨⟨.below ["last.txt"]⟩, some "5", "id"⟩
    let world : World := .untouched .blank { occupants := [(["last.txt"], .file ⟨#[0xff]⟩)] }
    (source.next (.obj [])).runIn world = (.error .undecodable, world) ∧
      ((source.next (.obj [])).runIn { world with files := .empty }).1 = .ok ⟨"5", some ⟨"id", "5"⟩⟩ :=
  by
  intro source world
  subst source world
  exact ⟨rfl, rfl⟩

end IdentifierSource
end FormFill
