import FormFill.Proofs.Act
import FormFill.Proofs.Files.Writing
import FormFill.Proofs.Identifier.Naming

namespace FormFill

theorem decodeText_toUTF8 (text : String) :
    decodeText text.toUTF8 = some (Text.unifyLineEnds text.toList) := by
  have decoded : String.fromUTF8? text.toUTF8 = some text := by
    simp only [String.fromUTF8?, String.toUTF8_eq_toByteArray, dif_pos text.isValidUTF8]
    rfl
  rw [decodeText, decoded, Option.map_some]

namespace Files

variable {files middle after : Files}

theorem OneSystem.refusal? (same : files.OneSystem middle) (path : Path) :
    middle.refusal? path = files.refusal? path := by
  rw [Files.refusal?, same.halves, ← Files.refusal?]

/-- A file that has been opened for writing holds the text if that has a UTF-8 form, and else nothing. -/
theorem writeText_of_placeOf {path : Path} {place : List String} (text : List Char)
    (named : files.placeOf path = .ok place) (notFolder : files.at? place ≠ some .folder)
    (free : files.readOnly = false) :
    files.writeText path text =
      match files.halves.fault? text with
      | none => (files.place place (.file (String.ofList text).toUTF8), .ok none)
      | some fault => (files.place place (.file .empty), .error fault) := by
  unfold writeText
  cases files.halves.fault? text with
  | none => simp only [write_of_placeOf _ named notFolder free]
  | some fault => simp only [write_of_placeOf _ named notFolder free]

end Files

namespace IdentifierStore

open Act

/-- Nothing that can be read from the place of the store fails to be text. -/
def Readable (store : IdentifierStore) (files : Files) : Prop :=
  files.refusal? store.path = none ∧ files.readText store.path ≠ .error .undecodable

/-- Any text that has a UTF-8 form can be stored. -/
def Writable (store : IdentifierStore) (files : Files) : Prop :=
  files.refusal? store.path = none ∧
    ∀ text, files.halves.fault? text = none → (store.put text files).2 = .ok none

def Holds (store : IdentifierStore) (files : Files) (text : String) : Prop :=
  files.read store.path = .ok text.toUTF8

/-- The stored text without surrounding blanks, empty if there is none. -/
def textIn (store : IdentifierStore) (files : Files) : String :=
  match files.readText store.path with
  | .ok text => String.ofList (Text.strip text)
  | .error _ => ""

def loaded (store : IdentifierStore) (files : Files) : Except Failure String :=
  match files.refusal? store.path with
  | some failure => .error failure
  | none =>
    match files.readText store.path with
    | .error .undecodable => .error .undecodable
    | _ => .ok (store.textIn files)

variable {store : IdentifierStore} {files : Files}

theorem loaded_eq_ok_iff {last : String} :
    store.loaded files = .ok last ↔ store.Readable files ∧ store.textIn files = last := by
  unfold loaded Readable
  cases files.refusal? store.path with
  | some failure => simp
  | none =>
    cases found : files.readText store.path with
    | ok text => simp
    | error fault => cases fault <;> simp

theorem loaded_error {failure : Failure} (failed : store.loaded files = .error failure) :
    files.refusal? store.path = some failure ∨ failure = .undecodable := by
  unfold loaded at failed
  split at failed
  · rename_i refused
    cases failed
    exact .inl refused
  · split at failed
    · cases failed
      exact .inr rfl
    · cases failed

theorem load_runIn (store : IdentifierStore) (world : World) :
    ∃ log, store.load.runIn world = (store.loaded world.files, { world with log }) := by
  unfold load loaded
  rw [runIn_bind_ok (runIn_get world)]
  dsimp only
  cases refused : world.files.refusal? store.path with
  | some failure => exact ⟨world.log, rfl⟩
  | none =>
    rw [runIn_bind_ok (runIn_failOn_none world)]
    cases found : world.files.readText store.path with
    | ok text => exact ⟨world.log, by simp [textIn, found]⟩
    | error fault =>
      cases fault with
      | undecodable => exact ⟨world.log, by simp⟩
      | file fault =>
        dsimp only
        split
        · exact ⟨_, by simp [warn, textIn, found]; rfl⟩
        · exact ⟨world.log, by simp [textIn, found]⟩

/-- What a save tells of what has become of its text. -/
def told : Except Failure (Option FileFault) → Except Failure Bool
  | .ok fault => .ok fault.isNone
  | .error failure => .error failure

theorem save_runIn (store : IdentifierStore) (text : String) (world : World) :
    ∃ log, (store.save (.str text)).runIn world =
      (told (store.put text.toList world.files).2,
        { world with files := (store.put text.toList world.files).1, log }) := by
  unfold save
  simp only [runIn_bind, runIn_get, runIn_modify, Json.plain]
  rcases store.put text.toList world.files with ⟨after, failure | (_ | fault)⟩
  · exact ⟨world.log, rfl⟩
  · exact ⟨world.log, rfl⟩
  · exact ⟨_, rfl⟩

/-- Each way in which storing a text may end, with the files that it leaves. -/
inductive Puts (store : IdentifierStore) (text : List Char) (files : Files) :
    Files × Except Failure (Option FileFault) → Prop where
  | misplaced {failure : Failure} (refused : files.refusal? store.path.parent = some failure) :
      Puts store text files (files, .error failure)
  | unfolded {middle : Files} {fault : FileFault} (parent : files.refusal? store.path.parent = none)
      (ensured : files.ensureFolders store.path.parent = (middle, some fault)) :
      Puts store text files (middle, .ok (some fault))
  | refused {middle : Files} {failure : Failure} (ensured : files.ensureFolders store.path.parent = (middle, none))
      (refused : files.refusal? store.path = some failure) : Puts store text files (middle, .error failure)
  | unwritten {middle : Files} {content : ByteArray} {fault : FileFault} (path : files.refusal? store.path = none)
      (ensured : files.ensureFolders store.path.parent = (middle, none))
      (failed : middle.write store.path content = .error fault) : Puts store text files (middle, .ok (some fault))
  | stored {middle after : Files} (path : files.refusal? store.path = none)
      (ensured : files.ensureFolders store.path.parent = (middle, none)) (encodable : files.halves.fault? text = none)
      (written : middle.write store.path (String.ofList text).toUTF8 = .ok after) :
      Puts store text files (after, .ok none)
  | emptied {middle after : Files} {fault : Text.EncodeFault} (path : files.refusal? store.path = none)
      (ensured : files.ensureFolders store.path.parent = (middle, none))
      (unencodable : files.halves.fault? text = some fault) (written : middle.write store.path .empty = .ok after) :
      Puts store text files (after, .error (.unencodable fault))

theorem puts_put (store : IdentifierStore) (text : List Char) (files : Files) :
    store.Puts text files (store.put text files) := by
  unfold put
  cases misplaced : files.refusal? store.path.parent with
  | some failure => exact .misplaced misplaced
  | none =>
    rcases ensured : files.ensureFolders store.path.parent with ⟨middle, _ | fault⟩
    · have system := Files.OneSystem.of_ensured ensured
      simp only [system.refusal?, Files.writeText]
      cases refused : files.refusal? store.path with
      | some failure => exact .refused ensured refused
      | none =>
        cases encoded : middle.halves.fault? text with
        | none =>
          cases written : middle.write store.path (String.ofList text).toUTF8 with
          | error fault => exact .unwritten refused ensured written
          | ok after => exact .stored refused ensured (system.halves ▸ encoded) written
        | some unencodable =>
          cases written : middle.write store.path .empty with
          | error fault => exact .unwritten refused ensured written
          | ok after => exact .emptied refused ensured (system.halves ▸ encoded) written
    · exact .unfolded misplaced ensured

section Puts

variable {text : List Char} {result : Files × Except Failure (Option FileFault)}

theorem Puts.error (puts : store.Puts text files result) {failure : Failure} (failed : result.2 = .error failure) :
    (files.refusal? store.path.parent = some failure ∨ files.refusal? store.path = some failure) ∨
      ∃ fault, failure = .unencodable fault := by
  cases puts with
  | misplaced refused =>
    cases failed
    exact .inl (.inl refused)
  | refused _ refused =>
    cases failed
    exact .inl (.inr refused)
  | emptied =>
    cases failed
    exact .inr ⟨_, rfl⟩
  | _ => cases failed

theorem Puts.written (puts : store.Puts text files result) (stored : result.2 = .ok none) :
    ∃ middle, files.refusal? store.path = none ∧ files.ensureFolders store.path.parent = (middle, none) ∧
      middle.write store.path (String.ofList text).toUTF8 = .ok result.1 := by
  cases puts with
  | stored path ensured _ written => exact ⟨_, path, ensured, written⟩
  | _ => cases stored

theorem Puts.oneSystem (puts : store.Puts text files result) : files.OneSystem result.1 := by
  cases puts with
  | misplaced => exact .refl files
  | unfolded _ ensured | refused ensured | unwritten _ ensured => exact .of_ensured ensured
  | stored _ ensured _ written | emptied _ ensured _ written =>
    exact (Files.OneSystem.of_ensured ensured).trans (Files.write_oneSystem written)

end Puts

theorem put_oneSystem (store : IdentifierStore) (text : List Char) (files : Files) :
    files.OneSystem (store.put text files).1 :=
  (store.puts_put text files).oneSystem

theorem put_holds {text : List Char} (stored : (store.put text files).2 = .ok none) :
    store.Holds (store.put text files).1 (String.ofList text) := by
  obtain ⟨middle, -, -, written⟩ := (store.puts_put text files).written stored
  exact Files.read_of_write written

theorem Writable.holds (writable : store.Writable files) (text : String)
    (encodable : files.halves.fault? text.toList = none) :
    store.Holds (store.put text.toList files).1 text := by
  simpa using put_holds (writable.2 text.toList encodable)

theorem Holds.readText {text : String} (holds : store.Holds files text) :
    files.readText store.path = .ok (Text.unifyLineEnds text.toList) := by
  have content : files.read store.path = .ok text.toUTF8 := holds
  rw [Files.readText, content]
  simp only [decodeText_toUTF8]

theorem Holds.readable {text : String} (path : files.refusal? store.path = none) (holds : store.Holds files text) :
    store.Readable files := by
  refine ⟨path, ?_⟩
  rw [holds.readText]
  exact nofun

theorem Holds.textIn {text : String} (holds : store.Holds files text) :
    store.textIn files = String.ofList (Text.strip (Text.unifyLineEnds text.toList)) := by
  rw [IdentifierStore.textIn, holds.readText]

/-- The file of the store can be opened for writing, once missing folders are there. -/
structure Opens (store : IdentifierStore) (files middle : Files) (place : List String) : Prop where
  parent : files.refusal? store.path.parent = none
  path : files.refusal? store.path = none
  ensured : files.ensureFolders store.path.parent = (middle, none)
  named : middle.placeOf store.path = .ok place
  notFolder : middle.at? place ≠ some .folder
  free : files.readOnly = false

theorem Opens.put_eq {middle : Files} {place : List String} (opens : store.Opens files middle place)
    (text : List Char) :
    store.put text files =
      match files.halves.fault? text with
      | none => (middle.place place (.file (String.ofList text).toUTF8), .ok none)
      | some fault => (middle.place place (.file .empty), .error (.unencodable fault)) := by
  have system := Files.OneSystem.of_ensured opens.ensured
  simp only [put, opens.parent, opens.ensured, system.refusal?, opens.path,
    Files.writeText_of_placeOf text opens.named opens.notFolder (system.readOnly.trans opens.free)]
  rw [system.halves]
  cases files.halves.fault? text <;> rfl

theorem Opens.writable {middle : Files} {place : List String} (opens : store.Opens files middle place) :
    store.Writable files := by
  refine ⟨opens.path, fun text encodable => ?_⟩
  rw [opens.put_eq, encodable]

theorem opens_of_written {middle after : Files} {content : ByteArray} (path : files.refusal? store.path = none)
    (ensured : files.ensureFolders store.path.parent = (middle, none))
    (written : middle.write store.path content = .ok after) : ∃ place, store.Opens files middle place := by
  obtain ⟨place, named, notFolder, free, -⟩ := Files.write_eq_ok written
  have system := Files.OneSystem.of_ensured ensured
  exact ⟨place, Files.refusal?_parent path, path, ensured, named, notFolder, system.readOnly.symm.trans free⟩

theorem opens_of_stored {text : List Char} (stored : (store.put text files).2 = .ok none) :
    ∃ middle place, store.Opens files middle place := by
  obtain ⟨middle, path, ensured, written⟩ := (store.puts_put text files).written stored
  obtain ⟨place, opens⟩ := opens_of_written path ensured written
  exact ⟨middle, place, opens⟩

/-- Whether a text can be stored does not depend on the text, as long as it has a UTF-8 form. -/
theorem Writable.of_stored (text : List Char) (stored : (store.put text files).2 = .ok none) :
    store.Writable files := by
  obtain ⟨middle, place, opens⟩ := opens_of_stored stored
  exact opens.writable

theorem Writable.opens (writable : store.Writable files) : ∃ middle place, store.Opens files middle place :=
  opens_of_stored (writable.2 [] rfl)

theorem Opens.read {middle : Files} {place : List String} (opens : store.Opens files middle place)
    (content : ByteArray) : (middle.place place (.file content)).read store.path = .ok content := by
  have named := Files.placeOf_place (.file content) opens.notFolder opens.named
  have standing := Files.at_place_self middle (.file content) (Files.free_of_not_folder opens.notFolder)
  simp [Files.read, Bind.bind, Except.bind, named, standing]

/-- A text without UTF-8 form leaves nothing in a store that can be written. -/
theorem Writable.emptied (writable : store.Writable files) {text : List Char} {fault : Text.EncodeFault}
    (unencodable : files.halves.fault? text = some fault) :
    (store.put text files).2 = .error (.unencodable fault) ∧ store.Holds (store.put text files).1 "" := by
  cases result : store.put text files with
  | mk after ended =>
    obtain ⟨middle, place, opens⟩ := writable.opens
    have emptied := opens.put_eq text
    rw [result, unencodable] at emptied
    cases emptied
    exact ⟨rfl, opens.read .empty⟩

/-- A file that has been opened for writing stays so, and something can be read from it. -/
theorem Opens.again {middle : Files} {place : List String} (opens : store.Opens files middle place)
    (content : ByteArray) :
    store.Opens (middle.place place (.file content)) (middle.place place (.file content)) place := by
  have system := Files.OneSystem.of_ensured opens.ensured
  have whole := system.trans (Files.place_oneSystem middle place (.file content))
  have named := Files.placeOf_place (.file content) opens.notFolder opens.named
  have standing := Files.at_place_self middle (.file content) (Files.free_of_not_folder opens.notFolder)
  exact {
    parent := (whole.refusal? _).trans opens.parent
    path := (whole.refusal? _).trans opens.path
    ensured := Files.ensureFolders_of_read (opens.read content)
    named
    notFolder := by simp [standing]
    free := whole.readOnly.trans opens.free }

theorem Writable.put (writable : store.Writable files) (text : List Char) :
    store.Writable (store.put text files).1 := by
  obtain ⟨middle, place, opens⟩ := writable.opens
  rw [opens.put_eq]
  cases files.halves.fault? text with
  | none => exact (opens.again _).writable
  | some fault => exact (opens.again _).writable

/-- Each way in which a text is stored or the system does not let it be. Nothing is raised then. -/
inductive Takes (store : IdentifierStore) (files : Files) (text : List Char) : Prop where
  | unfolded (parent : files.refusal? store.path.parent = none)
      (failed : (files.ensureFolders store.path.parent).2 ≠ none)
  | unwritten (path : files.refusal? store.path = none)
      (failed : ∀ content, ∃ fault, (files.ensureFolders store.path.parent).1.write store.path content = .error fault)
  | encodable (path : files.refusal? store.path = none) (encodable : files.halves.fault? text = none)

theorem Puts.taken_iff {text : List Char} {result : Files × Except Failure (Option FileFault)}
    (puts : store.Puts text files result) : store.Takes files text ↔ ∃ fault, result.2 = .ok fault := by
  cases puts with
  | misplaced refused =>
    simp only [reduceCtorEq, exists_false, iff_false]
    rintro (⟨parent, -⟩ | ⟨path, -⟩ | ⟨path, -⟩)
    · simp [refused] at parent
    · simp [Files.refusal?_parent path] at refused
    · simp [Files.refusal?_parent path] at refused
  | unfolded parent ensured => exact ⟨fun _ => ⟨_, rfl⟩, fun _ => .unfolded parent (by simp [ensured])⟩
  | refused ensured refused =>
    simp only [reduceCtorEq, exists_false, iff_false]
    rintro (⟨-, failed⟩ | ⟨path, -⟩ | ⟨path, -⟩)
    · simp [ensured] at failed
    · simp [refused] at path
    · simp [refused] at path
  | unwritten path ensured unwritten =>
    refine ⟨fun _ => ⟨_, rfl⟩, fun _ => .unwritten path fun content => ?_⟩
    rw [ensured]
    exact ⟨_, Files.write_error_congr unwritten content⟩
  | stored path _ encodable => exact ⟨fun _ => ⟨_, rfl⟩, fun _ => .encodable path encodable⟩
  | emptied _ ensured unencodable written =>
    simp only [reduceCtorEq, exists_false, iff_false]
    rintro (⟨-, failed⟩ | ⟨-, failed⟩ | ⟨-, encodable⟩)
    · simp [ensured] at failed
    · obtain ⟨fault, unwritten⟩ := failed .empty
      simp [ensured, written] at unwritten
    · simp [unencodable] at encodable

theorem takes_iff {text : List Char} : store.Takes files text ↔ ∃ fault, (store.put text files).2 = .ok fault :=
  (store.puts_put text files).taken_iff

/-- A path that can be one leaves two reasons why nothing is raised. -/
theorem takes_iff_of_path (path : files.refusal? store.path = none) {text : List Char} :
    store.Takes files text ↔ files.halves.fault? text = none ∨ ¬ store.Writable files := by
  constructor
  · intro takes
    obtain ⟨fault, taken⟩ := takes_iff.mp takes
    refine or_iff_not_imp_right.mpr fun writable => ?_
    obtain ⟨middle, place, opens⟩ := (not_not.mp writable).opens
    rw [opens.put_eq] at taken
    cases encoded : files.halves.fault? text with
    | none => rfl
    | some unencodable =>
      rw [encoded] at taken
      cases taken
  · rintro (encodable | unwritable)
    · exact .encodable path encodable
    · cases folders : files.ensureFolders store.path.parent with
      | mk middle failed =>
        cases failed with
        | some fault => exact .unfolded (Files.refusal?_parent path) (by simp [folders])
        | none =>
          refine .unwritten path fun content => ?_
          rw [folders]
          cases written : middle.write store.path content with
          | error fault => exact ⟨fault, rfl⟩
          | ok after =>
            obtain ⟨place, opens⟩ := opens_of_written path folders written
            exact absurd opens.writable unwritable

theorem Puts.again {text : List Char} {result : Files × Except Failure (Option FileFault)}
    (puts : store.Puts text files result) {fault : Option FileFault} (taken : result.2 = .ok fault) :
    store.Takes result.1 text := by
  have system := puts.oneSystem
  cases puts with
  | unfolded parent ensured => exact .unfolded (system.refusal? _ ▸ parent) (Files.ensureFoldersUp_again ensured)
  | unwritten path ensured unwritten =>
    refine .unwritten (system.refusal? _ ▸ path) fun content => ?_
    rw [Files.ensureFolders, Files.ensureFoldersUp_of_ensured ensured]
    exact ⟨_, Files.write_error_congr unwritten content⟩
  | stored path _ encodable => exact .encodable (system.refusal? _ ▸ path) (system.halves ▸ encodable)
  | _ => cases taken

/-- A text that is taken once is taken again. -/
theorem Takes.again {text : List Char} (takes : store.Takes files text) :
    store.Takes (store.put text files).1 text := by
  obtain ⟨fault, taken⟩ := takes_iff.mp takes
  exact (store.puts_put text files).again taken

theorem Readable.of_read_error (path : files.refusal? store.path = none) {fault : FileFault}
    (missing : files.read store.path = .error fault) : store.Readable files := by
  refine ⟨path, ?_⟩
  rw [Files.readText, missing]
  exact nofun

/-- Some folders may be new, but the one of the store is not there, so neither is its file. -/
theorem read_of_unfolded {middle : Files} {fault : FileFault}
    (ensured : files.ensureFolders store.path.parent = (middle, some fault)) :
    ∃ cause, middle.read store.path = .error cause := by
  have standing := Files.ensureFolders_eq_none_iff files store.path.parent
  rw [ensured] at standing
  simp only [reduceCtorEq, false_iff, not_or, Bool.not_eq_true] at standing
  exact Files.read_of_not_isFolder_parent standing.1 standing.2

section Reading

variable {text : List Char} {result : Files × Except Failure (Option FileFault)}

theorem Puts.unchanged (puts : store.Puts text files result) (fixed : files.readOnly = true) : result.1 = files := by
  have kept := Files.ensureFolders_of_readOnly fixed store.path.parent
  cases puts with
  | misplaced => rfl
  | unfolded _ ensured | refused ensured | unwritten _ ensured =>
    rw [ensured] at kept
    exact kept
  | stored _ ensured _ written | emptied _ ensured _ written =>
    obtain ⟨-, -, -, free, -⟩ := Files.write_eq_ok written
    rw [(Files.OneSystem.of_ensured ensured).readOnly, fixed] at free
    cases free

/-- Where the system does not let a text be stored, though it is not read-only, there is nothing to be read. -/
theorem Puts.unread (puts : store.Puts text files result) (free : files.readOnly = false) {fault : FileFault}
    (failed : result.2 = .ok (some fault)) : ∃ cause, result.1.read store.path = .error cause := by
  cases puts with
  | unfolded _ ensured => exact read_of_unfolded ensured
  | unwritten _ ensured unwritten =>
    exact ⟨_, Files.read_of_write_error ((Files.OneSystem.of_ensured ensured).readOnly.trans free) unwritten⟩
  | _ => cases failed

/-- Nor was there anything to be read before. -/
theorem Puts.unread_before (puts : store.Puts text files result) (free : files.readOnly = false) {fault : FileFault}
    (failed : result.2 = .ok (some fault)) : ∃ cause, files.read store.path = .error cause := by
  cases found : files.read store.path with
  | error cause => exact ⟨cause, rfl⟩
  | ok content =>
    have folders := Files.ensureFolders_of_read found
    cases puts with
    | unfolded _ ensured =>
      rw [folders] at ensured
      cases ensured
    | @unwritten _ other _ _ ensured unwritten =>
      rw [folders] at ensured
      cases ensured
      obtain ⟨after, written⟩ := Files.write_of_read free found other
      rw [unwritten] at written
      cases written
    | _ => cases failed

theorem Puts.readable (puts : store.Puts text files result) (readable : store.Readable files) :
    store.Readable result.1 := by
  have path := (puts.oneSystem.refusal? store.path).trans readable.1
  cases fixed : files.readOnly with
  | true =>
    rw [puts.unchanged fixed]
    exact readable
  | false =>
    cases puts with
    | misplaced => exact readable
    | unfolded _ ensured =>
      obtain ⟨cause, missing⟩ := read_of_unfolded ensured
      exact .of_read_error path missing
    | refused _ refused =>
      rw [readable.1] at refused
      cases refused
    | unwritten _ ensured unwritten =>
      have free := (Files.OneSystem.of_ensured ensured).readOnly.trans fixed
      exact .of_read_error path (Files.read_of_write_error free unwritten)
    | @stored _ after _ _ _ written =>
      have holds : store.Holds after (String.ofList text) := Files.read_of_write written
      exact holds.readable path
    | @emptied _ after _ _ _ _ written =>
      have holds : store.Holds after "" := Files.read_of_write written
      exact holds.readable path

end Reading

theorem Readable.put (readable : store.Readable files) (text : List Char) :
    store.Readable (store.put text files).1 :=
  (store.puts_put text files).readable readable

end IdentifierStore
end FormFill
