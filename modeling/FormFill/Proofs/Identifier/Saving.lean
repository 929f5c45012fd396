import FormFill.Proofs.Files.Keeping
import FormFill.Proofs.Identifier.Store
import FormFill.Proofs.Record.Splitting

namespace FormFill

namespace Text

/-- How the lines of a text are read: a carriage return, with a line feed behind it or without, is read as a line
    feed, and all else as it is. -/
inductive ReadsAs : List Char → List Char → Prop where
  | done : ReadsAs [] []
  | pair {rest read : List Char} (onward : ReadsAs rest read) : ReadsAs ('\r' :: '\n' :: rest) ('\n' :: read)
  | single {rest read : List Char} (alone : rest.head? ≠ some '\n') (onward : ReadsAs rest read) :
      ReadsAs ('\r' :: rest) ('\n' :: read)
  | other {c : Char} {rest read : List Char} (plain : c ≠ '\r') (onward : ReadsAs rest read) :
      ReadsAs (c :: rest) (c :: read)

/-- What is left of a text when the blanks at its two ends are gone. -/
structure Trims (text trimmed : List Char) : Prop where
  parts : ∃ front back, (∀ c ∈ front, isBlank c = true) ∧ (∀ c ∈ back, isBlank c = true) ∧
    text = front ++ (trimmed ++ back)
  starts : ∀ c ∈ trimmed.head?, isBlank c = false
  ends : ∀ c ∈ trimmed.getLast?, isBlank c = false

theorem readsAs_unifyLineEnds (text : List Char) : ReadsAs text (unifyLineEnds text) := by
  induction text using unifyLineEnds.induct with
  | case1 => exact .done
  | case2 rest ih => exact .pair ih
  | case3 c rest apart ih =>
    rw [unifyLineEnds.eq_3 _ _ apart]
    by_cases carriage : c = '\r'
    · subst carriage
      refine .single (fun first => ?_) ih
      obtain ⟨tail, rfl⟩ := List.head?_eq_some_iff.mp first
      exact apart tail rfl rfl
    · rw [if_neg carriage]
      exact .other carriage ih

theorem trims_strip (text : List Char) : Trims text (strip text) := by
  refine ⟨strip_parts text, ?_, ?_⟩
  · rw [← dropWhile_strip]
    exact fun c first => of_mem_head?_dropWhile first
  · rw [strip, trimWhile, List.getLast?_reverse]
    exact fun c last => of_mem_head?_dropWhile last

end Text

namespace IdentifierStore

open Act

variable {store : IdentifierStore} {files : Files}

theorem load_result (store : IdentifierStore) (world : World) :
    (store.load.runIn world).1 = store.loaded world.files := by
  obtain ⟨log, ran⟩ := store.load_runIn world
  rw [ran]

theorem loaded_of_unread (path : files.refusal? store.path = none) {fault : FileFault}
    (missing : files.read store.path = .error fault) : store.loaded files = .ok "" := by
  have readable : store.Readable files := .of_read_error path missing
  rw [IdentifierStore.loaded_eq_ok_iff.mpr ⟨readable, rfl⟩, textIn, Files.readText, missing]

theorem loaded_of_holds (path : files.refusal? store.path = none) {text : String} (holds : store.Holds files text) :
    store.loaded files = .ok (String.ofList (Text.strip (Text.unifyLineEnds text.toList))) := by
  rw [IdentifierStore.loaded_eq_ok_iff.mpr ⟨holds.readable path, rfl⟩, holds.textIn]

/-- The file that the path of the store leads to holds some content, and no other file has changed. -/
def Changed (store : IdentifierStore) (before after : Files) (content : ByteArray) : Prop :=
  ∃ place, after.placeOf store.path = .ok place ∧ after.fileAt? place = some content ∧
    ∀ other, other ≠ place → after.fileAt? other = before.fileAt? other

theorem changed_of_written {middle after : Files} {content : ByteArray} {fault : Option FileFault}
    (ensured : files.ensureFolders store.path.parent = (middle, fault))
    (written : middle.write store.path content = .ok after) : store.Changed files after content := by
  obtain ⟨place, named, holds, others⟩ := Files.write_changes written
  have kept := Files.ensureFolders_keepsFiles files store.path.parent
  rw [ensured] at kept
  exact ⟨place, named, holds, fun other apart => (others other apart).trans (kept other)⟩

/-- What a failed attempt to store a text leaves behind: the same files, to one of which no text can be written. -/
structure Unstored (store : IdentifierStore) (before after : Files) : Prop where
  kept : before.KeepsFiles after
  unwritable : ∀ content, ∃ fault, after.write store.path content = .error fault

section Puts

variable {text : List Char} {result : Files × Except Failure (Option FileFault)}

theorem Puts.unstored (puts : store.Puts text files result) {fault : FileFault}
    (failed : result.2 = .ok (some fault)) : store.Unstored files result.1 := by
  have kept := Files.ensureFolders_keepsFiles files store.path.parent
  cases puts with
  | unfolded _ ensured =>
    have standing := Files.ensureFolders_eq_none_iff files store.path.parent
    rw [ensured] at kept standing
    simp only [reduceCtorEq, false_iff, not_or, Bool.not_eq_true] at standing
    obtain ⟨cause, unnamed⟩ := Files.placeOf_of_not_isFolder_parent standing.1 standing.2
    exact ⟨kept, fun content => ⟨⟨cause, store.path⟩, by simp [Files.write, Bind.bind, Except.bind, unnamed]⟩⟩
  | unwritten _ ensured unwritten =>
    rw [ensured] at kept
    exact ⟨kept, fun content => ⟨_, Files.write_error_congr unwritten content⟩⟩
  | _ => cases failed

theorem Puts.left (puts : store.Puts text files result) {failure : Failure} (failed : result.2 = .error failure) :
    files.KeepsFiles result.1 ∧
        (files.refusal? store.path.parent = some failure ∨ files.refusal? store.path = some failure) ∨
      ∃ fault, failure = .unencodable fault ∧ files.halves.fault? text = some fault ∧
        store.Changed files result.1 .empty := by
  have kept := Files.ensureFolders_keepsFiles files store.path.parent
  cases puts with
  | misplaced refused =>
    cases failed
    exact .inl ⟨.refl files, .inl refused⟩
  | refused ensured refused =>
    cases failed
    rw [ensured] at kept
    exact .inl ⟨kept, .inr refused⟩
  | emptied _ ensured unencodable written =>
    cases failed
    exact .inr ⟨_, rfl, unencodable, changed_of_written ensured written⟩
  | _ => cases failed

end Puts

/-- What is read after a failed attempt to store a text is what was read before. -/
theorem loaded_of_fault {text : List Char} {fault : FileFault} (failed : (store.put text files).2 = .ok (some fault)) :
    store.loaded (store.put text files).1 = store.loaded files := by
  have puts := store.puts_put text files
  have path := puts.oneSystem.refusal? store.path
  cases refused : files.refusal? store.path with
  | some failure => rw [loaded, loaded, path, refused]
  | none =>
    rw [refused] at path
    cases fixed : files.readOnly with
    | true => rw [puts.unchanged fixed]
    | false =>
      obtain ⟨cause, missing⟩ := puts.unread fixed failed
      obtain ⟨earlier, unread⟩ := puts.unread_before fixed failed
      rw [loaded_of_unread path missing, loaded_of_unread refused unread]

/-- Where a save succeeds, the file that the path leads to holds the text, which is then read with unified line ends
    and without the blanks around it, and no other file has changed. Where it fails, no file has changed, and what is
    read is what was read before. It ends in no other way unless the path cannot be one, and then no file has
    changed, or the text has no UTF-8 form, and then its file is empty. -/
theorem save_settles (store : IdentifierStore) (text : String) (before : World) :
    match (store.save (.str text)).runIn before with
    | (.ok true, after) =>
      (∃ place, after.files.placeOf store.path = .ok place ∧ after.files.fileAt? place = some text.toUTF8 ∧
        ∀ other, other ≠ place → after.files.fileAt? other = before.files.fileAt? other) ∧
      ∃ read loaded, (store.load.runIn after).1 = .ok loaded ∧ Text.ReadsAs text.toList read ∧
        Text.Trims read loaded.toList
    | (.ok false, after) =>
      before.files.KeepsFiles after.files ∧ (store.load.runIn after).1 = (store.load.runIn before).1 ∧
        ∀ content, ∃ fault, after.files.write store.path content = .error fault
    | (.error failure, after) =>
      before.files.KeepsFiles after.files ∧
          (before.files.refusal? store.path.parent = some failure ∨ before.files.refusal? store.path = some failure) ∨
        ∃ fault, failure = .unencodable fault ∧ before.files.halves.fault? text.toList = some fault ∧
          ∃ place, after.files.placeOf store.path = .ok place ∧ after.files.fileAt? place = some .empty ∧
            ∀ other, other ≠ place → after.files.fileAt? other = before.files.fileAt? other := by
  obtain ⟨log, ran⟩ := store.save_runIn text before
  have puts := store.puts_put text.toList before.files
  rw [ran]
  cases result : (store.put text.toList before.files).2 with
  | ok fault =>
    cases fault with
    | none =>
      simp only [told, Option.isNone_none, load_result]
      obtain ⟨middle, path, ensured, written⟩ := puts.written result
      have holds := put_holds result
      rw [← puts.oneSystem.refusal?] at path
      rw [String.ofList_toList] at holds written
      refine ⟨changed_of_written ensured written, _, _, loaded_of_holds path holds, Text.readsAs_unifyLineEnds _, ?_⟩
      rw [String.toList_ofList]
      exact Text.trims_strip _
    | some fault =>
      simp only [told, Option.isNone_some, load_result]
      obtain ⟨kept, unwritable⟩ := puts.unstored result
      exact ⟨kept, loaded_of_fault result, unwritable⟩
  | error failure => exact puts.left result

/-- A folder may stay behind where nothing could be stored. -/
example :
    let store : IdentifierStore := ⟨.ofText "new/../old/id"⟩
    let files : Files := { occupants := [(["old"], .file "7".toUTF8)] }
    let ran := (store.save (.str "8")).runIn (.untouched .blank files)
    ran.1 = .ok false ∧ ran.2.files.at? ["new"] = some .folder ∧ ran.2.files.fileAt? ["old"] = some "7".toUTF8 :=
  ⟨rfl, rfl, rfl⟩

end IdentifierStore
end FormFill
