import FormFill.Proofs.Files.Folders

namespace FormFill.Files

theorem write_eq_ok {files after : Files} {path : Path} {content : ByteArray}
    (written : files.write path content = .ok after) :
    ∃ place, files.placeOf path = .ok place ∧ files.at? place ≠ some .folder ∧ files.readOnly = false ∧
      after = files.place place (.file content) := by
  simp only [write, Bind.bind, Except.bind] at written
  cases named : files.placeOf path with
  | error cause =>
    rw [named] at written
    cases written
  | ok place =>
    simp only [named] at written
    split at written
    · cases written
    · rename_i notFolder
      split at written
      · cases written
      · rename_i free
        cases written
        exact ⟨place, rfl, notFolder, by simpa using free, rfl⟩

theorem write_of_placeOf {files : Files} {path : Path} {place : List String} (content : ByteArray)
    (named : files.placeOf path = .ok place) (notFolder : files.at? place ≠ some .folder)
    (free : files.readOnly = false) :
    files.write path content = .ok (files.place place (.file content)) := by
  simp only [write, Bind.bind, Except.bind, named, free]
  rfl

theorem write_oneSystem {files after : Files} {path : Path} {content : ByteArray}
    (written : files.write path content = .ok after) : files.OneSystem after := by
  obtain ⟨place, -, -, -, rfl⟩ := write_eq_ok written
  exact place_oneSystem files place _

theorem read_of_write {files after : Files} {path : Path} {content : ByteArray}
    (written : files.write path content = .ok after) : after.read path = .ok content := by
  obtain ⟨place, named, notFolder, -, rfl⟩ := write_eq_ok written
  have still := placeOf_place (.file content) notFolder named
  have standing := at_place_self files (.file content) (free_of_not_folder notFolder)
  simp [read, Bind.bind, Except.bind, still, standing]

theorem read_of_write_error {files : Files} {path : Path} {content : ByteArray} {fault : FileFault}
    (free : files.readOnly = false) (failed : files.write path content = .error fault) :
    files.read path = .error fault := by
  simp only [write, Bind.bind, Except.bind, free, Bool.false_eq_true, ↓reduceIte] at failed
  cases named : files.placeOf path with
  | error cause =>
    rw [named] at failed
    cases failed
    simp [read, Bind.bind, Except.bind, named]
  | ok place =>
    simp only [named] at failed
    split at failed
    · rename_i folder
      cases failed
      simp [read, Bind.bind, Except.bind, named, folder]
    · cases failed

theorem write_error_congr {files : Files} {path : Path} {content : ByteArray} {fault : FileFault}
    (failed : files.write path content = .error fault) (other : ByteArray) : files.write path other = .error fault := by
  simp only [write, Bind.bind, Except.bind] at failed ⊢
  cases named : files.placeOf path with
  | error cause => simpa only [named] using failed
  | ok place =>
    simp only [named] at failed ⊢
    split at failed
    · rename_i folder
      simpa only [folder] using failed
    · rename_i notFolder
      split at failed
      · rename_i fixed
        simpa only [fixed, ↓reduceIte] using failed
      · cases failed

theorem placeOf_of_not_isFolder_parent {files : Files} {path : Path} (above : path.parent.parts ≠ [])
    (missing : files.isFolder path.parent = false) : ∃ cause, files.placeOf path = .error cause := by
  have nonempty : path.parts ≠ [] := fun empty => above (by simp [Path.parent, empty])
  have split : path = ⟨path.slashes, path.parent.parts ++ [path.parts.getLast nonempty]⟩ := by
    simp only [Path.parent, List.dropLast_concat_getLast]
  cases named : files.placeOf path with
  | error cause => exact ⟨cause, rfl⟩
  | ok place =>
    rw [split] at named
    have folder : files.isFolder path.parent = true := isFolder_of_placeOf above named
    rw [missing] at folder
    cases folder

theorem read_of_not_isFolder_parent {files : Files} {path : Path} (above : path.parent.parts ≠ [])
    (missing : files.isFolder path.parent = false) : ∃ fault, files.read path = .error fault := by
  obtain ⟨cause, unnamed⟩ := placeOf_of_not_isFolder_parent above missing
  exact ⟨⟨cause, path⟩, by simp [read, Bind.bind, Except.bind, unnamed]⟩

theorem write_of_read {files : Files} {path : Path} {content : ByteArray} (free : files.readOnly = false)
    (found : files.read path = .ok content) (other : ByteArray) :
    ∃ after, files.write path other = .ok after := by
  cases written : files.write path other with
  | ok after => exact ⟨after, rfl⟩
  | error fault =>
    rw [read_of_write_error free written] at found
    cases found

theorem ensureFolders_of_isFolder {files : Files} {path : Path}
    (standing : path.parts = [] ∨ files.isFolder path = true) : files.ensureFolders path = (files, none) := by
  obtain ⟨slashes, parts⟩ := path
  obtain ⟨reversed, rfl⟩ : ∃ reversed : List String, parts = reversed.reverse := ⟨parts.reverse, by simp⟩
  rw [ensureFolders, List.reverse_reverse]
  cases reversed with
  | nil => rfl
  | cons part above =>
    rcases standing with empty | folder
    · simp at empty
    · exact ensureFoldersUp_of_isFolder folder

theorem ensureFolders_of_read {files : Files} {path : Path} {content : ByteArray}
    (found : files.read path = .ok content) : files.ensureFolders path.parent = (files, none) := by
  apply ensureFolders_of_isFolder
  by_cases above : path.parent.parts = []
  · exact .inl above
  · cases standing : files.isFolder path.parent with
    | true => exact .inr rfl
    | false =>
      obtain ⟨fault, failed⟩ := read_of_not_isFolder_parent above standing
      rw [found] at failed
      cases failed

theorem ensureFolders_eq_none_iff (files : Files) (path : Path) :
    (files.ensureFolders path).2 = none ↔
      path.parts = [] ∨ (files.ensureFolders path).1.isFolder path = true := by
  obtain ⟨slashes, parts⟩ := path
  obtain ⟨reversed, rfl⟩ : ∃ reversed : List String, parts = reversed.reverse := ⟨parts.reverse, by simp⟩
  rw [ensureFolders, List.reverse_reverse]
  cases reversed with
  | nil => simp [ensureFoldersUp]
  | cons part above =>
    rw [ensureFoldersUp_eq_none_iff]
    simp

end FormFill.Files
