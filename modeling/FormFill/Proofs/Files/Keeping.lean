import FormFill.Proofs.Files.Writing

namespace FormFill.Files

/-- The bytes of the regular file at a place, if one stands there. -/
def fileAt? (files : Files) (place : List String) : Option ByteArray :=
  match files.at? place with
  | some (.file content) => some content
  | _ => none

/-- Every regular file is as it was, and there is no other. Folders may have been added. -/
def KeepsFiles (before after : Files) : Prop :=
  ∀ place, after.fileAt? place = before.fileAt? place

variable {files before middle after : Files} {path : Path}

theorem KeepsFiles.refl (files : Files) : files.KeepsFiles files :=
  fun _ => rfl

theorem KeepsFiles.trans (first : before.KeepsFiles middle) (second : middle.KeepsFiles after) :
    before.KeepsFiles after :=
  fun place => (second place).trans (first place)

theorem fileAt?_place_self {place : List String} (content : ByteArray) (free : isGiven place = false) :
    (files.place place (.file content)).fileAt? place = some content := by
  rw [fileAt?, at_place_self files _ free]

theorem fileAt?_place_other {place other : List String} (occupant : Occupant) (apart : other ≠ place) :
    (files.place place occupant).fileAt? other = files.fileAt? other := by
  rw [fileAt?, fileAt?, at_place_other files occupant apart]

theorem makeFolder_keepsFiles (made : files.makeFolder path = .ok after) : files.KeepsFiles after := by
  obtain ⟨place, -, nothing, -, rfl⟩ := makeFolder_eq_ok made
  intro other
  by_cases same : other = place
  · subst same
    have notFolder : files.at? other ≠ some .folder := by simp [nothing]
    have free := free_of_not_folder notFolder
    rw [fileAt?, fileAt?, at_place_self files _ free, nothing]
  · exact fileAt?_place_other .folder same

theorem ensureFolder_keepsFiles (files : Files) (path : Path) :
    files.KeepsFiles (files.afterChange (files.ensureFolder path)).1 := by
  unfold ensureFolder
  cases made : files.makeFolder path with
  | ok after => exact makeFolder_keepsFiles made
  | error fault =>
    dsimp only
    split <;> exact .refl files

/-- Folders that are created on the way to a missing one take the place of nothing, whether it can be created or not. -/
theorem ensureFoldersUp_keepsFiles (files : Files) (slashes : Nat) (parts : List String) :
    files.KeepsFiles (files.ensureFoldersUp slashes parts).1 := by
  induction parts with
  | nil => exact .refl files
  | cons part above ih =>
    rw [ensureFoldersUp]
    split
    · cases upper : files.ensureFoldersUp slashes above with
      | mk made fault =>
        rw [upper] at ih
        cases fault with
        | none => exact ih.trans (ensureFolder_keepsFiles made _)
        | some fault => exact ih
    · exact ensureFolder_keepsFiles files _

theorem ensureFolders_keepsFiles (files : Files) (path : Path) : files.KeepsFiles (files.ensureFolders path).1 :=
  ensureFoldersUp_keepsFiles files path.slashes path.parts.reverse

/-- A file that has been written stands where its path leads, and no other has changed. -/
theorem write_changes {content : ByteArray} (written : files.write path content = .ok after) :
    ∃ place, after.placeOf path = .ok place ∧ after.fileAt? place = some content ∧
      ∀ other, other ≠ place → after.fileAt? other = files.fileAt? other := by
  obtain ⟨place, named, notFolder, -, rfl⟩ := write_eq_ok written
  exact ⟨place, placeOf_place _ notFolder named, fileAt?_place_self content (free_of_not_folder notFolder),
    fun other apart => fileAt?_place_other _ apart⟩

end FormFill.Files
