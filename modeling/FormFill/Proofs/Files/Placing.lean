import FormFill.Files.Text
import FormFill.Proofs.Lookup

namespace FormFill.Files

@[simp] theorem faultAt_ok {α : Type} (path : Path) (value : α) : faultAt path (.ok value) = .ok value := rfl

@[simp] theorem faultAt_error {α : Type} (path : Path) (cause : FileCause) :
    faultAt path (.error cause : Except FileCause α) = .error ⟨cause, path⟩ := rfl

theorem at_place_self (files : Files) {place : List String} (occupant : Occupant)
    (free : isGiven place = false) : (files.place place occupant).at? place = some occupant := by
  have dropped : (files.occupants.filter (·.1 ≠ place)).lookup place = none := by
    rw [lookup_filter _ (· ≠ place), if_neg (not_not_intro rfl)]
  simp only [at?, Files.place, free, Bool.false_eq_true, ↓reduceIte, List.lookup_append, dropped]
  simp

theorem at_place_other (files : Files) {place other : List String} (occupant : Occupant)
    (apart : other ≠ place) : (files.place place occupant).at? other = files.at? other := by
  have distinct : (other == place) = false := by simpa using apart
  have kept : (files.occupants.filter (·.1 ≠ place)).lookup other = files.occupants.lookup other := by
    rw [lookup_filter _ (· ≠ place), if_pos apart]
  simp only [at?, Files.place, List.lookup_append, kept]
  simp [List.lookup_cons, distinct]

theorem free_of_not_folder {files : Files} {place : List String}
    (notFolder : files.at? place ≠ some .folder) : isGiven place = false := by
  cases given : isGiven place with
  | false => rfl
  | true => exact absurd (by simp [at?, given]) notFolder

theorem walk_cons_iff {files : Files} {here rest target : List String} {part : String} :
    files.walk here (part :: rest) = .ok target ↔
      ∃ next, enter here part = .ok next ∧
        (rest = [] ∧ next = target ∨
          rest ≠ [] ∧ files.at? next = some .folder ∧ files.walk next rest = .ok target) := by
  simp only [walk, Bind.bind, Except.bind]
  cases entered : enter here part with
  | error cause => simp
  | ok next =>
    cases rest with
    | nil => simp
    | cons after rest =>
      cases found : files.at? next with
      | none => simp [found]
      | some standing => cases standing <;> simp [found]

theorem walk_place {files : Files} {place : List String} (occupant : Occupant)
    (notFolder : files.at? place ≠ some .folder) {here parts target : List String}
    (walked : files.walk here parts = .ok target) :
    (files.place place occupant).walk here parts = .ok target := by
  induction parts generalizing here with
  | nil => exact walked
  | cons part rest ih =>
    obtain ⟨next, entered, ends | ⟨further, folder, onwards⟩⟩ := walk_cons_iff.mp walked
    · exact walk_cons_iff.mpr ⟨next, entered, .inl ends⟩
    · -- What is walked through is a folder, and there was none at the place.
      have apart : next ≠ place := fun same => notFolder (same ▸ folder)
      have still := (at_place_other files occupant apart).trans folder
      exact walk_cons_iff.mpr ⟨next, entered, .inr ⟨further, still, ih onwards⟩⟩

theorem placeOf_place {files : Files} {place : List String} (occupant : Occupant)
    (notFolder : files.at? place ≠ some .folder) {path : Path} {target : List String}
    (named : files.placeOf path = .ok target) :
    (files.place place occupant).placeOf path = .ok target := by
  unfold placeOf at named ⊢
  split at named
  · cases named
  · rename_i short
    rw [if_neg short]
    exact walk_place occupant notFolder named

theorem isFolder_iff {files : Files} {path : Path} :
    files.isFolder path = true ↔
      ∃ place, files.placeOf path = .ok place ∧ files.at? place = some .folder := by
  unfold isFolder
  cases named : files.placeOf path with
  | error cause => simp
  | ok place =>
    cases found : files.at? place with
    | none => simp [found]
    | some standing => cases standing <;> simp [found]

end FormFill.Files
