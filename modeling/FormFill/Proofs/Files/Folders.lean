import FormFill.Proofs.Files.Placing

namespace FormFill.Files

theorem makeFolder_eq_ok {files after : Files} {path : Path} (made : files.makeFolder path = .ok after) :
    ∃ place, files.placeOf path = .ok place ∧ files.at? place = none ∧ files.readOnly = false ∧
      after = files.place place .folder := by
  simp only [makeFolder, Bind.bind, Except.bind] at made
  cases named : files.placeOf path with
  | error cause =>
    rw [named] at made
    cases made
  | ok place =>
    simp only [named] at made
    cases found : files.at? place with
    | some standing =>
      rw [found] at made
      cases made
    | none =>
      rw [found] at made
      dsimp only at made
      split at made
      · cases made
      · rename_i free
        cases made
        exact ⟨place, rfl, found, by simpa using free, rfl⟩

theorem makeFolder_of_isFolder {files : Files} {path : Path} (folder : files.isFolder path = true) :
    files.makeFolder path = .error ⟨.occupied, path⟩ := by
  obtain ⟨place, named, found⟩ := isFolder_iff.mp folder
  simp [makeFolder, Bind.bind, Except.bind, named, found]

/-- A system does not change with the files on it. -/
structure OneSystem (before after : Files) : Prop where
  readOnly : after.readOnly = before.readOnly
  halves : after.halves = before.halves

theorem OneSystem.refl (files : Files) : files.OneSystem files :=
  ⟨rfl, rfl⟩

theorem OneSystem.trans {before middle after : Files} (first : before.OneSystem middle)
    (second : middle.OneSystem after) : before.OneSystem after :=
  ⟨second.readOnly.trans first.readOnly, second.halves.trans first.halves⟩

theorem place_oneSystem (files : Files) (place : List String) (occupant : Occupant) :
    files.OneSystem (files.place place occupant) :=
  ⟨rfl, rfl⟩

theorem ensureFolder_oneSystem (files : Files) (path : Path) :
    files.OneSystem (files.afterChange (files.ensureFolder path)).1 := by
  unfold ensureFolder
  cases made : files.makeFolder path with
  | ok after =>
    obtain ⟨place, -, -, -, rfl⟩ := makeFolder_eq_ok made
    exact place_oneSystem files place .folder
  | error fault =>
    dsimp only
    split <;> exact .refl files

theorem ensureFoldersUp_oneSystem (files : Files) (slashes : Nat) (parts : List String) :
    files.OneSystem (files.ensureFoldersUp slashes parts).1 := by
  induction parts with
  | nil => exact .refl files
  | cons part above ih =>
    rw [ensureFoldersUp]
    split
    · cases upper : files.ensureFoldersUp slashes above with
      | mk made fault =>
        rw [upper] at ih
        cases fault with
        | none => exact ih.trans (ensureFolder_oneSystem made _)
        | some fault => exact ih
    · exact ensureFolder_oneSystem files _

theorem OneSystem.of_ensured {files middle : Files} {path : Path} {fault : Option FileFault}
    (ensured : files.ensureFolders path = (middle, fault)) : files.OneSystem middle := by
  have system := ensureFoldersUp_oneSystem files path.slashes path.parts.reverse
  rwa [← ensureFolders, ensured] at system

theorem ensureFolder_of_readOnly {files : Files} (fixed : files.readOnly = true) (path : Path) :
    (files.afterChange (files.ensureFolder path)).1 = files := by
  unfold ensureFolder
  cases made : files.makeFolder path with
  | ok after =>
    obtain ⟨-, -, -, free, -⟩ := makeFolder_eq_ok made
    rw [fixed] at free
    cases free
  | error fault =>
    dsimp only
    split <;> rfl

theorem ensureFolders_of_readOnly {files : Files} (fixed : files.readOnly = true) (path : Path) :
    (files.ensureFolders path).1 = files := by
  unfold ensureFolders
  generalize path.parts.reverse = parts
  induction parts with
  | nil => rfl
  | cons part above ih =>
    rw [ensureFoldersUp]
    split
    · cases upper : files.ensureFoldersUp path.slashes above with
      | mk made fault =>
        rw [upper] at ih
        obtain rfl : made = files := ih
        cases fault with
        | none => exact ensureFolder_of_readOnly fixed _
        | some fault => rfl
    · exact ensureFolder_of_readOnly fixed _

theorem ensureFolder_isFolder {files after : Files} {path : Path}
    (ensured : files.ensureFolder path = .ok after) : after.isFolder path = true := by
  unfold ensureFolder at ensured
  cases made : files.makeFolder path with
  | ok result =>
    rw [made] at ensured
    cases ensured
    obtain ⟨place, named, found, -, rfl⟩ := makeFolder_eq_ok made
    have notFolder : files.at? place ≠ some .folder := by simp [found]
    exact isFolder_iff.mpr ⟨place, placeOf_place .folder notFolder named,
      at_place_self files .folder (free_of_not_folder notFolder)⟩
  | error fault =>
    simp only [made] at ensured
    split at ensured
    · rename_i folder
      cases ensured
      exact folder
    · cases ensured

theorem not_isFolder_of_ensureFolder {files : Files} {path : Path} {fault : FileFault}
    (failed : files.ensureFolder path = .error fault) : files.isFolder path = false := by
  unfold ensureFolder at failed
  split at failed
  · cases failed
  · split at failed
    · cases failed
    · rename_i notFolder
      simpa using notFolder

theorem ensureFolder_of_isFolder {files : Files} {path : Path} (folder : files.isFolder path = true) :
    files.ensureFolder path = .ok files := by
  simp [ensureFolder, makeFolder_of_isFolder folder, folder]

theorem walk_concat {files : Files} {here front target : List String} {last : String}
    (nonempty : front ≠ []) (walked : files.walk here (front ++ [last]) = .ok target) :
    ∃ above, files.walk here front = .ok above ∧ files.at? above = some .folder := by
  induction front generalizing here with
  | nil => exact absurd rfl nonempty
  | cons part front ih =>
    rw [List.cons_append] at walked
    obtain ⟨next, entered, ⟨ends, -⟩ | ⟨-, folder, onwards⟩⟩ := walk_cons_iff.mp walked
    · simp at ends
    · by_cases last : front = []
      · subst last
        exact ⟨next, walk_cons_iff.mpr ⟨next, entered, .inl ⟨rfl, rfl⟩⟩, folder⟩
      · obtain ⟨above, reached, standing⟩ := ih last onwards
        exact ⟨above, walk_cons_iff.mpr ⟨next, entered, .inr ⟨last, folder, reached⟩⟩, standing⟩

theorem text_size_concat (slashes : Nat) {front : List String} (last : String) (nonempty : front ≠ []) :
    (Path.text ⟨slashes, front⟩).utf8ByteSize ≤ (Path.text ⟨slashes, front ++ [last]⟩).utf8ByteSize := by
  have longer := String.intercalate_append_of_ne_nil (s := "/") nonempty (List.cons_ne_nil last [])
  simp only [Path.text, nonempty, longer, and_false, false_and, ↓reduceIte, List.append_eq_nil_iff,
    String.utf8ByteSize_append]
  omega

theorem isFolder_of_placeOf {files : Files} {slashes : Nat} {front target : List String} {last : String}
    (nonempty : front ≠ []) (named : files.placeOf ⟨slashes, front ++ [last]⟩ = .ok target) :
    files.isFolder ⟨slashes, front⟩ = true := by
  unfold placeOf at named
  split at named
  · cases named
  · rename_i short
    obtain ⟨above, reached, folder⟩ := walk_concat nonempty named
    have shorter := text_size_concat slashes last nonempty
    refine isFolder_iff.mpr ⟨above, ?_, folder⟩
    rw [placeOf, if_neg (by omega)]
    exact reached

theorem ensureFoldersUp_of_isFolder {files : Files} {slashes : Nat} {part : String} {above : List String}
    (folder : files.isFolder ⟨slashes, (part :: above).reverse⟩ = true) :
    files.ensureFoldersUp slashes (part :: above) = (files, none) := by
  simp only [ensureFoldersUp, makeFolder_of_isFolder folder, ensureFolder_of_isFolder folder, afterChange]

theorem afterChange_ensureFolder (files : Files) (path : Path) :
    (files.afterChange (files.ensureFolder path)).2 = none ↔
      (files.afterChange (files.ensureFolder path)).1.isFolder path = true := by
  cases ensured : files.ensureFolder path with
  | ok after => simp [afterChange, ensureFolder_isFolder ensured]
  | error fault => simp [afterChange, not_isFolder_of_ensureFolder ensured]

/-- Whether folders could be created is seen by whether the last of them is there afterwards. -/
theorem ensureFoldersUp_eq_none_iff (files : Files) (slashes : Nat) (part : String) (above : List String) :
    (files.ensureFoldersUp slashes (part :: above)).2 = none ↔
      (files.ensureFoldersUp slashes (part :: above)).1.isFolder ⟨slashes, (part :: above).reverse⟩ = true := by
  induction above generalizing part with
  | nil =>
    rw [ensureFoldersUp]
    dsimp only [ensureFoldersUp]
    split <;> exact afterChange_ensureFolder files _
  | cons next above ih =>
    rw [ensureFoldersUp]
    split
    · cases upper : files.ensureFoldersUp slashes (next :: above) with
      | mk made fault =>
        cases fault with
        | none => exact afterChange_ensureFolder made _
        | some fault =>
          have missing := ih next
          rw [upper] at missing
          simp only [reduceCtorEq, false_iff] at missing ⊢
          intro folder
          obtain ⟨place, named, -⟩ := isFolder_iff.mp folder
          rw [List.reverse_cons] at named
          exact missing (isFolder_of_placeOf (by simp) named)
    · exact afterChange_ensureFolder files _

theorem makeFolder_of_placeOf {files : Files} {path : Path} {cause : FileCause}
    (unnamed : files.placeOf path = .error cause) : files.makeFolder path = .error ⟨cause, path⟩ := by
  simp [makeFolder, Bind.bind, Except.bind, unnamed]

theorem afterChange_of_missing {files : Files} {path : Path} {fault : FileFault}
    (unmade : files.makeFolder path = .error fault) (missing : files.isFolder path = false) :
    files.afterChange (files.ensureFolder path) = (files, some fault) := by
  simp [afterChange, ensureFolder, unmade, missing]

theorem makeFolder_of_afterChange {files middle : Files} {path : Path} {fault : FileFault}
    (failed : files.afterChange (files.ensureFolder path) = (middle, some fault)) :
    middle = files ∧ files.makeFolder path = .error fault := by
  unfold ensureFolder at failed
  cases made : files.makeFolder path with
  | ok after =>
    rw [made] at failed
    cases failed
  | error cause =>
    rw [made] at failed
    dsimp only at failed
    split at failed
    · cases failed
    · cases failed
      exact ⟨rfl, rfl⟩

theorem ensureFoldersUp_of_ensured {files made : Files} {slashes : Nat} {parts : List String}
    (ensured : files.ensureFoldersUp slashes parts = (made, none)) :
    made.ensureFoldersUp slashes parts = (made, none) := by
  cases parts with
  | nil => rfl
  | cons part above =>
    have standing := ensureFoldersUp_eq_none_iff files slashes part above
    rw [ensured] at standing
    exact ensureFoldersUp_of_isFolder (by simpa using standing)

/-- A folder that cannot be made is not there either once those above it are, or cannot be. -/
theorem ensureFoldersUp_of_stuck {files : Files} {slashes : Nat} {part : String} {above : List String}
    {fault : FileFault} (unmade : files.makeFolder ⟨slashes, (part :: above).reverse⟩ = .error fault)
    (missing : files.isFolder ⟨slashes, (part :: above).reverse⟩ = false)
    (upper : (files.ensureFoldersUp slashes above).2 ≠ none ∨ files.ensureFoldersUp slashes above = (files, none) ∨
      ∀ path, files.makeFolder ⟨slashes, (part :: above).reverse⟩ ≠ .error ⟨.notFound, path⟩) :
    (files.ensureFoldersUp slashes (part :: above)).2 ≠ none := by
  rw [ensureFoldersUp]
  split
  · rename_i notFound
    rcases upper with broken | standing | otherwise
    · rcases ended : files.ensureFoldersUp slashes above with ⟨made, _ | cause⟩
      · rw [ended] at broken
        exact absurd rfl broken
      · exact nofun
    · rw [standing]
      dsimp only
      rw [afterChange_of_missing unmade missing]
      exact nofun
    · exact absurd notFound (otherwise _)
  · rw [afterChange_of_missing unmade missing]
    exact nofun

/-- Where folders could not be created, they cannot be created the next time either. -/
theorem ensureFoldersUp_again {files middle : Files} {slashes : Nat} {parts : List String} {fault : FileFault}
    (failed : files.ensureFoldersUp slashes parts = (middle, some fault)) :
    (middle.ensureFoldersUp slashes parts).2 ≠ none := by
  induction parts generalizing files middle fault with
  | nil => cases failed
  | cons part above ih =>
    have missing : middle.isFolder ⟨slashes, (part :: above).reverse⟩ = false := by
      have standing := ensureFoldersUp_eq_none_iff files slashes part above
      rw [failed] at standing
      simpa using standing
    rw [ensureFoldersUp] at failed
    split at failed
    · rcases upper : files.ensureFoldersUp slashes above with ⟨made, _ | cause⟩
      · rw [upper] at failed
        obtain ⟨rfl, unmade⟩ := makeFolder_of_afterChange failed
        exact ensureFoldersUp_of_stuck unmade missing (.inr (.inl (ensureFoldersUp_of_ensured upper)))
      · rw [upper] at failed
        cases failed
        have again := ih upper
        cases named : middle.placeOf ⟨slashes, (part :: above).reverse⟩ with
        | error cause => exact ensureFoldersUp_of_stuck (makeFolder_of_placeOf named) missing (.inl again)
        | ok place =>
          cases above with
          | nil => exact absurd rfl again
          | cons next above =>
            rw [List.reverse_cons] at named
            have folder := isFolder_of_placeOf (by simp) named
            exact absurd (by rw [ensureFoldersUp_of_isFolder folder]) again
    · rename_i other
      obtain ⟨rfl, unmade⟩ := makeFolder_of_afterChange failed
      exact ensureFoldersUp_of_stuck unmade missing (.inr (.inr other))

end FormFill.Files
