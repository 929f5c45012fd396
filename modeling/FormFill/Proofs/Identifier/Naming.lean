import FormFill.Identifier
import FormFill.Proofs.Text.Half

namespace FormFill

theorem Text.mem_intercalate_of_mem {α : Type} {separator piece : List α} {pieces : List (List α)} {c : α}
    (member : c ∈ piece) (among : piece ∈ pieces) : c ∈ separator.intercalate pieces := by
  induction pieces with
  | nil => cases among
  | cons first rest ih =>
    cases rest with
    | nil =>
      obtain rfl : piece = first := by simpa using among
      simpa using member
    | cons second rest =>
      rw [List.intercalate_cons_cons]
      rcases List.mem_cons.mp among with rfl | later
      · simp [member]
      · simp [ih later]

theorem Text.mem_of_mem_intercalate {α : Type} {separator : List α} {pieces : List (List α)} {c : α}
    (member : c ∈ separator.intercalate pieces) : c ∈ separator ∨ ∃ piece ∈ pieces, c ∈ piece := by
  induction pieces with
  | nil => cases member
  | cons first rest ih =>
    cases rest with
    | nil => exact .inr ⟨first, List.mem_cons_self, by simpa using member⟩
    | cons second rest =>
      rw [List.intercalate_cons_cons, List.mem_append, List.mem_append] at member
      rcases member with (here | between) | later
      · exact .inr ⟨first, List.mem_cons_self, here⟩
      · exact .inl between
      · exact (ih later).imp_right fun ⟨piece, among, holds⟩ => ⟨piece, List.mem_cons_of_mem _ among, holds⟩

/-- Every character of the folder of a path belongs to the path, but for the punctuation of paths. -/
theorem Path.mem_text_parent {path : Path} {c : Char} (member : c ∈ path.parent.text.toList) :
    c = '.' ∨ c = '/' ∨ c ∈ path.text.toList := by
  have slash : ("/" : String).toList = ['/'] := rfl
  unfold text at member
  split at member
  · simp only [String.reduceToList, List.mem_singleton] at member
    exact .inl member
  · rw [String.toList_append, String.toList_ofList, String.toList_intercalate, slash, List.mem_append] at member
    rcases member with front | back
    · exact .inr (.inl (List.eq_of_mem_replicate front))
    · rcases Text.mem_of_mem_intercalate back with between | ⟨piece, among, holds⟩
      · exact .inr (.inl (by simpa using between))
      · obtain ⟨part, standing, rfl⟩ := List.mem_map.mp among
        have part_mem : part ∈ path.parts := (List.dropLast_sublist _).subset standing
        have nonempty : path.parts ≠ [] := List.ne_nil_of_mem part_mem
        refine .inr (.inr ?_)
        rw [text, if_neg (by simp [nonempty]), String.toList_append, String.toList_intercalate, slash, List.mem_append]
        exact .inr (Text.mem_intercalate_of_mem holds (List.mem_map_of_mem part_mem))

theorem Files.refusal?_eq_some {files : Files} {path : Path} {failure : Failure}
    (refused : files.refusal? path = some failure) : failure = .nulInPath ∨ ∃ fault, failure = .unencodable fault := by
  unfold refusal? at refused
  split at refused
  · rename_i fault _
    cases refused
    exact .inr ⟨fault, rfl⟩
  · split at refused
    · cases refused
      exact .inl rfl
    · cases refused

/-- The folder of a file is refused for no other reason than the file. -/
theorem Files.refusal?_parent {files : Files} {path : Path} (unrefused : files.refusal? path = none) :
    files.refusal? path.parent = none := by
  unfold refusal? at unrefused ⊢
  split at unrefused
  · cases unrefused
  · rename_i encodable
    have clean : path.hasNul = false := by
      cases clean : path.hasNul with
      | false => rfl
      | true =>
        rw [clean] at unrefused
        cases unrefused
    have above : files.halves.nameFault? path.parent.text.toList = none := by
      rw [Text.Halves.nameFault?, Text.Halves.faultWhere_eq_none_iff] at encodable ⊢
      intro c member
      rcases Path.mem_text_parent member with rfl | rfl | among
      · rw [Text.Halves.unit?_of_low (by decide)]
        rfl
      · rw [Text.Halves.unit?_of_low (by decide)]
        rfl
      · exact encodable c among
    have still : path.parent.hasNul = false := by
      simp only [Path.hasNul, List.any_eq_false] at clean ⊢
      exact fun part member => clean part ((List.dropLast_sublist _).subset member)
    simp [above, still]

end FormFill
