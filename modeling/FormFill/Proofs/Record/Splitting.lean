import FormFill.Proofs.Identifier.LeadingInt
import FormFill.Record.Rendering
import Mathlib.Data.List.DropRight

namespace FormFill

namespace Text

variable {p : Char → Bool}

/-- A piece has none of the characters that a text is split at, and none that the text has not. -/
theorem of_mem_splitAtAny {s piece : List Char} {c : Char} (among : piece ∈ splitAtAny p s) (member : c ∈ piece) :
    p c = false ∧ c ∈ s := by
  induction s generalizing piece with
  | nil =>
    obtain rfl : piece = [] := by simpa [splitAtAny] using among
    cases member
  | cons first rest ih =>
    have later {other : List Char} (found : other ∈ splitAtAny p rest) (inside : c ∈ other) :
        p c = false ∧ c ∈ first :: rest :=
      ⟨(ih found inside).1, List.mem_cons_of_mem first (ih found inside).2⟩
    rw [splitAtAny] at among
    split at among
    · rcases List.mem_cons.mp among with rfl | among
      · cases member
      · exact later among member
    · rename_i apart
      have here : c = first → p c = false ∧ c ∈ first :: rest := by
        rintro rfl
        exact ⟨by simpa using apart, List.mem_cons_self⟩
      split at among
      · obtain rfl : piece = [first] := by simpa using among
        exact here (by simpa using member)
      · rename_i head tail split
        rcases List.mem_cons.mp among with rfl | among
        · rcases List.mem_cons.mp member with same | member
          · exact here same
          · exact later (by simp [split]) member
        · exact later (by simp [split, among]) member

/-- What has none of the characters that a text is split at goes before the first piece of the rest. -/
theorem splitAtAny_append {first : List Char} (apart : ∀ c ∈ first, p c = false) (second : List Char) :
    ∃ piece pieces, splitAtAny p second = piece :: pieces ∧
      splitAtAny p (first ++ second) = (first ++ piece) :: pieces := by
  induction first with
  | nil =>
    cases split : splitAtAny p second with
    | nil =>
      cases second with
      | nil => cases split
      | cons c rest =>
        rw [splitAtAny] at split
        split at split
        · cases split
        · split at split <;> cases split
    | cons piece pieces => exact ⟨piece, pieces, rfl, split⟩
  | cons c rest ih =>
    obtain ⟨piece, pieces, whole, split⟩ := ih fun other member => apart other (List.mem_cons_of_mem c member)
    refine ⟨piece, pieces, whole, ?_⟩
    rw [List.cons_append, splitAtAny, split]
    simp [apart c List.mem_cons_self]

/-- A separator cuts a text into the pieces before it and those behind it. -/
theorem splitAtAny_append_cons {c : Char} (separates : p c = true) (first second : List Char) :
    splitAtAny p (first ++ c :: second) = splitAtAny p first ++ splitAtAny p second := by
  induction first with
  | nil => simp [splitAtAny, separates]
  | cons head rest ih =>
    have nothing : ∀ other ∈ ([] : List Char), p other = false := nofun
    obtain ⟨piece, pieces, whole, -⟩ := splitAtAny_append nothing rest
    rw [List.cons_append, splitAtAny, splitAtAny, ih, whole, List.cons_append]
    split <;> rfl

theorem flatten_splitAtAny (s : List Char) : (splitAtAny p s).flatten = s.filter (!p ·) := by
  induction s with
  | nil => rfl
  | cons c rest ih =>
    rw [splitAtAny, List.filter_cons]
    split
    · rename_i separates
      simpa [separates] using ih
    · rename_i apart
      split
      · rename_i none
        rw [none] at ih
        simpa [apart] using ih
      · rename_i piece pieces whole
        rw [whole] at ih
        simpa [apart] using ih

theorem strip_cons_of_blank {c : Char} (blank : isBlank c = true) (rest : List Char) :
    strip (c :: rest) = strip rest := by
  rw [strip, strip, trimWhile, trimWhile, List.dropWhile_cons_of_pos blank]

theorem strip_append_of_blank {blanks : List Char} (all : ∀ c ∈ blanks, isBlank c = true) (text : List Char) :
    strip (text ++ blanks) = strip text := by
  have none : blanks.dropWhile isBlank = [] := List.dropWhile_eq_nil_iff.mpr all
  rw [strip, strip, trimWhile, trimWhile, List.dropWhile_append]
  split
  · rename_i empty
    rw [none, List.isEmpty_iff.mp empty]
  · rw [List.reverse_append, List.dropWhile_append_of_pos (by simpa using all)]

theorem strip_of_blank {blanks : List Char} (all : ∀ c ∈ blanks, isBlank c = true) : strip blanks = [] :=
  strip_append_of_blank all []

theorem mem_of_mem_strip {text : List Char} {c : Char} (member : c ∈ strip text) : c ∈ text := by
  have inside := (List.dropWhile_suffix isBlank).subset (List.mem_reverse.mp member)
  exact (List.dropWhile_suffix isBlank).subset (List.mem_reverse.mp inside)

/-- A text is what is left of it after trimming, between blanks. -/
theorem strip_parts (text : List Char) :
    ∃ front back, (∀ c ∈ front, isBlank c = true) ∧ (∀ c ∈ back, isBlank c = true) ∧
      text = front ++ (strip text ++ back) := by
  obtain ⟨back, trailing, trimmed⟩ := dropWhile_eq_strip_append text
  refine ⟨text.takeWhile isBlank, back, fun c member => List.mem_takeWhile_imp member, trailing, ?_⟩
  rw [← trimmed, List.takeWhile_append_dropWhile]

theorem strip_strip (text : List Char) : strip (strip text) = strip text := by
  rw [strip, trimWhile, dropWhile_strip, strip, trimWhile]
  exact List.rdropWhile_idempotent isBlank (text.dropWhile isBlank)

end Text

namespace Record

/-- The pieces of a text between separators without surrounding blanks, the blank ones left out. -/
def pieces (text : List Char) : List (List Char) :=
  ((Text.splitAtAny isSeparator text).map Text.strip).filter (· ≠ [])

theorem entries_str (text : String) : entries (.str text) = pieces text.toList :=
  rfl

theorem pieces_cons_of_blank {c : Char} (blank : Text.isBlank c = true) (rest : List Char) :
    pieces (c :: rest) = pieces rest := by
  cases separates : isSeparator c with
  | true =>
    rw [pieces, Text.splitAtAny, if_pos separates, List.map_cons]
    exact List.filter_cons_of_neg (by simp [Text.strip, Text.trimWhile])
  | false =>
    have apart : ∀ other ∈ [c], isSeparator other = false := by simpa using separates
    obtain ⟨piece, others, whole, split⟩ := Text.splitAtAny_append apart rest
    rw [List.singleton_append, List.singleton_append] at split
    rw [pieces, pieces, whole, split, List.map_cons, List.map_cons, Text.strip_cons_of_blank blank]

theorem pieces_append {blanks : List Char} (all : ∀ c ∈ blanks, Text.isBlank c = true) (rest : List Char) :
    pieces (blanks ++ rest) = pieces rest := by
  induction blanks with
  | nil => rfl
  | cons c blanks ih =>
    rw [List.cons_append, pieces_cons_of_blank (all c List.mem_cons_self)]
    exact ih fun other member => all other (List.mem_cons_of_mem c member)

/-- A text that has no separator but among the blanks around it is a single entry, unless it is blank. -/
theorem pieces_of_unseparated {text : List Char} (apart : ∀ c ∈ Text.strip text, isSeparator c = false) :
    pieces text = if Text.strip text = [] then [] else [Text.strip text] := by
  obtain ⟨front, blanks, leading, all, parts⟩ := Text.strip_parts text
  obtain ⟨piece, others, whole, split⟩ := Text.splitAtAny_append apart blanks
  have within {part : List Char} (member : part ∈ piece :: others) : ∀ c ∈ part, Text.isBlank c = true :=
    fun c inside => all c (Text.of_mem_splitAtAny (whole ▸ member) inside).2
  have rest : (others.map Text.strip).filter (· ≠ []) = [] := by
    simp only [List.filter_eq_nil_iff, List.mem_map]
    rintro _ ⟨part, member, rfl⟩
    simp [Text.strip_of_blank (within (List.mem_cons_of_mem piece member))]
  calc pieces text
    _ = pieces (front ++ (Text.strip text ++ blanks)) := congrArg pieces parts
    _ = pieces (Text.strip text ++ blanks) := pieces_append leading _
    _ = ([Text.strip (Text.strip text ++ piece)] ++ others.map Text.strip).filter (· ≠ []) := by
      rw [pieces, split, List.map_cons, List.singleton_append]
    _ = [Text.strip text].filter (· ≠ []) := by
      rw [Text.strip_append_of_blank (within List.mem_cons_self), Text.strip_strip, List.filter_append, rest,
        List.append_nil]
    _ = if Text.strip text = [] then [] else [Text.strip text] := by
      by_cases blank : Text.strip text = []
      · simp [blank]
      · simp [blank]

/-- The entries of a text have no separator. -/
theorem not_isSeparator_of_mem_entries {text : String} {entry : List Char} (among : entry ∈ entries (.str text))
    {c : Char} (member : c ∈ entry) : isSeparator c = false := by
  rw [entries_str, pieces, List.mem_filter, List.mem_map] at among
  obtain ⟨⟨piece, inside, rfl⟩, -⟩ := among
  exact (Text.of_mem_splitAtAny inside (Text.mem_of_mem_strip member)).1

end Record
end FormFill
