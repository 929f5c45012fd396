import FormFill.Proofs.Record.Splitting

namespace FormFill

namespace Text

/-- Trimming takes away nothing but blanks. -/
theorem filter_strip {kept : Char → Bool} (blanks : ∀ c, isBlank c = true → kept c = false) (text : List Char) :
    (strip text).filter kept = text.filter kept := by
  have none {part : List Char} (all : ∀ c ∈ part, isBlank c = true) : part.filter kept = [] :=
    List.filter_eq_nil_iff.mpr fun c member => by simp [blanks c (all c member)]
  obtain ⟨front, back, leading, trailing, parts⟩ := strip_parts text
  calc (strip text).filter kept
    _ = (front ++ (strip text ++ back)).filter kept := by
      rw [List.filter_append, List.filter_append, none leading, none trailing, List.nil_append, List.append_nil]
    _ = text.filter kept := by rw [← parts]

end Text

namespace Record

/-- The characters of a text that are neither blanks nor separators. -/
def substance (text : List Char) : List Char :=
  text.filter fun c => !Text.isBlank c && !isSeparator c

theorem pieces_append_separator {c : Char} (separates : isSeparator c = true) (first second : List Char) :
    pieces (first ++ c :: second) = pieces first ++ pieces second := by
  rw [pieces, Text.splitAtAny_append_cons separates, List.map_append, List.filter_append, pieces, pieces]

/-- Texts joined by a separator, with or without blanks behind it, have the pieces of each of them. -/
theorem pieces_joinWith {c : Char} {blanks : List Char} (separates : isSeparator c = true)
    (all : ∀ blank ∈ blanks, Text.isBlank blank = true) (texts : List (List Char)) :
    pieces (Text.joinWith (c :: blanks) texts) = texts.flatMap pieces := by
  induction texts with
  | nil => rfl
  | cons text texts ih =>
    cases texts with
    | nil => simp [Text.joinWith]
    | cons next texts =>
      have joined : Text.joinWith (c :: blanks) (text :: next :: texts) =
          text ++ c :: (blanks ++ Text.joinWith (c :: blanks) (next :: texts)) := by
        simp [Text.joinWith]
      calc pieces (Text.joinWith (c :: blanks) (text :: next :: texts))
        _ = pieces text ++ (next :: texts).flatMap pieces := by
          rw [joined, pieces_append_separator separates, pieces_append all, ih]
        _ = (text :: next :: texts).flatMap pieces := List.flatMap_cons.symm

theorem substance_flatten (parts : List (List Char)) : substance parts.flatten = (parts.map substance).flatten :=
  List.filter_flatten

theorem substance_pieces (text : List Char) : substance (pieces text).flatten = substance text := by
  have trimmed (piece : List Char) : substance (Text.strip piece) = substance piece :=
    Text.filter_strip (fun c blank => by simp [blank]) piece
  calc substance (pieces text).flatten
    _ = substance ((Text.splitAtAny isSeparator text).map Text.strip).flatten := by
      rw [pieces, List.flatten_filter_ne_nil]
    _ = ((Text.splitAtAny isSeparator text).map substance).flatten := by
      rw [substance_flatten, List.map_map]
      exact congrArg List.flatten (List.map_congr_left fun piece _ => trimmed piece)
    _ = substance (text.filter (!isSeparator ·)) := by
      rw [← substance_flatten, Text.flatten_splitAtAny]
    _ = substance text := by simp [substance, List.filter_filter]

theorem mem_entries {value : Json} {entry : List Char} (among : entry ∈ entries value) :
    entry ≠ [] ∧ Text.strip entry = entry := by
  rw [entries, List.mem_filter, List.mem_map] at among
  obtain ⟨⟨raw, -, rfl⟩, nonempty⟩ := among
  exact ⟨by simpa using nonempty, Text.strip_strip raw⟩

theorem exists_not_isBlank {entry : List Char} (nonempty : entry ≠ []) (trimmed : Text.strip entry = entry) :
    ∃ c ∈ entry, Text.isBlank c = false := by
  refine Classical.byContradiction fun none => nonempty ?_
  rw [← trimmed]
  exact Text.strip_of_blank fun c member => by simpa using fun solid => none ⟨c, member, solid⟩

/-- Values whose text shows where one entry ends and the next begins: all that stand alone, and the lists of items
    without separators in their texts. -/
def ShownApart : Json → Prop
  | .arr items => ∀ item ∈ items, ',' ∉ itemText item ∧ '\n' ∉ itemText item
  | .obj _ => False
  | _ => True

theorem isSeparator_eq_false_iff {c : Char} : isSeparator c = false ↔ c ≠ ',' ∧ c ≠ '\n' := by
  simp [isSeparator]

theorem pieces_of_apart {text : List Char} (apart : ',' ∉ text ∧ '\n' ∉ text) :
    pieces text = if Text.strip text = [] then [] else [Text.strip text] := by
  refine pieces_of_unseparated fun c member => isSeparator_eq_false_iff.mpr ?_
  have inside := Text.mem_of_mem_strip member
  exact ⟨fun comma => apart.1 (comma ▸ inside), fun line => apart.2 (line ▸ inside)⟩

theorem entries_arr {items : List Json} (apart : ShownApart (.arr items)) :
    entries (.arr items) = (items.map itemText).flatMap pieces := by
  induction items with
  | nil => rfl
  | cons item items ih =>
    have others : ShownApart (.arr items) := fun other member => apart other (List.mem_cons_of_mem item member)
    rw [List.map_cons, List.flatMap_cons, ← ih others, pieces_of_apart (apart item List.mem_cons_self)]
    cases null : isNull item with
    | true =>
      cases item <;> cases null
      rfl
    | false =>
      by_cases blank : Text.strip (itemText item) = []
      · simp [entries, rawEntries, null, blank]
      · simp [entries, rawEntries, null, blank]

theorem entries_eq_pieces {value : Json} (apart : ShownApart value) : entries value = pieces (textOf value) := by
  cases value with
  | arr items => rw [entries_arr apart, textOf, pieces_joinWith rfl (by simp)]
  | obj members => exact apart.elim
  | _ => rfl

theorem pieces_of_mem_pieces {text entry : List Char} (among : entry ∈ pieces text) : pieces entry = [entry] := by
  have listed : entry ∈ entries (.str (String.ofList text)) := by
    rwa [entries_str, String.toList_ofList]
  obtain ⟨nonempty, trimmed⟩ := mem_entries listed
  have unseparated : ∀ c ∈ Text.strip entry, isSeparator c = false := by
    rw [trimmed]
    exact fun c member => not_isSeparator_of_mem_entries listed member
  rw [pieces_of_unseparated unseparated, trimmed, if_neg nonempty]

theorem pieces_commaJoined {value : Json} (apart : ShownApart value) : pieces (commaJoined value) = entries value := by
  have blank : ∀ c ∈ [' '], Text.isBlank c = true := List.all_eq_true.mp rfl
  calc pieces (commaJoined value)
    _ = (entries value).flatMap pieces := pieces_joinWith rfl blank _
    _ = (entries value).flatMap fun entry => [entry] := by
      refine List.flatMap_congr fun entry among => ?_
      rw [entries_eq_pieces apart] at among
      exact pieces_of_mem_pieces among
    _ = entries value := List.flatMap_singleton' _

/-- A value that stands alone or whose items have no separators has the same entries as its text and as its line, and
    they make up that text but for blanks and separators; a line of it is its own line. The entries of any value are
    trimmed and not blank. -/
theorem entries_agree :
    (∀ value, ShownApart value →
      entries (.str (String.ofList (textOf value))) = entries value ∧
      entries (.str (String.ofList (commaJoined value))) = entries value ∧
      commaJoined (.str (String.ofList (commaJoined value))) = commaJoined value ∧
      substance (entries value).flatten = substance (textOf value)) ∧
    ∀ value, ∀ entry ∈ entries value, (∃ c ∈ entry, Text.isBlank c = false) ∧ Text.strip entry = entry := by
  refine ⟨fun value apart => ?_, fun value entry among => ?_⟩
  · have line : entries (.str (String.ofList (commaJoined value))) = entries value := by
      rw [entries_str, String.toList_ofList, pieces_commaJoined apart]
    refine ⟨?_, line, ?_, ?_⟩
    · rw [entries_str, String.toList_ofList, entries_eq_pieces apart]
    · rw [commaJoined, line, commaJoined]
    · rw [entries_eq_pieces apart, substance_pieces]
  · obtain ⟨nonempty, trimmed⟩ := mem_entries among
    exact ⟨exists_not_isBlank nonempty trimmed, trimmed⟩

theorem entries_agree_list :
    let value : Json := .arr [.null, .str " a\r", .obj [("platform", .str "shop"), ("reason", .str "b c")]]
    ShownApart value ∧ textOf value = "\n a\r\nshop: b c".toList ∧
      entries (.str (String.ofList (textOf value))) = entries value ∧
      entries (.str (String.ofList (commaJoined value))) = entries value ∧
      entries value = ["a".toList, "shop: b c".toList] := by
  intro value
  have apart : ShownApart value := by
    simp only [ShownApart, value]
    decide
  obtain ⟨text, line, -⟩ := entries_agree.1 value apart
  exact ⟨apart, by decide, text, line, by decide⟩

end Record
end FormFill
