import FormFill.Record.Normalized
import Mathlib

namespace FormFill

namespace Text

/-- A sigma in the form that it has inside a word. -/
def medial (c : Char) : Char :=
  if c = 'ς' then 'σ' else c

/-- What stands around a character has no part in its lower case but for the form of a sigma. -/
theorem map_medial_lowerAfter (before s : List Char) :
    (lowerAfter before s).map medial = s.flatMap fun c => (lowerChar c).map medial := by
  -- What stands before grows along the text, so the induction is for all of it.
  induction s generalizing before with
  | nil => rfl
  | cons c rest ih =>
    rw [lowerAfter, List.map_append, ih, List.flatMap_cons]
    congr 1
    by_cases sigma : c = 'Σ'
    · subst sigma
      have alone : lowerChar 'Σ' = ['σ'] := by decide +kernel
      rw [if_pos rfl, alone]
      split <;> rfl
    · rw [if_neg sigma]

theorem filter_map_medial {p : Char → Bool} (final : p 'ς' = false) (inner : p 'σ' = false) (s : List Char) :
    (s.map medial).filter p = s.filter p := by
  induction s with
  | nil => rfl
  | cons c rest ih =>
    rw [List.map_cons, List.filter_cons, List.filter_cons, ih, medial]
    by_cases sigma : c = 'ς'
    · subst sigma
      simp [final, inner]
    · rw [if_neg sigma]

/-- Characters other than the sigmas are picked from a text in lower case as from its characters one by one. -/
theorem filter_lower {p : Char → Bool} (final : p 'ς' = false) (inner : p 'σ' = false) (s : List Char) :
    (lower s).filter p = s.flatMap fun c => (lowerChar c).filter p :=
  calc (lower s).filter p
    _ = ((lower s).map medial).filter p := (filter_map_medial final inner _).symm
    _ = s.flatMap fun c => ((lowerChar c).map medial).filter p := by
      rw [lower, map_medial_lowerAfter, List.filter_flatMap]
    _ = s.flatMap fun c => (lowerChar c).filter p := by
      simp only [filter_map_medial final inner]

theorem exists_run_of_shifted? {runs : List CaseRun} {c d : Char} (shifted : shifted? runs c = some d) :
    ∃ run ∈ runs, run.first ≤ c.toNat ∧ c.toNat ≤ run.last ∧ d = Char.ofNat ((c.toNat : Int) + run.shift).toNat := by
  obtain ⟨run, found, rfl⟩ := Option.map_eq_some_iff.mp shifted
  have covers := List.find?_some found
  simp only [CaseRun.covers, Bool.and_eq_true, decide_eq_true_eq] at covers
  exact ⟨run, List.mem_of_find?_eq_some found, covers.1.1, covers.1.2, rfl⟩

/-- The capitals of ASCII and the Kelvin sign are the only characters that a run moves into ASCII, and the capitals are
    the only ones of ASCII that it moves. -/
theorem lowerRuns_apart : ∀ run ∈ lowerRuns,
    0x41 ≤ run.first ∧ run.last ≤ 0x5A ∧ run.shift = 32 ∨
      run.first = 0x212A ∧ run.last = 0x212A ∨ 0x7F < run.first ∧ 0x7F < run.first + run.shift := by
  decide +kernel

theorem lowerRuns_valid : ∀ run ∈ lowerRuns,
    run.last + run.shift < 0xD800 ∨ 0xDFFF < run.first + run.shift ∧ run.last + run.shift < 0x110000 := by
  decide +kernel

theorem isUpper_iff_toNat {c : Char} : c.isUpper = true ↔ 0x41 ≤ c.toNat ∧ c.toNat ≤ 0x5A := by
  simp [Char.isUpper, UInt32.le_iff_toNat_le]

theorem shifted?_lowerRuns_of_isUpper {c : Char} (upper : c.isUpper = true) :
    shifted? lowerRuns c = some c.toLower := by
  have bounds := isUpper_iff_toNat.mp upper
  cases shifted : shifted? lowerRuns c with
  | none =>
    have covered : CaseRun.covers ⟨0x41, 0x5A, 1, 32⟩ c.toNat = true := by
      simp [CaseRun.covers, bounds, Nat.mod_one]
    exact absurd covered (List.find?_eq_none.mp (Option.map_eq_none_iff.mp shifted) _ List.mem_cons_self)
  | some d =>
    obtain ⟨run, listed, first, last, rfl⟩ := exists_run_of_shifted? shifted
    have moved : ((c.toNat : Int) + run.shift).toNat = c.toNat + 32 := by
      have apart := lowerRuns_apart run listed
      omega
    rw [moved, Char.toLower_eq_of_isUpper upper]

/-- Of the other characters, a run moves some beyond ASCII, and none of them into it. -/
theorem beyond_of_shifted? {c d : Char} (upper : c.isUpper = false) (kelvin : c ≠ '\u212A')
    (shifted : shifted? lowerRuns c = some d) : 0x7F < c.toNat ∧ 0x7F < d.toNat := by
  obtain ⟨run, listed, first, last, rfl⟩ := exists_run_of_shifted? shifted
  have apart := lowerRuns_apart run listed
  have small : ¬ (0x41 ≤ c.toNat ∧ c.toNat ≤ 0x5A) := by simp [← isUpper_iff_toNat, upper]
  have other : c.toNat ≠ 0x212A := fun same => kelvin (Char.toNat_inj.mp same)
  have valid : ((c.toNat : Int) + run.shift).toNat.isValidChar := by
    have bounds := lowerRuns_valid run listed
    unfold Nat.isValidChar
    omega
  rw [Char.toNat_ofNat, if_pos valid]
  omega

end Text

namespace Record

theorem isPlainLetterOrDigit_iff_toNat {c : Char} :
    isPlainLetterOrDigit c = true ↔ 0x61 ≤ c.toNat ∧ c.toNat ≤ 0x7A ∨ 0x30 ≤ c.toNat ∧ c.toNat ≤ 0x39 := by
  simp [isPlainLetterOrDigit, Char.isLower, Char.isDigit, UInt32.le_iff_toNat_le]

theorem isPlainLetterOrDigit_of_beyond {c : Char} (beyond : 0x7F < c.toNat) : isPlainLetterOrDigit c = false := by
  rw [← Bool.not_eq_true, isPlainLetterOrDigit_iff_toNat]
  omega

theorem isAlphanum_eq (c : Char) : c.isAlphanum = (c.isUpper || isPlainLetterOrDigit c) := by
  rw [Char.isAlphanum, Char.isAlpha, isPlainLetterOrDigit, Bool.or_assoc]

/-- What normalization leaves of a character: letters of ASCII in lower case and digits of ASCII. Two letters beyond
    ASCII have their lower case, or the first character of it, in ASCII. -/
def residue (c : Char) : List Char :=
  if c.isAlphanum then [c.toLower]
  else if c = 'İ' then ['i']
  else if c = '\u212A' then ['k']
  else []

theorem residue_of_plain {c : Char} (plain : isPlainLetterOrDigit c = true) : residue c = [c] := by
  have small : ¬ c.isUpper = true := by
    rw [isPlainLetterOrDigit_iff_toNat] at plain
    rw [Text.isUpper_iff_toNat]
    omega
  rw [residue, isAlphanum_eq, plain, Bool.or_true, if_pos rfl, Char.toLower_eq_of_not_isUpper small]

theorem filter_lowerChar (c : Char) : (Text.lowerChar c).filter isPlainLetterOrDigit = residue c := by
  -- The letters beyond ASCII that come into it have no rule in common.
  by_cases dotted : c = 'İ'
  · subst dotted
    decide +kernel
  by_cases kelvin : c = '\u212A'
  · subst kelvin
    decide +kernel
  rw [Text.lowerChar, if_neg dotted]
  cases upper : c.isUpper with
  | true =>
    have plain : isPlainLetterOrDigit c.toLower = true := by
      simp [isPlainLetterOrDigit, Char.isAlpha, upper]
    rw [Text.shifted?_lowerRuns_of_isUpper upper, Option.getD_some, List.filter_cons_of_pos plain, residue,
      isAlphanum_eq, upper, Bool.true_or, if_pos rfl, List.filter_nil]
  | false =>
    have nothing (plain : isPlainLetterOrDigit c = false) : residue c = [] := by
      simp [residue, isAlphanum_eq, upper, plain, dotted, kelvin]
    cases shifted : Text.shifted? Text.lowerRuns c with
    | none =>
      cases plain : isPlainLetterOrDigit c with
      | true => simp [residue_of_plain plain, plain]
      | false => simp [nothing plain, plain]
    | some d =>
      obtain ⟨beyond, image⟩ := Text.beyond_of_shifted? upper kelvin shifted
      simp [nothing (isPlainLetterOrDigit_of_beyond beyond), isPlainLetterOrDigit_of_beyond image]

/-- A text is normalized character by character, whatever stands around each. -/
theorem normalized_eq_flatMap (s : List Char) : normalized s = s.flatMap residue := by
  rw [normalized, Text.filter_lower rfl rfl]
  simp only [filter_lowerChar]

theorem normalized_append (first second : List Char) :
    normalized (first ++ second) = normalized first ++ normalized second := by
  simp only [normalized_eq_flatMap, List.flatMap_append]

theorem isPlainLetterOrDigit_of_mem_normalized {s : List Char} {c : Char} (member : c ∈ normalized s) :
    isPlainLetterOrDigit c = true :=
  List.of_mem_filter member

theorem normalized_of_plain {s : List Char} (plain : ∀ c ∈ s, isPlainLetterOrDigit c = true) : normalized s = s :=
  calc normalized s
    _ = s.flatMap residue := normalized_eq_flatMap s
    _ = s.flatMap fun c => [c] := List.flatMap_congr fun c member => residue_of_plain (plain c member)
    _ = s := List.flatMap_singleton' s

theorem normalizedValue_str (text : String) : normalizedValue (.str text) = normalized text.toList :=
  rfl

theorem normalizedValue_append (first second : String) :
    normalizedValue (.str (first ++ second)) = normalizedValue (.str first) ++ normalizedValue (.str second) := by
  rw [normalizedValue_str, String.toList_append]
  exact normalized_append first.toList second.toList

/-- Texts are normalized part by part, down to the single characters, and a second time nothing changes; what is left
    has only the letters from a to z and digits. The lower case itself is not taken part by part: that of a sigma depends
    on what stands before it. That of one letter is two characters, and that of a letter beyond ASCII is one of ASCII. -/
theorem normalizedValue_piecewise :
    (∀ first second : String,
      normalizedValue (.str (first ++ second)) = normalizedValue (.str first) ++ normalizedValue (.str second)) ∧
    (∀ value, normalizedValue (.str (String.ofList (normalizedValue value))) = normalizedValue value) ∧
    (∀ value, ∀ c ∈ normalizedValue value, 'a' ≤ c ∧ c ≤ 'z' ∨ '0' ≤ c ∧ c ≤ '9') ∧
    (∀ text : String, normalizedValue (.str text) = text.toList.flatMap residue) ∧
    (∃ text, Text.lower (text ++ ['Σ']) ≠ Text.lower text ++ Text.lower ['Σ']) ∧
    (∃ c, 1 < (Text.lower [c]).length) ∧
    ∃ c d : Char, 0x7F < c.toNat ∧ d.toNat ≤ 0x7F ∧ Text.lower [c] = [d] := by
  refine ⟨normalizedValue_append, fun value => ?_, fun value c member => ?_, fun text => ?_, ?_, ?_, ?_⟩
  · rw [normalizedValue_str, String.toList_ofList]
    exact normalized_of_plain fun c member => isPlainLetterOrDigit_of_mem_normalized member
  · have plain := isPlainLetterOrDigit_of_mem_normalized member
    simpa [isPlainLetterOrDigit, Char.isLower, Char.isDigit, Char.le_def] using plain
  · rw [normalizedValue_str]
    exact normalized_eq_flatMap text.toList
  · exact ⟨['Α'], by decide +kernel⟩
  · exact ⟨'İ', by decide +kernel⟩
  · exact ⟨'\u212A', 'k', by decide, by decide, by decide +kernel⟩

theorem normalizedValue_piecewise_sigmas :
    let first := "CAΣ"
    let second := "Σ İ-\u212A 7"
    Text.lower (first ++ second).toList ≠ Text.lower first.toList ++ Text.lower second.toList ∧
      normalizedValue (.str (first ++ second)) = "ca".toList ++ "ik7".toList ∧
      'k' ∈ normalizedValue (.str second) ∧ ('a' ≤ 'k' ∧ 'k' ≤ 'z' ∨ '0' ≤ 'k' ∧ 'k' ≤ '9') := by
  intro first second
  have left : normalizedValue (.str first) = "ca".toList := by decide +kernel
  have right : normalizedValue (.str second) = "ik7".toList := by decide +kernel
  obtain ⟨append, -, among, -⟩ := normalizedValue_piecewise
  have member : 'k' ∈ normalizedValue (.str second) := by
    rw [right]
    decide
  refine ⟨by decide +kernel, ?_, member, among (.str second) 'k' member⟩
  rw [append, left, right]

end Record
end FormFill
