import FormFill.Identifier
import FormFill.Proofs.Text.Half

namespace FormFill

namespace Text

theorem toNat_of_isDigit {c : Char} (digit : c.isDigit = true) : 48 ≤ c.toNat ∧ c.toNat ≤ 57 := by
  simpa [Char.isDigit, UInt32.le_iff_toNat_le] using digit

theorem isBlank_of_isDigit {c : Char} (digit : c.isDigit = true) : isBlank c = false := by
  have bounds := toNat_of_isDigit digit
  simp only [isBlank, inRanges, blankRanges]
  grind

theorem isDigit_of_isBlank {c : Char} (blank : isBlank c = true) : c.isDigit = false := by
  cases digit : c.isDigit with
  | false => rfl
  | true => simp [isBlank_of_isDigit digit] at blank

theorem digitValue?_of_isDigit {c : Char} (digit : c.isDigit = true) :
    digitValue? c = some (c.toNat - '0'.toNat) := by
  obtain ⟨low, high⟩ := toNat_of_isDigit digit
  have below : c.toNat < 48 + 10 := by omega
  simp only [digitValue?, digitZeros, List.find?_cons, low, below, decide_true, Bool.and_self, Option.map_some]
  rfl

theorem ofDigits_eq_ofDigitChars {digits : List Char} (all : ∀ c ∈ digits, c.isDigit = true) :
    ofDigits digits = Nat.ofDigitChars 10 digits 0 := by
  have shifted : ∀ n, digits.foldl (fun n c => 10 * n + (digitValue? c).getD 0) n =
      Nat.ofDigitChars 10 digits n := by
    induction digits with
    | nil => exact fun n => rfl
    | cons c rest ih =>
      intro n
      have tail := ih fun other member => all other (List.mem_cons_of_mem c member)
      rw [List.foldl_cons, Nat.ofDigitChars_cons, tail, digitValue?_of_isDigit (all c List.mem_cons_self),
        Option.getD_some]
  exact shifted 0

theorem dropWhile_unifyLineEnds (s : List Char) :
    (unifyLineEnds s).dropWhile isBlank = unifyLineEnds (s.dropWhile isBlank) := by
  have line : isBlank '\n' = true := by decide
  have carriage : isBlank '\r' = true := by decide
  induction s using unifyLineEnds.induct with
  | case1 => rfl
  | case2 rest ih => simp only [unifyLineEnds, List.dropWhile_cons, line, carriage, ↓reduceIte, ih]
  | case3 c rest apart ih =>
    by_cases plain : c = '\r'
    · subst plain
      rw [unifyLineEnds.eq_3 _ _ apart, if_pos rfl, List.dropWhile_cons_of_pos line, ih,
        List.dropWhile_cons_of_pos carriage]
    · by_cases blank : isBlank c = true
      · rw [unifyLineEnds.eq_3 _ _ apart, if_neg plain, List.dropWhile_cons_of_pos blank, ih,
          List.dropWhile_cons_of_pos blank]
      · rw [List.dropWhile_cons_of_neg blank, unifyLineEnds.eq_3 _ _ apart, if_neg plain,
          List.dropWhile_cons_of_neg blank]

theorem takeWhile_unifyLineEnds (s : List Char) :
    (unifyLineEnds s).takeWhile Char.isDigit = s.takeWhile Char.isDigit := by
  induction s using unifyLineEnds.induct with
  | case1 => rfl
  | case2 rest ih => rfl
  | case3 c rest apart ih =>
    rw [unifyLineEnds.eq_3 _ _ apart, List.takeWhile_cons, List.takeWhile_cons, ih]
    by_cases plain : c = '\r'
    · subst plain
      rfl
    · rw [if_neg plain]

theorem splitSign_of_ne {c : Char} {rest : List Char} (minus : c ≠ '-') (plus : c ≠ '+') :
    splitSign (c :: rest) = (false, c :: rest) := by
  unfold splitSign
  split
  · simp_all
  · simp_all
  · rfl

theorem splitSign_unifyLineEnds (s : List Char) :
    splitSign (unifyLineEnds s) = ((splitSign s).1, unifyLineEnds (splitSign s).2) := by
  cases s using unifyLineEnds.fun_cases with
  | case1 => rfl
  | case2 rest => rfl
  | case3 c rest apart =>
    rw [unifyLineEnds.eq_3 _ _ apart]
    by_cases minus : c = '-'
    · subst minus
      rfl
    · by_cases plus : c = '+'
      · subst plus
        rfl
      · rw [splitSign_of_ne minus plus, unifyLineEnds.eq_3 _ _ apart]
        split
        · rfl
        · exact splitSign_of_ne minus plus

theorem splitSign_append {blanks : List Char} (all : ∀ c ∈ blanks, isBlank c = true) (text : List Char) :
    splitSign (text ++ blanks) = ((splitSign text).1, (splitSign text).2 ++ blanks) := by
  cases text with
  | nil =>
    cases blanks with
    | nil => rfl
    | cons c rest =>
      have blank := all c List.mem_cons_self
      have minus : c ≠ '-' := fun same => by simp [same, isBlank, inRanges, blankRanges] at blank
      have plus : c ≠ '+' := fun same => by simp [same, isBlank, inRanges, blankRanges] at blank
      exact splitSign_of_ne minus plus
  | cons c rest =>
    by_cases minus : c = '-'
    · subst minus
      rfl
    · by_cases plus : c = '+'
      · subst plus
        rfl
      · rw [List.cons_append, splitSign_of_ne minus plus, splitSign_of_ne minus plus, List.cons_append]

theorem takeWhile_append_blanks {blanks : List Char} (all : ∀ c ∈ blanks, isBlank c = true)
    (body : List Char) : (body ++ blanks).takeWhile Char.isDigit = body.takeWhile Char.isDigit := by
  have none : blanks.takeWhile Char.isDigit = [] := by
    cases blanks with
    | nil => rfl
    | cons c rest =>
      have letter := isDigit_of_isBlank (all c List.mem_cons_self)
      rw [List.takeWhile_cons_of_neg (by simp [letter])]
  rw [List.takeWhile_append, none, List.append_nil]
  split
  · rename_i whole
    exact (List.takeWhile_prefix Char.isDigit).eq_of_length whole |>.symm
  · rfl

theorem of_mem_head?_dropWhile {p : Char → Bool} {text : List Char} {c : Char}
    (first : c ∈ (text.dropWhile p).head?) : p c = false := by
  have ends := List.head?_dropWhile_not p text
  rw [first] at ends
  simpa using ends

theorem dropWhile_eq_strip_append (text : List Char) :
    ∃ blanks, (∀ c ∈ blanks, isBlank c = true) ∧ text.dropWhile isBlank = strip text ++ blanks := by
  refine ⟨((text.dropWhile isBlank).reverse.takeWhile isBlank).reverse, ?_, ?_⟩
  · intro c member
    rw [List.mem_reverse] at member
    exact List.all_eq_true.mp List.all_takeWhile c member
  · rw [strip, trimWhile, ← List.reverse_append, List.takeWhile_append_dropWhile, List.reverse_reverse]

theorem dropWhile_strip (text : List Char) : (strip text).dropWhile isBlank = strip text := by
  obtain ⟨blanks, -, split⟩ := dropWhile_eq_strip_append text
  cases stripped : strip text with
  | nil => rfl
  | cons c rest =>
    have first : c ∈ (text.dropWhile isBlank).head? := by simp [split, stripped]
    exact List.dropWhile_cons_of_neg (by simp [of_mem_head?_dropWhile first])

theorem takeWhile_of_all {digits : List Char} (all : ∀ c ∈ digits, c.isDigit = true) :
    digits.takeWhile Char.isDigit = digits := by
  induction digits with
  | nil => rfl
  | cons c rest ih =>
    rw [List.takeWhile_cons_of_pos (all c List.mem_cons_self),
      ih fun other member => all other (List.mem_cons_of_mem c member)]

end Text

/-- Whether a text without blanks before it begins with a minus sign, and the digits that follow its sign. -/
def signedDigits (text : List Char) : Bool × List Char :=
  ((Text.splitSign text).1, (Text.splitSign text).2.takeWhile Char.isDigit)

theorem leadingDigits_eq (text : List Char) :
    leadingDigits text = signedDigits (text.dropWhile Text.isBlank) := rfl

theorem signedDigits_append {blanks : List Char} (all : ∀ c ∈ blanks, Text.isBlank c = true) (text : List Char) :
    signedDigits (text ++ blanks) = signedDigits text := by
  simp only [signedDigits, Text.splitSign_append all, Text.takeWhile_append_blanks all]

theorem signedDigits_unifyLineEnds (text : List Char) :
    signedDigits (Text.unifyLineEnds text) = signedDigits text := by
  simp only [signedDigits, Text.splitSign_unifyLineEnds, Text.takeWhile_unifyLineEnds]

/-- Trimming and line ends do not matter to the digits that a text begins with. -/
theorem leadingDigits_stored (text : List Char) :
    leadingDigits (Text.strip (Text.unifyLineEnds text)) = leadingDigits text := by
  obtain ⟨blanks, all, split⟩ := Text.dropWhile_eq_strip_append (Text.unifyLineEnds text)
  rw [leadingDigits_eq, Text.dropWhile_strip, ← signedDigits_append all, ← split, Text.dropWhile_unifyLineEnds,
    signedDigits_unifyLineEnds, leadingDigits_eq]

theorem leadingInt?_stored (text : List Char) :
    leadingInt? (Text.strip (Text.unifyLineEnds text)) = leadingInt? text := by
  rw [leadingInt?, leadingDigits_stored, ← leadingInt?]

/-- The number that a text begins with is read unless it has too many digits. -/
theorem readLeadingInt_eq (text : List Char) :
    readLeadingInt text =
      if longestNumeral < (leadingDigits text).2.length then .error (.unreadable (leadingDigits text).2.length)
      else .ok (leadingInt? text) := by
  rw [readLeadingInt, leadingInt?]
  rcases leadingDigits text with ⟨negative, _ | ⟨c, digits⟩⟩
  · rfl
  · dsimp only
    rw [readDigits]
    split <;> rfl

/-- If a text begins with a number, that can be read and the next one shown. -/
structure Countable (text : List Char) : Prop where
  short : (leadingDigits text).2.length ≤ longestNumeral
  showable : ∀ n, leadingInt? text = some n → isShowableInt (n + 1) = true

theorem digits_of_toDigits (n : Nat) : ∀ c ∈ Nat.toDigits 10 n, c.isDigit = true :=
  fun _ member => Nat.isDigit_of_mem_toDigits (by decide) (by decide) member

theorem leadingDigits_intText (n : Int) :
    leadingDigits (intText n) = (decide (n < 0), Nat.toDigits 10 n.natAbs) := by
  have all := Text.takeWhile_of_all (digits_of_toDigits n.natAbs)
  rw [leadingDigits_eq, intText]
  split
  · rename_i negative
    have minus : Text.isBlank '-' = false := by decide
    rw [List.dropWhile_cons_of_neg (by simp [minus]), signedDigits, Text.splitSign, all, decide_eq_true negative]
  · rename_i positive
    obtain ⟨c, rest, digits⟩ := List.exists_cons_of_ne_nil (Nat.toDigits_ne_nil (n := n.natAbs) (b := 10))
    have digit : c.isDigit = true := digits_of_toDigits n.natAbs c (by rw [digits]; exact List.mem_cons_self)
    have minus : c ≠ '-' := fun same => by simp [same] at digit
    have plus : c ≠ '+' := fun same => by simp [same] at digit
    have unsigned : Text.splitSign (Nat.toDigits 10 n.natAbs) = (false, Nat.toDigits 10 n.natAbs) := by
      rw [digits, Text.splitSign_of_ne minus plus]
    have first : (Nat.toDigits 10 n.natAbs).dropWhile Text.isBlank = Nat.toDigits 10 n.natAbs := by
      rw [digits, List.dropWhile_cons_of_neg (by simp [Text.isBlank_of_isDigit digit])]
    rw [first, signedDigits, unsigned, all, decide_eq_false positive]

theorem leadingInt?_intText (n : Int) : leadingInt? (intText n) = some n := by
  have digits := digits_of_toDigits n.natAbs
  rw [leadingInt?, leadingDigits_intText]
  split
  · rename_i none
    exact absurd (Prod.mk.inj none).2 Nat.toDigits_ne_nil
  · rename_i negative digits' _ same
    obtain ⟨rfl, rfl⟩ := Prod.mk.inj same
    rw [Text.ofDigits_eq_ofDigitChars digits, Nat.ofDigitChars_ten_toDigits, Text.withSign]
    by_cases below : n < 0
    · rw [decide_eq_true below, if_pos rfl, Int.ofNat_natAbs_of_nonpos (by omega), Int.neg_neg]
    · rw [decide_eq_false below, if_neg Bool.false_ne_true, Int.natAbs_of_nonneg (by omega)]

theorem fault?_intText (halves : Text.Halves) (n : Int) : halves.fault? (intText n) = none := by
  have digits : ∀ c ∈ Nat.toDigits 10 n.natAbs, c.toNat < 0xF0000 := by
    intro c member
    have small := Text.toNat_of_isDigit (digits_of_toDigits n.natAbs c member)
    omega
  refine Text.Halves.fault?_of_low ?_
  rw [intText]
  split
  · intro c member
    rcases List.mem_cons.mp member with rfl | digit
    · decide
    · exact digits c digit
  · exact digits

end FormFill
