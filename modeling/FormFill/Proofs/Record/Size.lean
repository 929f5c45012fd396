import FormFill.Proofs.Record.Splitting
import FormFill.Record.Size

namespace FormFill

namespace Text

theorem exists_of_inRanges {ranges : List (Nat × Nat)} {n : Nat} (inside : inRanges ranges n = true) :
    ∃ range ∈ ranges, range.1 ≤ n ∧ n ≤ range.2 := by
  induction ranges with
  | nil => cases inside
  | cons range ranges ih =>
    rw [inRanges] at inside
    split at inside
    · cases inside
    · rename_i reached
      rcases Bool.or_eq_true_iff.mp inside with within | further
      · exact ⟨range, List.mem_cons_self, by omega, of_decide_eq_true within⟩
      · obtain ⟨other, member, bounds⟩ := ih further
        exact ⟨other, List.mem_cons_of_mem range member, bounds⟩

/-- No decimal digit of any script is a blank. -/
theorem isBlank_of_decimal {c : Char} (digit : isDigit c = true) : isBlank c = false := by
  have apart : ∀ first ∈ digitZeros, ∀ range ∈ blankRanges, range.2 < first ∨ first + 10 ≤ range.1 := by decide
  obtain ⟨first, listed, low, high⟩ : ∃ first ∈ digitZeros, first ≤ c.toNat ∧ c.toNat < first + 10 := by
    simpa [isDigit, digitValue?] using digit
  refine Bool.eq_false_iff.mpr fun blank => ?_
  obtain ⟨range, among, above, below⟩ := exists_of_inRanges blank
  have disjoint := apart first listed range among
  omega

end Text

namespace Record

/-- One or more digits of any script. -/
def Digits (text : List Char) : Prop :=
  text ≠ [] ∧ ∀ c ∈ text, Text.isDigit c = true

/-- Digits, alone or with a point and more digits behind them. -/
inductive Numeral : List Char → Prop where
  | whole {digits : List Char} (written : Digits digits) : Numeral digits
  | pointed {digits fraction : List Char} (written : Digits digits) (behind : Digits fraction) :
      Numeral (digits ++ '.' :: fraction)

/-- The longest numeral that a text begins with. -/
structure LongestNumeral (text token : List Char) : Prop where
  numeral : Numeral token
  starts : token <+: text
  longest : ∀ other, Numeral other → other <+: text → other.length ≤ token.length

def StartsWithDigit (text : List Char) : Prop :=
  ∃ c ∈ text.head?, Text.isDigit c = true

/-- The letters US in a text that goes on with blanks, if any, and then with a text that starts with a digit. -/
structure UsBefore (text rest : List Char) : Prop where
  letters : ∃ u ∈ ['u', 'U'], ∃ s ∈ ['s', 'S', 'ſ'], ∃ blanks, (∀ c ∈ blanks, Text.isBlank c = true) ∧
    text = u :: s :: (blanks ++ rest)
  digit : StartsWithDigit rest

def endsInWord (text : List Char) : Bool :=
  text.getLast?.any Text.isWord

def startsWithWord (text : List Char) : Bool :=
  text.head?.any Text.isWord

/-- A word begins or ends between two parts of a text: there is a word character on one side of it only. -/
def WordBoundary (before after : List Char) : Prop :=
  endsInWord before ≠ startsWithWord after

/-- A size in US units begins between two parts of a text, with its number in `rest`. -/
def Marked (before after rest : List Char) : Prop :=
  WordBoundary before after ∧ UsBefore after rest

def Unmarked (text : List Char) : Prop :=
  ∀ before after rest, text = before ++ after → ¬ Marked before after rest

/-- The size in a text: the numeral behind its first US that has one, else its first numeral, else all of it. -/
inductive SizeIn (text : List Char) : List Char → Prop where
  | marked {before after rest token : List Char} (split : text = before ++ after) (mark : Marked before after rest)
      (first : ∀ earlier later other, text = earlier ++ later → Marked earlier later other →
        before.length ≤ earlier.length)
      (numeral : LongestNumeral rest token) : SizeIn text token
  | plain {before rest token : List Char}
      (unmarked : Unmarked text) (split : text = before ++ rest) (first : ∀ c ∈ before, Text.isDigit c = false)
      (numeral : LongestNumeral rest token) : SizeIn text token
  | bare (digitless : ∀ c ∈ text, Text.isDigit c = false) : SizeIn text text

theorem LongestNumeral.unique {text first second : List Char} (one : LongestNumeral text first)
    (other : LongestNumeral text second) : first = second := by
  have lengths := Nat.le_antisymm (other.longest first one.numeral one.starts)
    (one.longest second other.numeral other.starts)
  exact (List.prefix_of_prefix_length_le one.starts other.starts lengths.le).eq_of_length lengths

theorem Numeral.startsWithDigit {token text : List Char} (numeral : Numeral token) (starts : token <+: text) :
    StartsWithDigit text := by
  have first {digits rest : List Char} (written : Digits digits) : StartsWithDigit (digits ++ rest) := by
    obtain ⟨nonempty, all⟩ := written
    cases digits with
    | nil => exact absurd rfl nonempty
    | cons c digits => exact ⟨c, rfl, all c List.mem_cons_self⟩
  obtain ⟨rest, rfl⟩ := starts
  cases numeral with
  | whole written => exact first written
  | pointed written => simpa using first written

theorem digits_takeWhile {text : List Char} (nonempty : text.takeWhile Text.isDigit ≠ []) :
    Digits (text.takeWhile Text.isDigit) :=
  ⟨nonempty, fun _ member => List.mem_takeWhile_imp member⟩

theorem length_le_of_digits {digits text : List Char} (written : Digits digits) (starts : digits <+: text) :
    digits.length ≤ (text.takeWhile Text.isDigit).length := by
  obtain ⟨rest, rfl⟩ := starts
  rw [List.takeWhile_append_of_pos written.2, List.length_append]
  exact Nat.le_add_right _ _

/-- Where a numeral with a point begins a text, the digits end at the point. -/
theorem split_at_point {digits fraction text : List Char} (written : Digits digits)
    (starts : digits ++ '.' :: fraction <+: text) :
    text.takeWhile Text.isDigit = digits ∧
      ∃ rest, text.dropWhile Text.isDigit = '.' :: rest ∧ fraction <+: rest := by
  obtain ⟨rest, rfl⟩ := starts
  have point : Text.isDigit '.' = false := by decide
  rw [List.append_assoc, List.cons_append, List.takeWhile_append_of_pos written.2,
    List.dropWhile_append_of_pos written.2, List.takeWhile_cons_of_neg (by simp [point]),
    List.dropWhile_cons_of_neg (by simp [point]), List.append_nil]
  exact ⟨rfl, fraction ++ rest, rfl, List.prefix_append fraction rest⟩

theorem longestNumeral_whole {text : List Char} (written : text.takeWhile Text.isDigit ≠ [])
    (pointless : ∀ rest, text.dropWhile Text.isDigit = '.' :: rest → rest.takeWhile Text.isDigit = []) :
    LongestNumeral text (text.takeWhile Text.isDigit) := by
  refine ⟨.whole (digits_takeWhile written), List.takeWhile_prefix _, fun other numeral starts => ?_⟩
  cases numeral with
  | whole digits => exact length_le_of_digits digits starts
  | pointed digits behind =>
    obtain ⟨-, rest, point, further⟩ := split_at_point digits starts
    have short := length_le_of_digits behind further
    rw [pointless rest point] at short
    exact absurd (List.length_eq_zero_iff.mp (Nat.le_zero.mp short)) behind.1

theorem longestNumeral_pointed {text rest : List Char} (written : text.takeWhile Text.isDigit ≠ [])
    (point : text.dropWhile Text.isDigit = '.' :: rest) (behind : rest.takeWhile Text.isDigit ≠ []) :
    LongestNumeral text (text.takeWhile Text.isDigit ++ '.' :: rest.takeWhile Text.isDigit) := by
  refine ⟨.pointed (digits_takeWhile written) (digits_takeWhile behind), ?_, fun other numeral starts => ?_⟩
  · have parts := List.takeWhile_append_dropWhile (p := Text.isDigit) (l := text)
    rw [point] at parts
    refine ⟨rest.dropWhile Text.isDigit, ?_⟩
    rw [List.append_assoc, List.cons_append, List.takeWhile_append_dropWhile, parts]
  · cases numeral with
    | whole digits => exact (length_le_of_digits digits starts).trans (by simp)
    | pointed digits fraction =>
      obtain ⟨same, others, split, further⟩ := split_at_point digits starts
      cases point.symm.trans split
      have short := length_le_of_digits fraction further
      rw [same, List.length_append, List.length_append, List.length_cons, List.length_cons]
      omega

theorem number?_longest {text token : List Char} (found : number? text = some token) : LongestNumeral text token := by
  unfold number? at found
  split at found
  · cases found
  · rename_i written
    split at found
    · rename_i rest point
      split at found
      · rename_i none
        cases found
        refine longestNumeral_whole written fun others split => ?_
        cases point.symm.trans split
        exact none
      · rename_i behind
        cases found
        exact longestNumeral_pointed written point behind
    · rename_i pointless
      cases found
      exact longestNumeral_whole written fun rest split => absurd split (pointless rest)

theorem number?_eq_none_iff {text : List Char} : number? text = none ↔ ¬ StartsWithDigit text := by
  have ended : text.takeWhile Text.isDigit = [] ↔ ¬ StartsWithDigit text := by
    cases text with
    | nil => simp [StartsWithDigit]
    | cons c rest => simp [StartsWithDigit, List.takeWhile_cons]
  rw [← ended]
  unfold number?
  split
  · rename_i none
    simp [none]
  · rename_i nonempty
    refine iff_of_false ?_ nonempty
    split
    · split <;> simp
    · simp

theorem number?_eq_some_iff {text token : List Char} : number? text = some token ↔ LongestNumeral text token := by
  refine ⟨number?_longest, fun longest => ?_⟩
  cases found : number? text with
  | none => exact absurd (longest.numeral.startsWithDigit longest.starts) (number?_eq_none_iff.mp found)
  | some other => rw [(number?_longest found).unique longest]

theorem firstNumber?_eq (text : List Char) : firstNumber? text = number? (text.dropWhile (!Text.isDigit ·)) := by
  induction text with
  | nil => rfl
  | cons c rest ih =>
    rw [firstNumber?, List.dropWhile_cons]
    by_cases digit : Text.isDigit c = true
    · obtain ⟨token, found⟩ : ∃ token, number? (c :: rest) = some token :=
        Option.ne_none_iff_exists'.mp fun none => number?_eq_none_iff.mp none ⟨c, rfl, digit⟩
      simp [digit, found]
    · have none : number? (c :: rest) = none := number?_eq_none_iff.mpr (by simpa [StartsWithDigit] using digit)
      simp [digit, none, ih]

variable {text before after rest token : List Char}

theorem UsBefore.rest_eq (mark : UsBefore text rest) : rest = (text.drop 2).dropWhile Text.isBlank := by
  obtain ⟨⟨u, -, s, -, blanks, all, rfl⟩, c, first, digit⟩ := mark
  obtain ⟨tail, rfl⟩ := List.head?_eq_some_iff.mp first
  rw [List.drop_succ_cons, List.drop_succ_cons, List.drop_zero, List.dropWhile_append_of_pos all,
    List.dropWhile_cons_of_neg (by simp [Text.isBlank_of_decimal digit])]

theorem isU_iff {c : Char} : isU c = true ↔ c ∈ ['u', 'U'] := by
  simp [isU]

theorem isS_iff {c : Char} : isS c = true ↔ c ∈ ['s', 'S', 'ſ'] := by
  simp [isS, or_assoc]

theorem UsBefore.usNumber?_eq (mark : UsBefore text rest) : usNumber? text = number? rest := by
  have tail := mark.rest_eq
  obtain ⟨⟨u, isFirst, s, isSecond, blanks, -, rfl⟩, -⟩ := mark
  rw [usNumber?, if_pos (by simp [isU_iff.mpr isFirst, isS_iff.mpr isSecond])]
  exact congrArg number? tail.symm

theorem usBefore_of_usNumber? (found : usNumber? text = some token) : ∃ rest, UsBefore text rest := by
  unfold usNumber? at found
  split at found
  · rename_i u s rest
    split at found
    · rename_i letters
      obtain ⟨isFirst, isSecond⟩ := Bool.and_eq_true_iff.mp letters
      have longest := number?_longest found
      refine ⟨rest.dropWhile Text.isBlank, ⟨u, isU_iff.mp isFirst, s, isS_iff.mp isSecond, rest.takeWhile Text.isBlank,
        fun c member => List.mem_takeWhile_imp member, ?_⟩,
        longest.numeral.startsWithDigit longest.starts⟩
      rw [List.takeWhile_append_dropWhile]
    · cases found
  · cases found

/-- The letters US begin a word wherever no word character stands before them. -/
theorem UsBefore.wordBoundary_iff (mark : UsBefore after rest) :
    WordBoundary before after ↔ endsInWord before = false := by
  have letter : ∀ u ∈ ['u', 'U'], Text.isWord u = true := List.all_eq_true.mp rfl
  obtain ⟨⟨u, isFirst, s, -, blanks, -, rfl⟩, -⟩ := mark
  simp [WordBoundary, startsWithWord, letter u isFirst]

theorem Marked.number?_eq (marked : Marked before after rest) : ∃ token, number? rest = some token :=
  Option.ne_none_iff_exists'.mp fun none => number?_eq_none_iff.mp none marked.2.digit

theorem usSize?_of_marked {c : Char} {tail : List Char} (marked : Marked before (c :: tail) rest) :
    usSize? (endsInWord before) (c :: tail) = number? rest := by
  obtain ⟨token, found⟩ := marked.number?_eq
  rw [usSize?, marked.2.wordBoundary_iff.mp marked.1, marked.2.usNumber?_eq, found]
  rfl

theorem usSize?_of_unmarked {c : Char} {tail : List Char} (unmarked : ∀ rest, ¬ Marked before (c :: tail) rest) :
    usSize? (endsInWord before) (c :: tail) = usSize? (endsInWord (before ++ [c])) tail := by
  have here : (if endsInWord before then none else usNumber? (c :: tail)) = none := by
    split
    · rfl
    · rename_i outside
      refine Option.eq_none_iff_forall_ne_some.mpr fun token found => ?_
      obtain ⟨rest, mark⟩ := usBefore_of_usNumber? found
      exact unmarked rest ⟨mark.wordBoundary_iff.mpr (by simpa using outside), mark⟩
  have passed : endsInWord (before ++ [c]) = Text.isWord c := by simp [endsInWord]
  rw [usSize?, here, Option.none_or, passed]

/-- Where the first character bears no mark, a mark has it in front. -/
theorem Marked.behind {c : Char} {tail earlier later : List Char} (unmarked : ∀ other, ¬ Marked before (c :: tail) other)
    (split : c :: tail = earlier ++ later) (marked : Marked (before ++ earlier) later rest) :
    ∃ between, earlier = c :: between ∧ tail = between ++ later ∧ Marked (before ++ [c] ++ between) later rest := by
  rcases List.cons_eq_append_iff.mp split with ⟨rfl, rfl⟩ | ⟨between, rfl, inner⟩
  · rw [List.append_nil] at marked
    exact absurd marked (unmarked rest)
  · exact ⟨between, rfl, inner, by simpa using marked⟩

/-- The search behind some part of a text finds the number of the first mark there, or there is none. -/
theorem usSize?_cases (before text : List Char) :
    (∃ skipped after rest token, usSize? (endsInWord before) text = some token ∧
      text = skipped ++ after ∧ Marked (before ++ skipped) after rest ∧ LongestNumeral rest token ∧
      ∀ earlier later other, text = earlier ++ later → Marked (before ++ earlier) later other →
        skipped.length ≤ earlier.length) ∨
    (usSize? (endsInWord before) text = none ∧
      ∀ earlier later other, text = earlier ++ later → ¬ Marked (before ++ earlier) later other) := by
  -- The part before the search grows by each character that bears no mark.
  induction text generalizing before with
  | nil =>
    refine .inr ⟨rfl, fun earlier later other split ⟨_, mark⟩ => ?_⟩
    obtain ⟨u, -, s, -, blanks, -, written⟩ := mark.letters
    rw [(List.nil_eq_append_iff.mp split).2] at written
    cases written
  | cons c tail ih =>
    by_cases here : ∃ rest, Marked before (c :: tail) rest
    · obtain ⟨rest, marked⟩ := here
      obtain ⟨token, found⟩ := marked.number?_eq
      exact .inl ⟨[], c :: tail, rest, token, (usSize?_of_marked marked).trans found, rfl, by simpa using marked,
        number?_longest found, fun _ _ _ _ _ => Nat.zero_le _⟩
    · have unmarked := not_exists.mp here
      rw [usSize?_of_unmarked unmarked]
      rcases ih (before ++ [c]) with ⟨skipped, after, rest, token, found, split, marked, numeral, first⟩ |
        ⟨none, further⟩
      · refine .inl ⟨c :: skipped, after, rest, token, found, by rw [split, List.cons_append], by simpa using marked,
          numeral, fun earlier later other apart mark => ?_⟩
        obtain ⟨between, rfl, inner, mark⟩ := mark.behind unmarked apart
        exact Nat.succ_le_succ (first between later other inner mark)
      · refine .inr ⟨none, fun earlier later other apart mark => ?_⟩
        obtain ⟨between, -, inner, mark⟩ := mark.behind unmarked apart
        exact further between later other inner mark

theorem Marked.exists_digit (marked : Marked before after rest) : ∃ c ∈ before ++ after, Text.isDigit c = true := by
  obtain ⟨⟨u, -, s, -, blanks, -, rfl⟩, c, first, digit⟩ := marked.2
  have inside : c ∈ rest := List.mem_of_mem_head? first
  exact ⟨c, by simp [inside], digit⟩

theorem dropWhile_of_digitless {text : List Char} (digitless : ∀ c ∈ text, Text.isDigit c = false) :
    text.dropWhile (!Text.isDigit ·) = [] :=
  List.dropWhile_eq_nil_iff.mpr fun c member => by simp [digitless c member]

theorem digitless_of_dropWhile {text : List Char} (none : number? (text.dropWhile (!Text.isDigit ·)) = none) :
    ∀ c ∈ text, Text.isDigit c = false := by
  have empty : text.dropWhile (!Text.isDigit ·) = [] := by
    refine List.head?_eq_none_iff.mp (Option.eq_none_iff_forall_not_mem.mpr fun c first => ?_)
    have digit : Text.isDigit c = true := by simpa using Text.of_mem_head?_dropWhile first
    exact number?_eq_none_iff.mp none ⟨c, first, digit⟩
  intro c member
  simpa using List.dropWhile_eq_nil_iff.mp empty c member

theorem usSize_of_marked (found : usSize? false text = some token) : usSize text = token := by
  simp [usSize, found]

theorem usSize_of_unmarked (none : usSize? false text = none) :
    usSize text = (number? (text.dropWhile (!Text.isDigit ·))).getD text := by
  rw [usSize, none, Option.none_or, firstNumber?_eq]

theorem sizeIn_usSize (text : List Char) : SizeIn text (usSize text) := by
  rcases usSize?_cases [] text with ⟨before, after, rest, token, found, split, marked, numeral, first⟩ |
    ⟨none, unmarked⟩
  · rw [usSize_of_marked found]
    exact .marked split marked first numeral
  · rw [usSize_of_unmarked none]
    cases found : number? (text.dropWhile (!Text.isDigit ·)) with
    | some token =>
      refine .plain unmarked List.takeWhile_append_dropWhile.symm (fun c member => ?_) (number?_longest found)
      simpa using List.mem_takeWhile_imp member
    | none => exact .bare (digitless_of_dropWhile found)

theorem SizeIn.usSize_eq {size : List Char} (sizeIn : SizeIn text size) : usSize text = size := by
  rcases usSize?_cases [] text with ⟨skipped, beyond, other, token, found, apart, mark, longest, leftmost⟩ |
    ⟨none, markless⟩
  · rw [usSize_of_marked found]
    cases sizeIn with
    | @marked before after rest _ split marked first numeral =>
      have lengths := Nat.le_antisymm (leftmost before after rest split marked) (first skipped beyond other apart mark)
      obtain ⟨rfl, rfl⟩ := List.append_inj (apart.symm.trans split) lengths
      have same : other = rest := mark.2.rest_eq.trans marked.2.rest_eq.symm
      exact (same ▸ longest).unique numeral
    | plain unmarked split first numeral => exact absurd mark (unmarked skipped beyond other apart)
    | bare digitless =>
      obtain ⟨c, member, digit⟩ := mark.exists_digit
      rw [List.nil_append, ← apart] at member
      rw [digitless c member] at digit
      cases digit
  · rw [usSize_of_unmarked none]
    cases sizeIn with
    | @marked before after rest _ split marked first numeral => exact absurd marked (markless before after rest split)
    | @plain before rest _ unmarked split first numeral =>
      obtain ⟨c, head, digit⟩ := numeral.numeral.startsWithDigit numeral.starts
      obtain ⟨tail, rfl⟩ := List.head?_eq_some_iff.mp head
      have reached : text.dropWhile (!Text.isDigit ·) = c :: tail := by
        rw [split, List.dropWhile_append_of_pos (fun c member => by simp [first c member]),
          List.dropWhile_cons_of_neg (by simp [digit])]
      rw [reached, number?_eq_some_iff.mpr numeral, Option.getD_some]
    | bare digitless =>
      rw [dropWhile_of_digitless digitless]
      rfl

theorem Numeral.mem {token : List Char} (numeral : Numeral token) {c : Char} (member : c ∈ token) :
    Text.isDigit c = true ∨ c = '.' := by
  cases numeral with
  | whole written => exact .inl (written.2 c member)
  | pointed written behind =>
    rcases List.mem_append.mp member with inside | inside
    · exact .inl (written.2 c inside)
    · rcases List.mem_cons.mp inside with point | inside
      · exact .inr point
      · exact .inl (behind.2 c inside)

theorem Numeral.sizeIn {token : List Char} (numeral : Numeral token) : SizeIn token token := by
  have letter : ∀ u ∈ ['u', 'U'], (!Text.isDigit u && u != '.') = true := List.all_eq_true.mp rfl
  have longest : LongestNumeral token token := ⟨numeral, List.prefix_rfl, fun other _ starts => starts.length_le⟩
  refine .plain ?_ (List.nil_append token).symm nofun longest
  rintro before after rest split ⟨-, mark⟩
  obtain ⟨u, isFirst, s, -, blanks, -, rfl⟩ := mark.letters
  have unlike := letter u isFirst
  rcases numeral.mem (c := u) (by simp [split]) with digit | point
  · simp [digit] at unlike
  · simp [point] at unlike

theorem SizeIn.again {size : List Char} (sizeIn : SizeIn text size) : SizeIn size size := by
  cases sizeIn with
  | marked split mark first longest => exact longest.numeral.sizeIn
  | plain unmarked split first longest => exact longest.numeral.sizeIn
  | bare digitless => exact .bare digitless

theorem UsBefore.suffix (mark : UsBefore text rest) : rest <:+ text := by
  obtain ⟨u, -, s, -, blanks, -, rfl⟩ := mark.letters
  exact ⟨u :: s :: blanks, by simp⟩

theorem SizeIn.isInfix {size : List Char} (sizeIn : SizeIn text size) : size <:+: text := by
  cases sizeIn with
  | @marked before after rest _ split mark first longest =>
    have behind : rest <:+ text := mark.2.suffix.trans ⟨before, split.symm⟩
    exact longest.starts.isInfix.trans behind.isInfix
  | @plain before rest _ unmarked split first longest =>
    have behind : rest <:+ text := ⟨before, split.symm⟩
    exact longest.starts.isInfix.trans behind.isInfix
  | bare digitless => exact List.infix_rfl

/-- What is taken from a text is the size in it. It is a part of the text, and taken again it stays as it is. -/
theorem usSize_eq_iff (text : List Char) :
    (∀ size, usSize text = size ↔ SizeIn text size) ∧ usSize (usSize text) = usSize text ∧ usSize text <:+: text := by
  have sized := sizeIn_usSize text
  refine ⟨fun size => ⟨?_, SizeIn.usSize_eq⟩, sized.again.usSize_eq, sized.isInfix⟩
  rintro rfl
  exact sized

example : usSize "EU 44, AUS 10, US .5, uſ 9.5.1".toList = "9.5".toList := by decide

end Record
end FormFill
