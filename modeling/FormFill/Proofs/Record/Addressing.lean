import FormFill.Proofs.Record.Splitting
import FormFill.Schema.Issue
import Mathlib.Data.List.Forall2

namespace FormFill

namespace Text

variable {separator : Char}

theorem splitOnChar_append (first second : List Char) :
    splitOnChar separator (first ++ separator :: second) =
      splitOnChar separator first ++ splitOnChar separator second :=
  splitAtAny_append_cons (p := (· == separator)) (beq_self_eq_true separator) first second

theorem splitOnChar_of_not_mem {piece : List Char} (apart : separator ∉ piece) :
    splitOnChar separator piece = [piece] := by
  have unseparated : ∀ c ∈ piece, (c == separator) = false := by
    intro c member
    have different : c ≠ separator := fun same => apart (same ▸ member)
    simpa using different
  obtain ⟨last, none, whole, split⟩ := splitAtAny_append unseparated []
  cases whole
  simpa [splitOnChar] using split

/-- Splitting undoes joining where no piece has the separator. -/
theorem splitOnChar_intercalate {pieces : List (List Char)} (nonempty : pieces ≠ [])
    (apart : ∀ piece ∈ pieces, separator ∉ piece) :
    splitOnChar separator ([separator].intercalate pieces) = pieces := by
  induction pieces with
  | nil => exact absurd rfl nonempty
  | cons piece pieces ih =>
    have others := fun other member => apart other (List.mem_cons_of_mem piece member)
    have alone := splitOnChar_of_not_mem (apart piece List.mem_cons_self)
    cases pieces with
    | nil => rw [List.intercalate_singleton, alone]
    | cons next pieces =>
      rw [List.intercalate_cons_cons, List.append_assoc, List.singleton_append, splitOnChar_append, alone,
        ih (List.cons_ne_nil next pieces) others, List.singleton_append]

end Text

namespace Record

open Schema

/-- A way into a value, with what stands at its end: an object on it has a member under the next key, a list an item
    at the next position. -/
inductive Leads : List Place → Json → Json → Prop where
  | here (value : Json) : Leads [] value value
  | member {key : String} {rest : List Place} {members : Members} {inner value : Json}
      (found : members.lookup key = some inner) (onward : Leads rest inner value) :
      Leads (.key key :: rest) (.obj members) value
  | item {position : Nat} {rest : List Place} {items : List Json} {inner value : Json}
      (found : items[position]? = some inner) (onward : Leads rest inner value) :
      Leads (.index position :: rest) (.arr items) value

/-- What a segment of a path may stand for: a key, or the position that it writes in not too many decimal digits. -/
inductive Spells : List Char → Place → Prop where
  | key (name : String) : Spells name.toList (.key name)
  | index {segment : List Char} (written : segment ≠ []) (digits : ∀ c ∈ segment, c.isDigit = true)
      (short : segment.length ≤ longestNumeral) : Spells segment (.index (Nat.ofDigitChars 10 segment 0))

/-- Decimal digits, but too many of them for a position. -/
structure Overlong (segment : List Char) : Prop where
  digits : ∀ c ∈ segment, c.isDigit = true
  long : longestNumeral < segment.length

/-- Segments lead from a value to a list, where the next of them has too many digits for a position; their number comes
    last. -/
inductive BreaksOff : Json → List (List Char) → Nat → Prop where
  | here {items : List Json} {segment : List Char} {rest : List (List Char)} (overlong : Overlong segment) :
      BreaksOff (.arr items) (segment :: rest) segment.length
  | later {value inner : Json} {segment : List Char} {rest : List (List Char)} {place : Place} {digits : Nat}
      (spells : Spells segment place) (step : Leads [place] value inner) (onward : BreaksOff inner rest digits) :
      BreaksOff value (segment :: rest) digits

/-- A path stands for a way, segment by segment. It may stand for several, for a member and an item can go by the same
    name. -/
def Spelled (path : String) (places : List Place) : Prop :=
  List.Forall₂ Spells (Text.splitOnChar '.' path.toList) places

/-- A way as a path. -/
def dotted (places : List Place) : String :=
  ".".intercalate (places.map Place.text)

theorem Spells.of_text {place : Place}
    (short : ∀ position, place = .index position → place.text.length ≤ longestNumeral) :
    Spells place.text.toList place := by
  cases place with
  | key name => exact .key name
  | index position =>
    have within : (Nat.toDigits 10 position).length ≤ longestNumeral := by
      simpa [Place.text, ← String.length_toList] using short position rfl
    have spelled := Spells.index (Nat.toDigits_ne_nil (n := position) (b := 10)) (digits_of_toDigits position) within
    rw [Nat.ofDigitChars_ten_toDigits] at spelled
    simpa [Place.text] using spelled

theorem Spells.digits {segment : List Char} {position : Nat} (spells : Spells segment (.index position)) :
    ∀ c ∈ segment, c.isDigit = true := by
  cases spells with
  | index _ digits => exact digits

theorem spelled_dotted {places : List Place} (nonempty : places ≠ [])
    (undotted : ∀ key, .key key ∈ places → '.' ∉ key.toList)
    (short : ∀ position, .index position ∈ places → (Place.index position).text.length ≤ longestNumeral) :
    Spelled (dotted places) places := by
  have apart : ∀ piece ∈ places.map fun place => place.text.toList, '.' ∉ piece := by
    intro piece member dot
    obtain ⟨place, listed, rfl⟩ := List.mem_map.mp member
    cases place with
    | key name => exact undotted name listed dot
    | index position =>
      have digit := digits_of_toDigits position '.' (by simpa [Place.text] using dot)
      cases digit
  have split : Text.splitOnChar '.' (dotted places).toList = places.map fun place => place.text.toList := by
    rw [dotted, String.toList_intercalate, List.map_map]
    exact Text.splitOnChar_intercalate (by simpa using nonempty) apart
  rw [Spelled, split, List.forall₂_map_left_iff, List.forall₂_same]
  refine fun place member => .of_text ?_
  rintro position rfl
  exact short position member

theorem position?_of_spells {segment : List Char} {position : Nat} (spells : Spells segment (.index position)) :
    position? segment = .ok (some position) := by
  cases spells with
  | index written digits short =>
    have all : segment ≠ [] ∧ segment.all Char.isDigit := ⟨written, List.all_eq_true.mpr digits⟩
    rw [position?, if_pos all, readDigits, if_neg (Nat.not_lt.mpr short), Text.ofDigits_eq_ofDigitChars digits]
    rfl

theorem position?_of_overlong {segment : List Char} (overlong : Overlong segment) :
    position? segment = .error (.unreadable segment.length) := by
  have written : segment ≠ [] := by
    rintro rfl
    exact absurd overlong.long (Nat.not_lt_zero _)
  rw [position?, if_pos ⟨written, List.all_eq_true.mpr overlong.digits⟩, readDigits, if_pos overlong.long]
  rfl

theorem position?_cases (segment : List Char) :
    (∃ position, Spells segment (.index position)) ∨ position? segment = .ok none ∨ Overlong segment := by
  by_cases digits : segment ≠ [] ∧ segment.all Char.isDigit
  · have all : ∀ c ∈ segment, c.isDigit = true := List.all_eq_true.mp digits.2
    by_cases short : segment.length ≤ longestNumeral
    · exact .inl ⟨_, .index digits.1 all short⟩
    · exact .inr (.inr ⟨all, Nat.not_le.mp short⟩)
  · exact .inr (.inl (by rw [position?, if_neg digits]))

/-- A step along a segment is one that it may stand for. -/
theorem child_of_leads {segment : List Char} {place : Place} {value inner : Json} (spells : Spells segment place)
    (leads : Leads [place] value inner) : child value segment = .ok inner := by
  cases leads with
  | member found onward =>
    cases onward
    cases spells
    rw [child, String.ofList_toList, found, Option.getD_some]
  | item found onward =>
    cases onward
    simp only [child, position?_of_spells spells, Bind.bind, Except.bind, Option.bind_some, found, Option.getD_some]
    rfl

theorem child_of_overlong {segment : List Char} (overlong : Overlong segment) (items : List Json) :
    child (.arr items) segment = .error (.unreadable segment.length) := by
  simp only [child, position?_of_overlong overlong, Bind.bind, Except.bind]

/-- Each way in which a step may go: along what its segment stands for, to nothing, or no further. -/
inductive Steps (value : Json) (segment : List Char) : Prop where
  | leads {place : Place} {inner : Json} (spells : Spells segment place) (step : Leads [place] value inner)
  | null (nothing : child value segment = .ok .null)
  | overlong {items : List Json} (list : value = .arr items) (overlong : Overlong segment)

theorem child_steps (value : Json) (segment : List Char) : Steps value segment := by
  cases value with
  | obj members =>
    cases found : members.lookup (String.ofList segment) with
    | none => exact .null (by rw [child, found, Option.getD_none])
    | some inner =>
      have spells := Spells.key (String.ofList segment)
      rw [String.toList_ofList] at spells
      exact .leads spells (.member found (.here inner))
  | arr items =>
    rcases position?_cases segment with ⟨position, spells⟩ | none | overlong
    · cases found : items[position]? with
      | some inner => exact .leads spells (.item found (.here inner))
      | none =>
        refine .null ?_
        simp only [child, position?_of_spells spells, Bind.bind, Except.bind, Option.bind_some, found, Option.getD_none]
        rfl
    · refine .null ?_
      simp only [child, none, Bind.bind, Except.bind, Option.bind_none, Option.getD_none]
      rfl
    · exact .overlong rfl overlong
  | _ => exact .null rfl

theorem Leads.cons {place : Place} {rest : List Place} {value inner found : Json} (step : Leads [place] value inner)
    (onward : Leads rest inner found) : Leads (place :: rest) value found := by
  cases step with
  | member present last =>
    cases last
    exact .member present onward
  | item present last =>
    cases last
    exact .item present onward

theorem descend_cons (value : Json) (segment : List Char) (rest : List (List Char)) :
    descend value (segment :: rest) = child value segment >>= fun inner => descend inner rest :=
  rfl

theorem descend_of_child {value inner : Json} {segment : List Char} (step : child value segment = .ok inner)
    (rest : List (List Char)) : descend value (segment :: rest) = descend inner rest := by
  rw [descend_cons, step]
  rfl

theorem descend_of_leads {places : List Place} {segments : List (List Char)} {value found : Json}
    (leads : Leads places value found) (spelled : List.Forall₂ Spells segments places) :
    descend value segments = .ok found := by
  induction leads generalizing segments with
  | here value =>
    cases spelled
    rfl
  | member present _ ih =>
    cases spelled with
    | cons spells others =>
      rw [descend_of_child (child_of_leads spells (.member present (.here _)))]
      exact ih others
  | item present _ ih =>
    cases spelled with
    | cons spells others =>
      rw [descend_of_child (child_of_leads spells (.item present (.here _)))]
      exact ih others

theorem descend_of_breaksOff {value : Json} {segments : List (List Char)} {digits : Nat}
    (breaks : BreaksOff value segments digits) : descend value segments = .error (.unreadable digits) := by
  induction breaks with
  | @here items segment rest overlong =>
    rw [descend_cons, child_of_overlong overlong]
    rfl
  | later spells step _ ih =>
    rw [descend_of_child (child_of_leads spells step)]
    exact ih

theorem descend_null (segments : List (List Char)) : descend .null segments = .ok .null := by
  induction segments with
  | nil => rfl
  | cons segment segments ih => exact ih

/-- Each way in which going down along segments may end: by a way that they stand for, with null, or broken off. -/
inductive Descends (value : Json) (segments : List (List Char)) : Prop where
  | leads {places : List Place} {found : Json} (spelled : List.Forall₂ Spells segments places)
      (leads : Leads places value found)
  | null (nothing : descend value segments = .ok .null)
  | breaks {digits : Nat} (breaks : BreaksOff value segments digits)

theorem descend_descends (value : Json) (segments : List (List Char)) : Descends value segments := by
  induction segments generalizing value with
  | nil => exact .leads .nil (.here value)
  | cons segment segments ih =>
    cases child_steps value segment with
    | @leads place inner spells step =>
      have onward := descend_of_child (child_of_leads spells step) segments
      cases ih inner with
      | leads spelled leads => exact .leads (.cons spells spelled) (step.cons leads)
      | null nothing => exact .null (onward.trans nothing)
      | breaks breaks => exact .breaks (.later spells step breaks)
    | null nothing => exact .null ((descend_of_child nothing segments).trans (descend_null segments))
    | overlong list overlong =>
      subst list
      exact .breaks (.here overlong)

theorem descend_eq_error_iff {value : Json} {segments : List (List Char)} {fault : NumeralFault} :
    descend value segments = .error fault ↔ ∃ digits, BreaksOff value segments digits ∧ fault = .unreadable digits := by
  constructor
  · intro failed
    cases descend_descends value segments with
    | leads spelled leads =>
      rw [descend_of_leads leads spelled] at failed
      cases failed
    | null nothing =>
      rw [nothing] at failed
      cases failed
    | @breaks digits breaks =>
      rw [descend_of_breaksOff breaks] at failed
      cases failed
      exact ⟨digits, breaks, rfl⟩
  · rintro ⟨digits, breaks, rfl⟩
    exact descend_of_breaksOff breaks

theorem select_path {path : String} (named : path ≠ "") (unmarked : path.toList.head? ≠ some literalMark)
    (record : Json) : select record (some path) = descend record (Text.splitOnChar '.' path.toList) := by
  unfold select Source.ofText?
  cases letters : path.toList with
  | nil => exact absurd (String.toList_eq_nil_iff.mp letters) named
  | cons c rest =>
    have plain : c ≠ literalMark := by simpa [letters] using unmarked
    simp only [letters, if_neg plain, Source.value]

theorem descend_append (value : Json) (first second : List (List Char)) :
    descend value (first ++ second) = descend value first >>= fun inner => descend inner second :=
  List.foldlM_append

/-- What stands in a record is what a path selects that gives the keys and positions on the way to it, and nothing else
    is selected: where the segments of a path, each as a key or as a position in digits, lead nowhere, it selects null.
    Only a segment with too many digits for a position is refused, where the path has come to a list. -/
theorem select_reaches (record : Json) (path : String) (named : path ≠ "")
    (unmarked : path.toList.head? ≠ some literalMark) :
    (∀ places value, Leads places record value → (∀ key, .key key ∈ places → '.' ∉ key.toList) →
      (∀ position, .index position ∈ places → (Place.index position).text.length ≤ longestNumeral) →
      path = dotted places → select record (some path) = .ok value) ∧
    (∀ places value, Leads places record value → Spelled path places → select record (some path) = .ok value) ∧
    (∀ fault, select record (some path) = .error fault ↔
      ∃ digits, BreaksOff record (Text.splitOnChar '.' path.toList) digits ∧ fault = .unreadable digits) ∧
    ((∀ places value, Spelled path places → ¬Leads places record value) →
      (∀ digits, ¬BreaksOff record (Text.splitOnChar '.' path.toList) digits) →
      select record (some path) = .ok .null) := by
  rw [select_path named unmarked]
  have reached (places : List Place) (value : Json) (leads : Leads places record value)
      (spelled : Spelled path places) : descend record (Text.splitOnChar '.' path.toList) = .ok value :=
    descend_of_leads leads spelled
  refine ⟨fun places value leads undotted short written => ?_, reached, fun fault => descend_eq_error_iff, ?_⟩
  · have nonempty : places ≠ [] := by
      rintro rfl
      exact named written
    exact reached places value leads (written ▸ spelled_dotted nonempty undotted short)
  · intro nowhere unbroken
    cases descend_descends record (Text.splitOnChar '.' path.toList) with
    | leads spelled leads => exact absurd leads (nowhere _ _ spelled)
    | null nothing => exact nothing
    | breaks breaks => exact absurd breaks (unbroken _)

/-- A record with a list of two items, the second an object whose only key is empty. -/
def nested : Json :=
  .obj [("a", .arr [.null, .obj [("", .str "x")]])]

theorem select_reaches_nested :
    Leads [.key "a", .index 1, .key ""] nested (.str "x") ∧ Spelled "a.01." [.key "a", .index 1, .key ""] ∧
      (∀ places value, Spelled "a.¹" places → ¬Leads places nested value) ∧
      select nested (some "a.1.") = .ok (.str "x") ∧ select nested (some "a.01.") = .ok (.str "x") ∧
      select nested (some "a.¹") = .ok .null := by
  have leads : Leads [.key "a", .index 1, .key ""] nested (.str "x") := .member rfl (.item rfl (.member rfl (.here _)))
  have undotted : ∀ key, .key key ∈ [Place.key "a", .index 1, .key ""] → '.' ∉ key.toList := by simp
  have short : ∀ position, .index position ∈ [Place.key "a", .index 1, .key ""] →
      (Place.index position).text.length ≤ longestNumeral := by
    intro position member
    obtain rfl : position = 1 := by simpa using member
    decide
  have digits : ['0', '1'].all Char.isDigit = true := rfl
  have padded : Spelled "a.01." [.key "a", .index 1, .key ""] :=
    .cons (.key "a") (.cons (.index (by decide) (List.all_eq_true.mp digits) (by decide)) (.cons (.key "") .nil))
  have split : Text.splitOnChar '.' "a.¹".toList = [['a'], ['¹']] := by decide
  have nowhere : ∀ places value, Spelled "a.¹" places → ¬Leads places nested value := by
    intro places value spelled leads
    rw [Spelled, split] at spelled
    unfold nested at leads
    cases spelled with
    | cons _ others =>
      cases others with
      | cons second _ =>
        cases leads with
        | member found onward =>
          cases onward with
          | member =>
            rw [List.lookup_cons] at found
            split at found <;> cases found
          | item => exact absurd (second.digits '¹' List.mem_cons_self) (by decide)
  have unbroken : ∀ digits, ¬BreaksOff nested (Text.splitOnChar '.' "a.¹".toList) digits := by
    intro digits breaks
    rw [split] at breaks
    have arrived : descend nested [['a'], ['¹']] = .ok .null := rfl
    rw [descend_of_breaksOff breaks] at arrived
    cases arrived
  exact ⟨leads, padded, nowhere,
    (select_reaches nested "a.1." (by decide) (by decide)).1 _ _ leads undotted short (by decide),
    (select_reaches nested "a.01." (by decide) (by decide)).2.1 _ _ leads padded,
    (select_reaches nested "a.¹" (by decide) (by decide)).2.2.2 nowhere unbroken⟩

/-- A position beyond the end of a list is refused, and does not select null, if it has one digit too many. -/
theorem select_breaks_off :
    let path := "tags." ++ String.ofList (List.replicate 4301 '9')
    let record : Json := .obj [("tags", .arr [.str "a"])]
    path ≠ "" ∧ path.toList.head? ≠ some literalMark ∧
      (∀ position value, Leads [.key "tags", .index position] record value → position < 1) ∧
      (∀ places value, Spelled path places → ¬Leads places record value) ∧
      select record (some path) = .error (.unreadable 4301) := by
  intro path record
  have joined (digits : List Char) : ("tags." ++ String.ofList digits).toList = "tags".toList ++ '.' :: digits := by simp
  have letters : path.toList = "tags".toList ++ '.' :: List.replicate 4301 '9' := joined _
  have undotted : '.' ∉ List.replicate 4301 '9' := fun member => absurd (List.eq_of_mem_replicate member) (by decide)
  have split : Text.splitOnChar '.' path.toList = ["tags".toList, List.replicate 4301 '9'] := by
    rw [letters, Text.splitOnChar_append, Text.splitOnChar_of_not_mem undotted]
    rfl
  have overlong : Overlong (List.replicate 4301 '9') := by
    refine ⟨fun c member => ?_, by rw [List.length_replicate]; decide⟩
    rw [List.eq_of_mem_replicate member]
    rfl
  have step : Leads [.key "tags"] record (.arr [.str "a"]) := .member rfl (.here _)
  have breaks : BreaksOff record (Text.splitOnChar '.' path.toList) (List.replicate 4301 '9').length := by
    rw [split]
    exact .later (.key "tags") step (.here overlong)
  have named : path ≠ "" := by
    intro empty
    rw [empty] at letters
    cases letters
  have unmarked : path.toList.head? ≠ some literalMark := by
    rw [letters]
    decide
  have broken : select record (some path) = .error (.unreadable 4301) := by
    rw [select_path named unmarked, descend_of_breaksOff breaks, List.length_replicate]
  refine ⟨named, unmarked, ?_, fun places value spelled leads => ?_, broken⟩
  · intro position value leads
    subst record
    cases leads with
    | member found onward =>
      cases found
      cases onward with
      | item within => simpa using (List.getElem?_eq_some_iff.mp within).1
  · rw [select_path named unmarked, descend_of_leads leads spelled] at broken
    cases broken

/-- A path of two parts selects what its second part selects from what its first part selects; a path without a dot
    goes one step. -/
theorem select_composes {first second : String} (named : first ≠ "" ∧ second ≠ "")
    (unmarked : first.toList.head? ≠ some literalMark ∧ second.toList.head? ≠ some literalMark) (record : Json) :
    select record (some (first ++ "." ++ second)) =
        select record (some first) >>= (fun inner => select inner (some second)) ∧
      ('.' ∉ first.toList → select record (some first) = child record first.toList) := by
  have letters : (first ++ "." ++ second).toList = first.toList ++ '.' :: second.toList := by simp
  have nonempty : first.toList ≠ [] := fun empty => named.1 (String.toList_eq_nil_iff.mp empty)
  have bothNamed : first ++ "." ++ second ≠ "" := fun empty => by simp [empty] at letters
  have bothUnmarked : (first ++ "." ++ second).toList.head? ≠ some literalMark := by
    rw [letters, List.head?_append_of_ne_nil _ nonempty]
    exact unmarked.1
  constructor
  · calc select record (some (first ++ "." ++ second))
      _ = descend record (Text.splitOnChar '.' first.toList ++ Text.splitOnChar '.' second.toList) := by
        rw [select_path bothNamed bothUnmarked, letters, Text.splitOnChar_append]
      _ = select record (some first) >>= fun inner => descend inner (Text.splitOnChar '.' second.toList) := by
        rw [descend_append, select_path named.1 unmarked.1]
      _ = select record (some first) >>= fun inner => select inner (some second) :=
        congrArg _ (funext fun inner => (select_path named.2 unmarked.2 inner).symm)
  · intro undotted
    rw [select_path named.1 unmarked.1, Text.splitOnChar_of_not_mem undotted]
    exact bind_pure (child record first.toList)

theorem select_composes_nested :
    ("a" ≠ "" ∧ "1." ≠ "") ∧ ("a".toList.head? ≠ some literalMark ∧ "1.".toList.head? ≠ some literalMark) ∧
      select nested (some ("a" ++ "." ++ "1.")) =
        select nested (some "a") >>= (fun inner => select inner (some "1.")) ∧
      select nested (some "a") = child nested ['a'] ∧ select nested (some "a.1.") = .ok (.str "x") ∧
      select nested (some ("a.0" ++ "." ++ ".b")) =
        select nested (some "a.0") >>= (fun inner => select inner (some ".b")) ∧
      select nested (some "a.0") = .ok .null := by
  have named : "a" ≠ "" ∧ "1." ≠ "" := by decide
  have unmarked : "a".toList.head? ≠ some literalMark ∧ "1.".toList.head? ≠ some literalMark := by decide
  have inner := select_composes named unmarked nested
  exact ⟨named, unmarked, inner.1, inner.2 (by decide), rfl, (select_composes (by decide) (by decide) nested).1, rfl⟩

end Record
end FormFill
