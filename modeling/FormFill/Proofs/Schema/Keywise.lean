import FormFill.Proofs.Lookup
import FormFill.Proofs.Schema.Spelling

namespace FormFill

/-- The members of an object under one key. -/
def Members.only (members : Members) (key : String) : Members :=
  members.filter (·.1 = key)

namespace Schema

/-- The keys of an object that are for some attributes, in the order of the attributes. -/
def declaredKeys (declared : List (List String)) (members : Members) : List String :=
  declared.flatten.filter (· ∈ members.map (·.1))

variable {α β : Type} {members : Members} {key : String} {declared others : List (List String)}

theorem Issue.isAt_under (key : String) (issue : Issue) : (issue.under (.key key)).isAt [.key key] = true := by
  simp [isAt, under]

namespace Checked

/-- A refusal tells why: where nothing is amiss, a check passes. -/
def Told (checked : Checked α) : Prop :=
  checked.issues = [] → checked.Passes

@[simp] theorem told_valid (value : α) : (valid value).Told :=
  fun _ => ⟨value, rfl⟩

@[simp] theorem told_fail (cause : Cause) : (fail cause : Checked α).Told :=
  nofun

theorem Told.map {checked : Checked α} (told : checked.Told) (f : α → β) : (checked.map f).Told := by
  intro none
  rw [issues_map] at none
  exact passes_map.mpr (told none)

theorem Told.under {checked : Checked α} (told : checked.Told) (step : Place) : (checked.under step).Told := by
  intro none
  rw [issues_under, List.map_eq_nil_iff] at none
  exact passes_under.mpr (told none)

theorem Told.apply {first : Checked (α → β)} {second : Checked α} (told : first.Told) (toldSecond : second.Told) :
    (first.apply second).Told := by
  intro none
  rw [issues_apply, List.append_eq_nil_iff] at none
  exact passes_apply.mpr ⟨told none.1, toldSecond none.2⟩

theorem Told.andThen {checked : Checked α} {next : α → Checked β} (told : checked.Told)
    (toldNext : ∀ value, (next value).Told) : (checked.andThen next).Told := by
  cases checked with
  | valid value => exact toldNext value
  | invalid issues =>
    intro none
    obtain ⟨_, ⟨⟩⟩ := told none

end Checked

theorem Once.sublist {known : List Known} {some : Members} (once : Once known members) (sub : some.Sublist members) :
    Once known some :=
  fun part listed => Nat.le_trans sub.countP_le (once part listed)

theorem Once.only {known : List Known} (once : Once known members) (key : String) : Once known (members.only key) :=
  once.sublist List.filter_sublist

theorem lookup_only (members : Members) (key other : String) :
    (members.only key).lookup other = if other = key then members.lookup other else none :=
  lookup_filter members (· = key) other

theorem filter_eq_singleton {keys : List String} (distinct : keys.Nodup) (listed : key ∈ keys) :
    keys.filter (· = key) = [key] := by
  rw [List.filter_eq, List.count_eq_one_of_mem distinct listed]
  rfl

theorem declaredKeys_append (members : Members) :
    declaredKeys (declared ++ others) members = declaredKeys declared members ++ declaredKeys others members := by
  rw [declaredKeys, List.flatten_append, List.filter_append]
  rfl

theorem apart_plain : Apart (declared.map .plain) ↔ declared.flatten.Nodup := by
  unfold Apart
  rw [List.flatMap_map]
  exact List.flatMap_id ▸ Iff.rfl

theorem Apart.of_append (apart : Apart ((declared ++ others).map .plain)) :
    Apart (declared.map .plain) ∧ Apart (others.map .plain) ∧ List.Disjoint declared.flatten others.flatten := by
  rw [apart_plain, List.flatten_append, List.nodup_append'] at apart
  rwa [apart_plain, apart_plain]

/-- A check for some attributes that finds amiss under each key what it finds with that key alone. -/
structure Keywise (declared : List (List String)) (check : Members → Checked α) : Prop where
  told : ∀ members, (check members).Told
  placed : ∀ members key, ∀ issue ∈ (check (Members.only members key)).issues, issue.isAt [.key key]
  issues : Apart (declared.map .plain) → ∀ members, Once (declared.map .plain) members →
    (check members).issues =
      (declaredKeys declared members).flatMap fun key => (check (members.only key)).issues

namespace Keywise

variable {check : Members → Checked α}

theorem vanishes (keywise : Keywise declared check) (apart : Apart (declared.map .plain))
    (once : Once (declared.map .plain) members) (foreign : key ∉ declared.flatten) :
    (check (members.only key)).issues = [] := by
  have none : declaredKeys declared (members.only key) = [] := by
    rw [declaredKeys, List.filter_eq_nil_iff]
    intro other listed present
    obtain ⟨member, kept, rfl⟩ := List.mem_map.mp (of_decide_eq_true present)
    obtain rfl := of_decide_eq_true (List.mem_filter.mp kept).2
    exact foreign listed
  rw [keywise.issues apart _ (once.only key), none, List.flatMap_nil]

theorem valid (value : α) : Keywise [] fun _ => Checked.valid value where
  told := fun _ => Checked.told_valid value
  placed := nofun
  issues := fun _ _ _ => rfl

theorem map (keywise : Keywise declared check) (f : α → β) : Keywise declared fun members => (check members).map f where
  told := fun members => (keywise.told members).map f
  placed := by
    simp only [Checked.issues_map]
    exact keywise.placed
  issues := by
    simp only [Checked.issues_map]
    exact keywise.issues

theorem apply {first : Members → Checked (α → β)} {second : Members → Checked α} (keywise : Keywise declared first)
    (other : Keywise others second) :
    Keywise (declared ++ others) fun members => (first members).apply (second members) where
  told := fun members => (keywise.told members).apply (other.told members)
  placed := by
    intro members key issue found
    rw [Checked.issues_apply, List.mem_append] at found
    exact found.elim (keywise.placed members key issue) (other.placed members key issue)
  issues := by
    intro apart members once
    obtain ⟨apartFirst, apartSecond, disjoint⟩ := apart.of_append
    have onceFirst : Once (declared.map .plain) members := fun part listed =>
      once part (by rw [List.map_append]; exact List.mem_append_left _ listed)
    have onceSecond : Once (others.map .plain) members := fun part listed =>
      once part (by rw [List.map_append]; exact List.mem_append_right _ listed)
    simp only [Checked.issues_apply]
    rw [declaredKeys_append, List.flatMap_append, keywise.issues apartFirst members onceFirst,
      other.issues apartSecond members onceSecond]
    -- A key for an attribute of the one part is none for the other part.
    congr 1
    · refine List.flatMap_congr fun key listed => ?_
      have foreign : key ∉ others.flatten := fun listedOther => disjoint (List.mem_filter.mp listed).1 listedOther
      rw [other.vanishes apartSecond onceSecond foreign, List.append_nil]
    · refine List.flatMap_congr fun key listed => ?_
      have foreign : key ∉ declared.flatten := fun listedOther => disjoint listedOther (List.mem_filter.mp listed).1
      rw [keywise.vanishes apartFirst onceFirst foreign, List.nil_append]

theorem also {second : Members → Checked Unit} (keywise : Keywise declared check) (other : Keywise others second) :
    Keywise (declared ++ others) fun members => (check members).also (second members) :=
  (keywise.map fun value _ => value).apply other

end Keywise

/-! The ways to read a value tell what is wrong with it. -/

theorem declaredKeys_singleton {spellings : List String} (distinct : spellings.Nodup)
    (once : members.countP (·.1 ∈ spellings) ≤ 1) :
    declaredKeys [spellings] members = ((memberUnder? members spellings).map (·.1)).toList := by
  rw [declaredKeys, List.flatten_singleton]
  cases found : memberUnder? members spellings with
  | none =>
    have unspelled : ∀ member ∈ members, member.1 ∉ spellings := by simpa [memberUnder?] using found
    refine List.filter_eq_nil_iff.mpr fun key spelled present => ?_
    obtain ⟨member, listed, rfl⟩ := List.mem_map.mp (of_decide_eq_true present)
    exact unspelled member listed spelled
  | some member =>
    have own : member.1 ∈ spellings := by simpa using List.find?_some found
    rw [Option.map_some, Option.toList_some, ← filter_eq_singleton distinct own]
    refine List.filter_congr fun key spelled => decide_eq_decide.mpr ⟨fun present => ?_, ?_⟩
    · obtain ⟨other, listed, rfl⟩ := List.mem_map.mp present
      by_contra apart
      have absent := lookup_of_memberUnder? once found spelled
      rw [if_neg apart, List.lookup_eq_none_iff] at absent
      simpa using absent other listed
    · rintro rfl
      exact List.mem_map_of_mem (List.mem_of_find?_eq_some found)

theorem Attribute.keywise (part : Attribute α) {value : α} (fallback : part.fallback = some value)
    (told : ∀ value, (part.read value).Told) : Keywise [part.spellings] part.of where
  told := by
    intro members
    cases used : usedKey? members part.spellings with
    | some key =>
      rw [of_used used]
      exact (told _).under _
    | none =>
      rw [of_unused used fallback]
      exact Checked.told_valid value
  placed := by
    intro members key issue found
    cases used : usedKey? (members.only key) part.spellings with
    | some other =>
      have present := List.find?_some used
      rw [lookup_only] at present
      have same : other = key := by
        by_contra apart
        rw [if_neg apart] at present
        cases present
      rw [of_used used, Checked.issues_under, same] at found
      obtain ⟨inner, -, rfl⟩ := List.mem_map.mp found
      exact Issue.isAt_under key inner
    | none =>
      rw [of_unused used fallback] at found
      cases found
  issues := by
    intro apart members once
    have once : members.countP (·.1 ∈ part.spellings) ≤ 1 := once _ List.mem_cons_self
    have distinct : part.spellings.Nodup := by simpa using apart_plain.mp apart
    rw [declaredKeys_singleton distinct once]
    cases found : memberUnder? members part.spellings with
    | none =>
      have unused : usedKey? members part.spellings = none := by
        rw [usedKey?_of_once once, found, Option.map_none]
      rw [of_unused unused fallback]
      rfl
    | some member =>
      have same : part.of members = part.of (members.only member.1) := by
        refine part.of_congr fun key spelled => ?_
        rw [lookup_only, lookup_of_memberUnder? once found spelled]
        by_cases here : key = member.1
        · rw [if_pos here, if_pos here]
        · rw [if_neg here, if_neg here]
      rw [Option.map_some, Option.toList_some, List.flatMap_singleton, same]

/-! With the keys that are for no attribute. -/

namespace Keywise

variable {check : Members → Checked α}

end Keywise
end Schema
end FormFill
