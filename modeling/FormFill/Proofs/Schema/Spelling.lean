import FormFill.Proofs.Schema.Checked
import Mathlib.Data.List.Forall2
import Mathlib.Data.List.Lattice
import Mathlib.Data.List.Nodup
import Mathlib.Data.List.Pairwise

namespace FormFill.Schema

/-- Two checks that give the same value, or none either of them. -/
def Checked.Alike {α : Type} (first second : Checked α) : Prop :=
  ∀ value, first = .valid value ↔ second = .valid value

namespace Checked.Alike

variable {α β : Type}

theorem refl (checked : Checked α) : checked.Alike checked :=
  fun _ => Iff.rfl

theorem apply {f g : Checked (α → β)} {first second : Checked α} (functions : f.Alike g)
    (values : first.Alike second) : (f.apply first).Alike (g.apply second) := by
  intro result
  have function (h : α → β) := functions h
  have value (given : α) := values given
  simp only [apply_eq_valid, function, value]

theorem map {first second : Checked α} (f : α → β) (alike : first.Alike second) :
    (first.map f).Alike (second.map f) := by
  intro result
  have value (given : α) := alike given
  simp only [map_eq_valid, value]

theorem also {first second : Checked α} {check other : Checked Unit} (values : first.Alike second)
    (checks : check.Alike other) : (first.also check).Alike (second.also other) :=
  (values.map _).apply checks

theorem under {first second : Checked α} (alike : first.Alike second) (step other : Place) :
    (first.under step).Alike (second.under other) := by
  intro value
  rw [under_eq_valid, under_eq_valid]
  exact alike value

theorem andThen {first second : Checked α} {f g : α → Checked β} (alike : first.Alike second)
    (next : ∀ value, (f value).Alike (g value)) : (first.andThen f).Alike (second.andThen g) := by
  have passes {checked : Checked α} {h : α → Checked β} {result : β} :
      checked.andThen h = .valid result ↔ ∃ value, checked = .valid value ∧ h value = .valid result := by
    cases checked <;> simp [Checked.andThen]
  intro result
  have value (given : α) := alike given
  have result (given : α) := next given result
  simp only [passes, value, result]

theorem each {check : α → Checked β} {first second : List α} {start : Nat}
    (items : List.Forall₂ (fun one other => (check one).Alike (check other)) first second) :
    (Checked.each check start first).Alike (Checked.each check start second) := by
  induction items generalizing start with
  | nil => exact refl _
  | cons item _ ih => exact ((item.under _ _).map _).apply ih

end Checked.Alike

/-- What an object may say of one attribute: the keys for it, and when two values under them say the same. -/
structure Known where
  spellings : List String
  same : Json → Json → Prop

/-- An attribute whose value itself has only one spelling. -/
def Known.plain (spellings : List String) : Known :=
  ⟨spellings, Eq⟩

/-- A member as it is, or under another key for its attribute. -/
inductive MemberRespelled (known : List Known) : String × Json → String × Json → Prop where
  | kept (member : String × Json) : MemberRespelled known member member
  | respelled {part : Known} (listed : part ∈ known) {key other : String} {value respelled : Json}
      (spelled : key ∈ part.spellings) (accepted : other ∈ part.spellings) (same : part.same value respelled) :
      MemberRespelled known (key, value) (other, respelled)

/-- No attribute appears under two spellings. -/
def Once (known : List Known) (members : Members) : Prop :=
  ∀ part ∈ known, members.countP (·.1 ∈ part.spellings) ≤ 1

/-- No key stands for two attributes. -/
def Apart (known : List Known) : Prop :=
  (known.flatMap (·.spellings)).Nodup

/-- A value as it is, or an object in which each attribute that it has appears once, and some of them under other
    keys. Which attributes there are may depend on the object. -/
inductive Json.Respelled (known : Members → List Known) : Json → Json → Prop where
  | kept (value : Json) : Respelled known value value
  | object {first second : Members} (once : Once (known first) first)
      (members : List.Forall₂ (MemberRespelled (known first)) first second) :
      Respelled known (.obj first) (.obj second)

/-- A value as it is, or a list with some of its items respelled. -/
inductive Json.EachRespelled (respelled : Json → Json → Prop) : Json → Json → Prop where
  | kept (value : Json) : EachRespelled respelled value value
  | list {first second : List Json} (items : List.Forall₂ respelled first second) :
      EachRespelled respelled (.arr first) (.arr second)

variable {known : List Known} {part : Known} {first second : Members}

theorem Apart.eq_of_mem (apart : Apart known) {other : Known} {key : String} (listed : part ∈ known)
    (listedOther : other ∈ known) (spelled : key ∈ part.spellings) (spelledOther : key ∈ other.spellings) :
    part = other := by
  have disjoint := (List.nodup_flatMap.mp apart).2
  by_contra distinct
  have symmetric : Std.Symm (Function.onFun List.Disjoint Known.spellings) := ⟨fun _ _ => List.Disjoint.symm⟩
  exact disjoint.forall listed listedOther distinct spelled spelledOther

theorem MemberRespelled.mem_iff (apart : Apart known) (listed : part ∈ known) {one other : String × Json}
    (respelled : MemberRespelled known one other) : one.1 ∈ part.spellings ↔ other.1 ∈ part.spellings := by
  cases respelled with
  | kept => rfl
  | respelled listedOther spelled accepted =>
    constructor
    · intro spelledHere
      rwa [apart.eq_of_mem listed listedOther spelledHere spelled]
    · intro acceptedHere
      rwa [apart.eq_of_mem listed listedOther acceptedHere accepted]

theorem Once.respelled (apart : Apart known) (members : List.Forall₂ (MemberRespelled known) first second)
    (once : Once known first) : Once known second := by
  intro part listed
  have same : second.countP (·.1 ∈ part.spellings) = first.countP (·.1 ∈ part.spellings) := by
    clear once
    induction members with
    | nil => rfl
    | cons member _ ih =>
      have spelled := member.mem_iff apart listed
      rw [List.countP_cons, List.countP_cons, ih]
      simp only [spelled]
  rw [same]
  exact once part listed

/-- The member that an object has for an attribute. -/
def memberUnder? (members : Members) (spellings : List String) : Option (String × Json) :=
  members.find? (·.1 ∈ spellings)

section Member

variable {α : Type} {members : Members} {spellings : List String} {member : String × Json}

theorem lookup_unspelled (unspelled : ∀ member ∈ members, member.1 ∉ spellings) {key : String}
    (spelled : key ∈ spellings) : members.lookup key = none := by
  rw [List.lookup_eq_none_iff]
  intro member listed
  have apart : key ≠ member.1 := fun same => unspelled member listed (same ▸ spelled)
  simpa using apart

theorem lookup_of_memberUnder? (once : members.countP (·.1 ∈ spellings) ≤ 1)
    (found : memberUnder? members spellings = some member) {key : String} (spelled : key ∈ spellings) :
    members.lookup key = if key = member.1 then some member.2 else none := by
  induction members with
  | nil => cases found
  | cons head rest ih =>
    obtain ⟨name, value⟩ := head
    rw [List.countP_cons] at once
    rw [List.lookup_cons]
    by_cases own : name ∈ spellings
    · -- No later member is one for the attribute.
      have alone : rest.countP (·.1 ∈ spellings) = 0 := by
        simp only [own, decide_true, if_true] at once
        omega
      have unspelled : ∀ member ∈ rest, member.1 ∉ spellings := by simpa using List.countP_eq_zero.mp alone
      have first : member = (name, value) := by simpa [memberUnder?, own, eq_comm] using found
      rw [first, lookup_unspelled unspelled spelled]
      by_cases same : key = name
      · rw [if_pos same, beq_iff_eq.mpr same]
      · rw [if_neg same, beq_eq_false_iff_ne.mpr same]
    · have later : memberUnder? rest spellings = some member := by simpa [memberUnder?, own] using found
      have apart : key ≠ name := fun same => own (same ▸ spelled)
      have fewer : rest.countP (·.1 ∈ spellings) ≤ 1 := by omega
      rw [beq_eq_false_iff_ne.mpr apart]
      exact ih fewer later

theorem usedKey?_of_once (once : members.countP (·.1 ∈ spellings) ≤ 1) :
    usedKey? members spellings = (memberUnder? members spellings).map (·.1) := by
  cases found : memberUnder? members spellings with
  | none =>
    have unspelled : ∀ member ∈ members, member.1 ∉ spellings := by simpa [memberUnder?] using found
    rw [Option.map_none, usedKey?, List.find?_eq_none]
    intro key spelled
    rw [lookup_unspelled unspelled spelled]
    decide
  | some member =>
    have lookup {key : String} (spelled : key ∈ spellings) := lookup_of_memberUnder? once found spelled
    have own : member.1 ∈ spellings := by simpa using List.find?_some found
    cases used : usedKey? members spellings with
    | none =>
      have unused := List.find?_eq_none.mp used _ own
      rw [lookup own, if_pos rfl] at unused
      exact absurd rfl unused
    | some key =>
      have spelled : key ∈ spellings := List.mem_of_find?_eq_some used
      have present := List.find?_some used
      rw [lookup spelled] at present
      by_cases same : key = member.1
      · rw [same, Option.map_some]
      · rw [if_neg same] at present
        cases present

theorem Attribute.of_found {part : Attribute α} (once : members.countP (·.1 ∈ part.spellings) ≤ 1)
    (found : memberUnder? members part.spellings = some member) :
    part.of members = (part.read member.2).under (.key member.1) := by
  have own : member.1 ∈ part.spellings := by simpa using List.find?_some found
  have used : usedKey? members part.spellings = some member.1 := by rw [usedKey?_of_once once, found, Option.map_some]
  rw [of_used used, lookup_of_memberUnder? once found own, if_pos rfl, Option.getD_some]

end Member

/-- Respelled members have the same attributes, and say the same of each. -/
theorem memberUnder?_respelled (apart : Apart known) (listed : part ∈ known)
    (members : List.Forall₂ (MemberRespelled known) first second) :
    Option.Rel (fun one other => one = other ∨ part.same one.2 other.2) (memberUnder? first part.spellings)
      (memberUnder? second part.spellings) := by
  induction members with
  | nil => exact .none
  | @cons one other rest others member _ ih =>
    have spelled := member.mem_iff apart listed
    unfold memberUnder?
    by_cases own : one.1 ∈ part.spellings
    · rw [List.find?_cons_of_pos (by simpa using own), List.find?_cons_of_pos (by simpa using spelled.mp own)]
      refine .some ?_
      cases member with
      | kept => exact .inl rfl
      | respelled listedOther spelledOther _ same =>
        rw [apart.eq_of_mem listed listedOther own spelledOther]
        exact .inr same
    · have ownOther : other.1 ∉ part.spellings := fun accepted => own (spelled.mpr accepted)
      rw [List.find?_cons_of_neg (by simpa using own), List.find?_cons_of_neg (by simpa using ownOther)]
      exact ih

/-- What an object has for an attribute does not depend on the keys that are used. -/
theorem Attribute.of_respelled {α : Type} (part : Attribute α) {same : Json → Json → Prop} (apart : Apart known)
    (listed : ⟨part.spellings, same⟩ ∈ known) (reads : ∀ one other, same one other → (part.read one).Alike (part.read other))
    (once : Once known first) (members : List.Forall₂ (MemberRespelled known) first second) :
    (part.of first).Alike (part.of second) := by
  have onceSecond := once.respelled apart members _ listed
  have related := memberUnder?_respelled apart listed members
  generalize foundFirst : memberUnder? first part.spellings = one at related
  generalize foundSecond : memberUnder? second part.spellings = other at related
  cases related with
  | none =>
    have unused : usedKey? first part.spellings = none := by rw [usedKey?_of_once (once _ listed), foundFirst]; rfl
    have unusedSecond : usedKey? second part.spellings = none := by rw [usedKey?_of_once onceSecond, foundSecond]; rfl
    rw [of, of, unused, unusedSecond]
    exact .refl _
  | some said =>
    rw [of_found (once _ listed) foundFirst, of_found onceSecond foundSecond]
    refine .under ?_ _ _
    rcases said with rfl | same
    · exact .refl _
    · exact reads _ _ same

theorem Attribute.of_respelled_plain {α : Type} (part : Attribute α) (apart : Apart known)
    (listed : .plain part.spellings ∈ known) (once : Once known first)
    (members : List.Forall₂ (MemberRespelled known) first second) : (part.of first).Alike (part.of second) :=
  part.of_respelled apart listed (fun _ _ same => same ▸ .refl _) once members

theorem usedKey?_of_mem {members : Members} {spellings : List String} (once : members.countP (·.1 ∈ spellings) ≤ 1)
    {member : String × Json} (listed : member ∈ members) (spelled : member.1 ∈ spellings) :
    usedKey? members spellings = some member.1 := by
  rw [usedKey?_of_once once]
  cases found : memberUnder? members spellings with
  | none =>
    have unspelled := List.find?_eq_none.mp found member listed
    exact absurd (decide_eq_true spelled) unspelled
  | some other =>
    have lookup := lookup_of_memberUnder? once found spelled
    by_cases same : member.1 = other.1
    · rw [same, Option.map_some]
    · rw [if_neg same, List.lookup_eq_none_iff] at lookup
      simpa using lookup member listed

theorem refuseUnknown_eq_valid {declared : List (List String)} (listed : declared = known.map (·.spellings))
    (once : Once known first) :
    refuseUnknown first declared = .valid () ↔ ∀ member ∈ first, ∃ part ∈ known, member.1 ∈ part.spellings := by
  rw [refuseUnknown_eq_valid_iff]
  refine forall₂_congr fun member present => ?_
  rw [listed]
  constructor
  · rintro ⟨spellings, declared, used⟩
    obtain ⟨part, known, rfl⟩ := List.mem_map.mp declared
    exact ⟨part, known, List.mem_of_find?_eq_some used⟩
  · rintro ⟨part, known, spelled⟩
    exact ⟨part.spellings, List.mem_map_of_mem known, usedKey?_of_mem (once part known) present spelled⟩

/-- Whether an object is refused for a key that no attribute uses does not depend on the keys that are used. -/
theorem refuseUnknown_respelled (apart : Apart known) (once : Once known first)
    (members : List.Forall₂ (MemberRespelled known) first second) {declared : List (List String)}
    (listed : declared = known.map (·.spellings)) :
    (refuseUnknown first declared).Alike (refuseUnknown second declared) := by
  rintro ⟨⟩
  rw [refuseUnknown_eq_valid listed once, refuseUnknown_eq_valid listed (once.respelled apart members)]
  clear once
  induction members with
  | nil => simp
  | @cons one other _ _ member _ ih =>
    have declared : (∃ part ∈ known, one.1 ∈ part.spellings) ↔ ∃ part ∈ known, other.1 ∈ part.spellings :=
      exists_congr fun _ => and_congr_right fun listed => member.mem_iff apart listed
    rw [List.forall_mem_cons, List.forall_mem_cons, ih, declared]

/-- What stands under the only key for an attribute does not depend on the keys for others. -/
theorem lookup_respelled (apart : Apart known) {key : String} (listed : .plain [key] ∈ known)
    (members : List.Forall₂ (MemberRespelled known) first second) : first.lookup key = second.lookup key := by
  induction members with
  | nil => rfl
  | @cons one other _ _ member _ ih =>
    obtain ⟨name, value⟩ := one
    obtain ⟨nameOther, valueOther⟩ := other
    have named : key = name ↔ key = nameOther := by simpa [Known.plain, eq_comm] using member.mem_iff apart listed
    rw [List.lookup_cons, List.lookup_cons]
    by_cases own : key = name
    · have same : value = valueOther := by
        cases member with
        | kept => rfl
        | respelled listedOther spelled _ same =>
          have only : Known.plain [key] = _ := apart.eq_of_mem listed listedOther (List.mem_singleton.mpr own.symm) spelled
          rw [← only] at same
          exact same
      rw [beq_iff_eq.mpr own, beq_iff_eq.mpr (named.mp own), same]
    · rw [beq_eq_false_iff_ne.mpr own, beq_eq_false_iff_ne.mpr (named.not.mp own)]
      exact ih

end FormFill.Schema
