import FormFill.Json

/-! Lookups in lists of keys with values, after some entries are dropped or one is put in. -/

namespace FormFill

variable {κ α : Type}

theorem lookup_filter [BEq κ] [LawfulBEq κ] (entries : List (κ × α)) (kept : κ → Prop) [DecidablePred kept] (key : κ) :
    (entries.filter (kept ·.1)).lookup key = if kept key then entries.lookup key else none := by
  induction entries with
  | nil => simp
  | cons entry rest ih =>
    obtain ⟨name, value⟩ := entry
    by_cases own : key = name
    · subst own
      by_cases keep : kept key
      · simp [keep]
      · simpa [keep] using ih
    · have apart : (key == name) = false := beq_eq_false_iff_ne.mpr own
      by_cases keep : kept name
      · simpa [keep, List.lookup_cons, apart] using ih
      · simpa [keep, List.lookup_cons, apart] using ih

namespace Members

theorem lookup_insert (members : Members) (key : String) (value : Json) :
    (Members.insert members key value).lookup key = some value := by
  induction members with
  | nil => simp [Members.insert]
  | cons member rest ih =>
    obtain ⟨other, standing⟩ := member
    by_cases same : other = key
    · simp [Members.insert, same]
    · have apart : (key == other) = false := by simpa using Ne.symm same
      simp [Members.insert, same, List.lookup_cons, apart, ih]

theorem lookup_insert_of_ne {members : Members} {key other : String} {value : Json}
    (apart : other ≠ key) : (Members.insert members key value).lookup other = members.lookup other := by
  have different : (other == key) = false := by simpa using apart
  induction members with
  | nil => simp [Members.insert, List.lookup_cons, different]
  | cons member rest ih =>
    obtain ⟨standing, held⟩ := member
    by_cases same : standing = key
    · simp [Members.insert, same, List.lookup_cons, different]
    · simp [Members.insert, same, List.lookup_cons, ih]

theorem mem_insert {members : Members} {key : String} {value : Json} {member : String × Json}
    (present : member ∈ Members.insert members key value) : member = (key, value) ∨ member ∈ members := by
  induction members with
  | nil => exact .inl (List.mem_singleton.mp present)
  | cons head rest ih =>
    obtain ⟨name, old⟩ := head
    rw [Members.insert] at present
    split at present
    · exact (List.mem_cons.mp present).imp_right (List.mem_cons_of_mem _)
    · rcases List.mem_cons.mp present with rfl | later
      · exact .inr List.mem_cons_self
      · exact (ih later).imp_right (List.mem_cons_of_mem _)

end Members
end FormFill
