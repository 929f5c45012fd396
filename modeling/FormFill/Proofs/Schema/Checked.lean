import FormFill.Schema.Attribute

namespace FormFill.Schema

/-- Whether an issue lies at a place of a document, or inside of what stands there. -/
def Issue.isAt (place : List Place) (issue : Issue) : Bool :=
  place.isPrefixOf issue.place

/-- An issue of what stands at a place, as an issue of the whole document. -/
def Issue.moved (place : List Place) (issue : Issue) : Issue :=
  { issue with place := place ++ issue.place }

namespace Issue

variable {step other : Place} {rest : List Place}

theorem filter_nil (issues : List Issue) : issues.filter (isAt []) = issues :=
  List.filter_eq_self.mpr fun _ _ => rfl

end Issue

namespace Checked

variable {α β : Type}

/-- Whether a check finds nothing amiss. -/
def Passes (checked : Checked α) : Prop :=
  ∃ value, checked = .valid value

theorem issues_map (f : α → β) (checked : Checked α) : (checked.map f).issues = checked.issues := by
  cases checked <;> rfl

theorem issues_under (step : Place) (checked : Checked α) :
    (checked.under step).issues = checked.issues.map (Issue.under step) := by
  cases checked <;> rfl

theorem issues_apply (first : Checked (α → β)) (second : Checked α) :
    (first.apply second).issues = first.issues ++ second.issues := by
  cases first with
  | valid f => cases second <;> rfl
  | invalid issues =>
    cases second with
    | valid value => exact (List.append_nil issues).symm
    | invalid more => rfl

theorem map_eq_valid {f : α → β} {checked : Checked α} {result : β} :
    checked.map f = .valid result ↔ ∃ value, checked = .valid value ∧ f value = result := by
  cases checked <;> simp [map]

theorem under_eq_valid {step : Place} {checked : Checked α} {value : α} :
    checked.under step = .valid value ↔ checked = .valid value := by
  cases checked <;> simp [under]

theorem apply_eq_valid {first : Checked (α → β)} {second : Checked α} {result : β} :
    first.apply second = .valid result ↔
      ∃ f value, first = .valid f ∧ second = .valid value ∧ f value = result := by
  cases first <;> cases second <;> simp [apply]

theorem passes_map {f : α → β} {checked : Checked α} : (checked.map f).Passes ↔ checked.Passes := by
  cases checked <;> simp [Passes, map]

theorem passes_under {step : Place} {checked : Checked α} : (checked.under step).Passes ↔ checked.Passes := by
  cases checked <;> simp [Passes, under]

theorem passes_apply {first : Checked (α → β)} {second : Checked α} :
    (first.apply second).Passes ↔ first.Passes ∧ second.Passes := by
  cases first <;> cases second <;> simp [Passes, apply]

variable {check : α → Checked β} {start : Nat}

end Checked

theorem usedKey?_congr {first second : Members} {spellings : List String}
    (same : ∀ key ∈ spellings, first.lookup key = second.lookup key) :
    usedKey? first spellings = usedKey? second spellings := by
  induction spellings with
  | nil => rfl
  | cons key rest ih =>
    obtain ⟨here, later⟩ := List.forall_mem_cons.mp same
    have onward : usedKey? first rest = usedKey? second rest := ih later
    unfold usedKey? at onward ⊢
    rw [List.find?_cons, List.find?_cons, here, onward]

namespace Attribute

variable {α : Type} {part : Attribute α} {members : Members}

theorem of_used {key : String} (used : usedKey? members part.spellings = some key) :
    part.of members = (part.read ((members.lookup key).getD .null)).under (.key key) := by
  rw [of, used]

theorem of_unused {value : α} (unused : usedKey? members part.spellings = none)
    (fallback : part.fallback = some value) : part.of members = .valid value := by
  rw [of, unused, fallback]

theorem of_congr (part : Attribute α) {first second : Members}
    (same : ∀ key ∈ part.spellings, first.lookup key = second.lookup key) : part.of first = part.of second := by
  unfold of
  rw [usedKey?_congr same]
  cases used : usedKey? second part.spellings with
  | none => rfl
  | some key =>
    dsimp only
    rw [same key (List.mem_of_find?_eq_some used)]

end Attribute

theorem refuseUnknown_eq_valid_iff {members : Members} {declared : List (List String)} :
    refuseUnknown members declared = .valid () ↔
      ∀ member ∈ members, ∃ spellings ∈ declared, usedKey? members spellings = some member.1 := by
  have passes : refuseUnknown members declared = .valid () ↔ unknownKeys members declared = [] := by
    unfold refuseUnknown
    split <;> simp_all
  rw [passes, unknownKeys, List.filter_eq_nil_iff, List.forall_mem_map]
  refine forall₂_congr fun member _ => ?_
  rw [decide_eq_true_eq, Decidable.not_not, List.mem_filterMap]

end FormFill.Schema
