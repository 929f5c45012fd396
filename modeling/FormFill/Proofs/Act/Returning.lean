import FormFill.Proofs.Act.Confined

namespace FormFill.Act

variable {α β : Type}

/-- If an action returns, the events it has added are as told of the page, which stays as it is, of the events before
    them and of the value. -/
def Returns (told : Page → List Event → α → List Event → Prop) (action : Act α) : Prop :=
  ∀ world value after, action.runIn world = (.ok value, after) →
    ∃ added, after.page = world.page ∧ after.trace = world.trace ++ added ∧ told world.page world.trace value added

namespace Returns

variable {told weaker : Page → List Event → α → List Event → Prop} {action : Act α}

theorem imp (returns : Returns told action)
    (implies : ∀ page before value added, told page before value added → weaker page before value added) :
    Returns weaker action := by
  intro world value after returned
  obtain ⟨added, page, trace, holds⟩ := returns world value after returned
  exact ⟨added, page, trace, implies _ _ _ _ holds⟩

theorem of_confined {kind : Event → Bool} (confined : Confined kind action) :
    Returns (fun _ _ _ added => ∀ event ∈ added, kind event = true) action := by
  intro world value after returned
  obtain ⟨added, grown⟩ := confined world
  rw [returned] at grown
  exact ⟨added, grown.page, grown.trace, grown.ofKind⟩

theorem pure {value : α} (holds : ∀ page before, told page before value []) : Returns told (pure value) := by
  intro world other after returned
  cases returned
  exact ⟨[], rfl, (List.append_nil _).symm, holds _ _⟩

theorem bind {next : α → Act β} {later : α → Page → List Event → β → List Event → Prop} (first : Returns told action)
    (second : ∀ value, Returns (later value) (next value)) :
    Returns (fun page before result added => ∃ value made more, added = made ++ more ∧ told page before value made ∧
      later value page (before ++ made) result more) (action >>= next) := by
  intro world result after returned
  obtain ⟨value, middle, acted, went⟩ := ok_of_bind returned
  obtain ⟨made, page, trace, holds⟩ := first world value middle acted
  obtain ⟨more, same, further, ended⟩ := second value middle result after went
  rw [page, trace] at ended
  exact ⟨made ++ more, same.trans page, by rw [further, trace, List.append_assoc], value, made, more, rfl, holds, ended⟩

/-- What adds no event may come first. -/
theorem silently {next : α → Act β} {later : Page → List Event → β → List Event → Prop}
    (silent : Confined (fun _ => false) action) (second : ∀ value, Returns later (next value)) :
    Returns later (action >>= next) := by
  refine ((of_confined silent).bind second).imp fun page before result added ends => ?_
  obtain ⟨_, made, more, rfl, none, holds⟩ := ends
  obtain rfl : made = [] := List.eq_nil_iff_forall_not_mem.mpr fun event member => nomatch none event member
  rwa [List.append_nil] at holds

theorem perform (event : Event) :
    Returns (fun page before _ added => added = [event] ∧ page.error? before event = none) (perform event) := by
  intro world value after returned
  rw [runIn_perform] at returned
  cases raised : world.page.error? world.trace event with
  | none =>
    rw [raised] at returned
    cases returned
    exact ⟨_, rfl, rfl, rfl, raised⟩
  | some error =>
    rw [raised] at returned
    cases returned

theorem call (made : Call) :
    Returns (fun page before _ added => added = [.call made] ∧ page.error? before (.call made) = none) (call made) :=
  .perform (.call made)

theorem element (handle : Handle) (made : ElementCall) :
    Returns (fun page before node added => added = [.element handle made] ∧
      page.error? before (.element handle made) = none ∧ node = page.node handle.node) (element handle made) := by
  intro world node after returned
  obtain ⟨_, middle, performed, answered⟩ := ok_of_bind returned
  obtain ⟨added, page, trace, all, passes⟩ := perform (.element handle made) world _ middle performed
  cases answered
  exact ⟨added, page, trace, all, passes, by rw [page]⟩

theorem count (handle : Handle) :
    Returns (fun page before number added => added = [.element handle .count] ∧
      page.error? before (.element handle .count) = none ∧ number = (page.node handle.node).count)
      (count handle) := by
  have counted (node : Node) : Returns (fun _ _ number added => added = [] ∧ number = node.count)
      (Pure.pure node.count : Act Int) := .pure fun _ _ => ⟨rfl, rfl⟩
  refine ((element handle .count).bind counted).imp fun page before number added ends => ?_
  obtain ⟨node, _, _, rfl, ⟨rfl, passes, rfl⟩, rfl, rfl⟩ := ends
  exact ⟨rfl, passes, rfl⟩

theorem lookup (owner : Option Handle) (lookup : Lookup) :
    Returns (fun page _ found added => added = [.lookup owner lookup] ∧ found = ⟨page.find owner lookup, false⟩)
      (Act.lookup owner lookup) := by
  intro world found after returned
  cases returned
  exact ⟨_, rfl, rfl, rfl, rfl⟩

end Returns
end FormFill.Act
