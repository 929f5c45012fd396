import FormFill.Proofs.Act.Confined

namespace FormFill.Act

variable {α β : Type}

/-- What an action adds to the trace, whatever world it runs in, is as told of the page, which stays as it is, and of
    how the action ends. -/
def Adds (told : Page → Except Failure α → List Event → Prop) (action : Act α) : Prop :=
  ∀ world : World, ∃ added, (action.runIn world).2.page = world.page ∧
    (action.runIn world).2.trace = world.trace ++ added ∧ told world.page (action.runIn world).1 added

namespace Adds

variable {told weaker : Page → Except Failure α → List Event → Prop} {action : Act α}

theorem imp (adds : Adds told action)
    (implies : ∀ page result added, told page result added → weaker page result added) :
    Adds weaker action := by
  intro world
  obtain ⟨added, page, trace, holds⟩ := adds world
  exact ⟨added, page, trace, implies _ _ _ holds⟩

theorem and {other : Page → Except Failure α → List Event → Prop} (left : Adds told action)
    (right : Adds other action) :
    Adds (fun page result added => told page result added ∧ other page result added) action := by
  intro world
  obtain ⟨added, page, trace, holds⟩ := left world
  obtain ⟨same, -, again, further⟩ := right world
  obtain rfl : same = added := List.append_cancel_left (again.symm.trans trace)
  exact ⟨same, page, trace, holds, further⟩

theorem of_confined {kind : Event → Bool} (confined : Confined kind action) :
    Adds (fun _ _ added => ∀ event ∈ added, kind event = true) action := by
  intro world
  obtain ⟨added, grown⟩ := confined world
  exact ⟨added, grown.page, grown.trace, grown.ofKind⟩

/-- Nothing is shown by the events of an action that is confined to those that show nothing. -/
theorem of_silent {γ : Type} {shown : Event → Option γ} (silent : Confined (fun event => (shown event).isNone) action) :
    Adds (fun _ _ added => added.filterMap shown = []) action := by
  refine (of_confined silent).imp fun _ _ added none => ?_
  exact List.filterMap_eq_nil_iff.mpr fun event member => Option.isNone_iff_eq_none.mp (none event member)

theorem pure {value : α} (holds : ∀ page, told page (.ok value) []) : Adds told (pure value) :=
  fun _ => ⟨[], rfl, (List.append_nil _).symm, holds _⟩

theorem bind {next : α → Act β} {later : α → Page → Except Failure β → List Event → Prop} (first : Adds told action)
    (second : ∀ value, Adds (later value) (next value)) :
    Adds (fun page result added => (∃ failure, result = .error failure ∧ told page (.error failure) added) ∨
      ∃ value made more, added = made ++ more ∧ told page (.ok value) made ∧ later value page result more)
      (action >>= next) := by
  intro world
  obtain ⟨made, page, trace, holds⟩ := first world
  rw [runIn_bind]
  rcases result : action.runIn world with ⟨failure | value, middle⟩
  · rw [result] at page trace holds
    exact ⟨made, page, trace, .inl ⟨failure, rfl, holds⟩⟩
  · rw [result] at page trace holds
    obtain ⟨more, same, further, ended⟩ := second value middle
    -- What is told of the second part is told of the page of the first.
    change middle.page = world.page at page
    rw [page] at same ended
    refine ⟨made ++ more, same, ?_, .inr ⟨value, made, more, rfl, holds, ended⟩⟩
    rw [further, trace, List.append_assoc]

theorem perform (event : Event) : Adds (fun _ _ added => added = [event]) (perform event) := by
  intro world
  rw [runIn_perform]
  cases world.page.error? world.trace event with
  | none => exact ⟨_, rfl, rfl, rfl⟩
  | some error => exact ⟨_, rfl, rfl, rfl⟩

theorem call (made : Call) : Adds (fun _ _ added => added = [.call made]) (Act.call made) :=
  .perform (.call made)

/-- A call on an element is answered by its node. -/
theorem element (handle : Handle) (made : ElementCall) :
    Adds (fun page result added => added = [.element handle made] ∧
      ∀ node, result = .ok node → node = page.node handle.node) (Act.element handle made) := by
  intro world
  unfold Act.element
  rw [runIn_bind, runIn_perform]
  cases world.page.error? world.trace (.element handle made) with
  | none => exact ⟨_, rfl, rfl, rfl, fun node returned => (Except.ok.inj returned).symm⟩
  | some error =>
    refine ⟨_, rfl, rfl, rfl, fun node returned => ?_⟩
    cases returned

theorem catchBrowser {handler : BrowserError → Act α} {later : Page → Except Failure α → List Event → Prop}
    (tried : Adds told action) (answered : ∀ error, Adds later (handler error)) :
    Adds (fun page result added => told page result added ∨
      ∃ error made more, added = made ++ more ∧ told page (.error (.browser error)) made ∧ later page result more)
      (catchBrowser action handler) := by
  intro world
  obtain ⟨made, page, trace, holds⟩ := tried world
  rw [runIn_catchBrowser]
  rcases result : action.runIn world with ⟨failure | value, middle⟩
  · rw [result] at page trace holds
    cases failure with
    | browser error =>
      obtain ⟨more, same, further, ended⟩ := answered error middle
      change middle.page = world.page at page
      rw [page] at same ended
      refine ⟨made ++ more, same, ?_, .inr ⟨error, made, more, rfl, holds, ended⟩⟩
      rw [further, trace, List.append_assoc]
    | _ => exact ⟨made, page, trace, .inl holds⟩
  · rw [result] at page trace holds
    exact ⟨made, page, trace, .inl holds⟩

end Adds

/-- Every event of an action is of a kind, whatever comes of the action. -/
def Each (kind : Event → Prop) (action : Act α) : Prop :=
  Adds (fun _ _ added => ∀ event ∈ added, kind event) action

namespace Each

variable {kind : Event → Prop} {action : Act α}

theorem of_confined {within : Event → Bool} (confined : Confined within action)
    (implies : ∀ event, within event = true → kind event) : Each kind action :=
  (Adds.of_confined confined).imp fun _ _ _ holds event member => implies event (holds event member)

theorem silent (page : ∀ world, (action.runIn world).2.page = world.page)
    (trace : ∀ world, (action.runIn world).2.trace = world.trace) : Each kind action :=
  fun world => ⟨[], page world, by rw [trace, List.append_nil], nofun⟩

theorem bind {next : α → Act β} (first : Each kind action) (second : ∀ value, Each kind (next value)) :
    Each kind (action >>= next) := by
  refine (Adds.bind first second).imp fun _ _ added told => ?_
  rcases told with ⟨_, _, holds⟩ | ⟨_, made, more, rfl, earlier, later⟩
  · exact holds
  · exact List.forall_mem_append.mpr ⟨earlier, later⟩

theorem call {made : Call} (holds : kind (.call made)) : Each kind (call made) :=
  (Adds.call made).imp fun _ _ _ same => by simpa [same] using holds

end Each
end FormFill.Act
