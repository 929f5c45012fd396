import FormFill.Proofs.Act

namespace FormFill

/-- Events have been added to the trace between two worlds, and besides it nothing but the log has changed. -/
def World.Grown (before after : World) (added : List Event) : Prop :=
  ∃ log, after = { before with trace := before.trace ++ added, log }

namespace World.Grown

variable {before middle after : World} {first second added : List Event}

theorem refl (world : World) : world.Grown world [] :=
  ⟨world.log, by rw [List.append_nil]⟩

theorem note (world : World) (event : Event) : world.Grown (world.note event) [event] :=
  ⟨world.log, rfl⟩

theorem write (world : World) (entry : LogEntry) : world.Grown (world.write entry) [] :=
  ⟨world.log ++ [entry], by rw [List.append_nil, World.write]⟩

theorem trans (left : before.Grown middle first) (right : middle.Grown after second) :
    before.Grown after (first ++ second) := by
  obtain ⟨_, rfl⟩ := left
  obtain ⟨log, rfl⟩ := right
  exact ⟨log, by rw [List.append_assoc]⟩

theorem page (grown : before.Grown after added) : after.page = before.page := by
  obtain ⟨_, rfl⟩ := grown
  rfl

theorem files (grown : before.Grown after added) : after.files = before.files := by
  obtain ⟨_, rfl⟩ := grown
  rfl

theorem draws (grown : before.Grown after added) : after.draws = before.draws := by
  obtain ⟨_, rfl⟩ := grown
  rfl

theorem host (grown : before.Grown after added) : after.host = before.host := by
  obtain ⟨_, rfl⟩ := grown
  rfl

theorem trace (grown : before.Grown after added) : after.trace = before.trace ++ added := by
  obtain ⟨_, rfl⟩ := grown
  rfl

theorem trace_nil (grown : before.Grown after []) : after.trace = before.trace := by
  rw [grown.trace, List.append_nil]

end World.Grown
end FormFill
