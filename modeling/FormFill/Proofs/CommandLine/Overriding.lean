import Mathlib
import FormFill.CommandLine
import FormFill.Proofs.Options

namespace FormFill.RunOptions

theorem safePresets_permitted : Settings.default.safePresets.Permitted :=
  ⟨by decide, by decide, by decide⟩

/-- The options of a run are again what a document may give, just where no negative delay is given for the run. -/
theorem override_accepted_iff {options : RunOptions} (accepted : options.Accepted) (overrides : Overrides) :
    (options.override Settings.default.safePresets overrides).Accepted ↔ ∀ delay ∈ overrides.delays, 0 ≤ delay := by
  rw [accepted_iff_permitted] at accepted ⊢
  exact override_permitted_iff safePresets_permitted accepted overrides

theorem override_accepted_iff_safe :
    let overrides : Overrides := ⟨true, some 0, none, some 25, none⟩
    RunOptions.default.Accepted ∧ (RunOptions.default.override Settings.default.safePresets overrides).Accepted := by
  intro overrides
  have accepted : RunOptions.default.Accepted := ⟨.obj [], rfl⟩
  exact ⟨accepted, (override_accepted_iff accepted overrides).mpr (by decide)⟩

/-- A negative slow motion, which no document may give, is taken from the command line and handed to the browser. -/
theorem override_admits_negative :
    let request : CommandLine.RunRequest :=
      ⟨.ofText "listing.json", .ofText "selectors.json", false, false, false, false, some (-5), none, none, none, none⟩
    let options := RunOptions.default.override Settings.default.safePresets request.overrides
    CommandLine.Command.ofArguments .default ["run", "--slowmo", "-5"] = .ok (.run request) ∧
      RunOptions.default.Accepted ∧ ¬ options.Accepted ∧
      ∀ form : Form, form.options = options →
        (request.session .default form).launchOptions.slowMotion = some (-5) := by
  intro request options
  refine ⟨by cbv, ⟨.obj [], rfl⟩, ?_, ?_⟩
  · rw [accepted_iff_permitted]
    intro permitted
    exact absurd permitted.slowMotion (by decide)
  · intro form same
    rw [CommandLine.RunRequest.session, same]
    rfl

end FormFill.RunOptions
