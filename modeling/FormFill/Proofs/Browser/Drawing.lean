import FormFill.Proofs.Browser.Handling
import FormFill.Proofs.Browser.Pacing

namespace FormFill

namespace Draws

/-- Every number of a window can be drawn from it. -/
theorem next_script {low high value : Int} (least : low ≤ value) (most : value ≤ high) :
    next ⟨[value - low], 0⟩ low high = value := by
  have small : (value - low) % (high - low + 1) = value - low := Int.emod_eq_of_lt (by omega) (by omega)
  simp only [next, List.length_singleton, Nat.zero_mod, List.getElem?_cons_zero, Option.getD_some, small]
  omega

end Draws

namespace Timing

open Act

variable {timing : Timing}

/-- The delay between two keys that comes of the next draw. -/
def keystroke (timing : Timing) (suppressed : Bool) (draws : Draws) : Int :=
  if suppressed || timing.typingDelay ≤ 0 then 0
  else draws.next (max 0 (timing.typingDelay - timing.typingBelow)) (timing.typingDelay + timing.typingAbove)

theorem keystrokeDelay_runIn (proper : timing.Proper) (suppressed : Bool) (world : World) :
    ∃ after added, (timing.keystrokeDelay suppressed).runIn world =
        (.ok (timing.keystroke suppressed world.draws), after) ∧
      after.trace = world.trace ++ added ∧ Still added := by
  unfold keystrokeDelay typingJitter jitter keystroke
  cases suppressed with
  | true => exact ⟨world, [], rfl, by simp, .nil⟩
  | false =>
    by_cases idle : timing.typingDelay ≤ 0
    · exact ⟨world, [], by simp [idle], by simp, .nil⟩
    · have ordered : ¬ timing.typingDelay + timing.typingAbove < max 0 (timing.typingDelay - timing.typingBelow) := by
        have := proper.typingBelow
        have := proper.typingAbove
        omega
      simp only [Bool.false_eq_true, ↓reduceIte, Option.getD_none, idle, decide_false, Bool.or_self, draw,
        runIn_bind, runIn_note, ordered]
      exact ⟨_, _, rfl, rfl, .singleton rfl⟩

/-- Keys are typed one by one whatever is drawn, just where no draw can take the delay down to nothing. -/
theorem keystroke_ne_zero_iff (options : RunOptions) (suppressed : Bool) :
    (∀ draws, (ofOptions options).keystroke suppressed draws ≠ 0) ↔
      suppressed = false ∧ options.typingJitter.below < options.typingDelay := by
  constructor
  · intro typed
    have least := typed ⟨[], 0⟩
    cases suppressed with
    | true => simp [keystroke] at least
    | false =>
      refine ⟨rfl, ?_⟩
      simp only [keystroke, ofOptions, Draws.next, Bool.false_or, List.getElem?_nil, Option.getD_none,
        Int.zero_emod, Int.add_zero] at least
      split at least <;> omega
  · rintro ⟨rfl, wide⟩ draws
    have positive : ¬ options.typingDelay ≤ 0 := by omega
    have ordered : max 0 (options.typingDelay - options.typingJitter.below) ≤
        options.typingDelay + options.typingJitter.above := by omega
    have drawn := draws.next_mem ordered
    simp only [keystroke, ofOptions, Bool.false_or, positive, decide_false, Bool.false_eq_true, ↓reduceIte]
    omega

/-- Keys are never typed one by one, whatever is drawn, just where there is no delay or it is suppressed. -/
theorem keystroke_eq_zero_iff (options : RunOptions) (suppressed : Bool) :
    (∀ draws, (ofOptions options).keystroke suppressed draws = 0) ↔
      suppressed = true ∨ options.typingDelay ≤ 0 := by
  constructor
  · intro entered
    cases suppressed with
    | true => exact .inl rfl
    | false =>
      refine .inr (Int.not_lt.mp fun positive => ?_)
      have most := entered ⟨[options.typingDelay + options.typingJitter.above -
        max 0 (options.typingDelay - options.typingJitter.below)], 0⟩
      have delayed : ¬ options.typingDelay ≤ 0 := by omega
      simp only [keystroke, ofOptions, Bool.false_or, delayed, decide_false, Bool.false_eq_true, ↓reduceIte] at most
      rw [Draws.next_script (by omega) (by omega)] at most
      omega
  · rintro (rfl | idle) draws
    · rfl
    · simp [keystroke, ofOptions, idle]

end Timing
end FormFill
