import FormFill.Browser.Timing
import FormFill.Proofs.Act.Built
import FormFill.Proofs.Act.Confined
import FormFill.Proofs.Act.Growing

namespace FormFill.Timing

open Act

variable {draws waits : Prop} {soft : Bool}

/-- The windows from which delays are drawn reach neither below nor above their base by less than
    nothing, so that none of them is empty. -/
structure Proper (timing : Timing) : Prop where
  typingBelow : 0 ≤ timing.typingBelow
  typingAbove : 0 ≤ timing.typingAbove
  fieldBelow : 0 ≤ timing.fieldBelow
  fieldAbove : 0 ≤ timing.fieldAbove

theorem ofOptions_proper (options : RunOptions) : (ofOptions options).Proper :=
  ⟨Int.natCast_nonneg _, Int.natCast_nonneg _, Int.natCast_nonneg _, Int.natCast_nonneg _⟩

theorem jitter_built {base below above : Int} (drawing : 0 < base → draws) (down : 0 ≤ below) (up : 0 ≤ above) :
    Built draws waits soft (fun delay => delay = 0 ∨ 0 < base ∧ delay ≤ base + above) (jitter base below above) := by
  unfold jitter
  split
  · exact .pure (.inl rfl)
  · rename_i positive
    have ordered : max 0 (base - below) ≤ base + above := by omega
    refine (Built.draw (drawing (by omega)) ordered).weaken fun delay drawn => ?_
    exact .inr ⟨by omega, drawn.2⟩

theorem keystrokeDelay_built {timing : Timing} (proper : timing.Proper) (drawing : 0 < timing.typingDelay → draws)
    (suppressed : Bool) :
    Built draws waits soft (fun _ => True) (timing.keystrokeDelay suppressed) := by
  unfold keystrokeDelay typingJitter
  split
  · exact .pure trivial
  · exact (jitter_built drawing proper.typingBelow proper.typingAbove).weaken fun _ _ => trivial

/-- A pause of this many milliseconds is too long. -/
def IsOverlong (milliseconds : Int) : Prop :=
  pauseBound ≤ milliseconds

instance (milliseconds : Int) : Decidable (IsOverlong milliseconds) :=
  inferInstanceAs (Decidable (pauseBound ≤ milliseconds))

theorem pauseBound_pos : 0 < pauseBound := by
  decide +kernel

theorem not_isOverlong_zero : ¬IsOverlong 0 :=
  fun overlong => absurd (Int.ofNat_le.mp overlong) (Nat.not_le.mpr pauseBound_pos)

/-- The pause after a field may be drawn too long. -/
def SlowBetweenFields (timing : Timing) : Prop :=
  0 < timing.betweenFieldsDelay ∧ IsOverlong (timing.betweenFieldsDelay + timing.fieldAbove)

theorem pause_built {milliseconds : Int} (waiting : IsOverlong milliseconds → waits) :
    Built draws waits soft (fun _ => True) (pause milliseconds) := by
  unfold pause
  split
  · exact .pure trivial
  · split
    · exact .note (fun _ _ => rfl) rfl
    · rename_i overlong
      exact .overlong (waiting (Int.not_lt.mp overlong))

theorem pause_of_overlong {milliseconds : Int} (overlong : IsOverlong milliseconds) (world : World) :
    (pause milliseconds).runIn world = (.error .overlongPause, world) := by
  have positive : ¬milliseconds ≤ 0 := by
    have bound := Int.natCast_pos.mpr pauseBound_pos
    exact Int.not_le.mpr (Int.lt_of_lt_of_le bound overlong)
  rw [pause, if_neg positive, if_neg (Int.not_lt.mpr overlong)]
  rfl

theorem pause_runIn {milliseconds : Int} (short : ¬IsOverlong milliseconds) (world : World) :
    ∃ after, (pause milliseconds).runIn world = (.ok (), after) ∧
      world.Grown after (if 0 < milliseconds then [.sleep milliseconds] else []) := by
  unfold pause
  by_cases immediate : milliseconds ≤ 0
  · rw [if_pos immediate, if_neg (Int.not_lt.mpr immediate)]
    exact ⟨world, rfl, .refl world⟩
  · rw [if_neg immediate, if_pos (Int.not_le.mp immediate), if_pos (Int.not_le.mp short)]
    exact ⟨_, rfl, .note world _⟩

theorem pause_confined {kind : Event → Bool}
    (ofKind : ∀ milliseconds, 0 < milliseconds → kind (.sleep milliseconds) = true) (milliseconds : Int) :
    Confined kind (pause milliseconds) := by
  unfold pause
  split
  · exact .pure ()
  · rename_i positive
    split
    · exact .note (ofKind milliseconds (Int.not_le.mp positive))
    · exact .throw _

theorem scrollIntoView_built (timing : Timing) (handle : Handle) (fieldName : String) (skip : Bool) :
    Built draws waits soft (fun _ => True) (timing.scrollIntoView handle fieldName skip) := by
  unfold scrollIntoView
  split
  · exact .pure trivial
  · apply Built.catchBrowser
    · exact .andThen (.perform (.element handle.first (.scrollIntoView _)) rfl) fun _ => .pure trivial
    · intro error
      exact .andThen .log fun _ => .pure trivial

theorem scrollPageBottom_built : Built draws waits soft (fun _ => True) scrollPageBottom := by
  unfold scrollPageBottom
  apply Built.catchBrowser
  · refine .andThen (.call (.evaluate bottomScript none) rfl) fun _ => ?_
    exact .andThen (.call (.waitForTimeout settleTime) rfl) fun _ => .pure trivial
  · intro error
    exact .andThen .log fun _ => .pure trivial

theorem pause_interacts {milliseconds : Int} (waiting : IsOverlong milliseconds → waits) :
    Interacts waits soft (fun _ => True) (pause milliseconds) := by
  have built : Built True waits soft (fun _ => True) (pause milliseconds) := pause_built waiting
  exact built.interacts

theorem scrollPageBottom_interacts : Interacts waits soft (fun _ => True) scrollPageBottom := by
  have built : Built True waits soft (fun _ => True) scrollPageBottom := scrollPageBottom_built
  exact built.interacts

theorem betweenFields_interacts {timing : Timing} (proper : timing.Proper)
    (waiting : timing.SlowBetweenFields → waits) :
    Interacts waits soft (fun _ => True) timing.betweenFields := by
  have built : Built True waits soft (fun _ => True) timing.betweenFields := by
    unfold betweenFields fieldJitter
    refine .bind (jitter_built (fun _ => trivial) proper.fieldBelow proper.fieldAbove) fun delay drawn => ?_
    dsimp only
    split
    · refine .andThen .log fun _ => .andThen (pause_built fun overlong => ?_) fun _ => .pure trivial
      rcases drawn with none | ⟨positive, least⟩
      · contradiction
      · exact waiting ⟨positive, Int.le_trans overlong least⟩
    · exact .pure trivial
  exact built.interacts

/-- What a pause between two fields leaves of what is drawn, unless it is too long. -/
def afterPause (timing : Timing) (draws : Draws) : Option Draws :=
  let base := timing.betweenFieldsDelay
  if base ≤ 0 then some draws
  else if draws.next (max 0 (base - timing.fieldBelow)) (base + timing.fieldAbove) < pauseBound then
    some { draws with used := draws.used + 1 }
  else none

def afterPauses (timing : Timing) : Nat → Draws → Option Draws
  | 0, draws => some draws
  | count + 1, draws => (timing.afterPause draws).bind (timing.afterPauses count)

theorem draw_runIn {low high : Int} (ordered : low ≤ high) (world : World) :
    ∃ after, (draw low high).runIn world = (.ok (world.draws.next low high), after) ∧ after.page = world.page ∧
      after.draws = { world.draws with used := world.draws.used + 1 } := by
  simp only [draw, runIn_bind, runIn_note, if_neg (Int.not_lt.mpr ordered)]
  exact ⟨_, rfl, rfl, rfl⟩

/-- How a pause between two fields ends is up to what is drawn alone. -/
theorem betweenFields_draws {timing : Timing} (proper : timing.Proper) (world : World) :
    ∃ result after, timing.betweenFields.runIn world = (result, after) ∧ after.page = world.page ∧
      ((∃ delay, result = .ok delay ∧ timing.afterPause world.draws = some after.draws) ∨
        timing.SlowBetweenFields ∧ result = .error .overlongPause ∧ timing.afterPause world.draws = none) := by
  unfold betweenFields fieldJitter jitter afterPause
  rw [Option.getD_none]
  by_cases idle : timing.betweenFieldsDelay ≤ 0
  · simp only [if_pos idle]
    exact ⟨_, world, rfl, rfl, .inl ⟨0, rfl, rfl⟩⟩
  · have ordered : max 0 (timing.betweenFieldsDelay - timing.fieldBelow) ≤
        timing.betweenFieldsDelay + timing.fieldAbove := by
      have := proper.fieldBelow
      have := proper.fieldAbove
      omega
    obtain ⟨-, most⟩ := world.draws.next_mem ordered
    obtain ⟨middle, drew, page, draws⟩ := draw_runIn ordered world
    simp only [if_neg idle]
    rw [runIn_bind_ok drew]
    generalize world.draws.next _ _ = delay at most ⊢
    by_cases overlong : IsOverlong delay
    · have waits : delay ≠ 0 := fun none => not_isOverlong_zero (none ▸ overlong)
      rw [if_pos waits, if_neg (Int.not_lt.mpr overlong), log, runIn_bind_ok (runIn_log _ _ _ _ _),
        runIn_bind_error (pause_of_overlong overlong _)]
      exact ⟨_, _, rfl, page, .inr ⟨⟨Int.not_le.mp idle, Int.le_trans overlong most⟩, rfl, rfl⟩⟩
    · rw [if_pos (Int.not_le.mp overlong), ← draws]
      by_cases none : delay = 0
      · rw [if_neg (not_not_intro none)]
        exact ⟨_, middle, rfl, page, .inl ⟨delay, rfl, rfl⟩⟩
      · obtain ⟨after, paused, grown⟩ := pause_runIn overlong (middle.write _)
        rw [if_pos none, log, runIn_bind_ok (runIn_log _ _ _ _ _), runIn_bind_ok paused]
        exact ⟨_, after, rfl, grown.page.trans page, .inl ⟨delay, rfl, congrArg some grown.draws.symm⟩⟩

end FormFill.Timing
