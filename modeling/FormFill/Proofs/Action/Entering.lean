import FormFill.Field.Reader
import FormFill.Proofs.Action.Targeting
import FormFill.Proofs.Browser.Changes
import FormFill.Proofs.Browser.Drawing
import FormFill.Proofs.Executor.Trying

namespace FormFill

open Act

namespace Timing

theorem pause_follows (milliseconds : Int) : Follows [] (fun _ => True) (pause milliseconds) := by
  unfold pause
  split
  · exact .pure trivial
  · split
    · exact .note rfl
    · exact fun _ => ⟨[], (List.append_nil _).symm, rfl⟩

end Timing

/-- The calls that enter a value, with a delay between two keys or, without any, at once. -/
def Fill.entering (settings : Fill) (target : Handle) (value : String) (delay : Int) : List Event :=
  (if delay ≠ 0 then [.element target (.fill ""), .element target (.pressSequentially value delay)]
    else if settings.clear then [.element target (.fill ""), .element target (.fill value)]
    else [.element target (.fill value)]) ++
  if settings.pressEnter then [.element target (.press "Enter")] else []

namespace Action

variable {timing : Timing} {field : Field}

theorem pressEnter_follows (handle : Handle) (delay : Nat) :
    Follows [.element handle (.press "Enter")] (fun _ => True) (pressEnter handle delay) :=
  .andThen rfl fun _ => Timing.pause_follows delay

/-- What is done once the target of a value is known and the delay is drawn. -/
theorem entering_follows (field : Field) (settings : Fill) (target : Handle) (value : String) (delay : Int) :
    Follows (settings.entering target value delay) (· = Outcome.applied field (.typed (delay ≠ 0))) (do
      if delay ≠ 0 then
        let _ ← Act.element target (.fill "")
        let _ ← Act.element target (.pressSequentially value delay)
      else
        if settings.clear then let _ ← Act.element target (.fill "")
        let _ ← Act.element target (.fill value)
      if settings.pressEnter then pressEnter target settings.enterDelay
      return .applied field (.typed (delay ≠ 0))) := by
  have ending : Follows (if settings.pressEnter then [.element target (.press "Enter")] else [])
      (· = Outcome.applied field (.typed (delay ≠ 0)))
      (if settings.pressEnter = true then do
          pressEnter target settings.enterDelay
          pure (Outcome.applied field (.typed (delay ≠ 0)))
        else pure (Outcome.applied field (.typed (delay ≠ 0)))) := by
    split
    · exact .returning (pressEnter_follows target _) rfl
    · exact .pure rfl
  unfold Fill.entering
  dsimp only
  split
  · exact .andThen rfl fun _ => .andThen rfl fun _ => ending
  · split
    · exact .andThen rfl fun _ => .andThen rfl fun _ => ending
    · exact .andThen rfl fun _ => ending

theorem runFill_carried (proper : timing.Proper) {handle : Handle} {world : World}
    (found : field.Found world.page world.trace handle) (settings : Fill) (value : String) :
    ∃ added, ((runFill timing field settings value).runIn world).2.trace = world.trace ++ added ∧
      Carried (settings.entering handle.first value (timing.keystroke settings.noTypingDelay world.draws))
        (· = Outcome.applied field (.typed (timing.keystroke settings.noTypingDelay world.draws ≠ 0))) added
        ((runFill timing field settings value).runIn world).1 := by
  obtain ⟨middle, first, reached, grown, still⟩ := target_runIn timing found
  obtain ⟨later, second, drawn, trace, quiet⟩ := Timing.keystrokeDelay_runIn proper settings.noTypingDelay middle
  rw [grown.draws] at drawn
  have follows := entering_follows field settings handle.first value
    (timing.keystroke settings.noTypingDelay world.draws) later
  obtain ⟨third, further, carried⟩ := follows
  unfold runFill onTarget
  rw [runIn_bind_ok reached]
  dsimp only
  rw [runIn_bind_ok drawn]
  refine ⟨first ++ second ++ third, ?_, carried.quiet (still.append quiet)⟩
  rw [further, trace, grown.trace, List.append_assoc, List.append_assoc, List.append_assoc]

end Action

/-- What comes of a value that is entered: an applied outcome after all calls, or a failed one after some of them. -/
inductive Fill.Entered (settings : Fill) (target : Handle) (value : String) (delay : Int) (made : List Event)
    (outcome : Outcome) : Prop where
  | wholly (applied : outcome.status = .applied) (typed : outcome.detail = .typed (delay ≠ 0))
    (all : made = settings.entering target value delay)
  | partly (failed : outcome.status = .failed) (some : made <+: settings.entering target value delay)

theorem Fill.Entered.patched {settings : Fill} {target : Handle} {value : String} {delay : Int} {made : List Event}
    {outcome : Outcome} (entered : settings.Entered target value delay made outcome) (patch : Option Patch) :
    settings.Entered target value delay made { outcome with patch } := by
  cases entered with
  | wholly applied typed all => exact .wholly applied typed all
  | partly failed some => exact .partly failed some

/-- What has been done when an interaction has ended that enters a value. Only a pause that is too long ends it without
    an outcome, and all has been done then. -/
def Fill.Leaves (settings : Fill) (target : Handle) (value : String) (delay : Int) (made : List Event) :
    Except Failure Outcome → Prop
  | .ok outcome => settings.Entered target value delay made outcome
  | .error _ => made = settings.entering target value delay

namespace Executor

variable {timing : Timing} {executor : Executor} {field : Field} {settings : Fill} {handle : Handle} {world : World}

theorem caught_leaves (proper : timing.Proper) (filling : field.action = .fill settings)
    (found : field.Found world.page world.trace handle) (record : Json) (value : String) {result : Except Failure Outcome}
    {after : World} (ended : (catchBrowser (interact timing field record value) fun error => do
        Action.log .error "Field action failed"
          (fieldContext field.displayName field.action.kind.name [("error", .str error.text)])
        return .failed field error.text).runIn world = (result, after)) :
    ∃ added, after.trace = world.trace ++ added ∧
      settings.Leaves handle.first value (timing.keystroke settings.noTypingDelay world.draws) (changes added)
        result := by
  have fills : interact timing field record value = Action.runFill timing field settings value := by
    rw [interact, filling]
  obtain ⟨added, trace, carried⟩ := Action.runFill_carried proper found settings value
  obtain ⟨_, -, only⟩ := interact_interacts proper field record value world
  rw [fills] at only
  rw [fills, runIn_catchBrowser] at ended
  rcases came : (Action.runFill timing field settings value).runIn world with ⟨failure | given, middle⟩
  · rw [came] at ended trace carried only
    cases failure with
    | browser error =>
      cases ended
      exact ⟨added, trace, .partly rfl carried⟩
    | overlongPause =>
      cases ended
      exact ⟨added, trace, carried⟩
    | _ => exact only.elim
  · rw [came] at ended trace carried
    cases ended
    obtain ⟨rfl, all⟩ := carried
    exact ⟨added, trace, .wholly rfl rfl all⟩

theorem attempt_leaves (proper : timing.Proper) (filling : field.action = .fill settings)
    (found : field.Found world.page world.trace handle) (record : Json) (value : String) {result : Except Failure Outcome}
    {after : World} (ended : (attempt timing field record value).runIn world = (result, after)) :
    ∃ added, after.trace = world.trace ++ added ∧
      settings.Leaves handle.first value (timing.keystroke settings.noTypingDelay world.draws) (changes added)
        result := by
  unfold attempt at ended
  dsimp only at ended
  split at ended
  · obtain ⟨_, middle, first, scrolled, grown, scrolls⟩ := Timing.scrollPageBottom_runIn world
    have aside := Timing.calls_of_bottomScroll scrolls
    have still : Still first := by
      intro event member
      obtain ⟨made, rfl, harmless⟩ := aside event member
      exact harmless
    have apart : ∀ event ∈ first, Page.sameKind (.element handle .count) event = false := by
      intro event member
      obtain ⟨made, rfl, -⟩ := aside event member
      rfl
    have standing := found.later apart
    rw [← grown.page, ← grown.trace] at standing
    rw [runIn_bind_ok scrolled] at ended
    obtain ⟨second, trace, leaves⟩ := caught_leaves proper filling standing record value ended
    rw [grown.draws] at leaves
    refine ⟨first ++ second, by rw [trace, grown.trace, List.append_assoc], ?_⟩
    rwa [changes_append, still.changes]
  · exact caught_leaves proper filling found record value ended

/-- How dealing with a field ends that enters a value: with an outcome, or with the pause after the enter key, if that
    is too long. -/
inductive Filled (page : Page) (settings : Fill) (target : Handle) (value : String) (delay : Int)
    (before added : List Event) : Except Failure Outcome → Prop where
  | entered {outcome : Outcome} (failed_iff : outcome.status = .failed ↔ ¬page.Calm before added)
      (entered : settings.Entered target value delay (changes added) outcome) :
      Filled page settings target value delay before added (.ok outcome)
  | overlong (pressing : settings.pressEnter = true) (overlong : Timing.IsOverlong settings.enterDelay)
      (calm : page.Calm before added) (all : changes added = settings.entering target value delay) :
      Filled page settings target value delay before added (.error .overlongPause)

theorem attempt_fills (proper : timing.Proper) (filling : field.action = .fill settings)
    (found : field.Found world.page world.trace handle) (record : Json) (value : String) :
    ∃ result after added, (attempt timing field record value).runIn world = (result, after) ∧
      after.trace = world.trace ++ added ∧ Filled world.page settings handle.first value
        (timing.keystroke settings.noTypingDelay world.draws) world.trace added result := by
  have deals := attempt_deals proper field record value world
  rcases ended : (attempt timing field record value).runIn world with ⟨result, after⟩
  rw [ended] at deals
  obtain ⟨added, trace, leaves⟩ := attempt_leaves proper filling found record value ended
  refine ⟨result, after, added, rfl, trace, ?_⟩
  cases deals with
  | @dealt outcome _ same dealt =>
    obtain rfl : same = added := List.append_cancel_left (dealt.onward.trace.symm.trans trace)
    exact .entered dealt.settled.failed_iff_not_calm leaves
  | @overlong _ same lingers onward calm =>
    obtain rfl : same = added := List.append_cancel_left (onward.trace.symm.trans trace)
    obtain ⟨pressing, overlong⟩ := field.lingers_fill filling lingers
    exact .overlong pressing overlong calm leaves

theorem execute_fills (proper : executor.timing.Proper) (filling : field.action = .fill settings)
    (found : field.Found world.page world.trace handle) {record : Json} {value : String}
    (valued : executor.value? field record world.files = some value) :
    ∃ result after added, (executor.execute field record).runIn world = (result, after) ∧
      after.trace = world.trace ++ added ∧ Filled world.page settings handle.first value
        (executor.timing.keystroke settings.noTypingDelay world.draws) world.trace added result := by
  obtain ⟨files, log, patch, ran⟩ := execute_valued (found.active filling) valued
  have standing : field.Found ({ world with files, log } : World).page ({ world with files, log } : World).trace handle :=
    found
  obtain ⟨result, after, added, ended, trace, filled⟩ := attempt_fills proper filling standing record value
  rw [ran, runIn_bind, ended]
  cases filled with
  | entered failed_iff entered => exact ⟨_, after, added, rfl, trace, .entered failed_iff (entered.patched _)⟩
  | overlong pressing overlong calm all => exact ⟨_, after, added, rfl, trace, .overlong pressing overlong calm all⟩

/-- A value is entered key by key or at once, as the delay that is drawn tells. It is entered key by key whatever
    is drawn only if the delay is greater than what may be taken from it, and at once only without a delay. -/
theorem execute_fill (options : RunOptions) (identifiers : Option IdentifierSource) {field : Field}
    {settings : Fill} (filling : field.action = .fill settings) (world : World) {handle : Handle}
    (found : field.Found world.page world.trace handle) (record : Json) {value : String}
    (valued : (⟨.ofOptions options, identifiers⟩ : Executor).value? field record world.files = some value) :
    (∀ draws, ∃ result after added,
      ((⟨.ofOptions options, identifiers⟩ : Executor).execute field record).runIn { world with draws } =
        (result, after) ∧
      after.trace = world.trace ++ added ∧
      Filled world.page settings handle.first value
        ((Timing.ofOptions options).keystroke settings.noTypingDelay draws) world.trace added result) ∧
    ((∀ draws, (Timing.ofOptions options).keystroke settings.noTypingDelay draws ≠ 0) ↔
      settings.noTypingDelay = false ∧ options.typingJitter.below < options.typingDelay) ∧
    ((∀ draws, (Timing.ofOptions options).keystroke settings.noTypingDelay draws = 0) ↔
      settings.noTypingDelay = true ∨ options.typingDelay ≤ 0) := by
  refine ⟨fun draws => ?_, Timing.keystroke_ne_zero_iff options _, Timing.keystroke_eq_zero_iff options _⟩
  have drawing : field.Found ({ world with draws } : World).page ({ world with draws } : World).trace handle := found
  exact execute_fills (Timing.ofOptions_proper options) filling drawing valued

theorem execute_fill_slow :
    let options : RunOptions := { RunOptions.default with typingDelay := 100 }
    let settings : Fill := ⟨false, true, 0, false⟩
    let field : Field :=
      ⟨none, some "#a", none, none, none, false, some "=x", .none, false, false, false, false, .fill settings⟩
    let page : Page :=
      { Page.blank with lookups := [(.selector "#a", "a")], nodes := [("a", { Node.absent with count := 1 })] }
    ∀ draws, ∃ outcome after added,
      ((⟨.ofOptions options, none⟩ : Executor).execute field (.obj [])).runIn
          { World.untouched page .empty with draws } = (.ok outcome, after) ∧
      (Timing.ofOptions options).keystroke settings.noTypingDelay draws ≠ 0 ∧
      settings.Entered ⟨"a", true⟩ "x" ((Timing.ofOptions options).keystroke settings.noTypingDelay draws)
        (changes added) outcome := by
  intro options settings field page draws
  have found : field.Found page [] ⟨"a", false⟩ := ⟨rfl, rfl, by decide⟩
  have valued : (⟨.ofOptions options, none⟩ : Executor).value? field (.obj []) .empty = some "x" := rfl
  obtain ⟨fills, slow, -⟩ := execute_fill options none rfl (.untouched page .empty) found (.obj []) valued
  obtain ⟨result, after, added, ended, -, filled⟩ := fills draws
  cases filled with
  | entered _ entered => exact ⟨_, after, added, ended, slow.mpr ⟨rfl, by decide⟩ draws, entered⟩
  | overlong _ overlong => exact absurd overlong Timing.not_isOverlong_zero

theorem execute_fill_at_once :
    let page : Page :=
      { Page.blank with lookups := [(.selector "#a", "a")], nodes := [("a", { Node.absent with count := 1 })] }
    ∃ options field settings, RunOptions.read (.obj [("typingDelayMs", .int 10)]) = .valid options ∧
      Field.read (.obj [("selector", .str "#a"), ("value", .str "=x")]) = .valid field ∧
      field.action = .fill settings ∧ settings.noTypingDelay = false ∧ ∃ after,
      ((⟨.ofOptions options, none⟩ : Executor).execute field (.obj [])).runIn (.untouched page .empty) =
        (.ok (.applied field (.typed false)), after) ∧
      changes after.trace = [.element ⟨"a", true⟩ (.fill "x")] :=
  ⟨_, _, _, rfl, rfl, rfl, rfl, _, rfl, rfl⟩

end Executor
end FormFill
