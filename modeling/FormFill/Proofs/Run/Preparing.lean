import FormFill.Proofs.Browser.Pacing
import FormFill.Run

namespace FormFill

namespace Act

/-- The action changes no files and does not end with a failed field. -/
def Aside {α : Type} (action : Act α) : Prop :=
  ∀ world, (action.runIn world).2.files = world.files ∧
    ∀ outcome report, (action.runIn world).1 ≠ .error (.fieldFailed outcome report)

variable {α β : Type}

theorem Interacts.aside {waits : Prop} {soft : Bool} {returns : α → Prop} {action : Act α}
    (interacts : Interacts waits soft returns action) : action.Aside := by
  intro world
  obtain ⟨added, onward, ended⟩ := interacts world
  refine ⟨onward.files, fun outcome report failed => ?_⟩
  rw [failed] at ended
  exact ended

theorem Aside.pure (value : α) : (pure value : Act α).Aside :=
  fun _ => ⟨rfl, by simp⟩

theorem Aside.throw {failure : Failure} (other : ∀ outcome report, failure ≠ .fieldFailed outcome report) :
    (throw failure : Act α).Aside := by
  intro world
  refine ⟨rfl, fun outcome report failed => other outcome report ?_⟩
  rw [runIn_throw] at failed
  exact Except.error.inj failed

theorem Aside.bind {action : Act α} {next : α → Act β} (first : action.Aside)
    (second : ∀ value, (next value).Aside) : (action >>= next).Aside := by
  intro world
  obtain ⟨files, unfailed⟩ := first world
  rw [runIn_bind]
  rcases result : action.runIn world with ⟨failure | value, middle⟩
  · rw [result] at files unfailed
    refine ⟨files, fun outcome report failed => unfailed outcome report ?_⟩
    exact congrArg Except.error (Except.error.inj failed)
  · rw [result] at files
    obtain ⟨later, finished⟩ := second value middle
    exact ⟨later.trans files, finished⟩

theorem Aside.catchBrowser {action : Act α} {handler : BrowserError → Act α} (tried : action.Aside)
    (answered : ∀ error, (handler error).Aside) : (catchBrowser action handler).Aside := by
  intro world
  obtain ⟨files, unfailed⟩ := tried world
  rw [runIn_catchBrowser]
  rcases result : action.runIn world with ⟨failure | value, middle⟩
  · rw [result] at files unfailed
    cases failure with
    | browser error =>
      obtain ⟨later, finished⟩ := answered error middle
      exact ⟨later.trans files, finished⟩
    | _ => exact ⟨files, unfailed⟩
  · rw [result] at files unfailed
    exact ⟨files, unfailed⟩

theorem Aside.get : (get : Act World).Aside :=
  fun _ => ⟨rfl, by simp⟩

theorem Aside.note (event : Event) : (note event).Aside :=
  fun _ => ⟨rfl, by simp⟩

theorem Aside.call (call : Call) : (Act.call call).Aside := by
  intro world
  unfold Act.call
  rw [runIn_perform]
  cases world.page.error? world.trace (.call call) with
  | none => exact ⟨rfl, by simp⟩
  | some error => exact ⟨rfl, by simp⟩

theorem Aside.ask (event : Event) : (ask event).Aside := by
  unfold Act.ask
  refine .bind (.note event) fun _ => ?_
  refine .bind Aside.get fun world => ?_
  split
  · exact .throw (by simp)
  · exact .pure ()

end Act

namespace Run

open Act

theorem log_aside (level : LogLevel) (event : String) (values : Members) : (log level event values).Aside := by
  have interacts : Interacts False false (fun _ => True) (log level event values) := .log
  exact interacts.aside

theorem pause_aside (milliseconds : Int) : (Timing.pause milliseconds).Aside := by
  have interacts : Interacts True false (fun _ => True) (Timing.pause milliseconds) :=
    Timing.pause_interacts fun _ => trivial
  exact interacts.aside

theorem ask_aside (operator : Operator) (message : String) : (ask operator message).Aside := by
  cases operator with
  | absent => exact log_aside _ _ _
  | present => exact .ask _
  | console => exact .ask _

theorem grantClipboard_aside (url : String) : (grantClipboard url).Aside := by
  unfold grantClipboard
  cases Address.origin url with
  | error fault => exact .throw (by simp)
  | ok origin => exact .catchBrowser (.call _) fun _ => log_aside _ _ _

theorem awaitReady_aside (selector : String) (timeout : Nat) : (awaitReady selector timeout).Aside := by
  refine .catchBrowser (.call _) fun error => .throw fun outcome report same => ?_
  cases timedOut : error.timedOut <;> simp [timedOut] at same

theorem preparePage_aside (run : Run) : run.preparePage.Aside := by
  have granted : (do
      Timing.pause run.form.options.pauseBeforeFill
      if run.form.options.grantClipboard && run.form.usesClipboard then
        grantClipboard run.form.url : Act Unit).Aside := by
    refine .bind (pause_aside _) fun _ => ?_
    split
    · exact grantClipboard_aside _
    · exact .pure ()
  unfold preparePage
  refine .bind (log_aside _ _ _) fun _ => ?_
  refine .bind (.call _) fun _ => ?_
  dsimp only
  split
  · refine .bind (ask_aside _ _) fun _ => ?_
    split
    · exact .bind (awaitReady_aside _ _) fun _ => granted
    · exact granted
  · split
    · exact .bind (awaitReady_aside _ _) fun _ => granted
    · exact granted

theorem finish_aside (run : Run) (report : Report) : (run.finish report).Aside := by
  unfold finish
  split
  · refine .bind (.call _) fun _ => ?_
    exact .bind (log_aside _ _ _) fun _ => .pure _
  · exact .bind (log_aside _ _ _) fun _ => .pure _
  · exact .bind (log_aside _ _ _) fun _ => .pure _

end Run
end FormFill
