import FormFill.Proofs.Executor.Reaching
import Mathlib.Data.List.Basic

namespace FormFill

/-- The text in an element after an event, given the text before: a value that is set takes its place, and keys that are
    typed one by one follow it. -/
def Event.textIn (element text : String) : Event → String
  | .element handle (.fill value) => if handle.node = element then value else text
  | .element handle (.pressSequentially value _) => if handle.node = element then text ++ value else text
  | _ => text

/-- The text in an element after some events, given the text at first. -/
def content (element initial : String) (events : List Event) : String :=
  events.foldl (Event.textIn element) initial

/-- Whether an event presses a single key or a combination of keys. -/
def Event.pressesKey : Event → Bool
  | .element _ (.press _) | .call (.keyPress _) => true
  | _ => false

theorem Event.textIn_of_harmless (element text : String) {event : Event} (harmless : event.mutates = false) :
    event.textIn element text = text := by
  cases event with
  | element handle made => cases made <;> first | rfl | cases harmless
  | _ => rfl

theorem Event.mutates_of_pressesKey {event : Event} (presses : event.pressesKey = true) : event.mutates = true := by
  cases event with
  | element handle made => cases made <;> first | rfl | cases presses
  | call made => cases made <;> first | rfl | cases presses
  | _ => cases presses

/-- Only what may have changed the form decides about the text in an element. -/
theorem content_changes (element initial : String) (events : List Event) :
    content element initial (changes events) = content element initial events := by
  induction events generalizing initial with
  | nil => rfl
  | cons event events ih =>
    cases mutates : event.mutates with
    | true =>
      rw [changes, List.filter_cons_of_pos mutates]
      exact ih _
    | false =>
      have unchanged := event.textIn_of_harmless element initial mutates
      rw [changes, List.filter_cons_of_neg (by simp [mutates])]
      exact (ih initial).trans (by rw [content, content, List.foldl_cons, unchanged])

theorem pressed_changes (events : List Event) :
    (changes events).filter Event.pressesKey = events.filter Event.pressesKey := by
  rw [changes, List.filter_filter]
  refine List.filter_congr fun event _ => ?_
  cases presses : event.pressesKey with
  | false => rfl
  | true => simp [Event.mutates_of_pressesKey presses]

namespace Fill

/-- The calls that give an input its text. -/
def writing (settings : Fill) (target : Handle) (value : String) (delay : Int) : List Event :=
  if delay ≠ 0 then [.element target (.fill ""), .element target (.pressSequentially value delay)]
  else if settings.clear then [.element target (.fill ""), .element target (.fill value)]
  else [.element target (.fill value)]

/-- The calls that end an entry. -/
def ending (settings : Fill) (target : Handle) : List Event :=
  if settings.pressEnter then [.element target (.press "Enter")] else []

theorem entering_eq (settings : Fill) (target : Handle) (value : String) (delay : Int) :
    settings.entering target value delay = settings.writing target value delay ++ settings.ending target :=
  rfl

/-- Whatever way a value is written in, it is what the input holds afterwards. -/
theorem content_writing (settings : Fill) (target : Handle) (value : String) (delay : Int) (initial : String) :
    content target.node initial (settings.writing target value delay) = value := by
  unfold writing
  split
  · simp [content, Event.textIn]
  · split
    · simp [content, Event.textIn]
    · simp [content, Event.textIn]

theorem writing_unpressed (settings : Fill) (target : Handle) (value : String) (delay : Int) :
    ∀ event ∈ settings.writing target value delay, event.pressesKey = false := by
  unfold writing
  split
  · simp [Event.pressesKey]
  · split
    · simp [Event.pressesKey]
    · simp [Event.pressesKey]

theorem content_entering (settings : Fill) (target : Handle) (value : String) (delay : Int) (initial : String) :
    content target.node initial (settings.entering target value delay) = value := by
  have pressed (text : String) : content target.node text (settings.ending target) = text := by
    unfold ending
    split <;> rfl
  rw [entering_eq, content, List.foldl_append]
  exact (pressed _).trans (content_writing settings target value delay initial)

theorem pressed_entering (settings : Fill) (target : Handle) (value : String) (delay : Int) :
    (settings.entering target value delay).filter Event.pressesKey = settings.ending target := by
  have written : (settings.writing target value delay).filter Event.pressesKey = [] := by
    simpa using settings.writing_unpressed target value delay
  have ended : (settings.ending target).filter Event.pressesKey = settings.ending target := by
    unfold ending
    split <;> rfl
  rw [entering_eq, List.filter_append, written, ended, List.nil_append]

/-- When the enter key is pressed, the value has been written. -/
theorem writing_of_entering {settings : Fill} {target : Handle} {value : String} {delay : Int} {front rest : List Event}
    (split : settings.entering target value delay = front ++ .element target (.press "Enter") :: rest) :
    front = settings.writing target value delay := by
  have unwritten : .element target (.press "Enter") ∉ settings.writing target value delay := by
    intro member
    cases settings.writing_unpressed target value delay _ member
  rw [entering_eq, ending] at split
  split at split
  · exact ((List.append_cons_inj_of_notMem unwritten List.not_mem_nil).mp split).1.symm
  · rw [List.append_nil] at split
    exact absurd (split ▸ List.mem_append_right front List.mem_cons_self) unwritten

end Fill

namespace Action

open Act

theorem runFill_ended {timing : Timing} {field : Field} {settings : Fill} {value : String} {world after : World}
    {outcome : Outcome} (ended : (runFill timing field settings value).runIn world = (.ok outcome, after))
    (applied : outcome.status = .applied) :
    ∃ handle delay added, field.Matches world.page handle ∧ after.trace = world.trace ++ added ∧
      changes added = settings.entering handle.first value delay := by
  obtain ⟨handle, middle, opening, matching, -, trace, still, ended⟩ := onTarget_ended ended applied
  obtain ⟨delay, later, delays, ended⟩ := ok_of_bind ended
  have handles : Handles middle.page middle.trace [] true (fun _ _ => True)
      (timing.keystrokeDelay settings.noTypingDelay) := timing.keystrokeDelay_handles settings.noTypingDelay
  obtain ⟨drawn, worked, -⟩ := handles middle rfl (List.append_nil _).symm
  rw [delays] at worked
  obtain ⟨entered, further, carried⟩ := entering_follows field settings handle.first value delay later
  have finished : _ = (Except.ok outcome, after) := ended
  rw [finished] at further carried
  have reached : later.trace = world.trace ++ opening ++ drawn := by
    rw [worked.trace, trace, List.nil_append]
  refine ⟨handle, delay, opening ++ drawn ++ entered, matching, ?_, ?_⟩
  · rw [further, reached]
    simp
  · rw [changes_append, (still.append (worked.still rfl)).changes, carried.2, List.nil_append]

end Action

namespace Executor

open Act

/-- Once a value has been entered, it is all that the element holds, whatever was in it before and in whatever way the
    value was entered. The enter key is pressed if that is asked for, and only then; it is pressed once, when the value
    is there as a whole. -/
theorem execute_sets_content (executor : Executor) {field : Field} {settings : Fill}
    (filling : field.action = .fill settings) (record : Json) (world : World) {outcome : Outcome} {after : World}
    (ended : (executor.execute field record).runIn world = (.ok outcome, after)) (applied : outcome.status = .applied) :
    ∃ handle value added, field.Matches world.page handle ∧
      executor.value? field record world.files = some value ∧ after.trace = world.trace ++ added ∧
      (∀ initial, content handle.node initial added = value) ∧
      added.filter Event.pressesKey =
        (if settings.pressEnter then [.element handle.first (.press "Enter")] else []) ∧
      ∀ front rest, added = front ++ .element handle.first (.press "Enter") :: rest →
        ∀ initial, content handle.node initial front = value := by
  cases execute_reaches ended with
  | inert => cases applied
  | unidentified => cases applied
  | failed failed =>
    rw [failed] at applied
    cases applied
  | @interacted value opening given _ active valued interacted patch =>
    obtain ⟨reached, page, trace, ended⟩ := interacted.reached
    rw [interact, filling] at ended
    obtain ⟨handle, delay, entered, matching, further, changed⟩ := Action.runFill_ended ended applied
    have whole : changes (opening ++ entered) = settings.entering handle.first value delay := by
      rw [changes_append, interacted.still.changes, changed, List.nil_append]
    rw [page] at matching
    refine ⟨handle, value, opening ++ entered, matching, valued, ?_, fun initial => ?_, ?_, ?_⟩
    · rw [further, trace, List.append_assoc]
    · rw [← content_changes, whole]
      exact settings.content_entering handle.first value delay initial
    · rw [← pressed_changes, whole, settings.pressed_entering]
      rfl
    · intro front rest split initial
      have pressed : changes (.element handle.first (.press "Enter") :: rest) =
          .element handle.first (.press "Enter") :: changes rest := rfl
      rw [split, changes_append, pressed] at whole
      rw [← content_changes, Fill.writing_of_entering whole.symm]
      exact settings.content_writing handle.first value delay initial

theorem execute_sets_content_typed :
    let settings : Fill := ⟨false, true, 0, false⟩
    let field : Field :=
      ⟨none, some "#a", none, none, none, false, some "=x", .none, false, false, false, false, .fill settings⟩
    let page : Page :=
      { Page.blank with lookups := [(.selector "#a", "a")], nodes := [("a", { Node.absent with count := 1 })] }
    let executor : Executor := ⟨{ Timing.default with typingDelay := 100 }, none⟩
    ∃ outcome after added, (executor.execute field (.obj [])).runIn (.untouched page .empty) = (.ok outcome, after) ∧
      outcome.status = .applied ∧ after.trace = [] ++ added ∧ content "a" "old" added = "x" ∧
      added.filter Event.pressesKey = [.element ⟨"a", true⟩ (.press "Enter")] := by
  intro settings field page executor
  have runs : ∃ outcome after,
      (executor.execute field (.obj [])).runIn (.untouched page .empty) = (.ok outcome, after) ∧
      outcome.status = .applied := ⟨_, _, rfl, rfl⟩
  obtain ⟨outcome, after, ended, applied⟩ := runs
  obtain ⟨handle, value, added, matching, valued, trace, holds, pressed, -⟩ :=
    execute_sets_content executor rfl (.obj []) (.untouched page .empty) ended applied
  obtain rfl : (⟨"a", false⟩ : Handle) = handle := Option.some.inj matching.located
  obtain rfl : "x" = value := Option.some.inj valued
  exact ⟨outcome, after, added, ended, applied, trace, holds "old", pressed⟩

end Executor
end FormFill
