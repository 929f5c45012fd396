import FormFill.Proofs.Act.Adding
import FormFill.Proofs.Action.Quiet
import FormFill.Proofs.Browser.Drawing

namespace FormFill

/-- A delay near a base, with what is drawn for it: nothing for a base that is not positive, where there is no
    delay, else one number of the window. -/
inductive Jittered (base below above : Int) : Int → List Event → Prop where
  | idle (resting : base ≤ 0) : Jittered base below above 0 []
  | drawn {delay : Int} (active : 0 < base) (least : max 0 (base - below) ≤ delay) (most : delay ≤ base + above) :
      Jittered base below above delay [.draw (max 0 (base - below)) (base + above)]

/-- A delay between keys, with what is drawn for it. -/
def Timing.Keystroke (timing : Timing) (suppressed : Bool) (delay : Int) (drawn : List Event) : Prop :=
  if suppressed then delay = 0 ∧ drawn = []
  else Jittered timing.typingDelay timing.typingBelow timing.typingAbove delay drawn

/-- The calls that enter one text with a delay between its keys: those that set a value at once are made without a
    delay only, and an input is cleared before keys are typed into it. The last call of each case may fail. -/
inductive TextEntry (delay : Int) : List Event → Prop where
  | keys (handle : Handle) (text : String) : TextEntry delay [.element handle (.pressSequentially text delay)]
  | cleared (handle : Handle) : TextEntry delay [.element handle (.fill "")]
  | clearedKeys (handle : Handle) (text : String) (delayed : delay ≠ 0) :
      TextEntry delay [.element handle (.fill ""), .element handle (.pressSequentially text delay)]
  | filled (handle : Handle) (text : String) (atOnce : delay = 0) : TextEntry delay [.element handle (.fill text)]
  | clearedFilled (handle : Handle) (text : String) (atOnce : delay = 0) :
      TextEntry delay [.element handle (.fill ""), .element handle (.fill text)]

/-- Whether an event is neither a draw nor an entry into an element, and no sleep for nothing. -/
def Event.isUnkeyed : Event → Bool
  | .draw .. => false
  | .sleep milliseconds => 0 < milliseconds
  | .element _ (.fill _) | .element _ (.pressSequentially ..) => false
  | _ => true

theorem Event.isUnkeyed_of_isQuiet {event : Event} (quiet : event.isQuiet = true) : event.isUnkeyed = true := by
  cases event with
  | element handle made => cases made <;> first | rfl | cases quiet
  | draw low high => cases quiet
  | sleep milliseconds => exact quiet
  | _ => rfl

/-- Events in which a delay is fixed right before each entry, and at no other time. -/
inductive Keyed (timing : Timing) (suppressed : Bool) : List Event → Prop where
  | nil : Keyed timing suppressed []
  | unkeyed {event : Event} {events : List Event} (unkeyed : event.isUnkeyed = true)
      (rest : Keyed timing suppressed events) : Keyed timing suppressed (event :: events)
  | entry {delay : Int} {drawn entered events : List Event} (fixed : timing.Keystroke suppressed delay drawn)
      (entry : TextEntry delay entered) (rest : Keyed timing suppressed events) :
      Keyed timing suppressed (drawn ++ (entered ++ events))

namespace Keyed

variable {timing : Timing} {suppressed : Bool} {first second events : List Event}

theorem append (left : Keyed timing suppressed first) (right : Keyed timing suppressed second) :
    Keyed timing suppressed (first ++ second) := by
  induction left with
  | nil => exact right
  | unkeyed unkeyed _ ih => exact .unkeyed unkeyed ih
  | entry fixed entry _ ih =>
    rw [List.append_assoc, List.append_assoc]
    exact .entry fixed entry ih

theorem of_unkeyed (unkeyed : ∀ event ∈ events, event.isUnkeyed = true) : Keyed timing suppressed events := by
  induction events with
  | nil => exact .nil
  | cons event events ih =>
    obtain ⟨here, others⟩ := List.forall_mem_cons.mp unkeyed
    exact .unkeyed here (ih others)

end Keyed

open Act

namespace Timing

variable {timing : Timing}

theorem jitter_runIn (base : Int) {below above : Int} (down : 0 ≤ below) (up : 0 ≤ above) (world : World) :
    ∃ delay after drawn, (jitter base below above).runIn world = (.ok delay, after) ∧ after.page = world.page ∧
      after.trace = world.trace ++ drawn ∧ Jittered base below above delay drawn := by
  unfold jitter
  by_cases resting : base ≤ 0
  · rw [if_pos resting]
    exact ⟨0, world, [], rfl, rfl, (List.append_nil _).symm, .idle resting⟩
  · have ordered : max 0 (base - below) ≤ base + above := by omega
    obtain ⟨least, most⟩ := world.draws.next_mem ordered
    rw [if_neg resting]
    unfold draw
    rw [runIn_bind_ok (runIn_note _ _), if_neg (by omega)]
    exact ⟨_, _, _, rfl, rfl, rfl, .drawn (by omega) least most⟩

theorem keystrokeDelay_fixes (proper : timing.Proper) (suppressed : Bool) (world : World) :
    ∃ delay after drawn, (timing.keystrokeDelay suppressed).runIn world = (.ok delay, after) ∧ after.page = world.page ∧
      after.trace = world.trace ++ drawn ∧ timing.Keystroke suppressed delay drawn := by
  unfold keystrokeDelay Keystroke
  cases suppressed with
  | true => exact ⟨0, world, [], rfl, rfl, (List.append_nil _).symm, rfl, rfl⟩
  | false => exact jitter_runIn timing.typingDelay proper.typingBelow proper.typingAbove world

end Timing

/-- A delay has been fixed: what the action adds begins with an entry that makes use of it. -/
def Act.Enters {α : Type} (timing : Timing) (suppressed : Bool) (delay : Int) (action : Act α) : Prop :=
  Adds (fun _ _ added =>
    ∃ entered rest, added = entered ++ rest ∧ TextEntry delay entered ∧ Keyed timing suppressed rest) action

namespace Act

variable {α β : Type} {timing : Timing} {suppressed : Bool}

abbrev Keys (timing : Timing) (suppressed : Bool) (action : Act α) : Prop :=
  Adds (fun _ _ => Keyed timing suppressed) action

namespace Keys

theorem of_unkeyed {action : Act α} (unkeyed : Confined Event.isUnkeyed action) : Keys timing suppressed action :=
  (Adds.of_confined unkeyed).imp fun _ _ _ => Keyed.of_unkeyed

theorem of_quiet {action : Act α} (quiet : Confined Event.isQuiet action) : Keys timing suppressed action :=
  .of_unkeyed (quiet.weaken fun _ => Event.isUnkeyed_of_isQuiet)

theorem bind {action : Act α} {next : α → Act β} (first : Keys timing suppressed action)
    (second : ∀ value, Keys timing suppressed (next value)) : Keys timing suppressed (action >>= next) := by
  refine (Adds.bind first second).imp fun _ result added told => ?_
  rcases told with ⟨failure, -, keyed⟩ | ⟨value, made, more, rfl, keyed, further⟩
  · exact keyed
  · exact keyed.append further

theorem catchBrowser {action : Act α} {handler : BrowserError → Act α} (tried : Keys timing suppressed action)
    (answered : ∀ error, Keys timing suppressed (handler error)) :
    Keys timing suppressed (catchBrowser action handler) := by
  refine (Adds.catchBrowser tried answered).imp fun _ result added told => ?_
  rcases told with keyed | ⟨error, made, more, rfl, keyed, further⟩
  · exact keyed
  · exact keyed.append further

theorem entry {next : Int → Act α} (proper : timing.Proper) (enters : ∀ delay, Enters timing suppressed delay (next delay)) :
    Keys timing suppressed (timing.keystrokeDelay suppressed >>= next) := by
  intro world
  obtain ⟨delay, middle, drawn, ran, page, trace, fixed⟩ := timing.keystrokeDelay_fixes proper suppressed world
  obtain ⟨added, same, further, entered, rest, rfl, entry, keyed⟩ := enters delay middle
  rw [runIn_bind_ok ran]
  refine ⟨drawn ++ (entered ++ rest), same.trans page, ?_, .entry fixed entry keyed⟩
  rw [further, trace, List.append_assoc]

end Keys

namespace Enters

theorem one {delay : Int} {handle : Handle} {made : ElementCall} {next : Node → Act α}
    (entry : TextEntry delay [.element handle made]) (goes : ∀ node, Keys timing suppressed (next node)) :
    Enters timing suppressed delay (Act.element handle made >>= next) := by
  refine (Adds.bind (.element handle made) goes).imp fun _ result added told => ?_
  rcases told with ⟨failure, -, rfl, -⟩ | ⟨value, _, more, rfl, ⟨rfl, -⟩, keyed⟩
  · exact ⟨_, [], (List.append_nil _).symm, entry, .nil⟩
  · exact ⟨_, more, rfl, entry, keyed⟩

theorem afterClearing {delay : Int} {handle : Handle} {made : ElementCall} {next : Node → Act α}
    (entry : TextEntry delay [.element handle (.fill ""), .element handle made])
    (goes : ∀ node, Keys timing suppressed (next node)) :
    Enters timing suppressed delay (do
      let _ ← Act.element handle (.fill "")
      let node ← Act.element handle made
      next node) := by
  have rest := Adds.bind (.element handle made) goes
  refine (Adds.bind (.element handle (.fill "")) fun _ => rest).imp fun _ result added told => ?_
  rcases told with ⟨failure, -, rfl, -⟩ |
    ⟨_, _, _, rfl, ⟨rfl, -⟩, ⟨failure, -, rfl, -⟩ | ⟨_, _, more, rfl, ⟨rfl, -⟩, keyed⟩⟩
  · exact ⟨_, [], (List.append_nil _).symm, .cleared handle, .nil⟩
  · exact ⟨_, [], (List.append_nil _).symm, entry, .nil⟩
  · exact ⟨_, more, rfl, entry, keyed⟩

end Enters
end Act

/-- Whether a field asks that its text be entered without a delay between keys. Only fields that enter texts do. -/
def Field.suppressed (field : Field) : Bool :=
  match field.action with
  | .fill settings => settings.noTypingDelay
  | .type settings => settings.noTypingDelay
  | .typeEachTag settings => settings.noTypingDelay
  | _ => false

namespace Action

variable {timing : Timing} {field : Field}

theorem onTarget_keys {suppressed : Bool} {next : Handle → Act Outcome}
    (continues : ∀ handle, Keys timing suppressed (next handle)) :
    Keys timing suppressed (onTarget timing field next) := by
  unfold onTarget
  refine .bind (.of_quiet (target_quiet timing field)) fun found => ?_
  split
  · exact continues _
  · exact .of_quiet (skip_quiet _ _ _)

theorem ending_keys {suppressed pressing : Bool} (target : Handle) (delay : Nat) (outcome : Outcome) :
    Keys timing suppressed (if pressing then do
        pressEnter target delay
        pure outcome
      else pure outcome) := by
  split
  · exact .bind (.of_quiet (pressEnter_quiet target delay)) fun _ => .pure fun _ => .nil
  · exact .pure fun _ => .nil

theorem runFill_keys (proper : timing.Proper) (settings : Fill) (value : String) :
    Keys timing settings.noTypingDelay (runFill timing field settings value) := by
  refine onTarget_keys fun target => ?_
  refine .entry proper fun delay => ?_
  dsimp only
  by_cases atOnce : delay = 0
  · rw [if_neg (not_not_intro atOnce)]
    split
    · exact .afterClearing (.clearedFilled target value atOnce) fun _ => ending_keys target _ _
    · exact .one (.filled target value atOnce) fun _ => ending_keys target _ _
  · rw [if_pos atOnce]
    exact .afterClearing (.clearedKeys target value atOnce) fun _ => ending_keys target _ _

theorem runType_keys (proper : timing.Proper) (settings : TypeKeys) (value : String) :
    Keys timing settings.noTypingDelay (runType timing field settings value) := by
  refine onTarget_keys fun target => ?_
  refine .entry proper fun delay => ?_
  exact .one (.keys target value) fun _ => ending_keys target _ _

theorem call_keys {suppressed : Bool} {made : Call} (unkeyed : Event.isUnkeyed (.call made) = true) :
    Keys timing suppressed (Act.call made) :=
  .of_unkeyed (.call unkeyed)

theorem enterTag_keys (proper : timing.Proper) (settings : EachTag) (target : Handle) (tag : String) :
    Keys timing settings.noTypingDelay (enterTag timing field settings target tag) := by
  unfold enterTag
  split
  · refine .entry proper fun delay => ?_
    exact .one (.keys target tag) fun _ => .pure fun _ => .nil
  · unfold paste
    refine .catchBrowser ?_ fun error => ?_
    · exact .bind (call_keys rfl) fun _ => call_keys rfl
    · exact .bind (.of_quiet (.log _ _ _ _)) fun _ => call_keys rfl
  · exact call_keys rfl

theorem completeTag_keys (proper : timing.Proper) (settings : EachTag) (target : Handle) (tag : String) :
    Keys timing settings.noTypingDelay (completeTag timing field settings target tag) := by
  unfold completeTag
  refine .bind (enterTag_keys proper settings target tag) fun _ => ?_
  refine .bind (.of_quiet (Timing.pause_quiet _)) fun _ => ?_
  exact .of_quiet (.bind (.element rfl) fun _ => .pure _)

theorem furtherTags_keys (proper : timing.Proper) (settings : EachTag) (target : Handle) (tags : List String) :
    Keys timing settings.noTypingDelay (furtherTags timing field settings target tags) := by
  induction tags with
  | nil => exact .pure fun _ => .nil
  | cons tag tags ih =>
    have entering : Keys timing settings.noTypingDelay (do
        completeTag timing field settings target tag
        furtherTags timing field settings target tags) :=
      .bind (completeTag_keys proper settings target tag) fun _ => ih
    unfold furtherTags
    dsimp only
    split
    · exact .bind (.of_quiet (focus_quiet field settings target)) fun _ => entering
    · exact entering

theorem runEachTag_keys (proper : timing.Proper) (settings : EachTag) (record : Json) (value : String) :
    Keys timing settings.noTypingDelay (runEachTag timing field settings record value) := by
  unfold runEachTag
  split
  · exact .of_quiet (skip_quiet _ _ _)
  · refine .bind (.of_quiet (Locating.locateTagInput_quiet field settings)) fun found => ?_
    split
    · exact .of_quiet (skip_quiet _ _ _)
    · refine .bind (.of_quiet (timing.scrollIntoView_quiet _ _ _)) fun _ => ?_
      refine .bind (.of_quiet (focus_quiet field settings _)) fun _ => ?_
      refine .bind (completeTag_keys proper settings _ _) fun _ => ?_
      exact .bind (furtherTags_keys proper settings _ _) fun _ => .pure fun _ => .nil

theorem runSelect_keys {suppressed : Bool} (value : String) : Keys timing suppressed (runSelect timing field value) := by
  refine onTarget_keys fun target => ?_
  exact .bind (.of_unkeyed (.element rfl)) fun _ => .pure fun _ => .nil

end Action

namespace Executor

theorem interact_keys {timing : Timing} (proper : timing.Proper) (field : Field) (record : Json) (value : String) :
    Keys timing field.suppressed (interact timing field record value) := by
  unfold interact Field.suppressed
  cases field.action with
  | fill settings => exact Action.runFill_keys proper settings value
  | type settings => exact Action.runType_keys proper settings value
  | click settings => exact .of_quiet (Action.runClick_quiet timing field settings)
  | check settings => exact .of_quiet (Action.runCheck_quiet timing field settings)
  | select => exact Action.runSelect_keys value
  | clickEachText settings => exact .of_quiet (Action.runEachText_quiet timing field settings record)
  | typeEachTag settings => exact Action.runEachTag_keys proper settings record value

theorem attempt_keys {timing : Timing} (proper : timing.Proper) (field : Field) (record : Json) (value : String) :
    Keys timing field.suppressed (attempt timing field record value) := by
  have caught : Keys timing field.suppressed (catchBrowser (interact timing field record value) fun error => do
      Action.log .error "Field action failed"
        (fieldContext field.displayName field.action.kind.name [("error", .str error.text)])
      return .failed field error.text) :=
    .catchBrowser (interact_keys proper field record value) fun _ =>
      .of_quiet (.bind (.log _ _ _ _) fun _ => .pure _)
  unfold attempt
  dsimp only
  split
  · exact .bind (.of_quiet Timing.scrollPageBottom_quiet) fun _ => caught
  · exact caught

end Executor
end FormFill
