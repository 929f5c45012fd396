import Mathlib.Data.List.Induction
import FormFill.Proofs.Browser.Closing

namespace FormFill

/-- What has to be given back once it is obtained. -/
inductive Resource where
  | driver
  | browser
  | profile
deriving DecidableEq, Repr

/-- What a call obtains if it passes. -/
def Call.obtained? : Call → Option Resource
  | .startDriver => some .driver
  | .launch _ => some .browser
  | .launchPersistent .. => some .profile
  | _ => none

/-- What an event gives back, if only by an attempt. -/
def Event.released? : Event → Option Resource
  | .call .stopDriver => some .driver
  | .call .closeBrowser => some .browser
  | .call .closeContext => some .profile
  | _ => none

theorem Event.released?_of_keepsOpen {event : Event} (keeps : event.keepsOpen = true) : event.released? = none := by
  cases event with
  | call made => cases made <;> first | rfl | cases keeps
  | _ => rfl

namespace Page

/-- A stretch of a trace obtains a resource that it does not give back. -/
def Holds (page : Page) (before added : List Event) (resource : Resource) : Prop :=
  ∃ earlier made later, added = earlier ++ .call made :: later ∧ made.obtained? = some resource ∧
    page.error? (before ++ earlier) (.call made) = none ∧ ∀ event ∈ later, event.released? ≠ some resource

variable {page : Page} {before added : List Event} {resource : Resource}

theorem not_holds_nil : ¬ page.Holds before [] resource := by
  rintro ⟨earlier, made, later, split, -⟩
  simp at split

/-- One more event gives a resource back, or obtains it, or leaves all as it was. -/
theorem holds_concat_iff {event : Event} :
    page.Holds before (added ++ [event]) resource ↔
      page.Holds before added resource ∧ event.released? ≠ some resource ∨
      ∃ made, event = .call made ∧ made.obtained? = some resource ∧
        page.error? (before ++ added) event = none := by
  constructor
  · rintro ⟨earlier, made, later, split, obtained, passes, kept⟩
    rcases List.eq_nil_or_concat later with rfl | ⟨between, last, rfl⟩
    · obtain ⟨rfl, same⟩ := List.append_inj' split rfl
      obtain rfl := List.singleton_inj.mp same
      exact .inr ⟨made, rfl, obtained, passes⟩
    · have shape : added ++ [event] = (earlier ++ .call made :: between) ++ [last] := by simpa using split
      obtain ⟨rfl, same⟩ := List.append_inj' shape rfl
      obtain rfl := List.singleton_inj.mp same
      have keptBetween : ∀ other ∈ between, other.released? ≠ some resource :=
        fun other member => kept other (by simp [member])
      exact .inl ⟨⟨earlier, made, between, rfl, obtained, passes, keptBetween⟩, kept event (by simp)⟩
  · rintro (⟨⟨earlier, made, later, rfl, obtained, passes, kept⟩, keeps⟩ | ⟨made, rfl, obtained, passes⟩)
    · refine ⟨earlier, made, later ++ [event], by simp, obtained, passes, ?_⟩
      intro other member
      rcases List.mem_append.mp member with member | member
      · exact kept other member
      · rwa [List.mem_singleton.mp member]
    · exact ⟨added, made, [], rfl, obtained, passes, nofun⟩

theorem Passes.concat {made : List Call} {last : Call} (passes : page.Passes before (made ++ [last])) :
    page.Passes before made ∧ page.error? (before ++ made.map .call) (.call last) = none := by
  induction made generalizing before with
  | nil => simpa [Passes] using passes
  | cons first rest ih =>
    obtain ⟨further, ends⟩ := ih passes.2
    exact ⟨⟨passes.1, further⟩, by simpa using ends⟩

theorem Passes.holds_iff {made : List Call} (passes : page.Passes before made)
    (keeps : ∀ call ∈ made, (Event.call call).keepsOpen = true) :
    page.Holds before (made.map .call) resource ↔ ∃ call ∈ made, call.obtained? = some resource := by
  -- From the end: what is held after a stretch is settled by its last event.
  induction made using List.reverseRecOn with
  | nil => simp [not_holds_nil]
  | append_singleton made last ih =>
    obtain ⟨earlier, ends⟩ := passes.concat
    have here := ih earlier fun call member => keeps call (by simp [member])
    have kept := Event.released?_of_keepsOpen (keeps last (by simp))
    rw [List.map_append, List.map_singleton, holds_concat_iff, here, kept]
    simp only [ends, Event.call.injEq, List.mem_append, List.mem_singleton]
    constructor
    · rintro (⟨⟨call, member, obtained⟩, -⟩ | ⟨call, rfl, obtained, -⟩)
      · exact ⟨call, .inl member, obtained⟩
      · exact ⟨last, .inr rfl, obtained⟩
    · rintro ⟨call, member | rfl, obtained⟩
      · exact .inl ⟨⟨call, member, obtained⟩, by simp⟩
      · exact .inr ⟨call, rfl, obtained, trivial⟩

/-- Calls that break off leave held what those before the failed one have obtained. -/
theorem BreaksOff.holds_iff {planned earlier : List Call} {failed : Call} {error : BrowserError}
    (breaks : page.BreaksOff before planned earlier failed error)
    (keeps : ∀ call ∈ planned, (Event.call call).keepsOpen = true) :
    page.Holds before ((earlier ++ [failed]).map .call) resource ↔
      ∃ call ∈ earlier, call.obtained? = some resource := by
  have keptBefore : ∀ call ∈ earlier, (Event.call call).keepsOpen = true :=
    fun call member => keeps call (breaks.planned.subset (by simp [member]))
  have kept := Event.released?_of_keepsOpen (keeps failed (breaks.planned.subset (by simp)))
  rw [List.map_append, List.map_singleton, holds_concat_iff, breaks.passes.holds_iff keptBefore, kept, breaks.raised]
  simp

end Page

end FormFill
