import FormFill.CommandLine
import FormFill.Proofs.Act
import Mathlib.Data.List.TakeWhile

namespace FormFill

namespace Console

/-- What the console says of the first of several things that it refuses to show. -/
def refusal? (console : Console) (things : List Printed) : Option String :=
  things.findSome? console.fault?

/-- What the console shows of several things: those before the first that it refuses. -/
def shown (console : Console) (things : List Printed) : List Printed :=
  things.takeWhile fun thing => (console.fault? thing).isNone

variable {console : Console} {things : List Printed}

theorem refusal?_eq_none_iff : console.refusal? things = none ↔ ∀ thing ∈ things, console.fault? thing = none := by
  simp [refusal?]

theorem refused_of_refusal {text : String} (refused : console.refusal? things = some text) :
    ∃ thing ∈ things, console.fault? thing = some text :=
  List.exists_of_findSome?_eq_some refused

theorem shown_prefix (console : Console) (things : List Printed) : console.shown things <+: things :=
  List.takeWhile_prefix _

/-- A console shows all just where it refuses nothing. -/
theorem shown_eq_iff : console.shown things = things ↔ console.refusal? things = none := by
  rw [refusal?_eq_none_iff]
  simp [shown, List.takeWhile_eq_self_iff]

end Console

namespace CommandLine

open Act

/-- Things are printed one after the other until the console refuses one of them. -/
theorem forM_print (things : List Printed) (world : World) :
    (things.forM print).runIn world =
      ((world.host.console.refusal? things).elim (.ok ()) fun text => .error (.console text),
        { world with printed := world.printed ++ world.host.console.shown things }) := by
  induction things generalizing world with
  | nil => simp [Console.refusal?, Console.shown]
  | cons thing things ih =>
    have printed := runIn_print thing world
    change (do print thing; things.forM print : Act Unit).runIn world = _
    cases refuses : world.host.console.fault? thing with
    | some text =>
      rw [refuses] at printed
      rw [runIn_bind_error printed]
      simp [Console.refusal?, Console.shown, refuses]
    | none =>
      rw [refuses] at printed
      rw [runIn_bind_ok printed, ih]
      simp [Console.refusal?, Console.shown, refuses]

/-- A line without brackets is shown on every console. -/
theorem say_plain {text : String} (plain : ∀ c ∈ text.toList, c ≠ '[' ∧ c.toNat < 0xF0000) (world : World) :
    (say text).runIn world = (.ok (), { world with printed := world.printed ++ [.line text] }) := by
  unfold say
  rw [runIn_print, world.host.console.shows text plain]

theorem forM_say (lines : List String) (world : World) :
    (lines.forM say).runIn world =
      ((world.host.console.refusal? (lines.map .line)).elim (.ok ()) fun text => .error (.console text),
        { world with printed := world.printed ++ world.host.console.shown (lines.map .line) }) := by
  have prints : lines.forM say = (lines.map Printed.line).forM print := by
    rw [List.forM_eq_forM, List.forM_eq_forM, List.forM_map]
    rfl
  rw [prints, forM_print]

end CommandLine
end FormFill
